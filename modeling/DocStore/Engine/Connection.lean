import DocStore.Image.Write.Statements
/-!
# Connections to a database file

A database file holds the store's tables and the pages that keep them. A connection runs the
store's statements on it, changing the content (`Tables.execute`) and writing the same changes
to the pages (`PageFile.applyChanges`); a statement that fails changes neither.

Outside a transaction every statement commits on its own; creating the schema commits once per
table it creates. A file whose header names a write version the engine does not know may only be
read: its writes fail, and so does switching it to write-ahead mode. `BEGIN` remembers the file, `COMMIT` commits what was done since and
`ROLLBACK` restores the file remembered; closing or dropping a connection in a transaction rolls
it back.
-/

namespace DocStore

/-- A database file: its content, and the pages that store it. -/
structure DatabaseFile where
  tables : Tables := { schema := Image.emptySchema }
  pages : Image.PageFile := {}
deriving Repr, Inhabited

namespace DatabaseFile

/-- The file of an image, with the content read from it. -/
def ofImage (t : Tables) (image : List UInt8) : DatabaseFile := ⟨t, Image.PageFile.ofImage image⟩

/-- The bytes of the file. -/
def image (d : DatabaseFile) : List UInt8 := d.pages.bytes

/-- What the header of the file says, as pragmas report it; the page count is the number of
pages the file holds when the header records none. A file keeps a page of pointers (auto-vacuum)
when its header names the largest root page, incrementally when it says so too. -/
def facts (d : DatabaseFile) : FileFacts :=
  let h := d.pages.pages.getD 0 #[]
  let word (i : Nat) : Nat := Image.bigEndian ((List.range 4).map (fun k => h.getD (i + k) 0))
  let signed (n : Nat) : Int := if n ≥ Nat.pow 2 31 then (n : Int) - Nat.pow 2 32 else n
  { pageSize := d.pages.pageSize,
    pageCount := if d.pages.count = 0 then d.pages.pages.size else d.pages.count,
    freePages := word 36, schemaVersion := word 40, encoding := word 56,
    userVersion := signed (word 60), applicationId := signed (word 68),
    autoVacuum := if word 52 = 0 then 0 else if word 64 = 0 then 1 else 2 }

end DatabaseFile

/-- The failure of a statement that finds the pages inconsistent. -/
def pageFailure (f : Image.Fault) : EngineFailure := engineError .corrupt f.message

/-- A connection: the file as it was when the open transaction began, if one is open, and the
settings the connection was given. -/
structure Connection where
  savepoint : Option DatabaseFile := none
  settings : ConnectionFacts := {}
deriving Repr, Inhabited

namespace Connection

/-- The pages after a statement: committed unless a transaction is open. -/
def settle (c : Connection) (before : Image.PageFile) (after : Image.PageFile) :
    Except Image.Fault Image.PageFile :=
  if c.savepoint.isNone then after.commit before else .ok after

/-- Write a statement's changes to the pages. A writing statement first corrects the header's
page count, except an index statement that creates nothing; creating the schema commits each
table it creates on its own. -/
def writePages (c : Connection) (p : Image.PageFile) (s : Statement) (changes : List Change) :
    Except Image.Fault Image.PageFile := do
  match s with
  | .configure j _ => c.settle p (p.setJournal j)
  | .createSchema =>
    changes.foldlM (fun p ch => do c.settle p (← p.applyChanges [ch])) p
  | .createIndex _ _ _ =>
    if changes.isEmpty then return ← c.settle p p
    c.settle p (← p.beginWrite.applyChanges changes)
  | other =>
    let start := if Tables.writes other then p.beginWrite else p
    c.settle p (← start.applyChanges changes)

/-- The engine's error for a statement whose text holds a token it cannot read, which it reports
when it prepares the statement: the token as far as it reads, the text, and the token's byte
offset. A NUL inside a quoted literal ends the text the tokenizer reads, so the literal is never
closed. -/
def unreadableToken? (s : Statement) : Option EngineFailure :=
  ((Sql.tokenize s.text).toList.find? (·.kind == .illegal)).map fun tok =>
    engineError .error ("unrecognized token: \"" ++ tok.text ++ "\" in " ++ s.text ++
      " at offset " ++ toString (String.ofList (s.text.toList.take tok.start)).utf8ByteSize)

/-- Run one statement on the file, with transaction control, at a moment of the wall clock
(milliseconds of the Julian day number). A statement other than transaction control is prepared
first, and one whose text holds an unreadable token fails there. -/
def run (c : Connection) (d : DatabaseFile) (now : Int) (s : BoundStatement) :
    Except EngineFailure (Connection × DatabaseFile × List Row) :=
  match s.statement with
  | .beginTransaction =>
    match c.savepoint with
    | some _ => .error (engineError .error "cannot start a transaction within a transaction")
    | none => .ok ({ c with savepoint := some d }, d, [])
  | .commit =>
    match c.savepoint with
    | some saved =>
      match d.pages.commit saved.pages with
      | .ok pages => .ok ({ c with savepoint := none }, { d with pages }, [])
      | .error f => .error (pageFailure f)
    | none => .error (engineError .error "cannot commit - no transaction is active")
  | .rollback =>
    match c.savepoint with
    | some saved => .ok ({ c with savepoint := none }, saved, [])
    | none => .error (engineError .error "cannot rollback - no transaction is active")
  | other => do
    if let some f := unreadableToken? other then throw f
    if d.pages.readOnly then
      if let .configure .wal _ := other then throw readOnlyFailure
    let start := { d.tables with clock := now, file := d.facts, connection := c.settings }
    let (t, changes, rows) ← start.execute other s.bindings d.pages.readOnly
    let p ← (c.writePages d.pages other changes).mapError pageFailure
    let c := match other with
      | .configure j sync =>
        { c with settings := { c.settings with journalMode := Sql.lowerAscii j.sqlText, synchronous := sync.level } }
      | _ => c
    return (c, ⟨t, p⟩, rows)

/-- The file once the connection is gone: an open transaction is rolled back. -/
def release (c : Connection) (d : DatabaseFile) : DatabaseFile := c.savepoint.getD d

end Connection

end DocStore
