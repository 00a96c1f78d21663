import DocStore.Image.Integrity
import DocStore.Image.Catalog
/-!
# The verdict on an image

`Geometry.quickCheck` lists the problems of an image as rows of text, in this order:

1. the audit of every tree (`Geometry.audit`), as one row headed `*** in database main ***`;
2. for each row of each table, a row per column whose value the column refuses, then a row when
   a `CHECK` constraint of the table is false for it.

A column is checked when it is `NOT NULL` or has a type to check: NULL in a `NOT NULL` column is
refused; in a `STRICT` table a value must have the column's type (an integer passes for a real);
otherwise a text column refuses numbers, and a numeric column refuses text that reads as a
number. A column past the end of a row's record holds its default, and a generated column that rows do
not store is judged by the value it computes. The column that is the rowid is never checked.

Tables are visited newest first, the schema table last, and the trees of a table are its own
followed by its indexes, newest first. At most 100 rows are listed: the audit's problems count
against the same budget, and listing stops once it is spent. Reading a row can fail; a failure
before the listing stops makes the whole check fail. No row at all means the verdict `ok`.

`verify` opens an image, loads its catalog, checks it and reads its content, saying at which
step an image that is not a sound database fails; `load` reads the content without the check.
-/

namespace DocStore

namespace Image

open Sql

/-- Why an image cannot be read. -/
inductive ImageFault where
  /-- The engine refuses to open it. -/
  | unopenable (text : String)
  /-- The integrity check fails with this verdict. -/
  | damaged (text : String)
deriving DecidableEq, Repr

/-- One step of the check's output: a row of text, a last row after which the check stops, or
a failure that ends it. -/
inductive CheckEvent where
  | row (text : String)
  | halt (text : String)
  | fault (f : Fault)
deriving DecidableEq, Repr

/-- Whether a check event ends the check. -/
def CheckEvent.ends : CheckEvent → Bool
  | .row _ => false
  | _ => true

/-- The tables of a schema in the order checks visit them: newest first, the schema table last. -/
def visitOrder (s : Schema) : List Table := s.tables.reverse

/-- Every tree of the image, in the order the audit visits them: a table's own tree, unless
its primary key's tree holds its rows, then its indexes. -/
def treeRoots (s : Schema) : List Nat :=
  (visitOrder s).flatMap (fun t =>
    (if t.withoutRowid then [] else [t.root]) ++ (s.indexesOf t.name).map (·.root))

/-- The number of values the records of a table's tree hold. -/
def recordWidth (t : Table) : Nat := if t.withoutRowid then t.keyedOrder.length else t.storedWidth

/-- The position in a record of a table's tree of a column the rows store. -/
def recordPos (t : Table) (j : Nat) : Nat :=
  if t.withoutRowid then (t.keyedOrder.idxOf? j).getD j else t.storagePos j

/-- The record in column order of an entry of a table's tree. -/
def columnRecord (t : Table) (vals : List SqlValue) : List SqlValue :=
  if t.withoutRowid then t.unkeyedRecord vals else vals

/-- The storage class of a value as one bit, as `classBit` gives it for serial types. -/
def valueBit : SqlValue → Nat
  | .null => 16
  | .integer _ => 1
  | .real _ => 2
  | .text _ => 4
  | .blob _ => 8

/-- The storage classes a `STRICT` column of a type accepts, as bits. -/
def strictMask : StrictType → Nat
  | .any => 0x1f
  | .blob => 0x18
  | .int => 0x11
  | .integer => 0x11
  | .real => 0x13
  | .text => 0x14

/-- Whether a column is checked for its type: a typed column of a `STRICT` table, or a column
with a text or numeric affinity elsewhere. -/
def typeChecked (t : Table) (c : Column) : Bool :=
  if t.strict then (c.strictType.map (· != .any)).getD false else c.affinity != .blob

namespace Geometry

/-- The values of a record, up to `n` of them, stopping where the record ends. -/
def recordValues (g : Geometry) (e : Entry) (n : Nat) : Except Fault (List SqlValue) := do
  let st ← g.openRecord e
  let (_, vals, _) ← (List.range n).foldlM (fun (acc : RecordState × List SqlValue × Bool) k => do
    let (st, vals, going) := acc
    if !going then return acc
    let (st, ty, v) ← g.column st k false
    match ty with
    | some _ => return (st, vals ++ [v.toSql g.encoding], true)
    | none => return (st, vals, false)) (st, [], true)
  return vals

/-- The problem row for one column of a stored row, if the column refuses its value; the state
after the reads. -/
def columnEvent (g : Geometry) (t : Table) (st : RecordState) (j : Nat) (c : Column) :
    Except Fault (RecordState × Option String) := do
  let defaultBit := valueBit (c.defaultOf g.encoding)
  let bit := match st.types[j]? with
    | some ty => classBit ty
    | none => defaultBit
  let mut st := st
  if c.notNull then
    if bit &&& 0x0d = 0 then
      let (st', ty, v) ← g.column st j false
      st := st'
      let isNull : Bool := match ty with
        | some _ => v == .null
        | none => c.defaultOf g.encoding == .null
      if isNull then return (st, some ("NULL value in " ++ t.name ++ "." ++ c.name))
  if !typeChecked t c then return (st, none)
  if t.strict then
    match c.strictType with
    | some ty =>
      if bit &&& strictMask ty = 0 then
        return (st, some ("non-" ++ ty.label ++ " value in " ++ t.name ++ "." ++ c.name))
      return (st, none)
    | none => return (st, none)
  if c.affinity == .text then
    if bit &&& 0x1c = 0 then return (st, some ("NUMERIC value in " ++ t.name ++ "." ++ c.name))
    return (st, none)
  if bit &&& 0x1b ≠ 0 then return (st, none)
  let (st', _, v) ← g.column st j false
  match (v.toSql g.encoding) with
  | .text s =>
    if (numericAffinity true s).isSome then return (st', some ("TEXT value in " ++ t.name ++ "." ++ c.name))
    return (st', none)
  | _ => return (st', none)

/-- The problem row for a generated column that rows do not store, judged by the value it
computes. -/
def virtualEvent (t : Table) (c : Column) (v : SqlValue) : Option String :=
  let bit := valueBit v
  let named (what : String) : Option String := some (what ++ " value in " ++ t.name ++ "." ++ c.name)
  if c.notNull ∧ v == .null then named "NULL"
  else if !typeChecked t c then none
  else if t.strict then
    match c.strictType with
    | some ty => if bit &&& strictMask ty = 0 then named ("non-" ++ ty.label) else none
    | none => none
  else if c.affinity == .text then
    if bit &&& 0x1c = 0 then named "NUMERIC" else none
  else if bit &&& 0x1b ≠ 0 then none
  else match v with
    | .text s => if (numericAffinity true s).isSome then named "TEXT" else none
    | _ => none

/-- The problem rows of one stored row of a table. A record whose header contradicts its cell
adds the row `database disk image is malformed` and stops the check; any other failure to read
ends it with that failure. -/
def rowEvents (g : Geometry) (t : Table) (e : Entry) : List CheckEvent :=
  let report (r : String) : ExceptT Fault (StateM (List String)) Unit := modify (· ++ [r])
  let result : ExceptT Fault (StateM (List String)) Unit := do
    let st ← g.openRecord e
    let width := recordWidth t
    let mxCol : Int := (width : Int) - 1
    let mxCol := if t.rowidAlias.map (fun a => (a : Int)) == some mxCol then mxCol - 1 else mxCol
    let mut st := st
    if mxCol ≥ 0 then
      let (st', _, _) ← g.column st mxCol.toNat true
      st := st'
    for (c, j) in t.columns.zipIdx do
      if t.rowidAlias == some j then continue
      if !c.notNull ∧ !typeChecked t c then continue
      if c.virtual then
        let vals ← g.recordValues e width
        match virtualEvent t c ((t.columnValues g.encoding e.cell.key (columnRecord t vals)).getD j .null) with
        | some r => report r
        | none => pure ()
        continue
      let (st', ev) ← g.columnEvent t st (recordPos t j) c
      st := st'
      match ev with
      | some r => report r
      | none => pure ()
    if !t.checks.isEmpty then
      let vals ← g.recordValues e width
      let sc : Scope := { frames := [t.frame g.encoding t.name e.cell.key (columnRecord t vals)] }
      let mut failed := false
      for (_, chk) in t.checks do
        match sc.holds g.encoding chk with
        | .ok (some false) => failed := true
        | .ok _ => pure ()
        | .error (.failure f) => throw (.schema f.text)
        | .error .ignore => pure ()
      if failed then report ("CHECK constraint failed in " ++ t.name)
  match result.run.run [] with
  | (.ok (), rows) => rows.map CheckEvent.row
  | (.error .record, rows) => rows.map CheckEvent.row ++ [.halt Fault.record.message]
  | (.error f, rows) => rows.map CheckEvent.row ++ [.fault f]

/-- The problem rows of a table's stored rows, ending with a fault when reading fails. -/
def tableEvents (g : Geometry) (t : Table) : List CheckEvent :=
  let (entries, scanFault) := g.scan (!t.withoutRowid) t.root
  let rec go : List Entry → List CheckEvent
    | [] => match scanFault with
      | some f => [.fault f]
      | none => []
    | e :: rest =>
      let evs := g.rowEvents t e
      if evs.any CheckEvent.ends then evs else evs ++ go rest
  go entries

/-- Take check events while the row budget lasts: the rows listed, or the fault reached first. -/
def listRows : List CheckEvent → Nat → List String → Except Fault (List String)
  | [], _, acc => .ok acc
  | .fault f :: _, _, _ => .error f
  | .halt r :: _, _, acc => .ok (acc ++ [r])
  | .row r :: rest, budget, acc =>
    if budget = 0 then .ok (acc ++ [r]) else listRows rest (budget - 1) (acc ++ [r])

/-- The problem rows of an image with a loaded schema. The rows of each table are read with
all its indexes open, so an index the schema gives no root page fails the check there. -/
def quickCheck (g : Geometry) (s : Schema) : Except Fault (List String) :=
  let (problems, _) := g.audit (treeRoots s)
  let (head, budget) :=
    if problems.isEmpty then ([], 99)
    else (["*** in database main ***\n" ++ "\n".intercalate problems], 100 - problems.length)
  match head, budget with
  | [r], 0 => .ok [r]
  | _, _ =>
    let budget := if head.isEmpty then budget else budget - 1
    let events := (visitOrder s).flatMap (fun t =>
      if t.root = 0 then []
      else if (s.indexesOf t.name).any (·.root = 0) then [.fault .corrupt]
      else g.tableEvents t)
    listRows events budget head

/-- The entries of a tree, each read as a record of up to `n` values, with its key. -/
def treeRecords (g : Geometry) (table : Bool) (root n : Nat) :
    Except Fault (List (Int × List SqlValue)) := do
  let (entries, fault) := g.scan table root
  let rows ← entries.mapM (fun e => do return (e.cell.key, ← g.recordValues e n))
  match fault with
  | some f => throw f
  | none => return rows

/-- The keys of an index of a table without rowids as the content holds them: each stored key
followed by the rowid of the row whose primary key it ends with, or by a rowid no row has when
there is no such row. -/
def keyedEntries (enc : TextEncoding) (t : Table) (i : Index) (rows : RowList) (stored : List (List SqlValue)) :
    List (List SqlValue) :=
  let lead := i.parts.length
  let held (kp : KeyPart) : Option Nat := i.parts.findIdx? (fun p => match p.column, kp.column with
    | .column a, .column b => a == b && p.collation == kp.collation
    | _, _ => false)
  stored.zipIdx.map (fun (e, k) =>
    let (key, _) := t.keyParts.foldl (fun (acc : List SqlValue × Nat) kp =>
      match held kp with
      | some pos => (acc.1 ++ [e.getD pos .null], acc.2)
      | none => (acc.1 ++ [e.getD acc.2 .null], acc.2 + 1)) ([], lead)
    let owner := rows.find? (fun (_, v) => compareKeys enc t.keyOrder (t.keyValues v) key == .eq)
    e ++ [.integer ((owner.map (·.1)).getD (-(k : Int) - 1))])

/-- The content of an image with a loaded schema: the rows of every table and the keys of every
index. The rows of a table without rowids are the entries of its primary key's tree, in that
order, numbered from 1. -/
def content (g : Geometry) (s : Schema) : Except Fault Tables := do
  let stored := s.tables.filter (fun t => t.root ≠ 0)
  let rows ← stored.mapM (fun t => do
    if t.withoutRowid then
      let recs ← g.treeRecords false t.root (recordWidth t)
      return (t.name, recs.zipIdx.map (fun ((_, vals), k) => ((k : Int) + 1, t.unkeyedRecord vals)))
    else return (t.name, ← g.treeRecords true t.root t.storedWidth))
  let withRoot := s.indexes.filter (·.root ≠ 0)
  let keys ← withRoot.mapM (fun i => do
    match s.table? i.table with
    | some t =>
      if t.withoutRowid then
        let tableRows := ((rows.find? (fun p => sameName p.1 t.name)).map (·.2)).getD []
        if i.primaryKey then
          return (i.name, tableRows.filterMap (fun (r, v) => match i.keyOf g.encoding t r v with
            | .ok (some k) => some k
            | _ => none))
        let width := i.parts.length + (t.keyParts.filter (fun kp => !i.parts.any (fun p =>
          match p.column, kp.column with
          | .column a, .column b => a == b && p.collation == kp.collation
          | _, _ => false))).length
        let recs ← g.treeRecords false i.root width
        return (i.name, keyedEntries g.encoding t i tableRows (recs.map (·.2)))
      return (i.name, (← g.treeRecords false i.root (i.parts.length + 1)).map (·.2))
    | none => return (i.name, (← g.treeRecords false i.root (i.parts.length + 1)).map (·.2)))
  return { schema := s, rows, keys }

end Geometry

/-- Check an image the way an import does: it must open, its catalog must load, the check must
find nothing, and its content must read. -/
def verify (image : List UInt8) : Except ImageFault Tables := do
  let engine (f : Fault) : String := "SQLite error: " ++ f.message
  let g ← (Geometry.ofImage image).mapError (fun f => ImageFault.unopenable (engine f))
  let s ← g.catalog.mapError (fun f => ImageFault.damaged (engine f))
  let rows ← (g.quickCheck s).mapError (fun f => ImageFault.damaged (engine f))
  let verdict := rows.headD "ok"
  if verdict ≠ "ok" then throw (.damaged verdict)
  (g.content s).mapError (fun f => ImageFault.damaged (engine f))

/-- The content of an image that opens and whose catalog and content read. -/
def load (image : List UInt8) : Option Tables :=
  match (do
    let g ← Geometry.ofImage image
    let s ← g.catalog
    g.content s : Except Fault Tables) with
  | .ok t => some t
  | .error _ => none

end Image

end DocStore
