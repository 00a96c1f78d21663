import DocStore.Cli.Grammar
import DocStore.Cli.Machine
import DocStore.Config.Yaml
import DocStore.Store.Files
import DocStore.Store.Snapshot
import DocStore.Listen.Registry
import DocStore.Yaml.Emitter
import DocStore.Json.Reader
/-!
# Running a command

One run of the program: parse the command line, load the configuration, open the store, run the
command, close the store and print the answer.

* The configuration comes from the `--config` file when one is given, else the defaults;
  `--data-dir` and `--name` (or their environment variables) replace its directory and file
  name.
* Opening creates the directory of the backing file, then opens the file the way the store
  always does: a file that is not a database is removed and created afresh.
* The answer of a command is a JSON value, printed as pretty JSON with `--format json` and as
  YAML otherwise. A failure prints `ERROR:` and its text on standard error and ends the run with
  status 1; what the store committed before it stays committed.
* `watch` prints the first result of its query and ends, as when interrupted.

The backing file is read as an image at the start and written back at the end when its
contents changed.
-/

namespace DocStore

namespace Cli

/-- What a run prints, and its exit status. -/
structure Exit where
  status : Nat
  stdout : String := ""
  stderr : String := ""
deriving Repr

/-- The output format. -/
inductive Format where
  | yaml
  | json
deriving DecidableEq, Repr

/-- The printed text of an answer. -/
def Format.render : Format → Value → String
  | .json, v => Value.pretty 0 v ++ "\n"
  | .yaml, v => Yaml.emit v

/-- The UTF-8 bytes of a text. -/
def textBytes (s : String) : List UInt8 := s.toUTF8.toList

/-- JSON when the text parses as JSON, else the text itself. -/
def parseScalar (raw : String) : Value :=
  match Json.parse raw with
  | .ok v => v
  | .error _ => .str raw

/-- The backing file found at the store's path. -/
def backingOf (read : Except IoFailure (List UInt8)) : BackingFile :=
  match read with
  | .error _ => .missing
  | .ok [] => .foreign []
  | .ok bytes =>
    match Image.headerProblem bytes, Image.load bytes with
    | none, some t => .database (DatabaseFile.ofImage t bytes)
    | _, _ => .foreign bytes

/-- The backing file a store leaves behind. -/
def finalFile (db : Database) : BackingFile :=
  match db.session.handle with
  | .opened c => db.session.released c
  | _ => db.session.file

/-- The document data of `--json` and `--field`: the object of `--json`, then each field set on
top of it in order. -/
def documentData (own : Matches) : Except String Value := do
  let base ← match own.first? "json" with
    | some raw =>
      match Json.parse raw with
      | .ok (.obj fields) => pure fields
      | .ok _ => throw "--json must be a JSON object"
      | .error e => throw e.message
    | none => pure []
  let pairs := (own.all "fields").filterMap (fun s => (parseKeyValue s).toOption)
  return .obj (pairs.foldl (fun acc (k, v) => Value.setField acc k (parseScalar v)) base)

/-- The query of `query`, `count` and `watch`: the filters, then the sort keys, then the
limits. -/
def queryOf (own : Matches) : Except String Query := do
  let name := (own.first? "collection").getD ""
  let source ← if own.has "group" then
      (GroupRef.parse name).map Source.group |>.mapError StoreError.message
    else (CollectionRef.parse name).map Source.collection |>.mapError StoreError.message
  let filters := (own.all "filters").filterMap (fun s =>
    match filterWords s with
    | .ok (field, op, value) =>
      match WhereOp.parse op with
      | .ok o => some (Constraint.filter field o (parseScalar value))
      | .error _ => none
    | .error _ => none)
  let orders := (own.all "order").filterMap (fun s =>
    match splitOrder s with
    | (field, some d) => (Direction.parse d).toOption.map (Constraint.orderBy field)
    | (field, none) => some (Constraint.orderBy field .asc))
  let number (id : String) : List Nat := ((own.first? id).bind (fun s => (parseUnsigned s).toOption)).toList
  return ⟨source, filters ++ orders ++ (number "limit").map Constraint.limit ++
    (number "limit_to_last").map Constraint.limitToLast⟩

/-- A JSON number from a count. -/
def natValue (n : Nat) : Value := .num (.int n)

/-- The answer of `ok` with one more member. -/
def okWith (key : String) (v : Value) : Value := .obj [("ok", .bool true), (key, v)]

/-- One document of a query answer. -/
def queryDocValue (d : QueryDocument) : Value :=
  .obj [("collection_id", .str d.collectionId), ("id", .str d.id), ("data", d.data)]

/-- One change of a `watch` delivery. -/
def changeValue (c : DocumentChange) : Value :=
  .obj [("kind", .str c.kind.name), ("path", .str (c.doc.collectionId ++ "/" ++ c.doc.id)),
        ("old_index", (c.oldIndex.map natValue).getD .null),
        ("new_index", (c.newIndex.map natValue).getD .null)]

/-- One row of a JSON export. -/
def backupRowValue (r : BackupRow) : Value :=
  .obj [("collection_id", .str r.collectionId), ("doc_id", .str r.docId), ("data", r.data)]

/-- The metadata of a stored file. -/
def storedFileValue (f : StoredFile) : Value :=
  .obj [("path", .str f.path), ("content_type", .str f.contentType), ("size", natValue f.size),
        ("updated_at", .str f.updatedAt)]

/-- A run in progress: it may fail with a text, and it holds the open store. -/
abbrev RunM (m : Type → Type) := ExceptT String (StateT Database m)

section Commands

variable {m : Type → Type} [Monad m] [Machine m]

/-- Run an operation on the store. -/
def store {α : Type} (op : StoreM α) : RunM m α := modifyGet (fun db => Id.run (op.run db))

/-- The value of an outcome, or its failure. -/
def expect {α : Type} (o : Outcome α) : RunM m α :=
  match o with
  | .ok a => pure a
  | .error e => throw e.message

/-- The value of a check, or its failure. -/
def check {α : Type} (o : Except String α) : RunM m α :=
  match o with
  | .ok a => pure a
  | .error e => throw e

/-- Run an operation on the store and take its value. -/
def storeOutcome {α : Type} (op : StoreM (Outcome α)) : RunM m α := do expect (← store op)

/-- Write a file, failing with the system's text. -/
def writeOut (path : String) (bytes : List UInt8) : RunM m Unit := do
  match ← (Machine.writeFile path bytes : m _) with
  | .ok () => pure ()
  | .error e => throw e.text

/-- The answer of a command. -/
def perform (cmd : Command) (own : Matches) : RunM m Value := do
  let arg (id : String) : String := (own.first? id).getD ""
  match cmd with
  | .get =>
    let r ← expect (DocumentRef.parse (arg "path"))
    let snap ← storeOutcome (Database.getDoc r)
    return .obj [("path", .str r.path), ("exists", .bool snap.exists?), ("data", snap.data.getD .null)]
  | .set =>
    let r ← expect (DocumentRef.parse (arg "path"))
    let data ← check (documentData own)
    let now ← (Machine.clock : m _)
    storeOutcome (Database.setDoc r data now)
    return okWith "path" (.str r.path)
  | .update =>
    let r ← expect (DocumentRef.parse (arg "path"))
    let data ← check (documentData own)
    let now ← (Machine.clock : m _)
    storeOutcome (Database.updateDoc r data now)
    return okWith "path" (.str r.path)
  | .patch =>
    let r ← expect (DocumentRef.parse (arg "path"))
    let ops ← check ((Json.parse (arg "ops")).mapError Json.ReadError.message)
    storeOutcome (Database.patchDoc r.collectionId r.id ops)
    return okWith "path" (.str r.path)
  | .delete =>
    let r ← expect (DocumentRef.parse (arg "path"))
    storeOutcome (Database.deleteDoc r)
    return okWith "deleted" (.str r.path)
  | .add =>
    let c ← expect (CollectionRef.parse (arg "collection"))
    let data ← check (documentData own)
    let id ← (Machine.freshId : m _)
    let now ← (Machine.clock : m _)
    let r ← storeOutcome (Database.addDoc c id data now)
    return .obj [("id", .str r.id), ("path", .str r.path)]
  | .query =>
    let q ← check (queryOf own)
    let docs ← storeOutcome (Database.getDocs q)
    return .arr (docs.map queryDocValue)
  | .count =>
    let q ← check (queryOf own)
    let n ← storeOutcome (Database.count q)
    return .obj [("count", natValue n)]
  | .watch =>
    let q ← check (queryOf own)
    let (docs, changes) ← storeOutcome (Database.listenQuery "watch" q)
    store (Database.unlisten "watch")
    return .obj [("size", natValue docs.length), ("changes", .arr (changes.map changeValue))]
  | .index =>
    let name ← storeOutcome (Database.createIndex (arg "collection") (arg "field"))
    return okWith "index" (.str name)
  | .exportStore =>
    if own.has "binary" then
      let image ← storeOutcome Database.exportBinary
      writeOut (arg "output") image
      return .obj [("ok", .bool true), ("bytes", natValue image.length), ("output", .str (arg "output"))]
    else
      let rows := Value.arr ((← storeOutcome Database.exportJson).map backupRowValue)
      match own.first? "output" with
      | some out =>
        writeOut out (textBytes (Value.pretty 0 rows))
        return okWith "output" (.str out)
      | none => return rows
  | .importStore =>
    let file := arg "file"
    let bytes ← match ← (Machine.readFile file : m _) with
      | .ok b => pure b
      | .error e => throw ("Failed to read backup '" ++ file ++ "': " ++ e.text)
    if own.has "binary" then
      storeOutcome (Database.importBinary bytes)
      return .obj [("ok", .bool true)]
    else
      let backup ← check ((Json.parseBytes bytes).mapError Json.ReadError.message)
      let n ← storeOutcome (Database.importJson backup)
      return okWith "documents" (natValue n)
  | .filePut =>
    let source := arg "source"
    let data ← match ← (Machine.readFile source : m _) with
      | .ok b => pure b
      | .error e => throw ("Failed to read '" ++ source ++ "': " ++ e.text)
    let now ← (Machine.clock : m _)
    storeOutcome (Database.uploadFile (arg "path") data (arg "content_type") now)
    return okWith "path" (.str (arg "path"))
  | .fileGet =>
    let path := arg "path"
    match ← storeOutcome (Database.getFile path) with
    | none => throw ("File not found: " ++ path)
    | some f =>
      match own.first? "output" with
      | some out => writeOut out f.data
      | none => pure ()
      return storedFileValue f
  | .fileRm =>
    storeOutcome (Database.deleteFile (arg "path"))
    return okWith "deleted" (.str (arg "path"))
  | .root | .file => return .null

/-- The configuration of a run. -/
def loadConfig (top : Matches) : ExceptT String m Config := do
  let base ← match top.first? "config" with
    | some p =>
      match ← (Machine.readFile p : m _) with
      | .error e => throw (StoreError.io e).message
      | .ok bytes =>
        match String.fromUTF8? (ByteArray.mk bytes.toArray) with
        | none => throw (StoreError.io .invalidUtf8).message
        | some text =>
          match Config.ofYaml text with
          | .ok c => pure c
          | .error msg => throw (StoreError.yaml msg).message
    | none => pure {}
  let c := match top.first? "data_dir" with
    | some d => { base with dataDir := d }
    | none => base
  return match top.first? "name" with
    | some n => { c with name := n }
    | none => c

/-- The bytes a backing file holds, if it exists. -/
def storedBytes : BackingFile → Option (List UInt8)
  | .database d => some d.image
  | .foreign bytes => some bytes
  | .missing => none

/-- Write the backing file back when the run changed its bytes. -/
def persist (path : String) (before after : BackingFile) : m Unit := do
  if storedBytes before == storedBytes after then return ()
  match after with
  | .database d => let _ ← (Machine.writeFile path d.image : m _)
  | .foreign bytes => let _ ← (Machine.writeFile path bytes : m _)
  | .missing => let _ ← (Machine.removeFile path : m _)

/-- Run a parsed command. -/
def runCommand (top : Matches) (cmd : Command) (own : Matches) : m Exit := do
  let fmt := if top.first? "format" = some "json" then Format.json else .yaml
  match ← (loadConfig top).run with
  | .error msg => return { status := 1, stderr := "ERROR:" ++ msg ++ "\n" }
  | .ok cfg =>
    let path := cfg.dbPath
    let parent := parentPath path
    let dirFailure ← if parent.isEmpty then pure none else do
      match ← (Machine.createDirs parent : m _) with
      | .ok () => pure none
      | .error e => pure (some e)
    let before := backingOf (← (Machine.readFile path : m _))
    let created := Database.create cfg before
    let start ← (Machine.clock : m _)
    let db : Database := { created with session := { created.session with
      directoryFailure := dirFailure, clock := start.julianMillis } }
    let body : RunM m Value := do
      storeOutcome Database.init
      let v ← perform cmd own
      let _ ← store Database.close
      return v
    let (res, db) ← (body.run).run db
    persist path before (finalFile db)
    match res with
    | .ok v => return { status := 0, stdout := fmt.render v }
    | .error msg => return { status := 1, stderr := "ERROR:" ++ msg ++ "\n" }

/-- One run of the program with its arguments (without the program name) in an environment. -/
def execute (env : List (String × String)) (args : List String) : m Exit :=
  match parse env args with
  | .reply (.out t) => pure { status := 0, stdout := t }
  | .reply (.err t) => pure { status := 2, stderr := t }
  | .run top cmd own => runCommand top cmd own

end Commands

end Cli

end DocStore
