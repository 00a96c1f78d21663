import DocStore.Store.Batch
import DocStore.Store.Files
import DocStore.Store.Snapshot
import DocStore.Listen.Registry
/-!
# Scripted sessions over named stores

A workspace drives several stores in one directory through a list of steps. Stores are named;
the store `n` lives in the file `n.db` and is created on first use, unopened. Write batches and
listeners have names of their own, shared by all stores; saved images are kept in named slots.

A store can be dropped: the batches are dropped first (all of them, as each holds its store),
then the store's handle, which closes the file. The store's listeners stop at once. A later step
that names the store opens a fresh handle on the same file.

After every step the listeners run until they are idle; the deliveries of the step, the first
one of a new listener included, are its events, ordered by listener name.
-/

namespace DocStore

/-- Where the bytes of an image import come from. -/
inductive ImageSource where
  /-- An image saved by an earlier export. -/
  | slot (name : String)
  /-- Given bytes. -/
  | bytes (b : List UInt8)
deriving Repr

/-- Damage done to an image before it is imported: keep a prefix, overwrite bytes (those past
the end are ignored), then append zero bytes. -/
structure ImageEdit where
  truncate : Option Nat := none
  setBytes : List (Nat × UInt8) := []
  appendZeros : Nat := 0
deriving Repr

/-- Apply an edit to an image. -/
def ImageEdit.apply (e : ImageEdit) (image : List UInt8) : List UInt8 :=
  let kept := match e.truncate with
    | some n => image.take n
    | none => image
  let written := e.setBytes.foldl (fun img (i, b) => img.set i b) kept
  written ++ List.replicate e.appendZeros 0

/-- Which reference a `resolve` step builds. -/
inductive RefKind where
  | document
  | collection
  | group
deriving DecidableEq, Repr

/-- One step of a script. -/
inductive Step where
  | init
  | close
  | set (path : String) (data : Value)
  | update (path : String) (data : Value)
  | delete (path : String)
  | get (path : String)
  | patch (collectionId docId : String) (patch : Value)
  | add (collection : String) (data : Value)
  | query (q : Query)
  | count (q : Query)
  | createIndex (collectionId field : String)
  | batch (name : String)
  | batchSet (name path : String) (data : Value)
  | batchUpdate (name path : String) (data : Value)
  | batchDelete (name path : String)
  | batchCommit (name : String)
  | exportJson
  | importJson (backup : Value)
  | exportBinary (slot : Option String)
  | importBinary (source : ImageSource) (edit : ImageEdit)
  | uploadFile (path : String) (data : List UInt8) (contentType : String)
  | getFile (path : String)
  | deleteFile (path : String)
  | listenDoc (name path : String)
  | listenQuery (name : String) (q : Query)
  | unlisten (name : String)
  | armFault (start : String) (count : Nat) (kind : FaultKind)
  | failOpens (count : Nat) (kind : FaultKind) (removeFails : Bool)
  | stats
  | config
  | resolve (path : String) (kind : RefKind)
  | dropDb
  | listenerActive (name : String)
  | dropListener (name : String)
deriving Repr

/-- The counters of a store's engine. -/
structure EngineStats where
  restarts : Nat
  opens : Nat
  resets : Nat
  removes : Nat
  pendingFaults : Nat
deriving DecidableEq, Repr

/-- What a step answers. -/
inductive StepResult where
  /-- The step was done. -/
  | done
  | snapshot (s : DocumentSnapshot)
  | added (r : DocumentRef)
  | documents (docs : List QueryDocument)
  | counted (n : Nat)
  | index (name : String)
  /-- The number of writes a batch holds. -/
  | batchSize (n : Nat)
  | committed (n : Nat)
  | rows (rs : List BackupRow)
  | imported (n : Nat)
  /-- The length of an exported image and whether it starts with the file magic. -/
  | image (length : Nat) (magic : Bool)
  | file (f : Option StoredFile)
  | stats (s : EngineStats)
  | config (c : Config)
  | documentPath (path : String)
  | referenceId (id : String)
  | active (b : Bool)
deriving Repr

/-- Why a step fails: the store refused it, or the step names nothing known. -/
inductive StepError where
  | store (e : StoreError)
  | input (text : String)
deriving Repr

/-- A workspace. -/
structure Workspace where
  /-- The configuration of every store, before its directory and file name are set. -/
  base : Config
  dir : String
  stores : List (String × Database) := []
  /-- The files of dropped stores. -/
  files : List (String × BackingFile) := []
  batches : List (String × String × WriteBatch) := []
  /-- Listeners of dropped stores: stopped, still named. -/
  stopped : List String := []
  images : List (String × List UInt8) := []
  /-- The ids generated so far, in order. -/
  generated : List String := []
  /-- The wall clock of the step being run, in milliseconds of the Julian day number. -/
  clock : Int := 0
deriving Repr

/-- Operations on a workspace. -/
abbrev WorkspaceM := StateM Workspace

/-- Replace the entry of a name in an association list, or append one. -/
def upsert {α : Type} (k : String) (v : α) : List (String × α) → List (String × α)
  | [] => [(k, v)]
  | (k', v') :: rest => if k' == k then (k, v) :: rest else (k', v') :: upsert k v rest

/-- The hexadecimal digits of a number, `width` of them. -/
def hexDigits (width n : Nat) : String :=
  String.ofList ((List.range width).reverse.map (fun i =>
    "0123456789abcdef".toList.getD (n / Nat.pow 16 i % 16) '0'))

/-- The id generated for the `n`-th added document: shaped like a random UUID. -/
def generatedId (n : Nat) : String :=
  "00000000-0000-4000-8000-" ++ hexDigits 12 n

namespace Workspace

/-- A fresh workspace; the store `main` exists from the start. -/
def create (base : Config) (dir : String) : Workspace :=
  { base := base, dir := dir,
    stores := [("main", Database.create { base with dataDir := dir, name := "main.db" } .missing)] }

/-- The store of a name, created when missing. -/
def store (name : String) : WorkspaceM Database := do
  let w ← get
  match w.stores.lookup name with
  | some db => return db
  | none =>
    let cfg := { w.base with dataDir := w.dir, name := name ++ ".db" }
    let db := Database.create cfg ((w.files.lookup name).getD .missing)
    set { w with stores := w.stores ++ [(name, db)] }
    return db

/-- Run a store operation on the store of a name. -/
def onStore {α : Type} (name : String) (m : StoreM α) : WorkspaceM α := do
  let db ← store name
  let (a, db') := m { db with session := { db.session with clock := (← get).clock } }
  modify fun w => { w with stores := upsert name db' w.stores }
  return a

/-- Stop every listener of a name, wherever it is registered. -/
def forgetListener (name : String) : WorkspaceM Unit :=
  modify fun w => { w with
    stores := w.stores.map (fun (n, db) => (n, { db with listeners := db.listeners.filter (·.name != name) })),
    stopped := w.stopped.filter (· != name) }

/-- After a listener of a name was added to a store, stop every older listener of that name:
the new registration replaces the old one. -/
def keepNewest (name db : String) : WorkspaceM Unit :=
  modify fun w => { w with
    stores := w.stores.map (fun (n, d) =>
      let others := d.listeners.filter (·.name != name)
      if n == db then (n, { d with listeners := others ++ (d.listeners.filter (·.name == name)).getLast?.toList })
      else (n, { d with listeners := others })),
    stopped := w.stopped.filter (· != name) }

/-- Whether a listener of a name exists. -/
def hasListener (w : Workspace) (name : String) : Bool :=
  w.stores.any (fun (_, db) => db.hasListener name) || w.stopped.contains name

/-- Drop a store: its batches first (all of them), then its handle. -/
def dropStore (name : String) : WorkspaceM (Except StepError StepResult) := do
  let w ← get
  match w.stores.lookup name with
  | none => return .error (.input ("no db '" ++ name ++ "'"))
  | some db =>
    let (_, closed) := (Database.close db)
    set { w with
      batches := [],
      stores := w.stores.filter (·.1 != name),
      files := upsert name closed.session.file w.files,
      stopped := w.stopped ++ db.listeners.map Listener.name }
    return .ok .done

/-- Turn an outcome into a step result. -/
def answer {α : Type} (o : Outcome α) (f : α → StepResult) : Except StepError StepResult :=
  match o with
  | .ok a => .ok (f a)
  | .error e => .error (.store e)

/-- Work on the batch of a name. -/
def withBatch (name : String) (f : String → WriteBatch → WorkspaceM (Except StepError (StepResult × WriteBatch))) :
    WorkspaceM (Except StepError StepResult) := do
  match (← get).batches.lookup name with
  | none => return .error (.input ("no batch '" ++ name ++ "'"))
  | some (dbName, b) =>
    match ← f dbName b with
    | .error e => return .error e
    | .ok (r, b') =>
      modify fun w => { w with batches := upsert name (dbName, b') w.batches }
      return .ok r

/-- Queue a write in a batch. -/
def batchWrite (name path : String) (write : WriteBatch → DocumentRef → Outcome WriteBatch) :
    WorkspaceM (Except StepError StepResult) :=
  withBatch name (fun _ b => pure (match DocumentRef.parse path >>= write b with
    | .ok b' => .ok (.batchSize b'.len, b')
    | .error e => .error (.store e)))

/-- The image an import reads. -/
def imageBytes (src : ImageSource) : WorkspaceM (Except StepError (List UInt8)) := do
  match src with
  | .bytes b => return .ok b
  | .slot s =>
    match (← get).images.lookup s with
    | some b => return .ok b
    | none => return .error (.input ("no image '" ++ s ++ "'"))

/-- Update the fault plan of a store. -/
def updatePlan (db : String) (f : FaultPlan → FaultPlan) : WorkspaceM Unit :=
  onStore db (modify fun d => { d with session := { d.session with plan := f d.session.plan } })

/-- Run one step on the store of a name. The deliveries of new listeners come first. -/
def runStep (db : String) (now : Instant) : Step → WorkspaceM (Except StepError StepResult × List (String × Delivery))
  | .init => do return (answer (← onStore db Database.init) (fun _ => .done), [])
  | .close => do return (answer (← onStore db Database.close) (fun _ => .done), [])
  | .set path data => do
    match DocumentRef.parse path with
    | .error e => return (.error (.store e), [])
    | .ok r => return (answer (← onStore db (Database.setDoc r data now)) (fun _ => .done), [])
  | .update path data => do
    match DocumentRef.parse path with
    | .error e => return (.error (.store e), [])
    | .ok r => return (answer (← onStore db (Database.updateDoc r data now)) (fun _ => .done), [])
  | .delete path => do
    match DocumentRef.parse path with
    | .error e => return (.error (.store e), [])
    | .ok r => return (answer (← onStore db (Database.deleteDoc r)) (fun _ => .done), [])
  | .get path => do
    match DocumentRef.parse path with
    | .error e => return (.error (.store e), [])
    | .ok r => return (answer (← onStore db (Database.getDoc r)) .snapshot, [])
  | .patch c d p => do return (answer (← onStore db (Database.patchDoc c d p)) (fun _ => .done), [])
  | .add collection data => do
    match CollectionRef.parse collection with
    | .error e => return (.error (.store e), [])
    | .ok c =>
      let id := generatedId (← get).generated.length
      let res ← onStore db (Database.addDoc c id data now)
      if res.isOk then modify fun w => { w with generated := w.generated ++ [id] }
      return (answer res .added, [])
  | .query q => do return (answer (← onStore db (Database.getDocs q)) .documents, [])
  | .count q => do return (answer (← onStore db (Database.count q)) .counted, [])
  | .createIndex c f => do return (answer (← onStore db (Database.createIndex c f)) .index, [])
  | .batch name => do
    let _ ← store db
    modify fun w => { w with batches := upsert name (db, {}) w.batches }
    return (.ok .done, [])
  | .batchSet name path data => do
    return (← batchWrite name path (fun b r => b.set r data now), [])
  | .batchUpdate name path data => do
    return (← batchWrite name path (fun b r => b.update r data now), [])
  | .batchDelete name path => do
    return (← batchWrite name path (fun b r => b.delete r), [])
  | .batchCommit name => do
    let res ← withBatch name (fun dbName b => do
      let (o, b') ← onStore dbName (Database.commit b)
      return (match o with
        | .ok () => .ok (.committed b'.len, b')
        | .error e => .error (.store e)))
    -- a failed commit still marks the batch as committed
    match res with
    | .error (.store e) =>
      modify fun w => { w with batches := w.batches.map (fun (n, d, b) =>
        if n == name then (n, d, { b with statements := [], committed := true }) else (n, d, b)) }
      return (.error (.store e), [])
    | r => return (r, [])
  | .exportJson => do return (answer (← onStore db Database.exportJson) .rows, [])
  | .importJson backup => do return (answer (← onStore db (Database.importJson backup)) .imported, [])
  | .exportBinary slot => do
    match ← onStore db Database.exportBinary with
    | .error e => return (.error (.store e), [])
    | .ok image =>
      match slot with
      | some s => modify fun w => { w with images := upsert s image w.images }
      | none => pure ()
      return (.ok (.image image.length (image.take 16 == Image.magic)), [])
  | .importBinary src edit => do
    match ← imageBytes src with
    | .error e => return (.error e, [])
    | .ok bytes =>
      return (answer (← onStore db (Database.importBinary (edit.apply bytes))) (fun _ => .done), [])
  | .uploadFile path data contentType => do
    return (answer (← onStore db (Database.uploadFile path data contentType now)) (fun _ => .done), [])
  | .getFile path => do return (answer (← onStore db (Database.getFile path)) .file, [])
  | .deleteFile path => do return (answer (← onStore db (Database.deleteFile path)) (fun _ => .done), [])
  | .listenDoc name path => do
    match DocumentRef.parse path with
    | .error e => return (.error (.store e), [])
    | .ok r =>
      match ← onStore db (Database.listenDoc name r) with
      | .error e => return (.error (.store e), [])
      | .ok snap =>
        keepNewest name db
        return (.ok .done, [(name, .document snap)])
  | .listenQuery name q => do
    match ← onStore db (Database.listenQuery name q) with
    | .error e => return (.error (.store e), [])
    | .ok (docs, changes) =>
      keepNewest name db
      return (.ok .done, [(name, .query docs changes)])
  | .unlisten name => do
    if (← get).hasListener name then
      forgetListener name
      return (.ok .done, [])
    else return (.error (.input ("no listener '" ++ name ++ "'")), [])
  | .armFault start count kind => do
    updatePlan db (fun p => p.arm start count kind)
    return (.ok .done, [])
  | .failOpens count kind removeFails => do
    updatePlan db (fun p => p.failOpens count kind removeFails)
    return (.ok .done, [])
  | .stats => do
    let restarts ← onStore db Database.engineRestarts
    let p := (← store db).session.plan
    return (answer restarts (fun n => .stats ⟨n, p.opens, p.resets, p.removes, p.pending⟩), [])
  | .config => do return (.ok (.config (← store db).session.config), [])
  | .resolve path kind => do
    let _ ← store db
    match kind with
    | .document => return (answer (DocumentRef.parse path) (fun r => .documentPath r.path), [])
    | .collection => return (answer (CollectionRef.parse path) (fun c => .referenceId c.id), [])
    | .group => return (answer (GroupRef.parse path) (fun g => .referenceId g.id), [])
  | .dropDb => do return (← dropStore db, [])
  | .listenerActive name => do
    let w ← get
    if w.stopped.contains name then return (.ok (.active false), [])
    else if w.hasListener name then return (.ok (.active true), [])
    else return (.error (.input ("no listener '" ++ name ++ "'")), [])
  | .dropListener name => do
    if (← get).hasListener name then
      forgetListener name
      return (.ok .done, [])
    else return (.error (.input ("no listener '" ++ name ++ "'")), [])

/-- Let the listeners of every store run until they are idle. -/
def settle : WorkspaceM (List (String × Delivery)) := do
  let names := (← get).stores.map (·.1)
  let mut out := []
  for n in names do
    out := out ++ (← onStore n Database.deliver)
  return out

/-- Order deliveries by listener name, keeping each listener's own order. -/
def byListener (ds : List (String × Delivery)) : List (String × Delivery) :=
  ds.mergeSort (fun a b => SqlValue.compareBytes a.1.toUTF8.toList b.1.toUTF8.toList != .gt)

/-- Run a step and let the listeners settle: the result and the step's deliveries. -/
def step (db : String) (now : Instant) (s : Step) :
    WorkspaceM (Except StepError StepResult × List (String × Delivery)) := do
  modify fun w => { w with clock := now.julianMillis }
  let (r, first) ← runStep db now s
  let later ← settle
  return (r, byListener (first ++ later))

end Workspace

end DocStore
