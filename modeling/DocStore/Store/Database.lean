import DocStore.Json.Reader
import DocStore.Engine.Session
import DocStore.Query.Compile
import DocStore.Listen.Diff
import DocStore.Patch
/-!
# A store

A store is an engine session plus its change notifications. Every operation on documents runs
as one crash-safe job on the session's queue, in order; a write that succeeds announces the
collection it touched.

* `getDoc` reads one document; a missing document is a snapshot without data.
* `getDocs` runs a compiled query and restores the requested order of a `limitToLast` query.
* `count` counts the filtered documents.
* `setDoc` replaces a document with the prepared data (`prepareWrite`); `addDoc` does so under a
  fresh id; `updateDoc` merges the prepared data into a stored document (nothing happens when
  it does not exist); `patchDoc` applies a JSON patch within one job and fails for a missing
  document; `deleteDoc` removes a document, present or not.
* `createIndex` creates a partial index named `idx_<collection>_<field>`, with every character
  that is not an ASCII letter or digit replaced by `_`.

Change notifications go to the listeners of the store. Each listener keeps the notifications it
has not yet handled, at most `capacity` of them (the channel capacity: the configured buffer,
at least one, rounded up to a power of two); when older ones are dropped, the listener is marked
as lagging, which makes it re-read once before handling the rest.
-/

namespace DocStore

/-- What a listener watches, with what it delivered last. -/
inductive Watch where
  | document (ref : DocumentRef) (last : Option Value)
  | query (q : Query) (previous : List QueryDocument)
deriving Repr

/-- The notifications a listener reacts to. -/
def Watch.scope : Watch → Scope
  | .document ref _ => .collection ref.collectionId
  | .query q _ =>
    match q.source with
    | .collection c => .collection c.id
    | .group _ => .wildcard

/-- A listener of a store. -/
structure Listener where
  name : String
  watch : Watch
  pending : List Scope := []
  lagging : Bool := false
  active : Bool := true
deriving Repr

/-- The smallest power of two that is at least `n`. -/
def powerOfTwoAtLeast (n : Nat) : Nat :=
  let rec go (p fuel : Nat) : Nat :=
    match fuel with
    | 0 => p
    | fuel + 1 => if n ≤ p then p else go (2 * p) fuel
  go 1 64

/-- A store: its session and its listeners. -/
structure Database where
  session : Session
  listeners : List Listener := []
deriving Repr, Inhabited

/-- Operations on a store. -/
abbrev StoreM := StateM Database

namespace Database

/-- A store described by a configuration, its file not yet opened. -/
def create (config : Config) (file : BackingFile) : Database :=
  { session := { config := config, file := file } }

/-- The capacity of the notification channel. -/
def capacity (db : Database) : Nat := powerOfTwoAtLeast (max db.session.config.listenerBuffer 1)

/-- Run a session computation on the store's session. -/
def onSession {α : Type} (m : StateM Session α) : StoreM α := fun db =>
  let (a, s) := m db.session
  (a, { db with session := s })

/-- Announce a change to every active listener. -/
def emit (scope : Scope) : StoreM Unit := modify fun db =>
  let cap := db.capacity
  { db with listeners := db.listeners.map (fun l =>
      if !l.active then l
      else
        let queued := l.pending ++ [scope]
        if queued.length > cap then { l with pending := queued.drop (queued.length - cap), lagging := true }
        else { l with pending := queued }) }

end Database

open Database

/-- The bindings of a document key. -/
def keyBindings (r : DocumentRef) : List SqlValue := [.ofString r.collectionId, .ofString r.id]

/-- Replace a document's data. -/
def setStatement (r : DocumentRef) (data : List (String × Value)) : BoundStatement :=
  ⟨.upsertDocument, keyBindings r ++ [.ofString (Value.obj data).compact]⟩

/-- Merge data into a document. -/
def updateStatement (r : DocumentRef) (data : List (String × Value)) : BoundStatement :=
  ⟨.mergeDocument, .ofString (Value.obj data).compact :: keyBindings r⟩

/-- Delete a document. -/
def deleteStatement (r : DocumentRef) : BoundStatement := ⟨.deleteDocument, keyBindings r⟩

/-- Read stored data. -/
def parseData (text : String) : Outcome Value :=
  (Json.parse text).mapError (fun e => .json e.message)

/-- A query result row as a document. -/
def rowDocument (row : Row) : Outcome QueryDocument := do
  let c ← row.text "collection_id"
  let i ← row.text "doc_id"
  let d ← row.text "data"
  return ⟨c, i, ← parseData d⟩

/-- The documents of a query's result rows, in the order the query asks for: the rows of a
`limitToLast` query come back in reverse. -/
def CompiledQuery.documents (c : CompiledQuery) (rows : List Row) : Outcome (List QueryDocument) := do
  let docs ← rows.mapM rowDocument
  return if c.reverse then docs.reverse else docs

/-- The number a count's result rows hold; a negative count reads as zero. -/
def countOfRows (rows : List Row) : Outcome Nat :=
  match rows.head? with
  | none => return 0
  | some row => return (← row.integer "count").toNat

/-- Stop a job with the failure of an outcome. -/
def Job.ofOutcome {α : Type} : Outcome α → Job α
  | .ok a => pure a
  | .error e => throw (.fail e)

/-- The name of the index on a field of a collection. -/
def indexName (collectionId field : String) : String :=
  String.ofList (("idx_" ++ collectionId ++ "_" ++ field).toList.map (fun c =>
    if ('a' ≤ c ∧ c ≤ 'z') ∨ ('A' ≤ c ∧ c ≤ 'Z') ∨ ('0' ≤ c ∧ c ≤ '9') then c else '_'))

namespace Database

/-- Run one statement as a crash-safe job. -/
def execute (st : BoundStatement) : StoreM (Outcome Unit) :=
  onSession (submitSafe (do let _ ← Session.run st; pure ()))

/-- Open the backing file. -/
def init : StoreM (Outcome Unit) := onSession (submit Session.ensureOpen)

/-- Close the backing file; later operations reopen it. -/
def close : StoreM (Outcome Unit) := onSession (submit Session.close)

/-- The number of crash recoveries so far. -/
def engineRestarts : StoreM (Outcome Nat) := onSession (submit (do return (← get).restarts))

/-- Read one document. -/
def getDoc (r : DocumentRef) : StoreM (Outcome DocumentSnapshot) := do
  let rows ← onSession (submitSafe (Session.run ⟨.selectData, keyBindings r⟩))
  return do
    match (← rows).head? with
    | none => return ⟨r, none⟩
    | some row => return ⟨r, some (← parseData (← row.text "data"))⟩

/-- Run a query. -/
def getDocs (q : Query) : StoreM (Outcome (List QueryDocument)) := do
  match q.compile with
  | .error e => return .error e
  | .ok c =>
    let rows ← onSession (submitSafe (Session.run ⟨c.statement, c.bindings⟩))
    return do c.documents (← rows)

/-- Count the documents a query's filters match. -/
def count (q : Query) : StoreM (Outcome Nat) := do
  match q.compileCount with
  | .error e => return .error e
  | .ok c =>
    let rows ← onSession (submitSafe (Session.run ⟨c.statement, c.bindings⟩))
    return do countOfRows (← rows)

/-- Create or replace a document. -/
def setDoc (r : DocumentRef) (data : Value) (now : Instant) : StoreM (Outcome Unit) := do
  match prepareWrite data now with
  | .error e => return .error e
  | .ok payload =>
    let res ← execute (setStatement r payload)
    if res.isOk then emit (.collection r.collectionId)
    return res

/-- Store data under a given fresh id. -/
def addDoc (c : CollectionRef) (id : String) (data : Value) (now : Instant) :
    StoreM (Outcome DocumentRef) := do
  match c.doc id with
  | .error e => return .error e
  | .ok r =>
    let res ← setDoc r data now
    return res.map (fun _ => r)

/-- Merge data into a stored document. -/
def updateDoc (r : DocumentRef) (data : Value) (now : Instant) : StoreM (Outcome Unit) := do
  match prepareWrite data now with
  | .error e => return .error e
  | .ok payload =>
    let res ← execute (updateStatement r payload)
    if res.isOk then emit (.collection r.collectionId)
    return res

/-- The job of a patch: read, patch, write. -/
def patchJob (r : DocumentRef) (ops : Patch) : Job Unit := do
  let rows ← Session.run ⟨.selectData, keyBindings r⟩
  match rows.head? with
  | none => throw (.fail (.notFound r.collectionId r.id))
  | some row =>
    let data ← Job.ofOutcome (row.text "data" >>= parseData)
    match Patch.apply data ops with
    | .error (.failed e) => throw (.fail (.patch e))
    | .error .undoFailed => throw .panic
    | .ok (.obj fields) => let _ ← Session.run (setStatement r fields)
    | .ok _ => throw (.fail (.patch "Patched document is no longer an object"))

/-- Apply a JSON patch to a stored document. -/
def patchDoc (collectionId docId : String) (patch : Value) : StoreM (Outcome Unit) := do
  match CollectionRef.parse collectionId >>= (·.doc docId) with
  | .error e => return .error e
  | .ok r =>
    match Patch.ofJson patch with
    | .error e => return .error (.patch ("Malformed patch document: " ++ e))
    | .ok ops =>
      let res ← onSession (submitSafe (patchJob r ops))
      if res.isOk then emit (.collection r.collectionId)
      return res

/-- Delete a document. -/
def deleteDoc (r : DocumentRef) : StoreM (Outcome Unit) := do
  let res ← execute (deleteStatement r)
  if res.isOk then emit (.collection r.collectionId)
  return res

/-- Create an index on a field of a collection and return its name. -/
def createIndex (collectionId field : String) : StoreM (Outcome String) := do
  match CollectionRef.parse collectionId with
  | .error e => return .error e
  | .ok c =>
    let name := indexName c.id field
    match FieldPath.parse field with
    | .error e => return .error e
    | .ok p =>
      let res ← execute ⟨.createIndex name p c.id, []⟩
      return res.map (fun _ => name)

end Database

end DocStore
