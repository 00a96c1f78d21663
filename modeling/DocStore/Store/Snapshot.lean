import DocStore.Store.Database
import DocStore.Backup
import DocStore.Image.Verdict
/-!
# Whole-store export and import

Two forms of a whole store:

* JSON rows (`BackupRow`), ordered by collection and id. Importing checks the whole backup
  first, then replaces every document in one transaction and notifies every listener.
* The raw image of the backing file. Exporting closes the handle for the read and reopens it
  afterwards. Importing checks the header, then reads the image as a database of its own and
  runs the integrity check on it; only an image that passes replaces the backing file, which is
  then reopened, and every listener is notified.
-/

namespace DocStore

open Session

namespace Database

/-- Every document as a backup row. -/
def exportJson : StoreM (Outcome (List BackupRow)) := do
  let rows ← onSession (submitSafe (Session.run ⟨.exportDocuments, []⟩))
  return do
    (← rows).mapM (fun row => do
      let c ← row.text "collection_id"
      let d ← row.text "doc_id"
      let data ← parseData (← row.text "data")
      return ⟨c, d, data⟩)

/-- Replace every document with the rows of a backup; the number of rows. -/
def importJson (backup : Value) : StoreM (Outcome Nat) := do
  match parseBackup backup with
  | .error e => return .error e
  | .ok rows =>
    let stmts : List BoundStatement := ⟨.deleteAllDocuments, []⟩ :: rows.map (fun r =>
      ⟨.insertDocument, [.ofString r.collectionId, .ofString r.docId, .ofString r.data.compact]⟩)
    match ← onSession (submitTransaction stmts) with
    | .error e => return .error e
    | .ok () =>
      emit .wildcard
      return .ok rows.length

/-- The image of the backing file. -/
def imageOf (file : BackingFile) : List UInt8 :=
  match file with
  | .missing => []
  | .database d => d.image
  | .foreign bytes => bytes

/-- The raw image of the backing file. -/
def exportBinary : StoreM (Outcome (List UInt8)) :=
  onSession (submit (do
    Session.ensureOpen
    Session.close
    let image := imageOf (← get).file
    Session.ensureOpen
    pure image))

/-- The tables of an image that passes the integrity check. -/
def verifiedCopy (image : List UInt8) : Outcome Tables :=
  match Image.verify image with
  | .ok t => .ok t
  | .error (.unopenable text) => .error (.backup ("Binary import does not open: " ++ text))
  | .error (.damaged text) => .error (.backup ("Binary import failed integrity check: " ++ text))

/-- Replace the backing file with an image and reopen it. -/
def importBinary (image : List UInt8) : StoreM (Outcome Unit) := do
  match Image.checkHeader image with
  | .error e => return .error e
  | .ok () =>
    let res ← onSession (submit (do
      let t ← Job.ofOutcome (verifiedCopy image)
      Session.close
      modify (fun s => { s with file := .database (DatabaseFile.ofImage t image) })
      Session.ensureOpen))
    if res.isOk then emit .wildcard
    return res

end Database

end DocStore
