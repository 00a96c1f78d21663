import DocStore.Json.Reader
import DocStore.Error
/-!
# JSON backups

A JSON backup is an array of rows `{collection_id, doc_id, data}`. Both ids must be non-empty
texts; `data` must be an object, or a text that reads as a JSON object. The rows are checked in
order and the first bad one is reported with its position, so a backup is taken whole or not at
all.
-/

namespace DocStore

/-- One document of a backup. -/
structure BackupRow where
  collectionId : String
  docId : String
  data : Value
deriving Repr

/-- A non-empty text member of a backup row. -/
def backupText (i : Nat) (entry : Value) (name : String) : Outcome String :=
  match entry.field? name with
  | some (.str s) => if s.isEmpty then .error (.backup (rowMissing name)) else .ok s
  | _ => .error (.backup (rowMissing name))
where
  rowMissing (name : String) : String :=
    "Row " ++ toString i ++ ": missing string field '" ++ name ++ "'"

/-- The data of a backup row: an object, or a text holding one. -/
def backupData (i : Nat) (entry : Value) : Outcome Value :=
  match entry.field? "data" with
  | some (.obj fields) => .ok (.obj fields)
  | some (.str text) =>
    match Json.parse text with
    | .ok (.obj fields) => .ok (.obj fields)
    | _ => .error (.backup ("Row " ++ toString i ++ ": 'data' string is not a JSON object"))
  | _ => .error (.backup ("Row " ++ toString i ++ ": 'data' must be an object"))

/-- Check one row of a backup at position `i`. -/
def parseBackupRow (i : Nat) (entry : Value) : Outcome BackupRow := do
  let c ← backupText i entry "collection_id"
  let d ← backupText i entry "doc_id"
  let data ← backupData i entry
  return ⟨c, d, data⟩

/-- Check a whole backup. -/
def parseBackup : Value → Outcome (List BackupRow)
  | .arr entries => entries.zipIdx.mapM (fun (e, i) => parseBackupRow i e)
  | _ => .error (.backup "Expected a JSON array of document rows")

end DocStore
