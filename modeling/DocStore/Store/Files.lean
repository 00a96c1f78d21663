import DocStore.Store.Database
/-!
# Stored files

Binary files kept next to the documents, keyed by a non-empty path. Uploading replaces a file
with the same path; each file records its content type, its size in bytes and the time of its
last upload (RFC 3339 with milliseconds). Deleting a missing file is not an error.
-/

namespace DocStore

/-- A stored file. -/
structure StoredFile where
  path : String
  data : List UInt8
  contentType : String
  size : Nat
  updatedAt : String
deriving DecidableEq, Repr

/-- Read a stored file from its row. -/
def StoredFile.ofRow (row : Row) : Outcome StoredFile := do
  let path ← row.text "path"
  let data ← row.blob "data"
  let contentType ← row.text "contentType"
  let size ← row.integer "size"
  let updatedAt ← row.text "updatedAt"
  return ⟨path, data, contentType, size.toNat, updatedAt⟩

namespace Database

/-- Store a file under a path, replacing any previous one. -/
def uploadFile (path : String) (data : List UInt8) (contentType : String) (now : Instant) :
    StoreM (Outcome Unit) := do
  if path.isEmpty then return .error (.invalid .emptyFilePath)
  execute ⟨.upsertFile, [.ofString path, .blob data, .ofString contentType, .integer data.length,
    .ofString (formatTimestamp now)]⟩

/-- The file at a path, if any. -/
def getFile (path : String) : StoreM (Outcome (Option StoredFile)) := do
  let rows ← onSession (submitSafe (Session.run ⟨.selectFile, [.ofString path]⟩))
  return do
    match (← rows).head? with
    | none => return none
    | some row => return some (← StoredFile.ofRow row)

/-- Remove the file at a path. -/
def deleteFile (path : String) : StoreM (Outcome Unit) :=
  execute ⟨.deleteFile, [.ofString path]⟩

end Database

end DocStore
