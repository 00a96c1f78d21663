/-!
# Errors of the store

Every failure of the library is a value of `StoreError`, one constructor per cause, and its text
is given in one place, `StoreError.message`. Causes that share a heading (a rejected argument, a
rejected backup, a failed patch) are grouped under one constructor with an inductive of their
own, so that a lemma can say exactly which inputs lead to which cause.
-/

namespace DocStore

/-- Primary result codes of the SQL engine that can reach the store. -/
inductive EngineCode where
  | error
  | internal
  | busy
  | noMemory
  | readOnly
  | ioError
  | corrupt
  | full
  | cannotOpen
  | constraint
  | notADatabase
deriving DecidableEq, Repr

namespace EngineCode

/-- The engine's number for the code. -/
def number : EngineCode → Nat
  | .error => 1
  | .internal => 2
  | .busy => 5
  | .noMemory => 7
  | .readOnly => 8
  | .ioError => 10
  | .corrupt => 11
  | .full => 13
  | .cannotOpen => 14
  | .constraint => 19
  | .notADatabase => 26

/-- The standard description of the code. -/
def description : EngineCode → String
  | .error => "SQL error or missing database"
  | .internal => "Internal logic error in SQLite"
  | .busy => "The database file is locked"
  | .noMemory => "A malloc() failed"
  | .readOnly => "Attempt to write a readonly database"
  | .ioError => "Some kind of disk I/O error occurred"
  | .corrupt => "The database disk image is malformed"
  | .full => "Insertion failed because database is full"
  | .cannotOpen => "Unable to open the database file"
  | .constraint => "Abort due to constraint violation"
  | .notADatabase => "File opened that is not a database file"

/-- Codes that mean the engine's runtime state can no longer be trusted. -/
def isRuntimeFault : EngineCode → Bool
  | .noMemory | .ioError | .internal => true
  | _ => false

/-- Codes that mean the backing file is damaged. -/
def isMalformedFile : EngineCode → Bool
  | .corrupt | .notADatabase => true
  | _ => false

end EngineCode

/-- A failure reported by the SQL engine: its code and, when the engine said more, its text. -/
structure EngineFailure where
  code : EngineCode
  detail : Option String := none
deriving DecidableEq, Repr

/-- The text of an engine failure: its own text, or the code with its description. -/
def EngineFailure.text (f : EngineFailure) : String :=
  match f.detail with
  | some d => d
  | none => "Error code " ++ toString f.code.number ++ ": " ++ f.code.description

/-- Failures of the file system. -/
inductive IoFailure where
  | notFound
  | alreadyExists
  | notADirectory
  | isADirectory
  | permissionDenied
  /-- Text read from a file is not UTF-8. -/
  | invalidUtf8
  /-- Any other failure, with the system's text. -/
  | other (text : String)
deriving DecidableEq, Repr

/-- The operating system's text for a file-system failure. -/
def IoFailure.text : IoFailure → String
  | .notFound => "No such file or directory (os error 2)"
  | .alreadyExists => "File exists (os error 17)"
  | .notADirectory => "Not a directory (os error 20)"
  | .isADirectory => "Is a directory (os error 21)"
  | .permissionDenied => "Permission denied (os error 13)"
  | .invalidUtf8 => "stream did not contain valid UTF-8"
  | .other t => t

/-- Arguments the store refuses before touching any data. -/
inductive Invalid where
  /-- A path with no non-empty segment. -/
  | noSegments (path : String)
  /-- A collection path with an even number of segments. -/
  | collectionDepth (path : String) (segments : Nat)
  /-- A document path with an odd number of segments. -/
  | documentDepth (path : String) (segments : Nat)
  /-- A collection group id that is empty or has a slash. -/
  | groupId (id : String)
  /-- A field path with an empty segment or a double quote. -/
  | fieldPath (field : String)
  /-- An `in` filter whose operand is not a non-empty array. -/
  | inOperand (field : String)
  /-- An inequality filter on another field than the first ordering. -/
  | inequalityOrder (field op first : String)
  /-- `limitToLast` without any ordering. -/
  | limitToLastWithoutOrder
  /-- Document data that is not an object; the kind of value it is. -/
  | dataNotObject (kind : String)
  /-- A stored file with an empty path. -/
  | emptyFilePath
deriving DecidableEq, Repr

/-- The text of a refused argument. -/
def Invalid.text : Invalid → String
  | .noSegments p => "Invalid path '" ++ p ++ "': no segments"
  | .collectionDepth p n => "Invalid collection reference '" ++ p ++
      "': collections need an odd number of path segments, got " ++ toString n
  | .documentDepth p n => "Invalid document reference '" ++ p ++
      "': documents need an even number of path segments, got " ++ toString n
  | .groupId id => "Invalid collection group id '" ++ id ++ "': must be a single non-empty segment"
  | .fieldPath f => "Invalid field path '" ++ f ++ "'"
  | .inOperand f => "Invalid 'in' filter on '" ++ f ++ "': value must be a non-empty array"
  | .inequalityOrder f op first => "Invalid query: inequality filter on '" ++ f ++ "' (" ++ op ++
      ") requires the first orderBy to be on '" ++ f ++ "', but it is on '" ++ first ++ "'"
  | .limitToLastWithoutOrder => "Invalid query: limitToLast requires at least one orderBy clause"
  | .dataNotObject k => "Document data must be an object, got " ++ k
  | .emptyFilePath => "File path must not be empty"

/-- Every failure of the store. -/
inductive StoreError where
  /-- A refused argument. -/
  | invalid (cause : Invalid)
  /-- An operation that needs an existing document. -/
  | notFound (collection id : String)
  /-- A write batch used after its commit. -/
  | batchAlreadyCommitted
  /-- A rejected backup or image. -/
  | backup (text : String)
  /-- A rejected or failed patch. -/
  | patch (text : String)
  /-- A runtime fault of the engine. -/
  | engineFault (text : String)
  /-- The engine crashed and recovery gave up. -/
  | engineCrashed
  /-- An operation on a store whose file is not open. -/
  | notInitialized
  /-- The queue no longer takes jobs. -/
  | queueClosed
  /-- A failure of the file system. -/
  | io (failure : IoFailure)
  /-- A configuration text that does not decode. -/
  | yaml (text : String)
  /-- A JSON text or value that does not decode. -/
  | json (text : String)
  /-- A failure reported by the SQL engine. -/
  | engine (failure : EngineFailure)
  /-- A result row without the named column. -/
  | columnMissing (name : String)
  /-- A result column of another type than the one asked for. -/
  | columnType (name expected found : String)
  /-- Every attempt to open the backing file failed; the text of the last failure. -/
  | openFailed (path : String) (attempts : Nat) (last : String)
  /-- Anything else, with its text. -/
  | other (text : String)
deriving DecidableEq, Repr

namespace StoreError

/-- The text of a failure. -/
def message : StoreError → String
  | .invalid c => "Validation error: " ++ c.text
  | .notFound c i => "Document not found: " ++ c ++ "/" ++ i
  | .batchAlreadyCommitted => "Batch already committed"
  | .backup t => "Invalid backup format: " ++ t
  | .patch t => "Patch error: " ++ t
  | .engineFault t => "Storage engine fault: " ++ t
  | .engineCrashed => "Storage engine crashed and could not be recovered"
  | .notInitialized => "Database not initialized"
  | .queueClosed => "Execution queue closed"
  | .io f => "IO error: " ++ f.text
  | .yaml t => "YAML error: " ++ t
  | .json t => "JSON error: " ++ t
  | .engine f => "SQLite error: " ++ f.text
  | .columnMissing n => "Column '" ++ n ++ "' missing from result row"
  | .columnType n e f => "Column '" ++ n ++ "' expected " ++ e ++ ", got " ++ f
  | .openFailed p n last =>
    "Failed to open database " ++ p ++ " after " ++ toString n ++ " attempts: " ++ last
  | .other t => t

/-- The name of the kind of a failure. -/
def kind : StoreError → String
  | .invalid _ => "Validation"
  | .notFound _ _ => "NotFound"
  | .batchAlreadyCommitted => "BatchAlreadyCommitted"
  | .backup _ => "Backup"
  | .patch _ => "Patch"
  | .engineFault _ => "EngineFault"
  | .engineCrashed => "EngineCrashed"
  | .notInitialized => "NotInitialized"
  | .queueClosed => "QueueClosed"
  | .io _ => "Io"
  | .yaml _ => "Yaml"
  | .json _ => "Json"
  | .engine _ => "Sqlite"
  | .columnMissing _ | .columnType _ _ _ | .openFailed _ _ _ | .other _ => "Other"

/-- Failures after which the engine handle must be abandoned. -/
def isEngineFault : StoreError → Bool
  | .engineFault _ | .engineCrashed => true
  | .engine f => f.code.isRuntimeFault
  | _ => false

/-- Failures that mean the backing file is damaged. -/
def isMalformedFile : StoreError → Bool
  | .engine f => f.code.isMalformedFile
  | _ => false

end StoreError

/-- Results of the store. -/
abbrev Outcome (α : Type) := Except StoreError α

end DocStore
