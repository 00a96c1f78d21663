import DocStore.Sql.Statement
import DocStore.Document
/-!
# Store configuration

A store is described by the directory of its backing file, the file name, how often and how
patiently opening is retried, how often a crashed operation is retried, the journal and
synchronous settings of the engine, and the capacity of the change notification channel.
Every setting has a default, so a configuration names only what it changes.

Configurations are read from JSON data (`Config.ofJson`) or from YAML text (elsewhere). Members
are taken in order and the first bad one is reported; unknown members are ignored. Counts are
unsigned and bounded by the width of their field (32 or 64 bits), and the two engine settings
are named in snake case.
-/

namespace DocStore

/-- The configuration of one store. -/
structure Config where
  dataDir : String := "."
  name : String := "doclite.db"
  openAttempts : Nat := 10
  openBackoffMs : Nat := 100
  crashRetries : Nat := 2
  journalMode : JournalMode := .delete
  synchronous : Synchronous := .normal
  listenerBuffer : Nat := 256
deriving DecidableEq, Repr, Inhabited

/-- The names of the journal modes, in declaration order. -/
def JournalMode.all : List (String × JournalMode) :=
  [("delete", .delete), ("truncate", .truncate), ("persist", .persist), ("memory", .memory),
   ("wal", .wal), ("off", .off)]

/-- The names of the synchronous settings, in declaration order. -/
def Synchronous.all : List (String × Synchronous) :=
  [("off", .off), ("normal", .normal), ("full", .full), ("extra", .extra)]

/-- The name of a journal mode. -/
def JournalMode.name (m : JournalMode) : String :=
  ((JournalMode.all.find? (fun p => p.2 == m)).map Prod.fst).getD ""

/-- The name of a synchronous setting. -/
def Synchronous.name (s : Synchronous) : String :=
  ((Synchronous.all.find? (fun p => p.2 == s)).map Prod.fst).getD ""

/-- Join a file name onto a directory: an absolute name stands alone, an empty directory adds
nothing, and a separator is put in between unless the directory ends with one. -/
def joinPath (dir name : String) : String :=
  if name.startsWith "/" then name
  else if dir.isEmpty then name
  else if dir.endsWith "/" then dir ++ name
  else dir ++ "/" ++ name

/-- The full path of the backing file. -/
def Config.dbPath (c : Config) : String := joinPath c.dataDir c.name

/-- The configuration of a store named `name` in `dir`, other settings at their defaults. -/
def Config.at (dir name : String) : Config := { dataDir := dir, name := name }

/-- The configuration as data, with the path of its backing file. -/
def Config.toValue (c : Config) : Value :=
  .obj [("data_dir", .str c.dataDir), ("name", .str c.name),
    ("open_attempts", .num (.int c.openAttempts)), ("open_backoff_ms", .num (.int c.openBackoffMs)),
    ("crash_retries", .num (.int c.crashRetries)), ("journal_mode", .str c.journalMode.name),
    ("synchronous", .str c.synchronous.name), ("listener_buffer", .num (.int c.listenerBuffer)),
    ("db_path", .str c.dbPath)]

/-- The message for a value of the wrong kind. -/
def invalidType (unexpected expected : String) : String :=
  "invalid type: " ++ unexpected ++ ", expected " ++ expected

/-- The list of variant names as messages give it. -/
def variantList (names : List String) : String :=
  ", ".intercalate (names.map (fun n => "`" ++ n ++ "`"))

/-- The message for a variant name that is not one of `names`. -/
def unknownVariant (given : String) (names : List String) : String :=
  "unknown variant `" ++ given ++ "`, expected one of " ++ variantList names

/-- The largest value of an unsigned field of the given name. -/
def unsignedBound : String → Nat
  | "u32" => Nat.pow 2 32
  | _ => Nat.pow 2 64

namespace ConfigJson

/-- An unsigned field of type `ty` (`u32`, `u64` or `usize`). -/
def unsigned (ty : String) : Value → Except String Nat
  | .num (.int i) =>
    if 0 ≤ i ∧ i < unsignedBound ty then .ok i.toNat
    else .error ("invalid value: integer `" ++ toString i ++ "`, expected " ++ ty)
  | v => .error (invalidType (unexpectedText v) ty)

/-- A text field. -/
def text (expected : String) : Value → Except String String
  | .str s => .ok s
  | v => .error (invalidType (unexpectedText v) expected)

/-- A unit variant named by a text, or by a map with that single key and a null value. -/
def variant {α : Type} (table : List (String × α)) : Value → Except String α
  | .str s =>
    match table.lookup s with
    | some a => .ok a
    | none => .error (unknownVariant s (table.map Prod.fst))
  | .obj [(s, v)] =>
    match table.lookup s with
    | some a => match v with
      | .null => .ok a
      | other => .error (invalidType (unexpectedText other) "unit variant")
    | none => .error (unknownVariant s (table.map Prod.fst))
  | .obj _ => .error "invalid value: map, expected map with a single key"
  | v => .error (invalidType (unexpectedText v) "string or map")

/-- Apply one member to a configuration; unknown members are ignored. -/
def member (c : Config) : String × Value → Except String Config
  | ("data_dir", v) => do return { c with dataDir := ← text "path string" v }
  | ("name", v) => do return { c with name := ← text "a string" v }
  | ("open_attempts", v) => do return { c with openAttempts := ← unsigned "u32" v }
  | ("open_backoff_ms", v) => do return { c with openBackoffMs := ← unsigned "u64" v }
  | ("crash_retries", v) => do return { c with crashRetries := ← unsigned "u32" v }
  | ("journal_mode", v) => do return { c with journalMode := ← variant JournalMode.all v }
  | ("synchronous", v) => do return { c with synchronous := ← variant Synchronous.all v }
  | ("listener_buffer", v) => do return { c with listenerBuffer := ← unsigned "usize" v }
  | _ => .ok c

/-- The member names in declaration order, for the positional form. -/
def fieldNames : List String :=
  ["data_dir", "name", "open_attempts", "open_backoff_ms", "crash_retries", "journal_mode",
   "synchronous", "listener_buffer"]

end ConfigJson

/-- A configuration from JSON data: an object of members, or an array giving the members in
declaration order. -/
def Config.ofJson : Value → Except String Config
  | .obj fields => fields.foldlM ConfigJson.member {}
  | .arr items =>
    if items.length > ConfigJson.fieldNames.length then
      .error ("invalid length " ++ toString items.length ++ ", expected fewer elements in array")
    else (ConfigJson.fieldNames.zip items).foldlM ConfigJson.member {}
  | v => .error (invalidType (unexpectedText v) "struct Config")

end DocStore
