import DocStore.Sql.Schema
import DocStore.Sql.Json
/-!
# The function catalog

The functions the engine knows, by name and number of arguments, as the engine looks them up
when it prepares a statement. A name may have several entries: one per count of arguments it
takes, or one for any count from at least one. An entry for the exact count wins over one for a
range, which is how `min(x)` is the aggregate and `min(x, y)` the plain function.

* `lookupFunction` tells what a call reaches: a function of some kind, a known name called with
  a count it does not take (`wrong number of arguments`), or an unknown name (`no such
  function`).
* Aggregates fold the rows of a group; window functions (`row_number`, `rank`, `lag`, ...) are
  aggregates usable only with `OVER`.
* `builtinTable` gives the tables that exist without being created: `json_each`, `json_tree`,
  `dbstat` and the pragmas that answer with rows (`pragma_table_info`, ...). Each has the
  columns `*` shows and hidden ones that only a name or an argument reaches.
-/

namespace DocStore

namespace Sql

/-- How a function may be called: plainly, as an aggregate over the rows of a group (which also
serves as a window function), or only as a window function. -/
inductive FunctionKind where
  | scalar
  | aggregate
  | window
deriving DecidableEq, Repr, Inhabited

/-- The counts of arguments an entry takes: exactly some, or any from at least one up. -/
inductive Arity where
  | exactly (n : Nat)
  | atLeast (n : Nat)
deriving DecidableEq, Repr, Inhabited

/-- An entry of the catalog: an upper-case name, the counts it takes and its kind. -/
structure FunctionEntry where
  name : String
  arity : Arity
  kind : FunctionKind := .scalar
deriving Repr, Inhabited

/-- Entries of one name and kind, one for each exact count. -/
def entriesOf (kind : FunctionKind) (name : String) (counts : List Nat) : List FunctionEntry :=
  counts.map (fun n => { name, arity := .exactly n, kind })

/-- Entries of a name taking any count from at least one up. -/
def variadic (name : String) (least : Nat) : FunctionEntry := { name, arity := .atLeast least }

/-- The functions of the engine. -/
def functionCatalog : List FunctionEntry :=
  let s := entriesOf .scalar
  let agg := entriesOf .aggregate
  let win := entriesOf .window
  -- Text and numbers.
  s "SOUNDEX" [1] ++ s "LOAD_EXTENSION" [1, 2] ++ s "SQLITE_COMPILEOPTION_USED" [1] ++
  s "SQLITE_COMPILEOPTION_GET" [1] ++ s "UNLIKELY" [1] ++ s "LIKELIHOOD" [2] ++ s "LIKELY" [1] ++
  s "LTRIM" [1, 2] ++ s "RTRIM" [1, 2] ++ s "TRIM" [1, 2] ++
  [variadic "MIN" 1] ++ agg "MIN" [1] ++ [variadic "MAX" 1] ++ agg "MAX" [1] ++
  s "TYPEOF" [1] ++ s "SUBTYPE" [1] ++ s "LENGTH" [1] ++ s "OCTET_LENGTH" [1] ++ s "INSTR" [2] ++
  [variadic "PRINTF" 0, variadic "FORMAT" 0] ++ s "UNICODE" [1] ++ [variadic "CHAR" 0] ++ s "ABS" [1] ++
  s "ROUND" [1, 2] ++ s "UPPER" [1] ++ s "LOWER" [1] ++ s "HEX" [1] ++ s "UNHEX" [1, 2] ++
  [variadic "CONCAT" 1, variadic "CONCAT_WS" 2] ++ s "IFNULL" [2] ++ s "RANDOM" [0] ++
  s "RANDOMBLOB" [1] ++ s "NULLIF" [2] ++ s "SQLITE_VERSION" [0] ++ s "SQLITE_SOURCE_ID" [0] ++
  s "SQLITE_LOG" [2] ++ s "QUOTE" [1] ++ s "LAST_INSERT_ROWID" [0] ++ s "CHANGES" [0] ++
  s "TOTAL_CHANGES" [0] ++ s "REPLACE" [3] ++ s "ZEROBLOB" [1] ++ s "SUBSTR" [2, 3] ++
  s "SUBSTRING" [2, 3] ++ s "GLOB" [2] ++ s "LIKE" [2, 3] ++ s "SIGN" [1] ++
  [variadic "COALESCE" 2] ++ s "IIF" [3] ++
  -- Aggregates.
  agg "SUM" [1] ++ agg "TOTAL" [1] ++ agg "AVG" [1] ++ agg "COUNT" [0, 1] ++
  agg "GROUP_CONCAT" [1, 2] ++ agg "STRING_AGG" [2] ++
  -- Dates and times.
  [variadic "JULIANDAY" 0, variadic "UNIXEPOCH" 0, variadic "DATE" 0, variadic "TIME" 0,
    variadic "DATETIME" 0, variadic "STRFTIME" 0] ++ s "TIMEDIFF" [2] ++ s "CURRENT_TIME" [0] ++
  s "CURRENT_TIMESTAMP" [0] ++ s "CURRENT_DATE" [0] ++
  -- Window functions.
  win "ROW_NUMBER" [0] ++ win "DENSE_RANK" [0] ++ win "RANK" [0] ++ win "PERCENT_RANK" [0] ++
  win "CUME_DIST" [0] ++ win "NTILE" [1] ++ win "FIRST_VALUE" [1] ++ win "LAST_VALUE" [1] ++
  win "NTH_VALUE" [2] ++ win "LEAD" [1, 2, 3] ++ win "LAG" [1, 2, 3] ++
  -- JSON.
  s "JSON" [1] ++ s "JSONB" [1] ++ [variadic "JSON_ARRAY" 0, variadic "JSONB_ARRAY" 0] ++
  s "JSON_ARRAY_LENGTH" [1, 2] ++ s "JSON_ERROR_POSITION" [1] ++
  [variadic "JSON_EXTRACT" 0, variadic "JSONB_EXTRACT" 0] ++ s "->" [2] ++ s "->>" [2] ++
  [variadic "JSON_INSERT" 0, variadic "JSONB_INSERT" 0, variadic "JSON_OBJECT" 0, variadic "JSONB_OBJECT" 0] ++
  s "JSON_PATCH" [2] ++ s "JSONB_PATCH" [2] ++ s "JSON_QUOTE" [1] ++
  [variadic "JSON_REMOVE" 0, variadic "JSONB_REMOVE" 0, variadic "JSON_REPLACE" 0, variadic "JSONB_REPLACE" 0,
    variadic "JSON_SET" 0, variadic "JSONB_SET" 0] ++
  s "JSON_TYPE" [1, 2] ++ s "JSON_VALID" [1, 2] ++
  agg "JSON_GROUP_ARRAY" [1] ++ agg "JSONB_GROUP_ARRAY" [1] ++ agg "JSON_GROUP_OBJECT" [2] ++
  agg "JSONB_GROUP_OBJECT" [2] ++
  -- Full-text search and R-trees.
  s "MATCH" [2] ++ [variadic "SNIPPET" 0] ++ s "OFFSETS" [1] ++ s "MATCHINFO" [1, 2] ++
  s "OPTIMIZE" [1] ++ s "FTS3_TOKENIZER" [1, 2] ++ s "FTS5" [1] ++ s "FTS5_SOURCE_ID" [0] ++
  s "RTREENODE" [2] ++ s "RTREEDEPTH" [1] ++ [variadic "RTREECHECK" 0]

/-- Whether an entry takes a count of arguments, and how well: 2 for its exact count, 1 for a
range that holds it, 0 for no match. -/
def FunctionEntry.fit (e : FunctionEntry) (n : Nat) : Nat :=
  match e.arity with
  | .exactly k => if k = n then 2 else 0
  | .atLeast k => if k ≤ n then 1 else 0

/-- What a call of a name with a number of arguments reaches. -/
inductive CallTarget where
  | found (kind : FunctionKind)
  /-- The name is known, but not with this count of arguments. -/
  | wrongCount
  | unknown
deriving DecidableEq, Repr, Inhabited

/-- Look a call up in the catalog by its name (in any case) and its count of arguments; the
entry that fits best wins, the earliest among equals. -/
def lookupFunction (name : String) (n : Nat) : CallTarget :=
  let u := upperAscii name
  let named := functionCatalog.filter (·.name == u)
  if named.isEmpty then .unknown
  else
    match (named.filter (·.fit n == 2)).head? |>.orElse (fun _ => (named.filter (·.fit n == 1)).head?) with
    | some e => .found e.kind
    | none => .wrongCount

/-! ## Tables that need no definition -/

/-- The pragmas that read as tables under `pragma_<name>`: their columns, and whether they take
an argument (the hidden column `arg`) and a schema name (the hidden column `schema`). -/
def pragmaTables : List (String × List String × Bool × Bool) :=
  [("analysis_limit", ["analysis_limit"], false, false),
   ("application_id", ["application_id"], false, false),
   ("auto_vacuum", ["auto_vacuum"], false, true),
   ("automatic_index", ["automatic_index"], false, false),
   ("busy_timeout", ["timeout"], false, false),
   ("cache_size", ["cache_size"], false, true),
   ("cache_spill", ["cache_spill"], false, true),
   ("cell_size_check", ["cell_size_check"], false, false),
   ("checkpoint_fullfsync", ["checkpoint_fullfsync"], false, false),
   ("collation_list", ["seq", "name"], false, false),
   ("compile_options", ["compile_options"], false, false),
   ("count_changes", ["count_changes"], false, false),
   ("data_version", ["data_version"], false, false),
   ("database_list", ["seq", "name", "file"], false, false),
   ("default_cache_size", ["cache_size"], false, true),
   ("defer_foreign_keys", ["defer_foreign_keys"], false, false),
   ("empty_result_callbacks", ["empty_result_callbacks"], false, false),
   ("encoding", ["encoding"], false, false),
   ("foreign_key_check", ["table", "rowid", "parent", "fkid"], true, true),
   ("foreign_key_list", ["id", "seq", "table", "from", "to", "on_update", "on_delete", "match"], true, true),
   ("foreign_keys", ["foreign_keys"], false, false),
   ("freelist_count", ["freelist_count"], false, false),
   ("full_column_names", ["full_column_names"], false, false),
   ("fullfsync", ["fullfsync"], false, false),
   ("function_list", ["name", "builtin", "type", "enc", "narg", "flags"], false, false),
   ("hard_heap_limit", ["hard_heap_limit"], false, false),
   ("ignore_check_constraints", ["ignore_check_constraints"], false, false),
   ("index_info", ["seqno", "cid", "name"], true, true),
   ("index_list", ["seq", "name", "unique", "origin", "partial"], true, true),
   ("index_xinfo", ["seqno", "cid", "name", "desc", "coll", "key"], true, true),
   ("integrity_check", ["integrity_check"], true, true),
   ("journal_mode", ["journal_mode"], false, true),
   ("journal_size_limit", ["journal_size_limit"], false, true),
   ("legacy_alter_table", ["legacy_alter_table"], false, false),
   ("locking_mode", ["locking_mode"], false, true),
   ("max_page_count", ["max_page_count"], false, true),
   ("module_list", ["name"], false, false),
   ("optimize", ["optimize"], true, true),
   ("page_count", ["page_count"], false, true),
   ("page_size", ["page_size"], false, true),
   ("pragma_list", ["name"], false, false),
   ("query_only", ["query_only"], false, false),
   ("quick_check", ["quick_check"], true, true),
   ("read_uncommitted", ["read_uncommitted"], false, false),
   ("recursive_triggers", ["recursive_triggers"], false, false),
   ("reverse_unordered_selects", ["reverse_unordered_selects"], false, false),
   ("schema_version", ["schema_version"], false, false),
   ("secure_delete", ["secure_delete"], false, false),
   ("short_column_names", ["short_column_names"], false, false),
   ("soft_heap_limit", ["soft_heap_limit"], false, false),
   ("synchronous", ["synchronous"], false, true),
   ("table_info", ["cid", "name", "type", "notnull", "dflt_value", "pk"], true, true),
   ("table_list", ["schema", "name", "type", "ncol", "wr", "strict"], true, false),
   ("table_xinfo", ["cid", "name", "type", "notnull", "dflt_value", "pk", "hidden"], true, true),
   ("temp_store", ["temp_store"], false, false),
   ("threads", ["threads"], false, false),
   ("trusted_schema", ["trusted_schema"], false, false),
   ("user_version", ["user_version"], false, false),
   ("writable_schema", ["writable_schema"], false, false)]

/-- A table that exists without a definition, by name (in any case): the columns `*` shows and
the hidden ones. -/
def builtinTable (name : String) : Option (List String × List String) :=
  let n := lowerAscii name
  if n = "json_each" ∨ n = "json_tree" then
    some (SqlJson.eachColumns.take 8, SqlJson.eachColumns.drop 8)
  else if n = "dbstat" then
    some (["name", "path", "pageno", "pagetype", "ncell", "payload", "unused", "mx_payload",
      "pgoffset", "pgsize"], ["schema", "aggregate"])
  else if n.startsWith "pragma_" then
    (pragmaTables.find? (fun p => p.1 == (n.drop 7).toString)).map (fun (_, cols, arg, schema) =>
      (cols, (if arg then ["arg"] else []) ++ (if schema then ["schema"] else [])))
  else none

end Sql

end DocStore
