import DocStore.Sql.Catalog
import DocStore.Sql.Content
/-!
# Pragmas read as tables

A query may read a pragma as a table, `pragma_<name>`, with the pragma's argument and schema
name as the arguments of the call (the hidden columns `arg` and `schema`). `pragmaRows` gives
the rows such a table holds, over the content of a database and what the header of its file
says:

* `table_info` and `table_xinfo` list the columns of a table: position, name, declared type,
  `NOT NULL`, the text of the default, and the place in the primary key (`table_xinfo` also
  lists generated columns, marked 2 when virtual and 3 when stored);
* `index_list` lists the indexes of a table, newest first, with whether each is unique, what
  made it (`c` a statement, `u` a `UNIQUE` constraint, `pk` the primary key) and whether it is
  partial; `index_info` and `index_xinfo` list the terms of an index (-1 for the rowid, -2 for
  an expression), `index_xinfo` with the rowid that ends every key;
* the header gives `page_size`, `page_count`, `freelist_count`, `schema_version`,
  `user_version`, `application_id` and `encoding`;
* `table_list` lists the tables and views of the main schema, the newest first (the order of the
  engine's table of names while it holds fewer than ten), each with its number of columns, then
  the schema tables of `main` and `temp`; `database_list` lists the main database and its file;
* the engine's build gives `compile_options`, `collation_list`, `function_list` and
  `pragma_list`;
* the connection's journal mode and synchronous level read as the store set them, the settings
  it never changes as their values, and the integrity checks find nothing wrong.

A pragma that needs an argument lists nothing without one, as does one about a table that does
not exist.
-/

namespace DocStore

namespace Sql

/-- The name of a collation, as pragmas list it. -/
def collationLabel : Collation → String
  | .binary => "BINARY"
  | .nocase => "NOCASE"
  | .rtrim => "RTRIM"

/-- The columns of the schema table, as `table_info` lists them. -/
def schemaTableInfo : List (String × String) :=
  [("type", "TEXT"), ("name", "TEXT"), ("tbl_name", "TEXT"), ("rootpage", "INT"), ("sql", "TEXT")]

/-- The place of a column in the primary key of its table, from 1; 0 when it is not in it. -/
def pkPlace (s : Schema) (t : Table) (i : Nat) : Nat :=
  if t.rowidAlias == some i then 1
  else
    let parts : List KeyPart :=
      if t.withoutRowid then t.keyParts
      else ((s.indexesOf t.name).find? (·.primaryKey)).map (·.parts) |>.getD []
    match parts.findIdx? (fun p => match p.column with
      | .column j => j == i
      | _ => false) with
    | some k => k + 1
    | none => 0

/-- The rows of `table_info` (or, `extended`, `table_xinfo`) for a table. -/
def tableInfoRows (s : Schema) (t : Table) (extended : Bool) : List (List SqlValue) :=
  let step (acc : List (List SqlValue) × Nat) (ci : Column × Nat) : List (List SqlValue) × Nat :=
    let (rows, hidden) := acc
    let (c, i) := ci
    if c.generated.isSome ∧ !extended then (rows, hidden + 1)
    else
      let marker : Int := if c.generated.isNone then 0 else if c.virtual then 2 else 3
      let dflt : SqlValue := if c.generated.isSome then .null
        else (c.defaultText.map SqlValue.ofString).getD .null
      let row : List SqlValue :=
        [.integer (i - hidden : Nat), .ofString c.name, .ofString c.typeName,
          .integer (if c.notNull then 1 else 0), dflt, .integer (pkPlace s t i)] ++
        (if extended then [.integer marker] else [])
      (rows ++ [row], hidden)
  (t.columns.zipIdx.foldl step ([], 0)).1

/-- What made an index, as `index_list` says it. -/
def Index.origin (i : Index) : String :=
  if i.primaryKey then "pk" else if i.automatic then "u" else "c"

/-- The rows of `index_info` (or, `extended`, `index_xinfo`) for an index of a table. -/
def indexInfoRows (t : Table) (i : Index) (extended : Bool) : List (List SqlValue) :=
  let term (p : KeyPart) : SqlValue × SqlValue := match p.column with
    | .column j => (.integer j, ((t.column? j).map (fun c => SqlValue.ofString c.name)).getD .null)
    | .rowid => (.integer (-1), .null)
    | .expr _ => (.integer (-2), .null)
  let keys := i.parts.zipIdx.map (fun (p, k) =>
    let (cid, name) := term p
    [.integer k, cid, name] ++
      (if extended then [.integer (if p.desc then 1 else 0), .ofString (collationLabel p.collation), .integer 1]
       else []))
  let extra : List KeyPart :=
    if t.withoutRowid then
      t.keyParts.filter (fun kp => !i.parts.any (fun p => match p.column, kp.column with
        | .column a, .column b => a == b
        | _, _ => false))
    else [⟨.rowid, .binary, false⟩]
  let aux := extra.zipIdx.map (fun (p, k) =>
    let (cid, name) := term p
    [.integer (i.parts.length + k), cid, name, .integer (if p.desc then 1 else 0),
      .ofString (collationLabel p.collation), .integer 0])
  if extended then keys ++ aux else keys

/-- The rows of `function_list`: each entry of the catalog with its name, whether it is built
in, its kind, its encoding and its count of arguments (-1 for any). -/
def functionListRows : List (List SqlValue) :=
  functionCatalog.map (fun e =>
    let kind := match e.kind with
      | .scalar => "s"
      | .aggregate => "a"
      | .window => "w"
    let narg : Int := match e.arity with
      | .exactly n => n
      | .atLeast _ => -1
    [.ofString (lowerAscii e.name), .integer 1, .ofString kind, .ofString "utf8", .integer narg,
      .integer 0])

/-- The pragmas of the engine's build, in order of name. -/
def pragmaNames : List String :=
  ["analysis_limit", "application_id", "auto_vacuum", "automatic_index", "busy_timeout",
   "cache_size", "cache_spill", "case_sensitive_like", "cell_size_check", "checkpoint_fullfsync",
   "collation_list", "compile_options", "count_changes", "data_version", "database_list",
   "default_cache_size", "defer_foreign_keys", "empty_result_callbacks", "encoding",
   "foreign_key_check", "foreign_key_list", "foreign_keys", "freelist_count",
   "full_column_names", "fullfsync", "function_list", "hard_heap_limit",
   "ignore_check_constraints", "incremental_vacuum", "index_info", "index_list", "index_xinfo",
   "integrity_check", "journal_mode", "journal_size_limit", "legacy_alter_table", "locking_mode",
   "max_page_count", "mmap_size", "module_list", "optimize", "page_count", "page_size",
   "pragma_list", "query_only", "quick_check", "read_uncommitted", "recursive_triggers",
   "reverse_unordered_selects", "schema_version", "secure_delete", "short_column_names",
   "shrink_memory", "soft_heap_limit", "synchronous", "table_info", "table_list", "table_xinfo",
   "temp_store", "temp_store_directory", "threads", "trusted_schema", "user_version",
   "wal_autocheckpoint", "wal_checkpoint", "writable_schema"]

/-- The number of columns of a query that its text states: the values of the first row of a
`VALUES` list, or the result columns of the first core when none of them is `*` or `t.*`. -/
def Select.statedWidth (q : Select) : Option Nat :=
  let core := q.first
  if !core.values.isEmpty then some (core.values.headD []).length
  else if core.columns.any (fun c => match c with
      | .expr _ _ => false
      | _ => true) then none
  else some core.columns.length

/-- The rows of `table_list`, those of the table named `only` when it is given (the schema
tables by their names `sqlite_master` and `sqlite_temp_master`). The tables and views come in
the reverse of the order the schema table lists them, with their numbers of columns (`widths`
for views) and whether they are without rowids or strict. -/
def tableListRows (t : Tables) (widths : List (String × Nat)) (only : Option String) :
    List (List SqlValue) :=
  let s := t.schema
  let named (v : SqlValue) : String := Text.decodeLossy ((textBytes v).getD [])
  let listed : List String := (t.rowsOf "sqlite_master").filterMap (fun (_, vals) =>
    match vals with
    | ty :: nm :: _ => if named ty == "table" ∨ named ty == "view" then some (named nm) else none
    | _ => none)
  let flag (b : Bool) : SqlValue := .integer (if b then 1 else 0)
  let entry (n : String) : Option (List SqlValue) :=
    match s.table? n with
    | some tbl =>
      let ty := if s.virtuals.any (sameName tbl.name) then "virtual" else "table"
      some [.ofString "main", .ofString tbl.name, .ofString ty, .integer tbl.columns.length,
        flag tbl.withoutRowid, flag tbl.strict]
    | none =>
      (s.view? n).map (fun v =>
        [.ofString "main", .ofString v.name, .ofString "view",
          .integer (((widths.find? (fun w => sameName w.1 v.name)).map (·.2)).getD 0), flag false, flag false])
  let keep (n : String) : Bool := match only with
    | some m => sameName m n
    | none => true
  let schemaRow (db inner shown : String) : List (List SqlValue) :=
    if keep inner then [[.ofString db, .ofString shown, .ofString "table", .integer 5, flag false, flag false]]
    else []
  (listed.reverse.filter keep).filterMap entry ++ schemaRow "main" "sqlite_master" "sqlite_schema" ++
    schemaRow "temp" "sqlite_temp_master" "sqlite_temp_schema"

/-- The settings of a connection that read as one number and that the store never changes. -/
def settingValues : List (String × Int) :=
  [("analysis_limit", 0), ("automatic_index", 1), ("busy_timeout", 5000), ("cache_size", -2000),
   ("cell_size_check", 0), ("checkpoint_fullfsync", 0), ("count_changes", 0),
   ("defer_foreign_keys", 0), ("empty_result_callbacks", 0), ("foreign_keys", 1),
   ("full_column_names", 0), ("fullfsync", 0), ("hard_heap_limit", 0),
   ("ignore_check_constraints", 0), ("journal_size_limit", -1), ("legacy_alter_table", 0),
   ("max_page_count", 4294967294), ("query_only", 0), ("read_uncommitted", 0),
   ("recursive_triggers", 1), ("reverse_unordered_selects", 0), ("secure_delete", 0),
   ("short_column_names", 1), ("soft_heap_limit", 0), ("temp_store", 0), ("threads", 0),
   ("trusted_schema", 1), ("writable_schema", 0)]

/-- The rows of a pragma read as a table, by its name without `pragma_`, with its argument and
schema name when given; a schema other than `main` or `temp` is an error. `widths` are the numbers
of columns of the views. -/
def pragmaRows (t : Tables) (widths : List (String × Nat)) (name : String) (arg schema : Option SqlValue) :
    Except String (List (List SqlValue)) := do
  let schemaName : Option String := match schema with
    | some .null | none => none
    | some v => some (Text.decodeLossy ((textBytes v).getD []))
  let temp ← match schemaName with
    | none => pure false
    | some n =>
      if lowerAscii n == "main" then pure false
      else if lowerAscii n == "temp" then pure true
      else throw ("unknown database '" ++ n ++ "'")
  let argText : Option String := match arg with
    | some .null | none => none
    | some v => some (Text.decodeLossy ((textBytes v).getD []))
  let s := t.schema
  let f := t.file
  let one (v : SqlValue) : List (List SqlValue) := [[v]]
  match name with
  | "table_info" | "table_xinfo" =>
    match argText with
    | none => return []
    | some n =>
      if temp then return []
      if sameName n "sqlite_master" ∨ sameName n "sqlite_schema" then
        return schemaTableInfo.zipIdx.map (fun ((c, ty), k) =>
          [.integer k, .ofString c, .ofString ty, .integer 0, .null, .integer 0] ++
            (if name == "table_xinfo" then [.integer 0] else []))
      match s.table? n with
      | some tbl => return tableInfoRows s tbl (name == "table_xinfo")
      | none => return []
  | "index_list" =>
    match argText.bind s.table? with
    | some tbl =>
      if temp then return []
      return (s.indexesOf tbl.name).zipIdx.map (fun (i, k) =>
        [.integer k, .ofString i.name, .integer (if i.unique then 1 else 0), .ofString i.origin,
          .integer (if i.condition.isSome then 1 else 0)])
    | none => return []
  | "index_info" | "index_xinfo" =>
    match argText.bind s.index? with
    | some i =>
      if temp then return []
      match s.table? i.table with
      | some tbl => return indexInfoRows tbl i (name == "index_xinfo")
      | none => return []
    | none => return []
  | "page_size" => return one (.integer f.pageSize)
  | "page_count" => return one (.integer f.pageCount)
  | "freelist_count" => return one (.integer f.freePages)
  | "schema_version" => return one (.integer f.schemaVersion)
  | "user_version" => return one (.integer f.userVersion)
  | "application_id" => return one (.integer f.applicationId)
  | "encoding" =>
    return one (.ofString (match f.encoding with
      | 2 => "UTF-16le"
      | 3 => "UTF-16be"
      | _ => "UTF-8"))
  | "journal_mode" => return one (.ofString (if temp then "delete" else t.connection.journalMode))
  | "synchronous" => return one (.integer (if temp then 2 else t.connection.synchronous))
  | "auto_vacuum" => return one (.integer (if temp then 0 else f.autoVacuum))
  | "data_version" => return one (.integer 1)
  | "database_list" => return [[.integer 0, .ofString "main", .ofString t.connection.path]]
  | "table_list" => return tableListRows t widths argText
  | "pragma_list" => return pragmaNames.map (fun n => [.ofString n])
  | "compile_options" => return buildOptions.map (fun o => [.ofString o])
  | "collation_list" => return [[.integer 0, .ofString "RTRIM"], [.integer 1, .ofString "NOCASE"],
      [.integer 2, .ofString "BINARY"]]
  | "function_list" => return functionListRows
  | "integrity_check" | "quick_check" => return one (.ofString "ok")
  | "locking_mode" => return one (.ofString "normal")
  | _ =>
    match settingValues.find? (·.1 == name) with
    | some (_, v) => return one (.integer v)
    | none => return []

end Sql

end DocStore
