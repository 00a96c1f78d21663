import DocStore.Field
import DocStore.Sql.Value
/-!
# Statements of the store

The store speaks to its engine in a small, fixed set of SQL statements over two tables,
`documents (collection_id, doc_id, data)` and `files (path, data, contentType, size, updatedAt)`.
`Statement` is that set as a syntax tree and `Statement.text` is its SQL text. Every statement
takes its parameters positionally: each `?` of the text consumes the next binding, and
`Statement.arity` counts them.

Document queries are built from `Filter`s: the source of the query (one collection, or every
collection of a group) and one filter per `where` constraint, joined by `AND`. Results are
sorted by the given keys and then by `collection_id` and `doc_id`, all in one direction for
the tie break.

A statement's text is laid out as `Piece`s, so that the names it reads as columns are known
with their byte offsets: the engine points at the first of them that the table lacks
(`Statement.reads`), and the store's statements are written so that the engine resolves
their columns in the order they appear in the text.
-/

namespace DocStore

/-- A sort direction. -/
inductive Direction where
  | asc
  | desc
deriving DecidableEq, Repr, Inhabited

namespace Direction

/-- The other direction. -/
def flipped : Direction → Direction
  | .asc => .desc
  | .desc => .asc

/-- `ASC` or `DESC`. -/
def sqlText : Direction → String
  | .asc => "ASC"
  | .desc => "DESC"

end Direction

/-- A comparison operator of SQL. -/
inductive Comparison where
  | eq
  | ne
  | lt
  | le
  | gt
  | ge
deriving DecidableEq, Repr

/-- The SQL spelling of a comparison. -/
def Comparison.sqlText : Comparison → String
  | .eq => "="
  | .ne => "!="
  | .lt => "<"
  | .le => "<="
  | .gt => ">"
  | .ge => ">="

/-- A piece of a statement's text: plain text, or a name the engine resolves as a column. -/
inductive Piece where
  | plain (s : String)
  | column (name : String)
deriving DecidableEq, Repr

namespace Piece

/-- The text of a piece. -/
def text : Piece → String
  | .plain s => s
  | .column n => n

/-- The text of pieces laid end to end. -/
def join (ps : List Piece) : String := String.join (ps.map text)

/-- Groups of pieces with a separator between each two. -/
def sepBy (sep : String) : List (List Piece) → List Piece
  | [] => []
  | [g] => g
  | g :: rest => g ++ [.plain sep] ++ sepBy sep rest

/-- The names pieces read as columns, each with the byte offset of the name when the pieces
are laid end to end from byte `start`. -/
def readsFrom : Nat → List Piece → List (String × Nat)
  | _, [] => []
  | start, .plain s :: rest => readsFrom (start + s.utf8ByteSize) rest
  | start, .column n :: rest => (n, start) :: readsFrom (start + n.utf8ByteSize) rest

end Piece

/-- The engine expression that extracts a field from a document's data, in pieces. -/
def FieldPath.pieces (p : FieldPath) : List Piece :=
  [.plain "json_extract(", .column "data", .plain (", " ++ sqlLiteral p.jsonPath ++ ")")]

/-- One condition of a document query. -/
inductive Filter where
  /-- `collection_id = ?`: the collection's path. -/
  | collectionIs
  /-- `(collection_id = ? OR substr(collection_id, -?) = ?)`: the group id, the length of
  `/` and the id, and `/` followed by the id. -/
  | inGroup
  /-- The field is absent or null. -/
  | fieldIsNull (path : FieldPath)
  /-- The field is present and not null. -/
  | fieldIsNotNull (path : FieldPath)
  /-- The field compares with one binding. -/
  | fieldCompare (path : FieldPath) (op : Comparison)
  /-- The field is an array with an element equal to one binding. -/
  | fieldArrayContains (path : FieldPath)
  /-- The field equals one of `count` bindings. -/
  | fieldIn (path : FieldPath) (count : Nat)
deriving DecidableEq, Repr

namespace Filter

/-- The number of bindings a filter takes. -/
def arity : Filter → Nat
  | .collectionIs => 1
  | .inGroup => 3
  | .fieldIsNull _ => 0
  | .fieldIsNotNull _ => 0
  | .fieldCompare _ _ => 1
  | .fieldArrayContains _ => 1
  | .fieldIn _ n => n

/-- The SQL text of a filter, in pieces. -/
def pieces : Filter → List Piece
  | .collectionIs => [.column "collection_id", .plain " = ?"]
  | .inGroup =>
    [.plain "(", .column "collection_id", .plain " = ? OR substr(", .column "collection_id",
      .plain ", -?) = ?)"]
  | .fieldIsNull p => p.pieces ++ [.plain " IS NULL"]
  | .fieldIsNotNull p => p.pieces ++ [.plain " IS NOT NULL"]
  | .fieldCompare p op => p.pieces ++ [.plain (" " ++ op.sqlText ++ " ?")]
  | .fieldArrayContains p =>
    let lit := sqlLiteral p.jsonPath
    [.plain "(json_type(", .column "data",
      .plain (", " ++ lit ++ ") = 'array' AND EXISTS (SELECT 1 FROM json_each("), .column "data",
      .plain (", " ++ lit ++ ") WHERE json_each.value = ?))")]
  | .fieldIn p n =>
    p.pieces ++ [.plain (" IN (" ++ ", ".intercalate (List.replicate n "?") ++ ")")]

/-- The SQL text of a filter. -/
def text (f : Filter) : String := Piece.join f.pieces

end Filter

/-- A sort key of a document query. -/
structure SortKey where
  path : FieldPath
  direction : Direction
deriving DecidableEq, Repr

/-- How the engine keeps its journal. -/
inductive JournalMode where
  | delete
  | truncate
  | persist
  | memory
  | wal
  | off
deriving DecidableEq, Repr, Inhabited

/-- How often the engine waits for the disk. -/
inductive Synchronous where
  | off
  | normal
  | full
  | extra
deriving DecidableEq, Repr, Inhabited

/-- The SQL name of a journal mode. -/
def JournalMode.sqlText : JournalMode → String
  | .delete => "DELETE"
  | .truncate => "TRUNCATE"
  | .persist => "PERSIST"
  | .memory => "MEMORY"
  | .wal => "WAL"
  | .off => "OFF"

/-- The SQL name of a synchronous setting. -/
def Synchronous.sqlText : Synchronous → String
  | .off => "OFF"
  | .normal => "NORMAL"
  | .full => "FULL"
  | .extra => "EXTRA"

/-- The number a pragma reports for a synchronous setting. -/
def Synchronous.level : Synchronous → Nat
  | .off => 0
  | .normal => 1
  | .full => 2
  | .extra => 3

/-- The statements the store issues. -/
inductive Statement where
  /-- Matching documents, sorted, with an optional `LIMIT ?`. -/
  | selectDocuments (filters : List Filter) (keys : List SortKey) (tiebreak : Direction)
      (limited : Bool)
  /-- The number of matching documents, as column `count`. -/
  | countDocuments (filters : List Filter)
  /-- The data of one document, by collection and id. -/
  | selectData
  /-- Insert a document or replace the data of an existing one. -/
  | upsertDocument
  /-- Insert a document; an existing key is a constraint failure. -/
  | insertDocument
  /-- Merge a patch into the data of one document. -/
  | mergeDocument
  /-- Delete one document. -/
  | deleteDocument
  /-- Delete every document. -/
  | deleteAllDocuments
  /-- Every document, by collection and id. -/
  | exportDocuments
  /-- A partial index on one field of one collection. -/
  | createIndex (name : String) (path : FieldPath) (collectionId : String)
  /-- Insert or replace a stored file. -/
  | upsertFile
  /-- One stored file. -/
  | selectFile
  /-- Delete one stored file. -/
  | deleteFile
  | beginTransaction
  | commit
  | rollback
  /-- The journal and synchronous settings of a fresh handle. -/
  | configure (journal : JournalMode) (sync : Synchronous)
  /-- Create both tables when missing. -/
  | createSchema
  /-- The engine's quick integrity check. -/
  | quickCheck
deriving DecidableEq, Repr

/-- The table definitions, as issued. -/
def schemaText : String :=
  "\n    CREATE TABLE IF NOT EXISTS documents (\n        collection_id TEXT NOT NULL,\n" ++
  "        doc_id TEXT NOT NULL,\n        data TEXT NOT NULL,\n" ++
  "        PRIMARY KEY (collection_id, doc_id)\n    );\n\n" ++
  "    CREATE TABLE IF NOT EXISTS files (\n        path TEXT PRIMARY KEY,\n        data BLOB,\n" ++
  "        contentType TEXT,\n        size INTEGER,\n        updatedAt TEXT\n    );\n"

namespace Statement

/-- The number of bindings a statement takes. -/
def arity : Statement → Nat
  | .selectDocuments fs _ _ limited =>
    (fs.map Filter.arity).foldr (· + ·) 0 + (if limited then 1 else 0)
  | .countDocuments fs => (fs.map Filter.arity).foldr (· + ·) 0
  | .selectData => 2
  | .upsertDocument => 3
  | .insertDocument => 3
  | .mergeDocument => 3
  | .deleteDocument => 2
  | .upsertFile => 5
  | .selectFile => 1
  | .deleteFile => 1
  | _ => 0

/-- The columns of a document row, as a result list. -/
def documentList : List Piece :=
  [.column "collection_id", .plain ", ", .column "doc_id", .plain ", ", .column "data"]

/-- The SQL text of a statement, in pieces. -/
def pieces : Statement → List Piece
  | .selectDocuments fs keys tiebreak limited =>
    let sortKeys := keys.map (fun k => k.path.pieces ++ [.plain (" " ++ k.direction.sqlText)]) ++
      [[.column "collection_id", .plain (" " ++ tiebreak.sqlText)],
       [.column "doc_id", .plain (" " ++ tiebreak.sqlText)]]
    [.plain "SELECT "] ++ documentList ++ [.plain " FROM documents WHERE "] ++
      Piece.sepBy " AND " (fs.map Filter.pieces) ++ [.plain " ORDER BY "] ++
      Piece.sepBy ", " sortKeys ++ (if limited then [.plain " LIMIT ?"] else [])
  | .countDocuments fs =>
    [.plain "SELECT COUNT(*) AS count FROM documents WHERE "] ++
      Piece.sepBy " AND " (fs.map Filter.pieces)
  | .selectData =>
    [.plain "SELECT ", .column "data", .plain " FROM documents WHERE ", .column "collection_id",
      .plain " = ? AND ", .column "doc_id", .plain " = ?"]
  | .upsertDocument =>
    [.plain ("INSERT INTO documents (collection_id, doc_id, data) VALUES (?, ?, ?) " ++
      "ON CONFLICT("), .column "collection_id", .plain ", ", .column "doc_id",
      .plain ") DO UPDATE SET data = excluded.data"]
  | .insertDocument => [.plain "INSERT INTO documents (collection_id, doc_id, data) VALUES (?, ?, ?)"]
  | .mergeDocument =>
    [.plain "UPDATE documents SET data = json_patch(", .column "data", .plain ", ?) WHERE ",
      .column "collection_id", .plain " = ? AND ", .column "doc_id", .plain " = ?"]
  | .deleteDocument =>
    [.plain "DELETE FROM documents WHERE ", .column "collection_id", .plain " = ? AND ",
      .column "doc_id", .plain " = ?"]
  | .deleteAllDocuments => [.plain "DELETE FROM documents"]
  | .exportDocuments =>
    [.plain "SELECT "] ++ documentList ++ [.plain " FROM documents ORDER BY ",
      .column "collection_id", .plain ", ", .column "doc_id"]
  | .createIndex name path coll =>
    [.plain ("CREATE INDEX IF NOT EXISTS \"" ++ name ++ "\" ON documents (")] ++ path.pieces ++
      [.plain ") WHERE ", .column "collection_id", .plain (" = " ++ sqlLiteral coll)]
  | .upsertFile =>
    [.plain ("INSERT INTO files (path, data, contentType, size, updatedAt) VALUES (?, ?, ?, ?, ?) " ++
      "ON CONFLICT("), .column "path",
      .plain (") DO UPDATE SET data = excluded.data, contentType = excluded.contentType, " ++
      "size = excluded.size, updatedAt = excluded.updatedAt")]
  | .selectFile =>
    [.plain "SELECT ", .column "path", .plain ", ", .column "data", .plain ", ",
      .column "contentType", .plain ", ", .column "size", .plain ", ", .column "updatedAt",
      .plain " FROM files WHERE ", .column "path", .plain " = ?"]
  | .deleteFile => [.plain "DELETE FROM files WHERE ", .column "path", .plain " = ?"]
  | .beginTransaction => [.plain "BEGIN TRANSACTION"]
  | .commit => [.plain "COMMIT"]
  | .rollback => [.plain "ROLLBACK"]
  | .configure j s =>
    [.plain ("PRAGMA journal_mode=" ++ j.sqlText ++ "; PRAGMA synchronous=" ++ s.sqlText ++ ";")]
  | .createSchema => [.plain schemaText]
  | .quickCheck => [.plain "PRAGMA quick_check"]

/-- The SQL text of a statement. -/
def text (s : Statement) : String := Piece.join s.pieces

/-- The names a statement reads as columns, in the order the engine resolves them (the order
of the text), each with its byte offset in the text. -/
def reads (s : Statement) : List (String × Nat) := Piece.readsFrom 0 s.pieces

/-- The engine's error for a column a statement reads that its table lacks: the message, the
text and the byte offset of the name. -/
def unknownColumn (s : Statement) (name : String) (offset : Nat) : String :=
  "no such column: " ++ name ++ " in " ++ s.text ++ " at offset " ++ toString offset

end Statement

/-- A statement with its bindings, as queued for the engine. -/
structure BoundStatement where
  statement : Statement
  bindings : List SqlValue
deriving DecidableEq, Repr

end DocStore
