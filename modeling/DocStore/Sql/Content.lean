import DocStore.Sql.Operators
/-!
# The content of a database

`Tables` is what a database holds, as its pages hold it: the schema; the rows of each table in
rowid order, every row the values of its record; and the keys of each index in the index's
order, every key the values of its terms followed by the rowid of its row. Nothing ties an index
to its table but the statements that change both, so content read from a damaged file may have
keys without rows and rows without keys, and the statements read it as they find it.

A statement changes the content by a list of `Change`s, which the pages replay in the same
order: a row goes into or out of a table, a key into or out of an index, a tree is emptied, a
table or an index is created. `Tables.apply` applies one change to the content, keeping rows and
keys in order; taking out a key the index does not hold is the corruption the engine reports
for it.

A row is seen by expressions through a `Frame` (`Table.frame`): the value of a column that is
the rowid is the rowid, and a column of real affinity reads an integer as a real.
-/

namespace DocStore

open Sql

/-- The rows of a table in rowid order, each with the values of its record. -/
abbrev RowList := List (Int × List SqlValue)

/-- One change a statement makes to a database. -/
inductive Change where
  /-- A row goes into a table, under a rowid the table does not hold. -/
  | insertRow (table : String) (rowid : Int) (values : List SqlValue)
  /-- A row the statement has read is written over. -/
  | overwriteRow (table : String) (rowid : Int) (values : List SqlValue)
  /-- A row leaves a table; its record was the values given. -/
  | deleteRow (table : String) (rowid : Int) (values : List SqlValue)
  /-- A key goes into an index. -/
  | insertKey (index : String) (key : List SqlValue)
  /-- A key leaves an index: the entry the engine's search finds equal to it. -/
  | deleteKey (index : String) (key : List SqlValue)
  /-- The entry a statement stands on leaves its index: the first entry, in order, that holds
  exactly these values. -/
  | dropKey (index : String) (key : List SqlValue)
  /-- A table is emptied. -/
  | clearTable (table : String)
  /-- An index is emptied. -/
  | clearIndex (index : String)
  /-- A table is created from its statement, with the indexes its constraints make. -/
  | createTable (name sql : String) (definition : Definition)
  /-- An index is created from its statement, holding the given keys in its order. -/
  | createIndex (name sql : String) (definition : Definition) (keys : List (List SqlValue))
deriving Repr, Inhabited

/-- What the header of a database file says, as pragmas report it: the page size, the number of
pages and of free pages, the schema cookie, the text encoding (1 for UTF-8, 2 and 3 for UTF-16
little- and big-endian), the user version, the application id and the auto-vacuum mode (0 none,
1 full, 2 incremental). -/
structure FileFacts where
  pageSize : Nat := 4096
  pageCount : Nat := 0
  freePages : Nat := 0
  schemaVersion : Nat := 0
  encoding : Nat := 1
  userVersion : Int := 0
  applicationId : Int := 0
  autoVacuum : Nat := 0
deriving Repr, Inhabited

/-- The settings of the connection running a statement, as pragmas report them: the file it
opened, its journal mode (by name, in lower case) and how often it waits for the disk (0 off,
1 normal, 2 full, 3 extra). -/
structure ConnectionFacts where
  path : String := ""
  journalMode : String := "delete"
  synchronous : Nat := 2
deriving Repr, Inhabited

/-- The content of a database: its schema, the rows of its tables and the keys of its indexes,
both by name. -/
structure Tables where
  schema : Schema := {}
  rows : List (String × RowList) := []
  keys : List (String × List (List SqlValue)) := []
  /-- The wall clock of the connection reading the content, in milliseconds of the Julian day
  number: the moment `now` stands for in date and time functions. -/
  clock : Int := 0
  /-- What the header of the file said when the statement began. -/
  file : FileFacts := {}
  /-- The settings of the connection running the statement. -/
  connection : ConnectionFacts := {}
deriving Repr, Inhabited

/-- The failure the engine reports for content that contradicts itself. -/
def corruptFailure : EngineFailure := engineError .corrupt "database disk image is malformed"

/-- Insert a row in rowid order, replacing one under the same rowid. -/
def placeRow (rs : RowList) (rowid : Int) (vals : List SqlValue) : RowList :=
  rs.filter (·.1 < rowid) ++ [(rowid, vals)] ++ rs.filter (·.1 > rowid)

/-- Put a key into an index where the engine's search for it lands: in place of an equal key,
or beside the entry the search stops at. In an index whose keys are in order that is after every
key that sorts before it. -/
def placeKey (enc : TextEncoding) (order : List (Collation × Bool)) (ks : List (List SqlValue)) (k : List SqlValue) :
    List (List SqlValue) :=
  match searchCells (fun e => compareKeys enc order e k) ks.toArray with
  | none => [k]
  | some (idx, .eq) => ks.set idx k
  | some (idx, .lt) => ks.take (idx + 1) ++ [k] ++ ks.drop (idx + 1)
  | some (idx, _) => ks.take idx ++ [k] ++ ks.drop idx

/-- The entries a seek for a key prefix reaches, in the order it reaches them. Going forwards the
engine lands on the first entry whose leading values are not below the key and goes on while
they are not above it; going backwards it lands on the last entry whose leading values are not
above the key and goes back while they are not below it. A seek for equal values only finds
nothing unless its search met an entry that starts with the key, and takes the entry it lands
on without testing it. In an index whose entries are in order these are exactly the entries
that start with the key; in one whose entries are not, they are the ones the engine finds where
it looks. -/
def seekEntries (enc : TextEncoding) (order : List (Collation × Bool)) (entries : List (List SqlValue))
    (probe : List SqlValue) (backwards : Bool) : List (List SqlValue) :=
  let vs (e : List SqlValue) := compareKeys enc order (e.take probe.length) probe
  let cells := entries.toArray
  let path := searchPath (fun e => if vs e == .eq then (if backwards then .lt else .gt) else vs e) cells
  let met := path.any (fun (i, _) => match cells[i]? with
    | some e => vs e == .eq
    | none => false)
  match path.getLast?, met with
  | some (idx, c), true =>
    if backwards then
      match (entries.take (if c == .gt then idx else idx + 1)).reverse with
      | first :: rest => first :: rest.takeWhile (fun e => vs e != .lt)
      | [] => []
    else
      match entries.drop (if c == .lt then idx + 1 else idx) with
      | first :: rest => first :: rest.takeWhile (fun e => vs e != .gt)
      | [] => []
  | _, _ => []

/-- The entry a lookup for a key prefix finds, if it finds one: the engine's binary search stops
at the first entry it meets whose leading values equal the key. In an index whose entries are in
order it finds one whenever there is one. -/
def findEntry (enc : TextEncoding) (order : List (Collation × Bool)) (entries : List (List SqlValue))
    (probe : List SqlValue) : Option (List SqlValue) :=
  match searchCells (fun e => compareKeys enc order (e.take probe.length) probe) entries.toArray with
  | some (idx, .eq) => entries[idx]?
  | _ => none

/-- Take a key out of an index: the entry the engine's search finds equal to it, if it finds
one. -/
def removeKey (enc : TextEncoding) (order : List (Collation × Bool)) (ks : List (List SqlValue)) (k : List SqlValue) :
    Option (List (List SqlValue)) :=
  match searchCells (fun e => compareKeys enc order e k) ks.toArray with
  | some (idx, .eq) => some (ks.eraseIdx idx)
  | _ => none

namespace Sql.Table

/-- The columns of a table without rowids in the order its records keep them: those of its
primary key, then the other columns rows store, in order. -/
def keyedOrder (t : Table) : List Nat :=
  let keys := t.keyParts.filterMap (fun p => match p.column with
    | .column k => some k
    | _ => none)
  keys ++ (List.range t.columns.length).filter (fun k =>
    !keys.contains k && !((t.column? k).map (·.virtual)).getD false)

/-- A record as a table without rowids keeps it, from the record in column order. -/
def keyedRecord (t : Table) (vals : List SqlValue) : List SqlValue :=
  t.keyedOrder.map (fun k => vals.getD (t.storagePos k) .null)

/-- The record in column order from one a table without rowids keeps; a column past its end
holds NULL. -/
def unkeyedRecord (t : Table) (kept : List SqlValue) : List SqlValue :=
  let order := t.keyedOrder
  (List.range t.columns.length).filterMap (fun k =>
    if ((t.column? k).map (·.virtual)).getD false then none
    else some (match order.idxOf? k with
      | some pos => kept.getD pos .null
      | none => .null))

/-- The primary key of a row of a table without rowids, from its record in column order. -/
def keyValues (t : Table) (vals : List SqlValue) : List SqlValue :=
  t.keyParts.map (fun p => match p.column with
    | .column k => vals.getD (t.storagePos k) .null
    | _ => .null)

/-- The order of a table's primary key. -/
def keyOrder (t : Table) : List (Collation × Bool) := t.keyParts.map (fun p => (p.collation, p.desc))

end Sql.Table

/-- Insert a row of a table without rowids after every row whose primary key does not sort
after its own. -/
def placeKeyed (enc : TextEncoding) (tb : Table) (rs : RowList) (rowid : Int) (vals : List SqlValue) : RowList :=
  let k := tb.keyValues vals
  let before := rs.takeWhile (fun (_, v) => compareKeys enc tb.keyOrder (tb.keyValues v) k != .gt)
  before ++ [(rowid, vals)] ++ rs.drop before.length

namespace Tables

/-- The encoding of the database's text. -/
def encoding (t : Tables) : TextEncoding := .ofNumber t.file.encoding

/-- The rows of a table. -/
def rowsOf (t : Tables) (table : String) : RowList :=
  ((t.rows.find? (fun p => sameName p.1 table)).map (·.2)).getD []

/-- The keys of an index. -/
def keysOf (t : Tables) (index : String) : List (List SqlValue) :=
  ((t.keys.find? (fun p => sameName p.1 index)).map (·.2)).getD []

/-- The record of a row, if the table holds it. -/
def row? (t : Tables) (table : String) (rowid : Int) : Option (List SqlValue) :=
  ((t.rowsOf table).find? (·.1 == rowid)).map (·.2)

/-- Replace the rows of a table. -/
def setRows (t : Tables) (table : String) (rs : RowList) : Tables :=
  if t.rows.any (fun p => sameName p.1 table) then
    { t with rows := t.rows.map (fun p => if sameName p.1 table then (p.1, rs) else p) }
  else { t with rows := t.rows ++ [(table, rs)] }

/-- Replace the keys of an index. -/
def setKeys (t : Tables) (index : String) (ks : List (List SqlValue)) : Tables :=
  if t.keys.any (fun p => sameName p.1 index) then
    { t with keys := t.keys.map (fun p => if sameName p.1 index then (p.1, ks) else p) }
  else { t with keys := t.keys ++ [(index, ks)] }

/-- The key order of an index; an index the schema lacks sorts by value. -/
def orderOf (t : Tables) (index : String) : List (Collation × Bool) :=
  ((t.schema.index? index).map Index.order).getD []

/-- Put a row in its place in a table: by rowid, or by primary key in a table without rowids. -/
def putRow (t : Tables) (table : String) (rowid : Int) (vals : List SqlValue) : Tables :=
  match t.schema.table? table with
  | some tb =>
    if tb.withoutRowid then t.setRows table (placeKeyed t.encoding tb ((t.rowsOf table).filter (·.1 != rowid)) rowid vals)
    else t.setRows table (placeRow (t.rowsOf table) rowid vals)
  | none => t.setRows table (placeRow (t.rowsOf table) rowid vals)

/-- Apply one change. -/
def apply (t : Tables) : Change → Except EngineFailure Tables
  | .insertRow table rowid vals => .ok (t.putRow table rowid vals)
  | .overwriteRow table rowid vals => .ok (t.putRow table rowid vals)
  | .deleteRow table rowid _ => .ok (t.setRows table ((t.rowsOf table).filter (·.1 != rowid)))
  | .insertKey index key => .ok (t.setKeys index (placeKey t.encoding (t.orderOf index) (t.keysOf index) key))
  | .deleteKey index key =>
    match removeKey t.encoding (t.orderOf index) (t.keysOf index) key with
    | some ks => .ok (t.setKeys index ks)
    | none => .error corruptFailure
  | .dropKey index key =>
    let ks := t.keysOf index
    if ks.contains key then .ok (t.setKeys index (ks.erase key)) else .error corruptFailure
  | .clearTable table => .ok (t.setRows table [])
  | .clearIndex index => .ok (t.setKeys index [])
  | .createTable name _ d => do
    let s ← (t.schema.add d 0).mapError (engineError .error)
    let made := s.indexes.drop t.schema.indexes.length
    let t := { t with schema := s }.setRows name []
    return made.foldl (fun t i => t.setKeys i.name []) t
  | .createIndex name _ d keys => do
    let s ← (t.schema.add d 0).mapError (engineError .error)
    return { t with schema := s }.setKeys name keys

end Tables

/-! ## Rows as expressions see them -/

namespace Sql

/-- A value read from a column: a column of real affinity reads an integer as a real. -/
def Column.read (c : Column) (v : SqlValue) : SqlValue :=
  match c.affinity, v with
  | .real, .integer i => .real (Binary64.ofInt i)
  | _, v => v

/-- How the content's own expressions (defaults, generated columns, index terms) are evaluated:
in a scope, to a value. -/
abbrev RowEvaluator := Scope → Expr → Eval SqlValue

/-- The value of a column's default: its constant converted by the column's affinity; NULL
without one. -/
def Column.defaultWith (ev : RowEvaluator) (c : Column) : SqlValue :=
  match c.defaultValue with
  | some e => match ev {} e with
    | .ok v => applyAffinity c.affinity v
    | .error _ => .null
  | none => .null

namespace Table

/-- The columns of a table as a frame lists them. -/
def frameColumns (t : Table) : List (String × Option Affinity × Collation) :=
  t.columns.map (fun c => (c.name, some c.affinity, c.collation))

/-- Compute the generated columns of a row from its other values, in order, as many times as
there are generated columns so that one reading another sees its value; `all` computes the
stored ones too, otherwise only those computed when read. A computation that fails gives NULL. -/
def computeGeneratedWith (ev : RowEvaluator) (t : Table) (all : Bool) (rowid : Int) (cols : List SqlValue) : List SqlValue :=
  let gens := t.columns.zipIdx.filterMap (fun (c, k) => match c.generated with
    | some e => if all || c.virtual then some (c, k, e) else none
    | none => none)
  let pass (cols : List SqlValue) : List SqlValue :=
    gens.foldl (fun cols (c, k, e) =>
      let sc : Scope :=
        { frames := [{ name := t.name, columns := t.frameColumns, values := cols, rowid := some rowid }] }
      let v := match ev sc e with
        | .ok v => c.read (applyAffinity c.affinity v)
        | .error _ => .null
      cols.set k v) cols
  (List.range gens.length).foldl (fun cols _ => pass cols) cols

/-- The values of a row's columns: the rowid for the column that is the rowid, each column rows
store read from its place in the record, a column past the record's end taking its default,
and each generated column that rows do not store computed from the others. -/
def columnValuesWith (ev : RowEvaluator) (t : Table) (rowid : Int) (vals : List SqlValue) :
    List SqlValue :=
  let base := t.columns.zipIdx.map (fun (c, i) =>
    if t.rowidAlias == some i then .integer rowid
    else if c.virtual then .null
    else match vals[t.storagePos i]? with
      | some v => c.read v
      | none => c.read (c.defaultWith ev))
  if t.columns.any (·.virtual) then t.computeGeneratedWith ev false rowid base else base

/-- A row of a table as expressions see it, under a name. -/
def frameWith (ev : RowEvaluator) (t : Table) (name : String) (rowid : Int) (vals : List SqlValue) :
    Frame :=
  { name, columns := t.frameColumns, values := t.columnValuesWith ev rowid vals, rowid := some rowid }

/-- The value of a column as an index key holds it: the rowid for the column that is the rowid,
the record's value, the default past the record's end, or the computed value of a generated
column that rows do not store. -/
def storedValueWith (ev : RowEvaluator) (t : Table) (rowid : Int) (vals : List SqlValue) (k : Nat) :
    SqlValue :=
  if t.rowidAlias == some k then .integer rowid
  else if ((t.column? k).map (·.virtual)).getD false then (t.columnValuesWith ev rowid vals).getD k .null
  else match vals[t.storagePos k]? with
    | some v => v
    | none => ((t.column? k).map (Column.defaultWith ev)).getD .null

/-- The record of a row from the values of its columns: the column that is the rowid holds
NULL, and generated columns that rows do not store are left out. -/
def recordOf (t : Table) (vals : List SqlValue) : List SqlValue :=
  (vals.zipIdx.filter (fun (_, i) => !((t.column? i).map (·.virtual)).getD false)).map
    (fun (v, i) => if t.rowidAlias == some i then .null else v)

end Table

/-- The key a row has in an index, if the index holds one for it: the values of the index's
terms, then, for a table without rowids, the columns of its primary key the terms do not hold
under the same collation, and last the rowid, by which the content finds the row. -/
def Index.keyWith (ev : RowEvaluator) (enc : TextEncoding) (i : Index) (t : Table) (rowid : Int)
    (vals : List SqlValue) : Eval (Option (List SqlValue)) := do
  let sc : Scope := { frames := [t.frameWith ev t.name rowid vals] }
  let included ← match i.condition with
    | some c => do pure (truth enc (← ev sc c) == some true)
    | none => pure true
  if !included then return none
  let parts ← i.parts.mapM (fun p => match p.column with
    | .column k => pure (t.storedValueWith ev rowid vals k)
    | .rowid => pure (.integer rowid)
    | .expr e => ev sc e)
  let held (kp : KeyPart) : Bool := i.parts.any (fun p => match p.column, kp.column with
    | .column a, .column b => a == b && p.collation == kp.collation
    | _, _ => false)
  let suffix := if t.withoutRowid then
      (t.keyParts.filter (fun kp => !held kp)).map (fun kp => match kp.column with
        | .column k => t.storedValueWith ev rowid vals k
        | _ => .null)
    else []
  return some (parts ++ suffix ++ [.integer rowid])

end Sql

end DocStore
