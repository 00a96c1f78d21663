import DocStore.Sql.Statement
import DocStore.Sql.Resolve
import DocStore.Sql.Parser
/-!
# The store's statements

`Tables.execute` runs one statement of the store against the content of a database, with the
engine's semantics, and says which changes it made (`Change`), in order, for the pages to replay.

The statements name the tables `documents` and `files` and their columns; what those are is up
to the schema the database holds. Comparisons convert and collate by the columns' affinities
and collations, new rows are checked against the table's constraints, triggers fire, and a view
answers reads with the rows of its query and refuses writes.

A statement reaches rows the way the engine's planner has it reach them (`Access`):

* a lookup by collection and id, or by path, seeks the index that matches most of the key's
  columns (an index whose columns are all matched and which is unique first, then the newest);
* a query or count of one collection seeks an index that starts with `collection_id`;
* a count of a collection group walks the smallest index holding `collection_id`, reading no
  row; a query of a group walks the index on `collection_id` and `doc_id` when it gives the
  order, and scans the table otherwise;
* an export walks the index on `collection_id` and `doc_id` when it gives the order;
* everything else scans the table in rowid order and sorts.

A row found through an index is read lazily: the columns the index holds come from its entry,
and a condition or a result that needs another column reads the row, which must exist. The
conditions the seek satisfies are not tested again. So content whose index and table disagree
answers as the engine's would: a key without its row is a corruption once the row is needed.
-/

namespace DocStore

open Sql

/-- The binding at a position, NULL when there is none. -/
def bindingAt (bs : List SqlValue) (i : Nat) : SqlValue := bs.getD i .null

/-- The text of a binding, for names built from it. -/
def SqlValue.asText : SqlValue → String
  | .text s => Text.decodeLossy s
  | .integer i => toString i
  | .real f => Json.floatText f
  | .null => ""
  | .blob b => String.ofList (b.map (fun x => Char.ofNat x.toNat))

/-! ## Conditions as expressions -/

namespace Filter

/-- A column reference. -/
def col (n : String) : Expr := .column none n

/-- The field of a document, extracted from its data. -/
def field (p : FieldPath) : Expr := .call "json_extract" [col "data", .literal (.ofString p.jsonPath)] false false

/-- The comparison operator of a filter. -/
def binOp : Comparison → BinOp
  | .eq => .eq
  | .ne => .ne
  | .lt => .lt
  | .le => .le
  | .gt => .gt
  | .ge => .ge

/-- A filter as an expression over its own bindings, numbered from 1; an array-membership
filter is tested separately (`holdsIn`). -/
def condition : Filter → Expr
  | .collectionIs => .binary .eq (col "collection_id") (.param 1)
  | .inGroup =>
    .binary .or (.binary .eq (col "collection_id") (.param 1))
      (.binary .eq (.call "substr" [col "collection_id", .unary .neg (.param 2)] false false) (.param 3))
  | .fieldIsNull p => .isNull (field p) false
  | .fieldIsNotNull p => .isNull (field p) true
  | .fieldCompare p op => .binary (binOp op) (field p) (.param 1)
  | .fieldArrayContains p =>
    .binary .eq (.call "json_type" [col "data", .literal (.ofString p.jsonPath)] false false)
      (.literal (.ofString "array"))
  | .fieldIn p n => .inList (field p) ((List.range n).map (fun k => .param (k + 1))) false

/-- The columns a filter reads. -/
def columnsRead : Filter → List String
  | .collectionIs | .inGroup => ["collection_id"]
  | _ => ["data"]

/-- Whether a filter holds for a row, given the row's scope and the filter's bindings. -/
def holdsIn (tables : Tables) (f : Filter) (sc : Scope) (bs : List SqlValue) : Eval Bool := do
  let sc := { sc with params := bs }
  let base := (← tables.holds sc f.condition) == some true
  match f with
  | .fieldArrayContains p =>
    if !base then return false
    let data ← sc.column none "data"
    match ← liftFailure (SqlJson.arrayAt data.value p) with
    | some items =>
      let probe : Typed := ⟨bindingAt bs 0, none, none, false, false⟩
      return items.any (fun v => compareTyped tables.encoding ⟨v, none, none, false, false⟩ probe == some .eq)
    | none => return false
  | _ => return base

end Filter

/-- Each filter with its own bindings, and the bindings left after them. -/
def splitBindings : List Filter → List SqlValue → List (Filter × List SqlValue) × List SqlValue
  | [], bs => ([], bs)
  | f :: fs, bs =>
    let (rest, left) := splitBindings fs (bs.drop f.arity)
    ((f, bs.take f.arity) :: rest, left)

/-! ## Access paths -/

/-- How a statement reaches the rows of a table. -/
inductive Access where
  /-- Every row, in rowid order. -/
  | scan
  /-- The entries of an index whose leading terms equal the values, in index order or in
  reverse; only the first of them when the lookup can match one row only. -/
  | seek (index : Index) (values : List SqlValue) (oneRow backwards : Bool)
  /-- Every entry of an index, in index order or in reverse. -/
  | walk (index : Index) (reverse : Bool)

/-- A row reached by an access path: its rowid, the column values its index entry holds, its
record if the table holds it, the entry, and the encoding of the database's text, in which the
row's generated columns are computed. -/
structure Reached where
  rowid : Int
  covered : List (Nat × SqlValue)
  record : Option (List SqlValue)
  entry : Option (String × List SqlValue)
  encoding : TextEncoding

/-- The columns of an index entry, by table column position, each read as the column reads its
value (a column of real affinity reads an integer as a real). -/
def Sql.Index.coveredBy (i : Index) (t : Table) (entry : List SqlValue) : List (Nat × SqlValue) :=
  (i.parts.zip entry).filterMap (fun (p, v) => match p.column with
    | .column k => some (k, ((t.column? k).map (·.read v)).getD v)
    | _ => none)

/-- Whether a part of an index is a column, under the column's own collation. -/
def partIsColumn (t : Table) (p : KeyPart) (k : Nat) : Bool :=
  match p.column with
  | .column j => j == k && ((t.column? k).map (fun c => c.collation == p.collation)).getD false
  | _ => false

/-- The index entries of an access, or the rows of a scan. -/
def Tables.reach (tables : Tables) (t : Table) : Access → List Reached
  | .scan => (tables.rowsOf t.name).map (fun (r, vals) => ⟨r, [], some vals, none, tables.encoding⟩)
  | .seek i values oneRow backwards =>
    let probe := (i.parts.zip values).map (fun (p, v) => match p.column with
      | .column k => ((t.column? k).map (fun c => applyAffinity c.affinity v)).getD v
      | _ => v)
    let hits := seekEntries tables.encoding i.order (tables.keysOf i.name) probe backwards
    (if oneRow then hits.take 1 else hits).filterMap (fun e => match e.getLast? with
      | some (.integer r) => some ⟨r, i.coveredBy t e, tables.row? t.name r, some (i.name, e), tables.encoding⟩
      | _ => none)
  | .walk i reverse =>
    let entries := tables.keysOf i.name
    (if reverse then entries.reverse else entries).filterMap (fun e => match e.getLast? with
      | some (.integer r) => some ⟨r, i.coveredBy t e, tables.row? t.name r, some (i.name, e), tables.encoding⟩
      | _ => none)

/-- The indexes a plan may use: those without a condition, newest first. -/
def usableIndexes (s : Schema) (t : Table) : List Index :=
  (s.indexesOf t.name).filter (fun i => i.condition.isNone)

/-- How many leading columns of an index an equality lookup on the given columns matches, in
the order of the index. -/
def matchedLead (t : Table) (i : Index) (ks : List Nat) : List Nat :=
  let rec go : List KeyPart → List Nat → List Nat
    | [], acc => acc
    | p :: ps, acc =>
      match ks.find? (fun k => partIsColumn t p k && !acc.contains k) with
      | some k => go ps (acc ++ [k])
      | none => acc
  go i.parts []

/-- The engine's estimate of the rows an equality lookup matching `m` leading columns of an
index returns, as a rank: a unique index matched in full returns one row. -/
def lookupRank (i : Index) (m : Nat) : Nat :=
  if i.unique ∧ m = i.parts.length then 0 else 100 - min 99 m

/-- Whether an equality lookup matching `m` leading columns of an index can find one row only,
so that the engine reads the first entry it lands on and no other: the index is unique, the
lookup matches all its columns, the last of them a column of the table, and either none of them
can be NULL or there is only one. -/
def findsOneRow (t : Table) (i : Index) (m : Nat) : Bool :=
  let cols := i.parts.filterMap (fun p => match p.column with
    | .column k => some k
    | _ => none)
  let lastIsColumn := match i.parts.getLast? with
    | some { column := .column _, .. } => true
    | _ => false
  let notNull := cols.length = i.parts.length ∧ cols.all (fun k =>
    (t.withoutRowid && i.primaryKey) || ((t.column? k).map (·.notNull)).getD false)
  i.unique && m = i.parts.length && lastIsColumn && (notNull || i.parts.length = 1)

/-- The best index for an equality lookup on the given columns: the columns it matches, in its
order. -/
def lookupIndex (s : Schema) (t : Table) (ks : List Nat) : Option (Index × List Nat) :=
  let scored := (usableIndexes s t).filterMap (fun i =>
    let m := matchedLead t i ks
    if m.isEmpty then none else some (i, m))
  scored.foldl (fun best c => match best with
    | none => some c
    | some b => if lookupRank c.1 c.2.length < lookupRank b.1 b.2.length then some c else best) none

/-- An index that gives rows in the order of the listed columns, under their own collations. -/
def orderingIndex (s : Schema) (t : Table) (ks : List Nat) : Option Index :=
  (usableIndexes s t).find? (fun i =>
    ks.length ≤ i.parts.length ∧ ((i.parts.take ks.length).zip ks).all (fun (p, k) => partIsColumn t p k) ∧
    (i.parts.take ks.length).all (fun p => !p.desc))

/-- The smallest index that holds a column. -/
def coveringIndex (s : Schema) (t : Table) (k : Nat) : Option Index :=
  let holding := (usableIndexes s t).filter (fun i => i.parts.any (fun p => match p.column with
    | .column j => j == k
    | _ => false))
  holding.foldl (fun best i => match best with
    | none => some i
    | some b => if i.parts.length < b.parts.length then some i else best) none

/-! ## Reading rows -/

/-- A row being read: what is known of its columns, and whether its record has been read. -/
structure Reading where
  values : List SqlValue
  complete : Bool

/-- Start reading a reached row: the columns its entry holds, NULL for the others. -/
def Reached.start (r : Reached) (t : Table) : Reading :=
  match r.entry with
  | none => ⟨t.columnValues r.encoding r.rowid (r.record.getD []), true⟩
  | some _ =>
    ⟨t.columns.zipIdx.map (fun (_, k) => ((r.covered.find? (·.1 == k)).map (·.2)).getD .null), false⟩

/-- Read the whole row, which must exist. The columns the entry holds are still read from the
entry: inside the loop over an index the engine reads every column the index holds from the
index. -/
def Reached.complete (r : Reached) (t : Table) (rd : Reading) : Except EngineFailure Reading :=
  if rd.complete then .ok rd
  else match r.record with
    | some vals => .ok ⟨(t.columnValues r.encoding r.rowid vals).zipIdx.map (fun (v, k) =>
        ((r.covered.find? (·.1 == k)).map (·.2)).getD v), true⟩
    | none => .error corruptFailure

/-- Make sure the named columns can be read: the row is read unless its entry holds them. -/
def Reached.need (r : Reached) (t : Table) (rd : Reading) (names : List String) :
    Except EngineFailure Reading :=
  let held := names.all (fun n => match t.columnIndex? n with
    | some k => r.covered.any (·.1 == k)
    | none => false)
  if rd.complete ∨ held then .ok rd else r.complete t rd

/-- The scope of a row being read, under the table's name. -/
def rowScope (t : Table) (r : Reached) (rd : Reading) : Scope :=
  { frames := [{ t.frame r.encoding t.name r.rowid [] with values := rd.values }] }

/-- Test the filters on a reached row in order, reading the row when a filter needs a column
its entry does not hold: whether all hold, and the row as read so far. -/
def filtersOn (tables : Tables) (t : Table) (r : Reached) :
    Reading → List (Filter × List SqlValue) → Eval (Bool × Reading)
  | rd, [] => .ok (true, rd)
  | rd, (f, bs) :: rest => do
    let rd ← liftFailure (r.need t rd f.columnsRead)
    if ← f.holdsIn tables (rowScope t r rd) bs then filtersOn tables t r rd rest else return (false, rd)

/-- The value of a column of a row being read, reading the row when needed. -/
def readColumn (t : Table) (r : Reached) (rd : Reading) (n : String) : Eval (SqlValue × Reading) := do
  let rd ← liftFailure (r.need t rd [n])
  match t.columnIndex? n with
  | some k => return (rd.values.getD k .null, rd)
  | none => throw (.error ("no such column: " ++ n))

/-- The values of columns of a row being read, in order. -/
def readColumns (t : Table) (r : Reached) : Reading → List String → Eval (List SqlValue × Reading)
  | rd, [] => .ok ([], rd)
  | rd, n :: ns => do
    let (v, rd) ← readColumn t r rd n
    let (vs, rd) ← readColumns t r rd ns
    return (v :: vs, rd)

/-- The rows of a view as a table-like source: each row's scope and values by column name. -/
def viewRows (tables : Tables) (v : View) : Eval (List (Scope × List (String × SqlValue))) := do
  let r ← tables.query {} v.query
  let names := if v.columns.isEmpty then r.columns.map (·.1) else v.columns
  let rel : Relation := { r with columns := (names.zip r.columns).map (fun (n, c) => (n, c.2)) }
  return r.rows.map (fun vals =>
    ({ frames := [rel.frame v.name vals] }, names.zip vals))

/-- The value of a named column of a view row. -/
def viewValue (cols : List (String × SqlValue)) (n : String) : Eval SqlValue :=
  match cols.find? (fun c => sameName c.1 n) with
  | some (_, v) => .ok v
  | none => .error (.error ("no such column: " ++ n))

/-- A result row of named columns. -/
def resultRow (names : List String) (vals : List SqlValue) : Row := ⟨names.zip vals⟩

/-- The columns of a document row. -/
def documentColumns : List String := ["collection_id", "doc_id", "data"]

/-- The columns of a file row. -/
def fileColumns : List String := ["path", "data", "contentType", "size", "updatedAt"]

/-! ## Running statements -/

/-- The fuel of trigger programs: enough for every trigger to run once inside another. -/
def triggerFuel : Nat := 1000

namespace Tables

/-- The table or view a statement reads. -/
inductive Relation where
  | table (t : Table)
  | view (v : View)

/-- The relation of a name. -/
def relation (tables : Tables) (name : String) : Eval Relation :=
  match tables.schema.table? name with
  | some t => .ok (.table t)
  | none => match tables.schema.view? name with
    | some v => .ok (.view v)
    | none => .error (.error ("no such table: " ++ name))

/-- The position of a column a statement names. -/
def columnOf (t : Table) (n : String) : Eval Nat :=
  match t.columnIndex? n with
  | some k => .ok k
  | none => .error (.error ("no such column: " ++ n))

/-- The rows an equality lookup on named columns reaches, with the filters left to test. -/
def lookup (tables : Tables) (t : Table) (terms : List (String × SqlValue)) :
    Eval (Access × List (Filter × List SqlValue) × List (String × SqlValue)) := do
  let ks ← terms.mapM (fun (n, _) => columnOf t n)
  match lookupIndex tables.schema t ks with
  | some (i, matched) =>
    let values := matched.filterMap (fun k => ((ks.zip terms).find? (·.1 == k)).map (·.2.2))
    let rest := (ks.zip terms).filter (fun (k, _) => !matched.contains k)
    return (.seek i values (findsOneRow t i matched.length) false, [], rest.map (·.2))
  | none => return (.scan, [], terms)

/-- Whether a reached row's columns equal the values of the terms, as `c = ?` compares them. -/
def termsHold (t : Table) (r : Reached) (rd : Reading) (terms : List (String × SqlValue)) :
    Eval (Bool × Reading) := do
  let mut rd := rd
  for (n, v) in terms do
    rd ← liftFailure (r.need t rd [n])
    let sc := { rowScope t r rd with params := [v] }
    if (← sc.holds r.encoding (.binary .eq (.column none n) (.param 1))) != some true then return (false, rd)
  return (true, rd)

/-- The rows of a table whose named columns equal the values, as read with the listed columns. -/
def lookupRows (tables : Tables) (t : Table) (terms : List (String × SqlValue)) (out : List String) :
    Eval (List (Reached × List SqlValue)) := do
  let (access, _, rest) ← tables.lookup t terms
  let mut found := []
  for r in tables.reach t access do
    let (ok, rd) ← termsHold t r (r.start t) rest
    if ok then
      let (vals, _) ← readColumns t r rd out
      found := found ++ [(r, vals)]
  return found

/-- The rows of a view whose named columns equal the values. -/
def lookupView (tables : Tables) (v : View) (terms : List (String × SqlValue)) (out : List String) :
    Eval (List (List SqlValue)) := do
  let mut found := []
  for (sc, cols) in ← viewRows tables v do
    let mut ok := true
    for (n, b) in terms do
      let _ ← viewValue cols n
      if (← ({ sc with params := [b] } : Scope).holds tables.encoding (.binary .eq (.column none n) (.param 1))) !=
          some true then
        ok := false
    if ok then found := found ++ [← out.mapM (viewValue cols)]
  return found

/-- The sort values of a document row, in a database of an encoding: its fields, then its
collection and id. -/
def sortKeys (sc : Scope) (enc : TextEncoding) (keys : List SortKey) : Eval (List Typed) := do
  let fields ← keys.mapM (fun k => sc.evalTyped enc (Filter.field k.path))
  let c ← sc.column none "collection_id"
  let d ← sc.column none "doc_id"
  return fields ++ [c, d]

/-- The ordering terms of a document query. -/
def orderTerms (keys : List SortKey) (tiebreak : Direction) : List OrderTerm :=
  keys.map (fun k => { expr := Filter.field k.path, desc := k.direction == .desc }) ++
    [{ expr := Filter.col "collection_id", desc := tiebreak == .desc },
     { expr := Filter.col "doc_id", desc := tiebreak == .desc }]

/-- Cut the sorted rows of a query by its `LIMIT` binding; a negative limit keeps all. -/
def applyLimit {α : Type} (rows : List α) (limited : Bool) (leftover : List SqlValue) : List α :=
  if limited then
    match bindingAt leftover 0 with
    | .integer n => if n < 0 then rows else rows.take n.toNat
    | _ => rows
  else rows

/-- How a document query or count reaches its rows: the access, whether the access tests the
source filter, and whether it gives the rows in the order asked for. -/
structure DocumentPlan where
  access : Access
  seeks : Bool := false
  inOrder : Bool := false

/-- The access path of a document query or count, by its source filter. A query ordered by
collection and id alone (`ordered`) that seeks a collection in an index whose next column is
`doc_id` reads the rows in order, backwards when the index's order of ids is not the one asked
for. -/
def documentAccess (tables : Tables) (t : Table) (source : Option (Filter × List SqlValue))
    (counting : Bool) (ordered : Bool) (tiebreak : Direction) : DocumentPlan :=
  let s := tables.schema
  let ci := t.columnIndex? "collection_id"
  let di := t.columnIndex? "doc_id"
  match source, ci with
  | some (.collectionIs, bs), some c =>
    match lookupIndex s t [c] with
    | some (i, _) =>
      let next := match i.parts.drop 1, di with
        | p :: _, some d => if !counting && ordered && partIsColumn t p d then some p.desc else none
        | _, _ => none
      match next with
      | some desc => { access := .seek i [bindingAt bs 0] false (desc != (tiebreak == .desc)), seeks := true, inOrder := true }
      | none => { access := .seek i [bindingAt bs 0] false false, seeks := true }
    | none => { access := .scan }
  | some (.inGroup, _), some c =>
    if counting then
      match coveringIndex s t c with
      | some i => { access := .walk i false }
      | none => { access := .scan }
    else if ordered then
      match di with
      | some d => match orderingIndex s t [c, d] with
        | some i => { access := .walk i (tiebreak == .desc), inOrder := true }
        | none => { access := .scan }
      | none => { access := .scan }
    else { access := .scan }
  | _, _ => { access := .scan }

/-- Matching documents of a table, sorted and limited. -/
def selectFromTable (tables : Tables) (t : Table) (fs : List Filter) (keys : List SortKey)
    (tiebreak : Direction) (limited : Bool) (bs : List SqlValue) : Eval (List Row) := do
  let (pairs, leftover) := splitBindings fs bs
  let source := pairs.head?
  let plan := tables.documentAccess t source false keys.isEmpty tiebreak
  let filters := if plan.seeks then pairs.drop 1 else pairs
  let mut rows : List (List Typed × List SqlValue) := []
  for r in tables.reach t plan.access do
    let (ok, rd) ← filtersOn tables t r (r.start t) filters
    if ok then
      let (vals, rd) ← readColumns t r rd documentColumns
      let rd ← liftFailure (r.complete t rd)
      let sk ← sortKeys (rowScope t r rd) r.encoding keys
      rows := rows ++ [(sk, vals)]
  let terms := orderTerms keys tiebreak
  let sorted := if plan.inOrder then rows
    else rows.mergeSort (fun a b => compareSortKeys tables.encoding terms a.1 b.1 != .gt)
  return (applyLimit sorted limited leftover).map (fun (_, vals) => resultRow documentColumns vals)

/-- Matching documents of a view, sorted and limited. -/
def selectFromView (tables : Tables) (v : View) (fs : List Filter) (keys : List SortKey)
    (tiebreak : Direction) (limited : Bool) (bs : List SqlValue) : Eval (List Row) := do
  let (pairs, leftover) := splitBindings fs bs
  let mut rows : List (List Typed × List SqlValue) := []
  for (sc, cols) in ← viewRows tables v do
    let mut ok := true
    for (f, fb) in pairs do
      if ok then
        if !(← f.holdsIn tables sc fb) then ok := false
    if ok then
      let vals ← documentColumns.mapM (viewValue cols)
      rows := rows ++ [(← sortKeys sc tables.encoding keys, vals)]
  let terms := orderTerms keys tiebreak
  let sorted := rows.mergeSort (fun a b => compareSortKeys tables.encoding terms a.1 b.1 != .gt)
  return (applyLimit sorted limited leftover).map (fun (_, vals) => resultRow documentColumns vals)

/-- The number of matching documents. -/
def countDocuments (tables : Tables) (fs : List Filter) (bs : List SqlValue) : Eval Nat := do
  let (pairs, _) := splitBindings fs bs
  match ← tables.relation "documents" with
  | .view v =>
    let mut n := 0
    for (sc, _) in ← viewRows tables v do
      let mut ok := true
      for (f, fb) in pairs do
        if ok then
          if !(← f.holdsIn tables sc fb) then ok := false
      if ok then n := n + 1
    return n
  | .table t =>
    let plan := tables.documentAccess t pairs.head? true false .asc
    let filters := if plan.seeks then pairs.drop 1 else pairs
    let mut n := 0
    for r in tables.reach t plan.access do
      let (ok, _) ← filtersOn tables t r (r.start t) filters
      if ok then n := n + 1
    return n

/-- Every document, by collection and id. -/
def exportDocuments (tables : Tables) : Eval (List Row) := do
  match ← tables.relation "documents" with
  | .view v => tables.selectFromView v [] [] .asc false []
  | .table t =>
    let ks ← ["collection_id", "doc_id"].mapM (columnOf t)
    match orderingIndex tables.schema t ks with
    | some i =>
      let mut rows := []
      for r in tables.reach t (.walk i false) do
        let (vals, _) ← readColumns t r (r.start t) documentColumns
        rows := rows ++ [resultRow documentColumns vals]
      return rows
    | none =>
      let mut rows : List (List Typed × List SqlValue) := []
      for r in tables.reach t .scan do
        let (vals, rd) ← readColumns t r (r.start t) documentColumns
        rows := rows ++ [(← sortKeys (rowScope t r rd) r.encoding [], vals)]
      let terms := orderTerms [] .asc
      let sorted := rows.mergeSort (fun a b => compareSortKeys tables.encoding terms a.1 b.1 != .gt)
      return sorted.map (fun (_, vals) => resultRow documentColumns vals)

/-- The unique index an `ON CONFLICT` target of columns names: one on exactly those columns,
under their own collations, without a condition. -/
def conflictTarget (t : Table) (s : Schema) (ks : List Nat) : Option Index :=
  (s.indexesOf t.name).find? (fun i =>
    i.unique ∧ i.condition.isNone ∧ i.parts.length = ks.length ∧
    ks.all (fun k => i.parts.any (fun p => partIsColumn t p k)))

/-- The positions of the columns an `INSERT` names. -/
def insertColumns (t : Table) (names : List String) : Exec (List Nat) :=
  names.mapM (fun n => match t.columnIndex? n with
    | some k => pure k
    | none => Exec.fail ("table " ++ t.name ++ " has no column named " ++ n))

/-- The rows of a view whose named columns equal the values, as `c = ?` compares them; a name
the view lacks is an error before any row is tested. -/
def viewRowsWhere (subject : Table) (rows : List (Int × List SqlValue)) (terms : List (String × SqlValue)) :
    Exec (List (Int × List SqlValue)) := do
  discard (Exec.positionsOf subject (terms.map (·.1)) (fun n => "no such column: " ++ n))
  let mut chosen := []
  for (rowid, vals) in rows do
    let mut ok := true
    for (n, v) in terms do
      let sc : Scope := { frames := [Exec.viewFrame subject subject.name rowid vals], params := [v] }
      if (← Exec.ofEval (sc.holds (← Exec.encoding) (.binary .eq (.column none n) (.param 1)))) != some true then
        ok := false
    if ok then chosen := chosen ++ [(rowid, vals)]
  return chosen

/-- Fail with the engine's error for the first column a statement reads that its table lacks. -/
def checkReads (s : Statement) (t : Table) : Exec Unit :=
  match s.reads.find? (fun (n, _) => (t.columnIndex? n).isNone) with
  | some (n, k) => Exec.fail (s.unknownColumn n k)
  | none => pure ()

/-- Compile the triggers a write fires before it runs: for each event in order, those of the
timings given. A fault in one of them fails the write. -/
def checkFiring (table : String) (plan : List (TriggerEvent × List TriggerTiming)) : Exec Unit := do
  match firingFault (← Exec.schema) table plan with
  | some msg => Exec.fail msg
  | none => pure ()

/-- Insert a row of values for named columns, with an optional conflict target whose rows take
the new values of the listed columns. A view takes the row through its `INSTEAD OF INSERT`
triggers, and cannot take an upsert. -/
def insertInto (name : String) (names : List String) (vals : List SqlValue)
    (target : Option (List String × List String)) : Exec Unit := do
  match ← Exec.target name .insert with
  | .view subject _ =>
    let ks ← Exec.positionsOf subject names (fun n => "table " ++ subject.name ++ " has no column named " ++ n)
    if target.isSome then Exec.fail "cannot UPSERT a view"
    checkFiring subject.name [(.insert, [.insteadOf])]
    Exec.beginWrite
    Exec.ignoring (Exec.fire triggerFuel subject .insteadOf .insert none
      (some (-1, Exec.viewInsertRow subject (ks.zip vals))))
  | .table t =>
    let ks ← insertColumns t names
    let upsert ← match target with
      | none => pure none
      | some (cols, sets) =>
        let tk ← insertColumns t cols
        match conflictTarget t (← Exec.schema) tk with
        | some i =>
          let sk ← insertColumns t sets
          pure (some ({ target := i, sets := some (sk.map (fun k =>
            (k, .column (some "excluded") (((t.column? k).map (·.name)).getD "")))) } : Upsert))
        | none => Exec.fail "ON CONFLICT clause does not match any PRIMARY KEY or UNIQUE constraint"
    checkFiring t.name (match target with
      | some (_, sets) => [(.insert, [.before]), (.update sets, [.before, .after]), (.insert, [.after])]
      | none => [(.insert, [.before]), (.insert, [.after])])
    Exec.beginWrite
    Exec.ignoring (Exec.insertRow triggerFuel t (ks.zip vals) .abort upsert)

/-- Change the data of the documents with a collection and id by merging a patch into it; a
view's rows go to its `INSTEAD OF UPDATE` triggers. -/
def mergeDocument (s : Statement) (patch c d : SqlValue) : Exec Unit := do
  match ← Exec.target "documents" (.update ["data"]) with
  | .view subject rows =>
    checkReads s subject
    let dataAt ← match subject.columnIndex? "data" with
      | some k => pure k
      | none => Exec.fail "no such column: data"
    let chosen ← viewRowsWhere subject rows [("collection_id", c), ("doc_id", d)]
    checkFiring subject.name [(.update ["data"], [.insteadOf])]
    Exec.beginWrite
    for (rowid, vals) in chosen do
      let merged ← Exec.ofEval (liftFailure (SqlJson.patch (vals.getD dataAt .null) patch))
      let cols := (subject.columns.zip (vals.set dataAt merged)).map (fun (col, v) => Exec.columnValue col v)
      Exec.ignoring (Exec.fire triggerFuel subject .insteadOf (.update ["data"]) (some (rowid, vals)) (some (rowid, cols)))
  | .table t =>
    checkReads s t
    let dataAt ← Exec.ofEval (columnOf t "data")
    let tables ← Exec.content
    let (access, _, rest) ← Exec.ofEval (tables.lookup t [("collection_id", c), ("doc_id", d)])
    checkFiring t.name [(.update ["data"], [.before, .after])]
    Exec.beginWrite
    let mut chosen : List Reached := []
    for r in tables.reach t access do
      let (ok, _) ← Exec.ofEval (termsHold t r (r.start t) rest)
      if ok then chosen := chosen ++ [r]
    for r in chosen do
      match (← Exec.content).row? t.name r.rowid with
      | none => throw (.failure corruptFailure)
      | some vals =>
        let cols := t.valuesOf r.encoding r.rowid vals
        let merged ← Exec.ofEval (liftFailure (SqlJson.patch (cols.getD dataAt .null) patch))
        Exec.ignoring (Exec.updateRow triggerFuel t r.rowid vals (cols.set dataAt merged) [dataAt] .abort)

/-- Delete the rows of a table whose named columns equal the values; a view's rows go to its
`INSTEAD OF DELETE` triggers. -/
def deleteWhere (s : Statement) (name : String) (terms : List (String × SqlValue)) : Exec Unit := do
  match ← Exec.target name .delete with
  | .view subject rows =>
    checkReads s subject
    let chosen ← viewRowsWhere subject rows terms
    checkFiring subject.name [(.delete, [.insteadOf])]
    Exec.beginWrite
    for (rowid, vals) in chosen do
      Exec.ignoring (Exec.fire triggerFuel subject .insteadOf .delete (some (rowid, vals)) none)
  | .table t =>
    checkReads s t
    let tables ← Exec.content
    let (access, _, rest) ← Exec.ofEval (tables.lookup t terms)
    checkFiring t.name [(.delete, [.before, .after])]
    Exec.beginWrite
    let mut chosen : List Reached := []
    for r in tables.reach t access do
      let (ok, _) ← Exec.ofEval (termsHold t r (r.start t) rest)
      if ok then chosen := chosen ++ [r]
    for r in chosen do
      match (← Exec.content).row? t.name r.rowid with
      | none => throw (.failure corruptFailure)
      | some vals => Exec.ignoring (Exec.deleteRow triggerFuel t r.rowid vals r.entry)

/-- Delete every document: the table and its indexes are emptied at once, unless a trigger
must see each row go; a view's rows go to its `INSTEAD OF DELETE` triggers. -/
def deleteAll : Exec Unit := do
  match ← Exec.target "documents" .delete with
  | .view subject rows =>
    checkFiring subject.name [(.delete, [.insteadOf])]
    Exec.beginWrite
    for (rowid, vals) in rows do
      Exec.ignoring (Exec.fire triggerFuel subject .insteadOf .delete (some (rowid, vals)) none)
  | .table t =>
    let s ← Exec.schema
    checkFiring t.name [(.delete, [.before, .after])]
    Exec.beginWrite
    if (s.triggersOf t.name).any (fun g => g.event == .delete) then
      for (rowid, vals) in (← Exec.content).rowsOf t.name do
        match (← Exec.content).row? t.name rowid with
        | some now => Exec.ignoring (Exec.deleteRow triggerFuel t rowid now none)
        | none => discard (pure vals : Exec (List SqlValue))
    else
      Exec.record (.clearTable t.name)
      for i in s.indexesOf t.name do
        Exec.record (.clearIndex i.name)

/-- Create a field index over the documents of one collection, unless an index of that name
exists. -/
def createIndex (st : Statement) (name sql : String) : Exec Unit := do
  let s ← Exec.schema
  match s.table? "documents" with
  | none =>
    if (s.view? "documents").isSome then Exec.fail "views may not be indexed"
    else Exec.fail "no such table: main.documents"
  | some t =>
    if (s.table? name).isSome ∨ (s.view? name).isSome then
      Exec.fail ("there is already a table named " ++ name)
    if (s.index? name).isSome then return
    checkReads st t
    let d ← match parseDefinition sql with
      | .ok d => pure d
      | .error e => Exec.fail e.text
    let i ← match d with
      | .index c => match buildIndex c t 0 with
        | .ok i => pure i
        | .error msg => Exec.fail msg
      | _ => Exec.fail "not an index"
    Exec.beginWrite
    let mut keys : List (List SqlValue) := []
    for (rowid, vals) in (← Exec.content).rowsOf t.name do
      match ← Exec.ofEval (i.keyOf (← Exec.encoding) t rowid vals) with
      | some k => keys := keys ++ [k]
      | none => pure ()
    let enc := (← Exec.content).encoding
    let sorted := keys.mergeSort (fun a b => compareKeys enc i.order a b != .gt)
    Exec.record (.createIndex name sql d sorted)

/-- Create a table from its statement unless a table or view of its name exists. -/
def createTableIfMissing (name sql : String) : Exec Unit := do
  let s ← Exec.schema
  if s.hasRelation name then return
  if (s.index? name).isSome then Exec.fail ("there is already an index named " ++ name)
  match parseDefinition sql with
  | .ok d =>
    Exec.beginWrite
    Exec.record (.createTable name sql d)
  | .error e => Exec.fail e.text

/-- The stored text of the `documents` table definition. -/
def documentsSql : String :=
  "CREATE TABLE documents (\n        collection_id TEXT NOT NULL,\n        doc_id TEXT NOT NULL,\n" ++
  "        data TEXT NOT NULL,\n        PRIMARY KEY (collection_id, doc_id)\n    )"

/-- The stored text of the `files` table definition. -/
def filesSql : String :=
  "CREATE TABLE files (\n        path TEXT PRIMARY KEY,\n        data BLOB,\n        contentType TEXT,\n" ++
  "        size INTEGER,\n        updatedAt TEXT\n    )"

/-- The stored text of an index statement: the statement from the index's name on. -/
def storedIndexSql (name : String) (path : FieldPath) (coll : String) : String :=
  "CREATE INDEX \"" ++ name ++ "\" ON documents (" ++ path.expr ++ ") WHERE collection_id = " ++
    sqlLiteral coll

/-- The names of a view's columns: those it declares, or those of its query. -/
def viewColumns (tables : Tables) (v : View) : Eval (List String) := do
  if !v.columns.isEmpty then return v.columns
  return (← tables.query {} v.query).columns.map (·.1)

/-- Resolve the columns a statement names against a table or view, as the engine does when it
prepares the statement: the first one missing is an error before any row is read. -/
def resolveNames (tables : Tables) (name : String) (s : Statement) : Eval Unit := do
  let known ← match ← tables.relation name with
    | .table t => pure (t.columns.map (·.name))
    | .view v => tables.viewColumns v
  match s.reads.find? (fun (n, _) => !known.any (sameName · n)) with
  | some (n, k) => throw (.error (s.unknownColumn n k))
  | none => pure ()

/-- The table a reading statement reads. -/
def readTable : Statement → Option String
  | .selectDocuments _ _ _ _ | .exportDocuments | .countDocuments _ | .selectData => some "documents"
  | .selectFile => some "files"
  | _ => none

/-- Run a reading statement. -/
def read (tables : Tables) (s : Statement) (bs : List SqlValue) : Eval (List Row) := do
  match readTable s with
  | some name => tables.resolveNames name s
  | none => pure ()
  match s with
  | .selectDocuments fs keys tiebreak limited =>
    match ← tables.relation "documents" with
    | .table t => tables.selectFromTable t fs keys tiebreak limited bs
    | .view v => tables.selectFromView v fs keys tiebreak limited bs
  | .countDocuments fs => return [⟨[("count", .integer (← tables.countDocuments fs bs))]⟩]
  | .selectData =>
    let terms := [("collection_id", bindingAt bs 0), ("doc_id", bindingAt bs 1)]
    match ← tables.relation "documents" with
    | .table t => return (← tables.lookupRows t terms ["data"]).map (fun (_, vals) => resultRow ["data"] vals)
    | .view v => return (← tables.lookupView v terms ["data"]).map (resultRow ["data"])
  | .exportDocuments => tables.exportDocuments
  | .selectFile =>
    let terms := [("path", bindingAt bs 0)]
    match ← tables.relation "files" with
    | .table t => return (← tables.lookupRows t terms fileColumns).map (fun (_, vals) => resultRow fileColumns vals)
    | .view v => return (← tables.lookupView v terms fileColumns).map (resultRow fileColumns)
  | .configure j _ => return [⟨[("journal_mode", .ofString (lowerAscii j.sqlText))]⟩]
  | .quickCheck => return [⟨[("quick_check", .ofString "ok")]⟩]
  | _ => return []

/-- Run a writing statement. -/
def write (s : Statement) (bs : List SqlValue) : Exec Unit :=
  match s with
  | .upsertDocument =>
    insertInto "documents" documentColumns (bs.take 3) (some (["collection_id", "doc_id"], ["data"]))
  | .insertDocument => insertInto "documents" documentColumns (bs.take 3) none
  | .mergeDocument => mergeDocument s (bindingAt bs 0) (bindingAt bs 1) (bindingAt bs 2)
  | .deleteDocument =>
    deleteWhere s "documents" [("collection_id", bindingAt bs 0), ("doc_id", bindingAt bs 1)]
  | .deleteAllDocuments => deleteAll
  | .createIndex name path coll => createIndex s name (storedIndexSql name path coll)
  | .upsertFile =>
    insertInto "files" fileColumns (bs.take 5) (some (["path"], fileColumns.drop 1))
  | .deleteFile => deleteWhere s "files" [("path", bindingAt bs 0)]
  | .createSchema => do
    createTableIfMissing "documents" documentsSql
    createTableIfMissing "files" filesSql
  | _ => pure ()

/-- Run a writing statement to its end: a row a trigger ignored ends it early, and the counters
of `AUTOINCREMENT` tables that grew are saved last. -/
def writeAll (s : Statement) (bs : List SqlValue) : Exec Unit := do
  tryCatch (write s bs) (fun e => match e with
    | .ignore => pure ()
    | other => throw other)
  saveCounters

/-- Whether a statement writes. -/
def writes : Statement → Bool
  | .upsertDocument | .insertDocument | .mergeDocument | .deleteDocument | .deleteAllDocuments
  | .createIndex _ _ _ | .upsertFile | .deleteFile | .createSchema => true
  | _ => false

/-- Run one statement other than transaction control on a file that may only be read or not:
the content after it, the changes it made in order, and its rows. Bound text is conformed to
the database's encoding first, as the engine converts it when it is bound. -/
def execute (tables : Tables) (s : Statement) (bs : List SqlValue) (readOnly : Bool) :
    Except EngineFailure (Tables × List Change × List Row) :=
  -- Bound text takes the database's encoding before the statement reads it.
  let bs := bs.map tables.encoding.conformValue
  if writes s then
    let (r, w) := (writeAll s bs).run.run { tables, readOnly }
    match r with
    | .ok () => .ok (w.tables, w.changes.toList, [])
    | .error (.failure f) => .error f
    | .error .ignore => .ok (w.tables, w.changes.toList, [])
  else
    match tables.read s bs with
    | .ok rows => .ok (tables, [], rows)
    | .error (.failure f) => .error f
    | .error .ignore => .ok (tables, [], [])

end Tables

end DocStore
