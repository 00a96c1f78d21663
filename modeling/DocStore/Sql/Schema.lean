import DocStore.Sql.Parser
/-!
# The schema of a database

What the definitions of a database mean to the engine: tables with typed columns and
constraints, the indexes that keep their keys, views and triggers.

* A column's affinity comes from its declared type: a type containing `INT` is integer; `CHAR`,
  `CLOB` or `TEXT` make it text; `BLOB`, or no type at all, make it blob; `REAL`, `FLOA` or `DOUB`
  make it real; any other type is numeric. Only the last four characters seen matter at each
  step, and `INT` ends the scan.
* A `PRIMARY KEY` on one column of type `INTEGER` (not descending) makes that column the rowid.
  Any other primary key, and each `UNIQUE` constraint, is kept by an automatic index named
  `sqlite_autoindex_<table>_<n>`, where `n` counts the table's indexes so far; a constraint on
  the same columns with the same collations as an earlier one adds no index.
* The indexes of a table are visited newest first, which is the order in which a change
  reaches them.

Names of tables, indexes, views, triggers and columns are compared without ASCII case.
-/

namespace DocStore

namespace Sql

/-- The affinity of a column: the kind of value it prefers to store. -/
inductive Affinity where
  | blob
  | text
  | numeric
  | integer
  | real
deriving DecidableEq, Repr, Inhabited

/-- Whether an affinity is one of the numeric ones. -/
def Affinity.isNumeric : Affinity → Bool
  | .numeric | .integer | .real => true
  | _ => false

/-- ASCII lower case. -/
def lowerAscii (s : String) : String :=
  String.ofList (s.toList.map (fun c => if 'A' ≤ c ∧ c ≤ 'Z' then Char.ofNat (c.toNat + 32) else c))

/-- Do two names match, ignoring ASCII case? -/
def sameName (a b : String) : Bool := lowerAscii a == lowerAscii b

/-- The affinity of a declared type. -/
def affinityOf (typeName : String) : Affinity :=
  if typeName.isEmpty then .blob
  else
    let step (acc : Affinity × List Char × Bool) (c : Char) : Affinity × List Char × Bool :=
      let (aff, window, done) := acc
      if done then acc
      else
        let window := (window ++ [if 'A' ≤ c ∧ c ≤ 'Z' then Char.ofNat (c.toNat + 32) else c]).reverse.take 4 |>.reverse
        let last4 := String.ofList window
        let last3 := String.ofList (window.drop (window.length - 3))
        if last4 = "char" ∨ last4 = "clob" ∨ last4 = "text" then (.text, window, false)
        else if last4 = "blob" ∧ (aff = .numeric ∨ aff = .real) then (.blob, window, false)
        else if (last4 = "real" ∨ last4 = "floa" ∨ last4 = "doub") ∧ aff = .numeric then (.real, window, false)
        else if last3 = "int" then (.integer, window, true)
        else (aff, window, false)
    (typeName.toList.foldl step (.numeric, [], false)).1

/-- The exact type of a column of a strict table. -/
inductive StrictType where
  | any
  | blob
  | int
  | integer
  | real
  | text
deriving DecidableEq, Repr, Inhabited

/-- The strict type a declared type names, if it is one of the six. -/
def StrictType.ofName (n : String) : Option StrictType :=
  let u := upperAscii n
  if u = "ANY" then some .any
  else if u = "BLOB" then some .blob
  else if u = "INT" then some .int
  else if u = "INTEGER" then some .integer
  else if u = "REAL" then some .real
  else if u = "TEXT" then some .text
  else none

/-- The name of a strict type, as messages give it. -/
def StrictType.label : StrictType → String
  | .any => "ANY"
  | .blob => "BLOB"
  | .int => "INT"
  | .integer => "INTEGER"
  | .real => "REAL"
  | .text => "TEXT"

/-- A column of a table. -/
structure Column where
  name : String
  typeName : String
  affinity : Affinity
  strictType : Option StrictType := none
  notNull : Bool := false
  defaultValue : Option Expr := none
  /-- The text of the default, as written. -/
  defaultText : Option String := none
  collation : Collation := .binary
  /-- The expression of a generated column. -/
  generated : Option Expr := none
  /-- A generated column computed whenever it is read, which rows do not store. -/
  virtual : Bool := false
  primaryKey : Bool := false
deriving Repr, Inhabited

/-- What a term of an index key reads from a row. -/
inductive KeyColumn where
  | column (i : Nat)
  | rowid
  | expr (e : Expr)
deriving Repr, Inhabited

/-- A term of an index key. -/
structure KeyPart where
  column : KeyColumn
  collation : Collation := .binary
  desc : Bool := false
deriving Repr, Inhabited

/-- An index of a table. -/
structure Index where
  name : String
  table : String
  root : Nat := 0
  parts : List KeyPart
  unique : Bool
  condition : Option Expr := none
  /-- Made by a `PRIMARY KEY` or `UNIQUE` constraint of its table. -/
  automatic : Bool := false
  primaryKey : Bool := false
deriving Repr, Inhabited

/-- A table. -/
structure Table where
  name : String
  root : Nat := 0
  columns : List Column
  rowidAlias : Option Nat := none
  autoincrement : Bool := false
  strict : Bool := false
  withoutRowid : Bool := false
  /-- The primary key of a table without rowids, which orders its rows. -/
  keyParts : List KeyPart := []
  /-- The `CHECK` constraints, each with the name a failure reports. -/
  checks : List (String × Expr) := []
deriving Repr, Inhabited

/-- A view. -/
structure View where
  name : String
  columns : List String
  query : Select
deriving Repr, Inhabited

/-- A trigger. -/
structure Trigger where
  name : String
  table : String
  timing : TriggerTiming
  event : TriggerEvent
  condition : Option Expr
  steps : List TriggerStep
deriving Repr, Inhabited

/-- The objects of a database, each kind in the order of creation. -/
structure Schema where
  tables : List Table := []
  indexes : List Index := []
  views : List View := []
  triggers : List Trigger := []
  /-- Virtual tables, by name. -/
  virtuals : List String := []
deriving Repr, Inhabited

namespace Table

/-- The position of a column by name. -/
def columnIndex? (t : Table) (n : String) : Option Nat := t.columns.findIdx? (fun c => sameName c.name n)

/-- The column at a position. -/
def column? (t : Table) (i : Nat) : Option Column := t.columns[i]?

/-- The position of a column's value in a row's record: the columns before it that rows
store. -/
def storagePos (t : Table) (i : Nat) : Nat := ((t.columns.take i).filter (fun c => !c.virtual)).length

/-- The number of values a row's record holds. -/
def storedWidth (t : Table) : Nat := (t.columns.filter (fun c => !c.virtual)).length

end Table

/-- The key order of an index: the collation and direction of each term; the rowid after the
terms sorts ascending. -/
def Index.order (i : Index) : List (Collation × Bool) := i.parts.map (fun p => (p.collation, p.desc))

/-- The order of two keys under a key order, term by term, text in the order of the database's
encoding; a key that ends first is equal. -/
def compareKeys (enc : TextEncoding) : List (Collation × Bool) → List SqlValue → List SqlValue → Ordering
  | [], a :: as, b :: bs =>
    match SqlValue.compareIn enc .binary a b with
    | .eq => compareKeys enc [] as bs
    | o => o
  | (c, desc) :: os, a :: as, b :: bs =>
    let o := SqlValue.compareIn enc c a b
    let o := if desc then o.swap else o
    if o == .eq then compareKeys enc os as bs else o
  | _, _, _ => .eq

/-- The cells the engine's binary search over the cells of a page visits between the positions
`lwr` and `upr`, from `idx`, each with how it compares with the key. -/
def searchFrom {α : Type} (cmp : α → Ordering) (cells : Array α) :
    Nat → Nat → Nat → Nat → List (Nat × Ordering)
  | 0, _, _, _ => []
  | fuel + 1, idx, lwr, upr =>
    let c := match cells[idx]? with
      | some x => cmp x
      | none => .lt
    (idx, c) ::
      (if c == .eq then []
      else if c == .lt then
        if idx + 1 > upr then [] else searchFrom cmp cells fuel ((idx + 1 + upr) / 2) (idx + 1) upr
      else if idx = 0 ∨ lwr + 1 > idx then []
      else searchFrom cmp cells fuel ((lwr + idx - 1) / 2) lwr (idx - 1))

/-- The cells the engine's binary search over the cells of a page visits, in order, each with how
it compares with the key (`cmp` compares a cell with the key). It halves the positions left at
every step, so as many steps as cells are enough. -/
def searchPath {α : Type} (cmp : α → Ordering) (cells : Array α) : List (Nat × Ordering) :=
  if cells.isEmpty then []
  else searchFrom cmp cells cells.size ((cells.size - 1) / 2) 0 (cells.size - 1)

/-- Where the engine's binary search over the cells of a page stops: the cell and how it compares
with the key, or nothing when the page is empty. It stops at the first cell it meets that equals
the key; otherwise it ends beside the place where the key belongs, which in a page whose cells
are in order is next to the first cell not below the key. -/
def searchCells {α : Type} (cmp : α → Ordering) (cells : Array α) : Option (Nat × Ordering) :=
  (searchPath cmp cells).getLast?

namespace Schema

/-- The table of a name. -/
def table? (s : Schema) (n : String) : Option Table := s.tables.find? (fun t => sameName t.name n)

/-- The view of a name. -/
def view? (s : Schema) (n : String) : Option View := s.views.find? (fun v => sameName v.name n)

/-- The index of a name. -/
def index? (s : Schema) (n : String) : Option Index := s.indexes.find? (fun i => sameName i.name n)

/-- The trigger of a name. -/
def trigger? (s : Schema) (n : String) : Option Trigger := s.triggers.find? (fun t => sameName t.name n)

/-- The indexes of a table, newest first. -/
def indexesOf (s : Schema) (table : String) : List Index :=
  (s.indexes.filter (fun i => sameName i.table table)).reverse

/-- The triggers of a table. -/
def triggersOf (s : Schema) (table : String) : List Trigger :=
  s.triggers.filter (fun t => sameName t.table table)

/-- Replace the root of an index. -/
def setIndexRoot (s : Schema) (n : String) (root : Nat) : Schema :=
  { s with indexes := s.indexes.map (fun i => if sameName i.name n then { i with root } else i) }

end Schema

/-! ## Building the schema from definitions -/

/-- The collation of a name, or the error for an unknown one. -/
def collationOf (n : String) : Except String Collation :=
  match Collation.ofName n with
  | some c => .ok c
  | none => .error ("no such collation sequence: " ++ n)

/-- A key term that names a column: the column's position. -/
def termColumn (t : Table) (term : KeyTerm) : Option Nat :=
  match term.expr with
  | .column none n => t.columnIndex? n
  | .literal (.text n) => t.columnIndex? (Text.decodeLossy n)
  | _ => none

/-- The key parts of a constraint's terms, which must all name columns. -/
def constraintParts (t : Table) (terms : List KeyTerm) : Except String (List KeyPart) :=
  terms.mapM (fun term => do
    let named : Option String := match term.expr with
      | .column none n => some n
      | .literal (.text n) => some (Text.decodeLossy n)
      | _ => none
    match named with
    | some n =>
      match t.columnIndex? n with
      | some i =>
        let coll ← match term.collation with
          | some c => collationOf c
          | none => pure ((t.column? i).map (·.collation) |>.getD .binary)
        return ⟨.column i, coll, term.desc⟩
      | none => throw ("no such column: " ++ n)
    | none => throw "expressions prohibited in PRIMARY KEY and UNIQUE constraints")

/-- Add an automatic index for a constraint unless an earlier one covers the same columns with
the same collations. -/
def addConstraintIndex (t : Table) (acc : List Index) (parts : List KeyPart) (pk : Bool) : List Index :=
  let same (i : Index) : Bool :=
    i.parts.length = parts.length ∧
      (i.parts.zip parts).all (fun (a, b) => match a.column, b.column with
        | .column x, .column y => x = y ∧ a.collation = b.collation
        | _, _ => false)
  if acc.any same then
    acc.map (fun i => if same i ∧ pk then { i with primaryKey := true } else i)
  else
    acc ++ [{ name := "sqlite_autoindex_" ++ t.name ++ "_" ++ toString (acc.length + 1),
              table := t.name, parts, unique := true, automatic := true, primaryKey := pk }]

/-- Whether a declared type is exactly `INTEGER`, which makes a sole primary key column the
rowid. -/
def isIntegerType (typeName : String) : Bool := upperAscii typeName == "INTEGER"

/-- The table a table statement defines, with the automatic indexes of its constraints in the
order they were declared. -/
def buildTable (c : CreateTable) (root : Nat) : Except String (Table × List Index) := do
  let names := c.columns.map (fun col => lowerAscii col.name)
  for (n, k) in names.zipIdx do
    if (names.take k).contains n then
      throw ("duplicate column name: " ++ (c.columns[k]?.map (·.name)).getD n)
  let mut columns : List Column := []
  for spec in c.columns do
    let strictType := StrictType.ofName spec.typeName
    if c.strict ∧ strictType.isNone then
      if spec.typeName.isEmpty then throw ("missing datatype for " ++ c.name ++ "." ++ spec.name)
      else throw ("unknown datatype for " ++ c.name ++ "." ++ spec.name ++ ": \"" ++ spec.typeName ++ "\"")
    let affinity := if c.strict then
        match strictType with
        | some .any => .blob
        | some .blob => .blob
        | some .int | some .integer => .integer
        | some .real => .real
        | some .text => .text
        | none => affinityOf spec.typeName
      else affinityOf spec.typeName
    let declared : Option StrictType := if c.strict then strictType else none
    let mut col : Column := { name := spec.name, typeName := spec.typeName, affinity := affinity, strictType := declared }
    for (_, cc) in spec.constraints do
      match cc with
      | .notNull _ => col := { col with notNull := true }
      | .defaultValue e text => col := { col with defaultValue := some e, defaultText := some text }
      | .collate n => col := { col with collation := ← collationOf n }
      | .generated e stored => col := { col with generated := some e, virtual := !stored }
      | _ => pure ()
    columns := columns ++ [col]
  let base : Table := { name := c.name, root, columns, strict := c.strict, withoutRowid := c.withoutRowid }
  let mut t := base
  let mut indexes : List Index := []
  let mut hasKey := false
  let mut checks : List (String × Expr) := []
  for (spec, k) in c.columns.zipIdx do
    for (cname, cc) in spec.constraints do
      match cc with
      | .primaryKey desc _ auto =>
        if hasKey then throw ("table \"" ++ c.name ++ "\" has more than one primary key")
        hasKey := true
        t := { t with columns := t.columns.modify k (fun col => { col with primaryKey := true }) }
        if isIntegerType spec.typeName ∧ !desc ∧ !c.withoutRowid then
          t := { t with rowidAlias := some k, autoincrement := auto }
        else
          if auto then throw "AUTOINCREMENT is only allowed on an INTEGER PRIMARY KEY"
          let coll := (t.column? k).map (·.collation) |>.getD .binary
          indexes := addConstraintIndex t indexes [⟨.column k, coll, desc⟩] true
      | .unique _ =>
        let coll := (t.column? k).map (·.collation) |>.getD .binary
        indexes := addConstraintIndex t indexes [⟨.column k, coll, false⟩] false
      | .check e text => checks := checks ++ [(cname.getD text, e)]
      | _ => pure ()
  for (cname, tc) in c.constraints do
    match tc with
    | .primaryKey terms _ auto =>
      if hasKey then throw ("table \"" ++ c.name ++ "\" has more than one primary key")
      hasKey := true
      let parts ← constraintParts t terms
      for p in parts do
        match p.column with
        | .column i => t := { t with columns := t.columns.modify i (fun col => { col with primaryKey := true }) }
        | _ => pure ()
      match parts with
      | [⟨.column i, _, false⟩] =>
        if ((t.column? i).map (fun col => isIntegerType col.typeName)).getD false ∧ !c.withoutRowid then
          t := { t with rowidAlias := some i, autoincrement := auto }
        else
          if auto then throw "AUTOINCREMENT is only allowed on an INTEGER PRIMARY KEY"
          indexes := addConstraintIndex t indexes parts true
      | _ =>
        if auto then throw "AUTOINCREMENT is only allowed on an INTEGER PRIMARY KEY"
        indexes := addConstraintIndex t indexes parts true
    | .unique terms _ =>
      let parts ← constraintParts t terms
      indexes := addConstraintIndex t indexes parts false
    | .check e text => checks := checks ++ [(cname.getD text, e)]
    | .foreignKey _ _ => pure ()
  if c.withoutRowid ∧ !hasKey then throw ("PRIMARY KEY missing on table " ++ c.name)
  if c.strict ∨ c.withoutRowid then
    t := { t with columns := t.columns.map (fun col =>
      if col.primaryKey then { col with notNull := true } else col) }
  if !c.withoutRowid then return ({ t with checks }, indexes)
  let dedup (ps : List KeyPart) : List KeyPart :=
    ps.foldl (fun acc p => match p.column with
      | .column k => if acc.any (fun q => match q.column with
          | .column j => j == k
          | _ => false) then acc else acc ++ [p]
      | _ => acc ++ [p]) []
  let keyParts := dedup (((indexes.find? (·.primaryKey)).map (·.parts)).getD [])
  let keyed := indexes.map (fun i => if i.primaryKey then { i with root, parts := keyParts } else i)
  return ({ t with checks, keyParts }, keyed)

/-- The key parts of an index statement's terms: columns by name, the rowid, or expressions. -/
def indexParts (t : Table) (terms : List KeyTerm) : Except String (List KeyPart) :=
  terms.mapM (fun term => do
    let column : KeyColumn := match termColumn t term with
      | some i => .column i
      | none => match term.expr with
        | .column none n =>
          if ["rowid", "oid", "_rowid_"].contains (lowerAscii n) then .rowid else .expr term.expr
        | e => .expr e
    match column, term.expr with
    | .expr _, .column none n => throw ("no such column: " ++ n)
    | _, _ => pure ()
    let coll ← match term.collation, column with
      | some c, _ => collationOf c
      | none, .column i => pure ((t.column? i).map (·.collation) |>.getD .binary)
      | none, _ => pure .binary
    return ⟨column, coll, term.desc⟩)

/-- Whether a name an index expression reads is a column of its table, or its rowid. -/
def Table.names (t : Table) (n : String) : Bool :=
  (t.columnIndex? n).isSome || (!t.withoutRowid && ["rowid", "oid", "_rowid_"].contains (lowerAscii n))

/-- The index an index statement defines on a table. The names its condition reads are resolved
first, then those of its terms in order. -/
def buildIndex (c : CreateIndex) (t : Table) (root : Nat) : Except String Index := do
  let resolve (e : Expr) : Except String Unit := do
    for n in e.columnsRead 1000 do
      if !t.names n then throw ("no such column: " ++ n)
  for e in c.condition.toList do resolve e
  for term in c.terms do
    match term.expr with
    | .literal _ => pure ()
    | e => resolve e
  let parts ← indexParts t c.terms
  return { name := c.name, table := t.name, root, parts, unique := c.unique, condition := c.condition }

namespace Schema

/-- Whether a name is taken by a table or a view. -/
def hasRelation (s : Schema) (n : String) : Bool :=
  (s.table? n).isSome ∨ (s.view? n).isSome ∨ s.virtuals.any (sameName · n)

/-- Add the object a definition creates, at a root page; the engine's message when the
definition conflicts with the schema. -/
def add (s : Schema) (d : Definition) (root : Nat) : Except String Schema := do
  let relationCheck (n : String) : Except String Unit := do
    if (s.view? n).isSome then throw ("view " ++ n ++ " already exists")
    if s.hasRelation n then throw ("table " ++ n ++ " already exists")
    if (s.index? n).isSome then throw ("there is already an index named " ++ n)
  match d with
  | .table c =>
    relationCheck c.name
    let (t, idx) ← buildTable c root
    return { s with tables := s.tables ++ [t], indexes := s.indexes ++ idx }
  | .virtual n _ =>
    relationCheck n
    return { s with virtuals := s.virtuals ++ [n] }
  | .view v =>
    relationCheck v.name
    return { s with views := s.views ++ [⟨v.name, v.columns, v.query⟩] }
  | .index c =>
    match s.table? c.table with
    | none =>
      if (s.view? c.table).isSome then throw "views may not be indexed"
      if s.virtuals.any (sameName · c.table) then throw "virtual tables may not be indexed"
      throw ("no such table: main." ++ c.table)
    | some t =>
      if (s.index? c.name).isSome then throw ("index " ++ c.name ++ " already exists")
      let i ← buildIndex c t root
      return { s with indexes := s.indexes ++ [i] }
  | .trigger c =>
    if !s.hasRelation c.table then throw ("no such table: main." ++ c.table)
    if (s.trigger? c.name).isSome then throw ("trigger " ++ c.name ++ " already exists")
    let tableName := ((s.table? c.table).map (·.name)).getD (((s.view? c.table).map (·.name)).getD c.table)
    return { s with triggers := s.triggers ++
      [⟨c.name, tableName, c.timing, c.event, c.condition, c.steps⟩] }

end Schema

end Sql

end DocStore
