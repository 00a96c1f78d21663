import DocStore.Image.Row
import DocStore.Sql.Tables
/-!
# The catalog of an image

The schema table on page 1 lists every table, index, view and trigger with its root page and
the statement that created it. Loading the catalog reads its rows in rowid order and replays
each statement into a `Schema`:

* a row without a root page is malformed;
* a statement starting with `cr` (either case) is replayed; its root page must be a decimal
  number no larger than the image's page count, the object it creates must match the type, name
  and table columns of its row, and it must not clash with the objects before it;
* an index row without a statement belongs to an index that a table's constraints made; it must
  name such an index, on a root page between 2 and the page count that no other index of the
  table uses;
* any other row with a statement, or without a name, is malformed.

A table statement is judged by its name before its columns are read, as the engine does: a name
that does not match its row or clashes with another object fails before any error in the rest
of the statement.

The first problem names the row ("malformed database schema (name)", with what went wrong after
a dash) and later problems keep that message; a row that cannot be read ends the loading, and
when no row was malformed the read fault is the error. A header that declares a file format
above 4 cannot be loaded at all; the engine keeps only the low byte of that number.
-/

namespace DocStore

namespace Image

open Sql

/-- The name of the schema table. -/
def schemaTableName : String := "sqlite_master"

/-- A column of the schema table. -/
def schemaColumn (n ty : String) : Column := { name := n, typeName := ty, affinity := affinityOf ty }

/-- The schema table itself. -/
def schemaTable : Table :=
  { name := schemaTableName, root := 1,
    columns := [schemaColumn "type" "text", schemaColumn "name" "text", schemaColumn "tbl_name" "text",
      schemaColumn "rootpage" "int", schemaColumn "sql" "text"] }

/-- The schema of a file that holds nothing but the schema table. -/
def emptySchema : Schema := { tables := [schemaTable] }

/-- The page number a root-page text holds: decimal digits only, at most `2 ^ 32`, where
`2 ^ 32` itself wraps to 0. -/
def rootNumber (text : List UInt8) : Option Nat :=
  if text.isEmpty ∨ !text.all (fun b => 48 ≤ b.toNat ∧ b.toNat ≤ 57) then none
  else
    let v := text.foldl (fun (acc : Option Nat) b => acc.bind (fun n =>
      let n := n * 10 + (b.toNat - 48)
      if n > 4294967296 then none else some n)) (some 0)
    v.map (· % 4294967296)

/-- The state of catalog loading: the schema so far and the first problem. -/
structure Loading where
  schema : Schema
  message : Option String

namespace Loading

/-- Record a malformed row, unless a problem was recorded before. -/
def malformed (st : Loading) (name : Option (List UInt8)) (extra : String) : Loading :=
  match st.message with
  | some _ => st
  | none =>
    let obj := match name with
      | some n => Text.decodeLossy n
      | none => "?"
    let text := "malformed database schema (" ++ obj ++ ")" ++ (if extra = "" then "" else " - " ++ extra)
    { st with message := some text }

/-- The definition a statement makes, or the engine's error for it. -/
def definitionOf (sql : String) : Except String Definition := (parseDefinition sql).mapError ParseError.text

/-- Replay a statement for a row with the given type, name and table columns, on a root page;
the error text of a failed replay (empty when the row itself is to blame). -/
def replay (st : Loading) (sql : String) (tnum : Nat) (argv : List (Option (List UInt8))) :
    Except String Loading := do
  let cell (i : Nat) : Option String := (argv.getD i none).map Text.decodeLossy
  let matches3 (type name table : String) : Bool :=
    (cell 0).any (sameName type) && (cell 1).any (sameName name) && (cell 2).any (sameName table)
  let s := st.schema
  match tableHeader sql with
  | some (token, n, ine, opens) =>
    if !opens then discard (definitionOf sql)
    let name := if tnum = 1 then schemaTableName else n
    if !matches3 "table" name name then throw ""
    if s.hasRelation name then
      if ine then return st
      throw ((if (s.view? name).isSome then "view " else "table ") ++ token ++ " already exists")
    if (s.index? name).isSome then throw ("there is already an index named " ++ name)
    match ← definitionOf sql with
    | .table c =>
      let (t, idx) ← buildTable { c with name } tnum
      return { st with schema := { s with tables := s.tables ++ [t], indexes := s.indexes ++ idx } }
    | _ => throw ""
  | none =>
    match ← definitionOf sql with
    | .table _ => throw ""
    | .virtual n _ =>
      if !matches3 "table" n n then throw ""
      if s.hasRelation n then throw ("table " ++ n ++ " already exists")
      return { st with schema := { s with virtuals := s.virtuals ++ [n] } }
    | .view v =>
      if !matches3 "view" v.name v.name then throw ""
      if s.hasRelation v.name then
        if v.ifNotExists then return st
        throw ((if (s.view? v.name).isSome then "view " else "table ") ++ v.name ++ " already exists")
      if (s.index? v.name).isSome then throw ("there is already an index named " ++ v.name)
      return { st with schema := { s with views := s.views ++ [⟨v.name, v.columns, v.query⟩] } }
    | .index c =>
      match s.table? c.table with
      | none =>
        if (s.view? c.table).isSome then throw "views may not be indexed"
        if s.virtuals.any (sameName · c.table) then throw "virtual tables may not be indexed"
        throw ("no such table: main." ++ c.table)
      | some t =>
        if !matches3 "index" c.name t.name then throw ""
        if (s.index? c.name).isSome then
          if c.ifNotExists then return st
          throw ("index " ++ c.name ++ " already exists")
        let i ← buildIndex c t tnum
        if (s.indexesOf t.name).any (·.root == tnum) then throw "invalid rootpage"
        return { st with schema := { s with indexes := s.indexes ++ [i] } }
    | .trigger c =>
      let target : Option (String × Bool) := match s.table? c.table with
        | some t => some (t.name, false)
        | none => (s.view? c.table).map (fun v => (v.name, true))
      match target with
      | none =>
        if s.virtuals.any (sameName · c.table) then throw "cannot create triggers on virtual tables"
        throw ("no such table: main." ++ c.table)
      | some (tableName, isView) =>
        if !matches3 "trigger" c.name tableName then throw ""
        if (s.trigger? c.name).isSome then
          if c.ifNotExists then return st
          throw ("trigger " ++ c.name ++ " already exists")
        if isView ∧ c.timing ≠ .insteadOf then
          throw ("cannot create " ++ (if c.timing = .before then "BEFORE" else "AFTER") ++
            " trigger on view: main." ++ tableName)
        if !isView ∧ c.timing = .insteadOf then
          throw ("cannot create INSTEAD OF trigger on table: main." ++ tableName)
        return { st with schema := { s with triggers := s.triggers ++
          [⟨c.name, tableName, c.timing, c.event, c.condition, c.steps⟩] } }

/-- Record the root page of an index a table's constraints made, from its row. -/
def takeKeyIndex (st : Loading) (mxPage : Nat) (name : Option (List UInt8)) (rootText : List UInt8) :
    Loading :=
  let n := Text.decodeLossy (name.getD [])
  match st.schema.index? n with
  | none => st.malformed name "orphan index"
  | some i =>
    let tnum := rootNumber rootText
    let root := tnum.getD 0
    let st' := { st with schema := st.schema.setIndexRoot n root }
    let duplicate := (st.schema.indexesOf i.table).any (fun j => !sameName j.name n ∧ j.root = root)
    if tnum.isNone ∨ root < 2 ∨ root > mxPage ∨ duplicate then st'.malformed name "invalid rootpage"
    else st'

/-- Take one row of the schema table: its type, name, table, root page and statement, each
as the text the row holds up to its first NUL character, as the engine reads them. -/
def take (mxPage : Nat) (st : Loading) (argv : List (Option (List UInt8))) : Loading :=
  let argv := argv.map (·.map (·.takeWhile (· ≠ 0)))
  let name := argv.getD 1 none
  let root := argv.getD 3 none
  let sql := argv.getD 4 none
  match root, sql with
  | none, _ => st.malformed name ""
  | some rootText, some sqlBytes =>
    if (sqlBytes.getD 0 0).toNat ∈ [99, 67] ∧ (sqlBytes.getD 1 0).toNat ∈ [114, 82] then
      let tnum := rootNumber rootText
      let st := if tnum.isNone ∨ (tnum.getD 0 > mxPage ∧ mxPage > 0) then
        st.malformed name "invalid rootpage" else st
      match st.replay (Text.decodeLossy sqlBytes) (tnum.getD 0) argv with
      | .ok st => st
      | .error why => st.malformed name why
    else if name.isNone ∨ !sqlBytes.isEmpty then st.malformed name ""
    else st.takeKeyIndex mxPage name rootText
  | some rootText, none =>
    if name.isNone then st.malformed name "" else st.takeKeyIndex mxPage name rootText

end Loading

namespace Geometry

/-- Load the schema of an opened image. -/
def catalog (g : Geometry) : Except Fault Schema := do
  if g.pages > 0 ∧ g.headerNumber 44 % 256 > 4 then throw (.schema "unsupported file format")
  let (entries, scanFault) := g.scan true 1
  let start : Loading := ⟨emptySchema, none⟩
  let step (acc : Loading × Option Fault) (e : Entry) : Loading × Option Fault :=
    match acc with
    | (st, some f) => (st, some f)
    | (st, none) =>
      match g.columns e 5 with
      | .error f => (st, some f)
      | .ok vals => (st.take g.pages (vals.map (Stored.textBytes g.encoding)), none)
  let (st, fault) := entries.foldl step (start, none)
  let fault := match fault with
    | some f => some f
    | none => scanFault
  match st.message, fault with
  | some text, _ => throw (.schema text)
  | none, some f => throw f
  | none, none => return st.schema

end Geometry

end Image

end DocStore
