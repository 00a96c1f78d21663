import DocStore.Sql.Eval
/-!
# Changing rows

The writes every statement is made of, in the order the engine makes them:

* a new row is checked column by column for `NOT NULL`, then against its `CHECK` constraints,
  then against the unique indexes of its table (an upsert's target first, then newest first),
  then against the types of a `STRICT` table; its keys go into the indexes newest first, and
  the row last;
* a changed row is checked the same way for the columns it changes; the indexes whose keys read
  a changed column lose the old key and take the new one, and the row is written over;
* a deleted row leaves every index but the one the statement found it through, then the table,
  then that index.

Triggers run before and after each row's change, newest first; a trigger does not fire while it
runs. Their bodies update, insert, delete and select with the same writes. `RAISE(IGNORE)`
abandons the change of the current row and the triggers still to run for it, keeping what was
done so far; that is why a failure of `Exec` keeps the state it reached.
-/

namespace DocStore

open Sql

/-- The rowid counter of an `AUTOINCREMENT` table during a statement: the largest rowid the
statement has given out or met, the value `sqlite_sequence` held when the statement began, and
the row of `sqlite_sequence` that holds it, if any. -/
structure Counter where
  largest : Int
  start : Int
  row : Option Int
deriving Repr, Inhabited

/-- A statement at work: the content as changed so far, the changes made in order, the
triggers running, innermost first, whether the file may only be read, and the counters of the
`AUTOINCREMENT` tables it inserted into, which it saves when it ends. -/
structure Work where
  tables : Tables
  changes : Array Change := #[]
  running : List String := []
  readOnly : Bool := false
  counters : List (String × Counter) := []

/-- The failure of a write to a file that may only be read. -/
def readOnlyFailure : EngineFailure := engineError .readOnly "attempt to write a readonly database"

/-- A step of a statement; a failure keeps the state it reached. -/
abbrev Exec := ExceptT Stop (StateM Work)

namespace Exec

/-- Run an evaluation. -/
def ofEval {α : Type} (r : Eval α) : Exec α :=
  match r with
  | .ok a => pure a
  | .error e => throw e

/-- Fail with the engine's error text. -/
def fail {α : Type} (text : String) : Exec α := throw (Stop.error text)

/-- The content as changed so far. -/
def content : Exec Tables := do return (← get).tables

/-- The schema. -/
def schema : Exec Schema := do return (← get).tables.schema

/-- The encoding of the database's text. -/
def encoding : Exec TextEncoding := do return (← get).tables.encoding

/-- The truth of a condition over the content as changed so far. -/
def holds (sc : Scope) (c : Expr) : Exec (Option Bool) := do ofEval ((← content).holds sc c)

/-- The value of an expression over the content as changed so far. -/
def value (sc : Scope) (e : Expr) : Exec SqlValue := do ofEval ((← content).eval sc e)

/-- Make one change. -/
def record (c : Change) : Exec Unit := do
  let w ← get
  match w.tables.apply c with
  | .ok t => set { w with tables := t, changes := w.changes.push c }
  | .error f => throw (.failure f)

/-- Start writing, once the statement is known to be sound: a file that may only be read
refuses it. -/
def beginWrite : Exec Unit := do
  if (← get).readOnly then throw (.failure readOnlyFailure)

/-- Run the change of one row; `RAISE(IGNORE)` ends it quietly. -/
def ignoring (x : Exec Unit) : Exec Unit :=
  tryCatch x (fun e => match e with
    | .ignore => pure ()
    | other => throw other)

/-- The table of a name; a view cannot be changed. -/
def writableTable (name : String) : Exec Table := do
  let s ← schema
  match s.table? name with
  | some t => return t
  | none =>
    match s.view? name with
    | some v => fail ("cannot modify " ++ v.name ++ " because it is a view")
    | none => fail ("no such table: " ++ name)

end Exec

open Exec

/-- Whether an expression reads one of the named columns. -/
def readsAny (e : Expr) (names : List String) : Bool :=
  (e.columnsRead 1000).any (fun n => names.any (sameName n))

namespace Sql.Table

/-- The names of columns by position. -/
def namesOf (t : Table) (ks : List Nat) : List String :=
  ks.filterMap (fun k => (t.column? k).map (·.name))

/-- The columns an update changes: those it sets, and the generated columns that read a
changed one. -/
def changedWith (t : Table) (changed : List Nat) : List Nat :=
  (List.range t.columns.length).foldl (fun acc _ =>
    acc ++ t.columns.zipIdx.filterMap (fun (c, k) => match c.generated with
      | some e => if !acc.contains k && readsAny e (t.namesOf acc) then some k else none
      | none => none)) changed

/-- A row as a trigger sees it, as `new` or `old`. -/
def triggerFrame (t : Table) (name : String) (rowid : Int) (cols : List SqlValue) : Frame :=
  { name, columns := t.frameColumns, values := cols, rowid := some rowid, qualifiedOnly := true }

/-- The values of a row's columns as a statement computes them: the record read through the
columns (see `columnValues`). -/
def valuesOf (t : Table) (enc : TextEncoding) (rowid : Int) (vals : List SqlValue) : List SqlValue :=
  t.columnValues enc rowid vals

end Sql.Table

namespace Sql.Index

/-- Whether a change of the named columns can change an index's keys. -/
def reads (i : Index) (t : Table) (names : List String) : Bool :=
  i.parts.any (fun p => match p.column with
    | .column k => (t.namesOf [k]).any (fun n => names.any (sameName n))
    | .rowid => false
    | .expr e => readsAny e names) ||
  (i.condition.map (fun c => readsAny c names)).getD false

/-- The text naming an index's columns in a uniqueness failure. -/
def conflictText (i : Index) (t : Table) : String :=
  if i.parts.any (fun p => match p.column with | .expr _ => true | _ => false) then
    "index '" ++ i.name ++ "'"
  else
    ", ".intercalate (i.parts.map (fun p => match p.column with
      | .column k => t.name ++ "." ++ ((t.column? k).map (·.name)).getD ""
      | _ => t.name ++ ".rowid"))

end Sql.Index

/-- The name a storage class has in a type failure of a `STRICT` table. -/
def strictValueName : SqlValue → String
  | .null => "NULL"
  | .integer _ => "INT"
  | .real _ => "REAL"
  | .text _ => "TEXT"
  | .blob _ => "BLOB"

/-- Whether a `STRICT` column of a type accepts a value (after the column's affinity). -/
def Sql.StrictType.accepts : StrictType → SqlValue → Bool
  | _, .null => true
  | .any, _ => true
  | .int, .integer _ => true
  | .integer, .integer _ => true
  | .real, .real _ => true
  | .real, .integer _ => true
  | .text, .text _ => true
  | .blob, .blob _ => true
  | _, _ => false

/-- Whether a trigger's event fires for a change: an update trigger with columns fires for the
updates of one of them. -/
def Sql.TriggerEvent.fires : TriggerEvent → TriggerEvent → Bool
  | .insert, .insert => true
  | .delete, .delete => true
  | .update cols, .update changed => cols.isEmpty || cols.any (fun c => changed.any (sameName c))
  | _, _ => false

/-- The rowid a new row takes: the one after the largest, or 1 in an empty table. -/
def nextRowid (rs : RowList) : Int :=
  match rs with
  | [] => 1
  | (r, _) :: rest => rest.foldl (fun m (r', _) => max m r') r + 1

/-- The name of the table that keeps the counters of `AUTOINCREMENT` tables. -/
def sequenceTable : String := "sqlite_sequence"

/-- The counter of an `AUTOINCREMENT` table: the statement's own, or the one `sqlite_sequence`
holds (its first row naming the table, 0 when none does). The table must exist with two
columns, or the schema is corrupt. -/
def counterOf (t : Table) : Exec Counter := do
  match (← get).counters.lookup t.name with
  | some c => return c
  | none =>
    match (← schema).tables.find? (·.name == sequenceTable) with
    | some seqTable =>
      if seqTable.columns.length ≠ 2 ∨ seqTable.withoutRowid then throw (.failure corruptFailure)
      let rows := (← content).rowsOf sequenceTable
      match rows.find? (fun (_, vals) => vals.head? == some (.ofString t.name)) with
      | some (r, vals) =>
        let seq := intValue (vals.getD 1 .null)
        return { largest := seq, start := seq, row := some r }
      | none => return { largest := 0, start := 0, row := none }
    | none => throw (.failure corruptFailure)

/-- Keep a statement's counter of a table. -/
def setCounter (t : Table) (c : Counter) : Exec Unit :=
  modify (fun w => { w with counters := (t.name, c) :: w.counters.filter (·.1 != t.name) })

/-- At the end of a statement, write each counter that grew to `sqlite_sequence`: over the row
that held it, or as a new row. -/
def saveCounters : Exec Unit := do
  for (name, c) in (← get).counters.reverse do
    if c.largest > c.start then
      let vals := [SqlValue.ofString name, .integer c.largest]
      match c.row with
      | some r => record (.overwriteRow sequenceTable r vals)
      | none => record (.insertRow sequenceTable (nextRowid ((← content).rowsOf sequenceTable)) vals)

/-- How an insert meets a row it conflicts with on a unique index. -/
structure Upsert where
  /-- The unique index the conflict target names. -/
  target : Index
  /-- The columns `DO UPDATE` sets, each with its expression over the existing row and
  `excluded`; none for `DO NOTHING`. -/
  sets : Option (List (Nat × Expr))

namespace Exec

/-- Check the values of a row (its columns, affinity applied) against `NOT NULL` and `CHECK`;
only the listed columns when it is a changed row. -/
def checkRow (t : Table) (rowid : Int) (cols : List SqlValue) (changed : Option (List Nat)) :
    Exec Unit := do
  for (c, k) in t.columns.zipIdx do
    let considered := match changed with
      | some ks => ks.contains k
      | none => true
    if considered && c.notNull && t.rowidAlias != some k && cols.getD k .null == .null then
      throw (.failure (engineError .constraint ("NOT NULL constraint failed: " ++ t.name ++ "." ++ c.name)))
  let sc : Scope := { frames := [{ t.frame (← encoding) t.name rowid [] with values := cols }] }
  for (name, e) in t.checks do
    let considered := match changed with
      | some ks => readsAny e (t.namesOf ks)
      | none => true
    if considered then
      if (← holds sc e) == some false then
        throw (.failure (engineError .constraint ("CHECK constraint failed: " ++ name)))

/-- Check the values of a `STRICT` table's row against the types of its columns. -/
def checkTypes (t : Table) (cols : List SqlValue) : Exec Unit := do
  if !t.strict then return
  for (c, k) in t.columns.zipIdx do
    match c.strictType with
    | some ty =>
      let v := cols.getD k .null
      if !ty.accepts v then
        throw (.failure (engineError .constraint ("cannot store " ++ strictValueName v ++ " value in " ++
          ty.label ++ " column " ++ t.name ++ "." ++ c.name)))
    | none => pure ()

/-- The rowid of a row that holds the same key as a row in a unique index, if the engine's
lookup finds one; a row being changed (`updating`) does not conflict with its own entry. -/
def conflictIn (i : Index) (t : Table) (rowid : Int) (vals : List SqlValue) (updating : Bool) :
    Exec (Option Int) := do
  match ← ofEval (i.keyOf (← encoding) t rowid vals) with
  | none => return none
  | some k =>
    let cols := k.take i.parts.length
    if cols.any (· == .null) then return none
    match findEntry (← content).encoding i.order ((← content).keysOf i.name) cols with
    | some e => match e.getLast? with
      | some (.integer r) => return if updating && r == rowid then none else some r
      | _ => return none
    | none => return none

/-- Whether an index is the primary key that holds the rows of a table without rowids. -/
def holdsRows (t : Table) (i : Index) : Bool := t.withoutRowid && i.primaryKey

/-- Put a row's keys into its table's indexes, newest first, then the row. A table without
rowids keeps its rows in its primary key's tree, so the row goes in at that index's turn. -/
def putRow (t : Table) (rowid : Int) (vals : List SqlValue) : Exec Unit := do
  let indexes := (← schema).indexesOf t.name
  for i in indexes do
    match ← ofEval (i.keyOf (← encoding) t rowid vals) with
    | some k => record (.insertKey i.name k)
    | none => pure ()
    if holdsRows t i then record (.insertRow t.name rowid vals)
  if !indexes.any (holdsRows t) then record (.insertRow t.name rowid vals)

/-- Take a row out: its keys from every index but the one it was found through, newest first;
the row; then the entry it was found by, where the statement stands on it. -/
def dropRow (t : Table) (rowid : Int) (vals : List SqlValue) (found : Option (String × List SqlValue)) :
    Exec Unit := do
  let indexes := (← schema).indexesOf t.name
  let through (i : Index) : Bool := found.any (fun f => sameName f.1 i.name)
  for i in indexes do
    if through i || holdsRows t i then continue
    match ← ofEval (i.keyOf (← encoding) t rowid vals) with
    | some k => record (.deleteKey i.name k)
    | none => pure ()
  record (.deleteRow t.name rowid vals)
  for i in indexes.filter (fun i => holdsRows t i && !through i) do
    match ← ofEval (i.keyOf (← encoding) t rowid vals) with
    | some k => record (.deleteKey i.name k)
    | none => pure ()
  match found with
  | some (n, k) => record (.dropKey n k)
  | none => pure ()

/-- Write a changed row over its old one: the indexes that read a changed column lose the old
key and take the new one, then the row is written. In a table without rowids the row is written
in its primary key's turn among the indexes, and a change of the primary key moves the row,
changing every index. -/
def rewriteRow (t : Table) (rowid : Int) (old new : List SqlValue) (changed : List Nat) : Exec Unit := do
  let names := t.namesOf changed
  let indexes := (← schema).indexesOf t.name
  let keyChanged := t.withoutRowid && t.keyParts.any (fun p => match p.column with
    | .column k => changed.contains k
    | _ => false)
  let affected := indexes.filter (fun i => keyChanged || holdsRows t i || i.reads t names)
  for i in affected do
    if holdsRows t i then continue
    match ← ofEval (i.keyOf (← encoding) t rowid old) with
    | some k => record (.deleteKey i.name k)
    | none => pure ()
  if keyChanged then
    record (.deleteRow t.name rowid old)
    for i in indexes.filter (holdsRows t) do
      match ← ofEval (i.keyOf (← encoding) t rowid old) with
      | some k => record (.deleteKey i.name k)
      | none => pure ()
  for i in affected do
    if holdsRows t i && !keyChanged then
      record (.overwriteRow t.name rowid new)
      continue
    match ← ofEval (i.keyOf (← encoding) t rowid new) with
    | some k => record (.insertKey i.name k)
    | none => pure ()
    if holdsRows t i then record (.insertRow t.name rowid new)
  if !indexes.any (holdsRows t) then record (.overwriteRow t.name rowid new)

/-- The triggers of a table that fire at a timing for an event, newest first, leaving out those
running. -/
def firing (t : Table) (timing : TriggerTiming) (event : TriggerEvent) : Exec (List Trigger) := do
  let w ← get
  return ((w.tables.schema.triggersOf t.name).reverse.filter (fun g =>
    g.timing == timing && !w.running.any (sameName g.name) && g.event.fires event))

/-- Apply the conversions of a column to a value given for it. -/
def columnValue (c : Column) (v : SqlValue) : SqlValue := applyAffinity c.affinity v

/-- A view as the subject of its `INSTEAD OF` triggers: a table of the view's columns, each
with the affinity and collation its query gives it (no affinity reads as `BLOB`). -/
def viewSubject (name : String) (cols : List (String × Option Affinity × Collation)) : Table :=
  { name, columns := cols.map (fun (n, a, c) =>
      ({ name := n, typeName := "", affinity := a.getD .blob, collation := c } : Column)) }

/-- A row of a view as expressions see it: its values as the view gives them. -/
def viewFrame (subject : Table) (name : String) (rowid : Int) (vals : List SqlValue) : Frame :=
  { name, columns := subject.frameColumns, values := vals, rowid := some rowid }

/-- What a write names: a table, or a view whose `INSTEAD OF` triggers take the write, with the
view as their subject and the view's rows, numbered from 1 in order. -/
inductive Target where
  | table (t : Table)
  | view (subject : Table) (rows : List (Int × List SqlValue))

/-- The target of a write for an event: a view without an `INSTEAD OF` trigger for the event
cannot be changed. -/
def target (name : String) (event : TriggerEvent) : Exec Target := do
  let s ← schema
  match s.table? name with
  | some t => return .table t
  | none =>
    match s.view? name with
    | some v =>
      if !(s.triggersOf v.name).any (fun g => g.timing == .insteadOf && g.event.fires event) then
        fail ("cannot modify " ++ v.name ++ " because it is a view")
      let r ← ofEval ((← content).query {} v.query)
      let names := if v.columns.isEmpty then r.columns.map (·.1) else v.columns
      let subject := viewSubject v.name ((names.zip r.columns).map (fun (n, c) => (n, c.2)))
      return .view subject (r.rows.zipIdx.map (fun (vals, k) => ((k : Int) + 1, vals)))
    | none => fail ("no such table: " ++ name)

/-- The positions of columns a write names, or the engine's error for the first missing. -/
def positionsOf (t : Table) (names : List String) (missing : String → String) : Exec (List Nat) :=
  names.mapM (fun n => match t.columnIndex? n with
    | some k => pure k
    | none => fail (missing n))

/-- The new row of a view's `INSTEAD OF INSERT` triggers: the given values, unconverted, and
NULL for the other columns. -/
def viewInsertRow (subject : Table) (given : List (Nat × SqlValue)) : List SqlValue :=
  subject.columns.zipIdx.map (fun (_, k) => ((given.find? (·.1 == k)).map (·.2)).getD .null)

mutual

/-- Fire the triggers of a table for the change of one row, with its old and new values. -/
def fire : Nat → Table → TriggerTiming → TriggerEvent → Option (Int × List SqlValue) →
    Option (Int × List SqlValue) → Exec Unit
  | 0, _, _, _, _, _ => fail "too many levels of trigger recursion"
  | fuel + 1, t, timing, event, old, new => do
    for g in ← firing t timing event do
      let frames := (new.map (fun (r, cs) => t.triggerFrame "new" r cs)).toList ++
        (old.map (fun (r, cs) => t.triggerFrame "old" r cs)).toList
      let sc : Scope := { frames }
      let go ← match g.condition with
        | some c => do pure ((← holds sc c) == some true)
        | none => pure true
      if go then
        modify (fun w => { w with running := g.name :: w.running })
        let outcome ← tryCatch (do
            for step in g.steps do
              runStep fuel sc step
            pure none)
          (fun e => pure (some e))
        modify (fun w => { w with running := w.running.drop 1 })
        match outcome with
        | some e => throw e
        | none => pure ()

/-- Run one step of a trigger's body. -/
def runStep : Nat → Scope → TriggerStep → Exec Unit
  | 0, _, _ => fail "too many levels of trigger recursion"
  | fuel + 1, sc, step => do
    match step with
    | .select q => discard (ofEval ((← content).query sc q))
    | .update name action sets cond =>
      let names := sets.map (fun (ns, _) => ns.headD "")
      match ← target name (.update names) with
      | .view subject rows =>
        let targets ← sets.mapM (fun (ns, e) => do
          let n := ns.headD ""
          match subject.columnIndex? n with
          | some k => pure (k, e)
          | none => fail ("no such column: " ++ n))
        let mut chosen : List (Int × List SqlValue) := []
        for (rowid, vals) in rows do
          let here : Scope := { sc with frames := viewFrame subject subject.name rowid vals :: sc.frames }
          let keep ← match cond with
            | some c => do pure ((← holds here c) == some true)
            | none => pure true
          if keep then chosen := chosen ++ [(rowid, vals)]
        for (rowid, vals) in chosen do
          let here : Scope := { sc with frames := viewFrame subject subject.name rowid vals :: sc.frames }
          let mut cols := vals
          for (k, e) in targets do
            cols := cols.set k (← value here e)
          let converted := (subject.columns.zip cols).map (fun (c, v) => columnValue c v)
          ignoring (fire fuel subject .insteadOf (.update names) (some (rowid, vals)) (some (rowid, converted)))
      | .table t =>
        let targets ← sets.mapM (fun (names, e) => do
          let n := names.headD ""
          match t.columnIndex? n with
          | some k => pure (k, e)
          | none => fail ("no such column: " ++ n))
        let rows := (← content).rowsOf t.name
        let mut chosen : List Int := []
        for (rowid, vals) in rows do
          let here : Scope := { sc with frames := t.frame (← encoding) t.name rowid vals :: sc.frames }
          let keep ← match cond with
            | some c => do pure ((← holds here c) == some true)
            | none => pure true
          if keep then chosen := chosen ++ [rowid]
        for rowid in chosen do
          match (← content).row? t.name rowid with
          | none => pure ()
          | some vals =>
            let here : Scope := { sc with frames := t.frame (← encoding) t.name rowid vals :: sc.frames }
            let mut cols := t.valuesOf (← encoding) rowid vals
            for (k, e) in targets do
              cols := cols.set k (← value here e)
            ignoring (updateRow fuel t rowid vals cols (targets.map (·.1)) (action.getD .abort))
    | .insert name action columns source =>
      match ← target name .insert with
      | .view subject _ =>
        let positions ← if columns.isEmpty then pure (List.range subject.columns.length)
          else positionsOf subject columns (fun n => "table " ++ subject.name ++ " has no column named " ++ n)
        let rows ← match source with
          | .values rs => rs.mapM (fun r => r.mapM (fun e => value sc e))
          | .query q => do pure (← ofEval ((← content).query sc q)).rows
          | .defaults => pure [[]]
        for r in rows do
          if !r.isEmpty ∧ r.length ≠ positions.length then
            if columns.isEmpty then
              fail ("table " ++ subject.name ++ " has " ++ toString subject.columns.length ++
                " columns but " ++ toString r.length ++ " values were supplied")
            else fail (toString r.length ++ " values for " ++ toString positions.length ++ " columns")
          ignoring (fire fuel subject .insteadOf .insert none (some (-1, viewInsertRow subject (positions.zip r))))
      | .table t =>
        let positions ← if columns.isEmpty then pure (List.range t.columns.length)
          else positionsOf t columns (fun n => "table " ++ t.name ++ " has no column named " ++ n)
        let rows ← match source with
          | .values rs => rs.mapM (fun r => r.mapM (fun e => value sc e))
          | .query q => do pure (← ofEval ((← content).query sc q)).rows
          | .defaults => pure [[]]
        for r in rows do
          if !r.isEmpty ∧ r.length ≠ positions.length then
            if columns.isEmpty then
              fail ("table " ++ t.name ++ " has " ++ toString t.columns.length ++ " columns but " ++
                toString r.length ++ " values were supplied")
            else fail (toString r.length ++ " values for " ++ toString positions.length ++ " columns")
          ignoring (insertRow fuel t (positions.zip r) (action.getD .abort) none)
    | .delete name cond =>
      match ← target name .delete with
      | .view subject rows =>
        let mut chosen : List (Int × List SqlValue) := []
        for (rowid, vals) in rows do
          let here : Scope := { sc with frames := viewFrame subject subject.name rowid vals :: sc.frames }
          let keep ← match cond with
            | some c => do pure ((← holds here c) == some true)
            | none => pure true
          if keep then chosen := chosen ++ [(rowid, vals)]
        for (rowid, vals) in chosen do
          ignoring (fire fuel subject .insteadOf .delete (some (rowid, vals)) none)
      | .table t =>
        let rows := (← content).rowsOf t.name
        let mut chosen : List Int := []
        for (rowid, vals) in rows do
          let here : Scope := { sc with frames := t.frame (← encoding) t.name rowid vals :: sc.frames }
          let keep ← match cond with
            | some c => do pure ((← holds here c) == some true)
            | none => pure true
          if keep then chosen := chosen ++ [rowid]
        for rowid in chosen do
          match (← content).row? t.name rowid with
          | none => pure ()
          | some vals => ignoring (deleteRow fuel t rowid vals none)

/-- Insert a row from values given for some columns; the others take their defaults. -/
def insertRow : Nat → Table → List (Nat × SqlValue) → ConflictAction → Option Upsert → Exec Unit
  | 0, _, _, _, _ => fail "too many levels of trigger recursion"
  | fuel + 1, t, given, action, upsert => do
    let given := given.filter (fun (k, _) => k < t.columns.length)
    let explicitRowid : Option SqlValue := match t.rowidAlias with
      | some a => match given.find? (·.1 == a) with
        | some (_, .null) => none
        | some (_, v) => some (applyAffinity .integer v)
        | none => none
      | none => none
    let enc ← encoding
    let columnsFor (rowid : Int) : List SqlValue :=
      t.computeGenerated enc true rowid (t.columns.zipIdx.map (fun (c, k) =>
        if t.rowidAlias == some k then .integer rowid
        else match given.find? (·.1 == k) with
          | some (_, v) => columnValue c v
          | none => c.defaultOf enc))
    if !(← firing t .before .insert).isEmpty then
      let early := match explicitRowid with
        | some (.integer r) => r
        | _ => -1
      fire fuel t .before .insert none (some (early, columnsFor early))
    let rowid ← match explicitRowid with
      | some (.integer r) => pure r
      | some _ => fail "datatype mismatch"
      | none =>
        if t.autoincrement then
          let c ← counterOf t
          if c.largest ≥ Nat.pow 2 63 - 1 then throw (.failure (engineError .full "database or disk is full"))
          pure (max (nextRowid ((← content).rowsOf t.name)) (c.largest + 1))
        else pure (nextRowid ((← content).rowsOf t.name))
    if t.autoincrement then
      let c ← counterOf t
      setCounter t { c with largest := max c.largest rowid }
    let cols := columnsFor rowid
    checkRow t rowid cols none
    let vals := t.recordOf cols
    if explicitRowid.isSome ∧ ((← content).row? t.name rowid).isSome then
      match action with
      | .ignore => return
      | _ =>
        let n := ((t.rowidAlias.bind t.column?).map (·.name)).getD "rowid"
        throw (.failure (engineError .constraint ("UNIQUE constraint failed: " ++ t.name ++ "." ++ n)))
    let uniques := ((← schema).indexesOf t.name).filter (·.unique)
    let ordered := match upsert with
      | some u => uniques.filter (fun (i : Index) => sameName i.name u.target.name) ++
          uniques.filter (fun (i : Index) => !sameName i.name u.target.name)
      | none => uniques
    for i in ordered do
      match ← conflictIn i t rowid vals false with
      | none => pure ()
      | some other =>
        match upsert with
        | some u =>
          if sameName u.target.name i.name then
            match u.sets with
            | none => return
            | some sets =>
              match (← content).row? t.name other with
              | none => throw (.failure corruptFailure)
              | some oldVals =>
                let excluded : Frame := { t.triggerFrame "excluded" rowid cols with rowid := none }
                let here : Scope := { frames := [t.frame (← encoding) t.name other oldVals, excluded] }
                let mut newCols := t.valuesOf (← encoding) other oldVals
                for (k, e) in sets do
                  newCols := newCols.set k (← value here e)
                updateRow fuel t other oldVals newCols (sets.map (·.1)) .abort
                return
          else
            throw (.failure (engineError .constraint ("UNIQUE constraint failed: " ++ i.conflictText t)))
        | none =>
          match action with
          | .ignore => return
          | _ => throw (.failure (engineError .constraint ("UNIQUE constraint failed: " ++ i.conflictText t)))
    checkTypes t cols
    putRow t rowid vals
    fire fuel t .after .insert none (some (rowid, cols))

/-- Change a row: its record before, the values of its columns after (as computed, before their
columns convert them) and the columns changed. -/
def updateRow : Nat → Table → Int → List SqlValue → List SqlValue → List Nat → ConflictAction → Exec Unit
  | 0, _, _, _, _, _, _ => fail "too many levels of trigger recursion"
  | fuel + 1, t, rowid, oldVals, computed, changed, action => do
    let names := t.namesOf changed
    let changedAll := t.changedWith changed
    let namesAll := t.namesOf changedAll
    let convert (cs : List SqlValue) : List SqlValue :=
      cs.zipIdx.map (fun (v, k) =>
        if changed.contains k then ((t.column? k).map (fun c => columnValue c v)).getD v else v)
    let oldCols := t.valuesOf (← encoding) rowid oldVals
    let mut current := oldVals
    let mut cols := convert computed
    if !(← firing t .before (.update names)).isEmpty then
      fire fuel t .before (.update names) (some (rowid, oldCols)) (some (rowid, cols))
      match (← content).row? t.name rowid with
      | none => return
      | some now =>
        current := now
        let fresh := t.valuesOf (← encoding) rowid now
        cols := fresh.zipIdx.map (fun (v, k) => if changed.contains k then cols.getD k v else v)
    cols := t.computeGenerated (← encoding) true rowid cols
    checkRow t rowid cols (some changedAll)
    let newVals := t.recordOf cols
    for i in ((← schema).indexesOf t.name).filter (fun i => i.unique ∧ i.reads t namesAll) do
      match ← conflictIn i t rowid newVals true with
      | none => pure ()
      | some _ =>
        match action with
        | .ignore => return
        | _ => throw (.failure (engineError .constraint ("UNIQUE constraint failed: " ++ i.conflictText t)))
    checkTypes t cols
    rewriteRow t rowid current newVals changedAll
    fire fuel t .after (.update names) (some (rowid, t.valuesOf (← encoding) rowid current)) (some (rowid, cols))

/-- Delete a row, found through an index entry or not. -/
def deleteRow : Nat → Table → Int → List SqlValue → Option (String × List SqlValue) → Exec Unit
  | 0, _, _, _, _ => fail "too many levels of trigger recursion"
  | fuel + 1, t, rowid, vals, found => do
    let cols := t.valuesOf (← encoding) rowid vals
    let mut current := vals
    let mut through := found
    if !(← firing t .before .delete).isEmpty then
      fire fuel t .before .delete (some (rowid, cols)) none
      match (← content).row? t.name rowid with
      | none => return
      | some now =>
        current := now
        through := none
    dropRow t rowid current through
    fire fuel t .after .delete (some (rowid, t.valuesOf (← encoding) rowid current)) none

end

end Exec

end DocStore
