import DocStore.Sql.Content
import DocStore.Sql.Aggregate
import DocStore.Sql.Json
import DocStore.Sql.Window
import DocStore.Sql.Pragma
/-!
# Evaluating expressions and queries

`Tables.evalTyped` gives the value of an expression and `Tables.runSelect` the rows of a query,
over the content of a database; the two are one mutual definition, since an expression may hold
a query and a query holds expressions. The rules are the engine's:

* `AND` and `OR` stop at the first operand that decides them; `COALESCE`, `IFNULL` and `IIF`
  evaluate only the arguments they need.
* `x IN (list)` compares under the affinity and collation of `x`; `x IN (SELECT ...)` under the
  comparison affinity of `x` and the query's column. An empty list or query gives false, a NULL
  `x` or a NULL among the values that do not match gives NULL.
* A query in parentheses stands for the first column of its first row (NULL without rows);
  `EXISTS` for whether it has a row.
* A core of a query joins its sources left to right (`ON`, `USING` and `NATURAL` conditions
  decide which pairs are kept; a `LEFT JOIN` keeps each left row without a partner once, with
  NULLs), keeps the rows where `WHERE` holds, and then either gives a row per row or, when it
  groups or calls an aggregate, a row per group. Groups are formed in the order of their `GROUP
  BY` values; a column outside an aggregate takes its value from the first row of the group, or
  from the row where the last `min` or `max` of the query took its value.
* `UNION`, `INTERSECT` and `EXCEPT` give their rows without repeats in the order of their
  values; `UNION ALL` keeps the order of its parts. `ORDER BY` sorts stably (NULLs first in
  ascending order); `LIMIT` and `OFFSET` must read as integers.
* A table of `WITH` that names itself in a later part of its compound query is recursive: its
  first parts give the first rows, and each row taken from the queue (in order, or by `ORDER
  BY`) is given out and fed to the other parts, whose rows join the queue (those seen before
  left out under `UNION`).

Every evaluation is bounded by a fuel argument that each nested step consumes.
-/

namespace DocStore

open Sql

namespace Sql

/-- The name of a result column that is an expression. -/
def resultName (e : Expr) (aliasName : Option String) (k : Nat) : String :=
  match aliasName, e with
  | some a, _ => a
  | none, .column _ n => n
  | none, _ => "column" ++ toString (k + 1)

/-- The English ordinal of a positive number: `1st`, `2nd`, `3rd`, `4th`, `11th`, `21st`. -/
def ordinal (n : Nat) : String :=
  let suffix :=
    if n % 100 ≥ 11 ∧ n % 100 ≤ 13 then "th"
    else if n % 10 = 1 then "st" else if n % 10 = 2 then "nd" else if n % 10 = 3 then "rd" else "th"
  toString n ++ suffix

/-- A row of a relation as expressions see it, under a name. -/
def Relation.frame (r : Relation) (name : String) (vals : List SqlValue) : Frame :=
  { name, columns := r.columns, values := vals }

/-- A frame of NULLs in the shape of another: the row a `LEFT JOIN` adds when nothing matches,
or the row an aggregate over no rows reads. -/
def Frame.blankOf (f : Frame) : Frame :=
  { f with values := f.columns.map (fun _ => .null), blank := true }

/-- The value of `LIMIT` or `OFFSET`: an integer, or a value that reads as one. -/
def limitValue : SqlValue → Option Int
  | .integer i => some i
  | .real f => exactInt f
  | .text s => match numericAffinity true s with
    | some (.integer i) => some i
    | _ => none
  | _ => none

/-- The rows of a query after `OFFSET` and `LIMIT`: a negative limit keeps every row. -/
def cutRows {α : Type} (offset limit : Option Int) (rows : List α) : List α :=
  let rest := rows.drop (offset.getD 0).toNat
  match limit with
  | some n => if n < 0 then rest else rest.take n.toNat
  | none => rest

/-! ## What queries call -/

/-- Whether an expression calls an aggregate function outside the queries it holds. -/
def Expr.hasAggregate : Nat → Expr → Bool
  | 0, _ => false
  | fuel + 1, e =>
    let go := Expr.hasAggregate fuel
    match e with
    | .call n args _ star => (Aggregate.ofCall (upperAscii n) args.length star).isSome || args.any go
    | .callWith n args _ star orderBy filter windowSpec =>
      (windowSpec.isNone && (Aggregate.ofCall (upperAscii n) args.length star).isSome) || args.any go ||
        orderBy.any (fun o => go o.expr) || (filter.map go).getD false || match windowSpec with
          | some (.window w) => w.partitionBy.any go || w.orderBy.any (fun o => go o.expr)
          | _ => false
    | .unary _ a => go a
    | .binary _ a b => go a || go b
    | .isNull a _ => go a
    | .between a lo hi _ => go a || go lo || go hi
    | .inList a items _ => go a || items.any go
    | .inQuery a _ _ => go a
    | .like a p esc _ _ => go a || go p || (esc.map go).getD false
    | .caseOf op brs other =>
      (op.map go).getD false || brs.any (fun (w, t) => go w || go t) || (other.map go).getD false
    | .cast a _ => go a
    | .collate a _ => go a
    | .rowValue items => items.any go
    | _ => false

/-- The aggregate `min` and `max` calls of an expression, in the order the engine meets them. -/
def Expr.extremeCalls : Nat → Expr → List Expr
  | 0, _ => []
  | fuel + 1, e =>
    let go := Expr.extremeCalls fuel
    match e with
    | .call n args _ star =>
      match Aggregate.ofCall (upperAscii n) args.length star with
      | some .min | some .max => [e]
      | some _ => []
      | none => args.flatMap go
    | .unary _ a => go a
    | .binary _ a b => go a ++ go b
    | .isNull a _ => go a
    | .between a lo hi _ => go a ++ go lo ++ go hi
    | .inList a items _ => go a ++ items.flatMap go
    | .inQuery a _ _ => go a
    | .like a p esc _ _ => go a ++ go p ++ (esc.map go).getD []
    | .caseOf op brs other =>
      (op.map go).getD [] ++ brs.flatMap (fun (w, t) => go w ++ go t) ++ (other.map go).getD []
    | .cast a _ => go a
    | .collate a _ => go a
    | .rowValue items => items.flatMap go
    | _ => []

/-- The windows of the calls with `OVER` in an expression, outside the queries it holds, in the
order the engine meets them. -/
def Expr.windowsCalled : Nat → Expr → List Over
  | 0, _ => []
  | fuel + 1, e =>
    let go := Expr.windowsCalled fuel
    match e with
    | .callWith _ args _ _ orderBy filter windowSpec =>
      args.flatMap go ++ orderBy.flatMap (fun o => go o.expr) ++ (filter.map go).getD [] ++ windowSpec.toList
    | .call _ args _ _ => args.flatMap go
    | .unary _ a => go a
    | .binary _ a b => go a ++ go b
    | .isNull a _ => go a
    | .between a lo hi _ => go a ++ go lo ++ go hi
    | .inList a items _ => go a ++ items.flatMap go
    | .inQuery a _ _ => go a
    | .like a p esc _ _ => go a ++ go p ++ (esc.map go).getD []
    | .caseOf op brs other =>
      (op.map go).getD [] ++ brs.flatMap (fun (w, t) => go w ++ go t) ++ (other.map go).getD []
    | .cast a _ => go a
    | .collate a _ => go a
    | .rowValue items => items.flatMap go
    | _ => []

/-- The window an `OVER` clause stands for, among the windows a query names (the latest first). -/
def resolveOver (named : List (String × Window)) : Over → Except String Window
  | .named m =>
    match named.find? (fun d => sameName d.1 m) with
    | some (_, w) => .ok w
    | none => .error ("no such window: " ++ m)
  | .window w => Parser.chainWindow named w

/-- The frame of a window: the one written, or by default from the start of the partition to
the current row and its peers. -/
def Window.frameOrDefault (w : Window) : WindowFrame :=
  w.frame.getD { unit := .range, start := .unboundedPreceding, finish := .currentRow }

/-- Whether a frame bound has an offset. -/
def FrameBound.hasOffset : FrameBound → Bool
  | .preceding _ | .following _ => true
  | _ => false

/-- The value a window function gives: no affinity, collation or JSON mark of its argument. -/
def bareValue (x : Typed) : Typed := { value := x.value }

/-- Whether a core of a query reads a table of a name in its sources. -/
def SelectCore.reads (c : SelectCore) (n : String) : Bool :=
  c.sources.any (fun s => match s.item with
    | .named m => sameName m n
    | _ => false)

/-- The frame of a row of `json_each` or `json_tree` named `name`: its columns, the last two
hidden from `*`, and its rowid (the row's place, from 0). -/
def eachFrame (name : String) (rowid : Nat) (vals : List SqlJson.JsonArg) : Frame :=
  { name, columns := SqlJson.eachColumns.map (fun c => (c, none, Collation.binary)),
    values := vals.map (·.value), rowid := some rowid, shown := some 8,
    jsonAt := (vals.zipIdx.filter (·.1.isJson)).map (·.2) }

/-- The frames of a pragma read as a table (`pragma_<name>`, the name given without the prefix)
under a name: its rows, numbered from 1, with the arguments as its hidden columns `arg` and
`schema` (those it has); none when no pragma has the name. -/
def pragmaFrames (t : Tables) (widths : List (String × Nat)) (frameName pname : String) (vals : List SqlValue) :
    Option (Eval (Frame × List Frame)) :=
  (pragmaTables.find? (·.1 == pname)).map (fun (_, cols, hasArg, hasSchema) => do
    let hidden := (if hasArg then ["arg"] else []) ++ (if hasSchema then ["schema"] else [])
    if vals.length > hidden.length then
      throw (.error ("too many arguments on pragma_" ++ pname ++ "() - max " ++ toString hidden.length))
    let arg := if hasArg then vals.head? else none
    let schema := if hasSchema then vals[if hasArg then 1 else 0]? else none
    let rows ← match pragmaRows t widths pname arg schema with
      | .ok r => pure r
      | .error m => throw (.error m)
    let hiddenVals := hidden.zipIdx.map (fun (_, k) => vals.getD k .null)
    let columns := (cols ++ hidden).map (fun c => (c, (none : Option Affinity), Collation.binary))
    let frame (vs : List SqlValue) (k : Nat) : Frame :=
      { name := frameName, columns, values := vs ++ hiddenVals, rowid := some k, shown := some cols.length }
    return (Frame.blankOf (frame (cols.map (fun _ => .null)) 0), rows.zipIdx.map (fun (r, k) => frame r (k + 1))))

/-- The name of a pragma that a table name reads, without `pragma_`. -/
def pragmaName (n : String) : Option String :=
  let l := lowerAscii n
  if l.startsWith "pragma_" then some (l.drop 7).toString else none

/-- Is a source a call of a table-valued function? -/
def Source.isCall (src : Source) : Bool :=
  match src.item with
  | .call _ _ => true
  | _ => false

/-- The rows of a query as the sort keys of a compound query see them: the value of each output
column a term names. -/
def outputKey (cols : List (String × Option Affinity × Collation)) (vals : List SqlValue) (k : Nat) :
    Typed :=
  let (_, aff, coll) := cols.getD k ("", none, .binary)
  ⟨vals.getD k .null, aff, some coll, false, false⟩

/-- The output column an ordering term of a compound query names: by position or by name. -/
def orderColumn (cols : List (String × Option Affinity × Collation)) : Expr → Option (Nat × Option Collation)
  | .literal (.integer k) => if 1 ≤ k ∧ k.toNat ≤ cols.length then some (k.toNat - 1, none) else none
  | .column none n => (cols.findIdx? (fun c => sameName c.1 n)).map (·, none)
  | .collate (.literal (.integer k)) c =>
    if 1 ≤ k ∧ k.toNat ≤ cols.length then some (k.toNat - 1, Collation.ofName c) else none
  | .collate (.column none n) c => (cols.findIdx? (fun col => sameName col.1 n)).map (·, Collation.ofName c)
  | _ => none

/-- The columns a source shares with the sources before it, given a frame of its own and the
frames before it: for `NATURAL` each of its columns one of them has, for `USING` those named. -/
def sharedColumns (src : Sql.Source) (own : Frame) (before : List Frame) : List String :=
  if src.natural then own.columns.map (·.1) |>.filter (fun c => before.any (·.has c))
  else src.usingColumns

/-- A frame of a source, marked with the join that brings it in and the columns it shares. -/
def Frame.joinedThrough (f : Frame) (src : Sql.Source) (shared : List String) : Frame :=
  { f with merged := shared, joinedBy := src.join }

/-- Join one more source to the rows so far: every pair whose `ON` or `USING` condition holds,
and for the outer joins the rows without a partner, with NULLs on the other side. `blanks` are
the NULL frames of the sources so far. -/
def joinRows (enc : TextEncoding) (ev : Scope → Expr → Eval SqlValue) (sc : Scope) (src : Sql.Source) (blankRight : Frame)
    (blanks : List Frame) (left : List (List Frame)) (right : List Frame) : Eval (List (List Frame)) := do
  let shared := sharedColumns src blankRight blanks
  let right := right.map (·.joinedThrough src shared)
  let pairs (l : List Frame) (r : Frame) : Eval Bool := do
    let row := l ++ [r]
    let byUsing ← shared.allM (fun c => do
      let a ← (Scope.unqualified c [l]).toOption.getD ⟨.null, none, none, false, false⟩ |> pure
      let b := (r.lookup c).getD ⟨.null, none, none, false, false⟩
      pure (comparisonValue enc .eq a b == .integer 1))
    if !byUsing then return false
    match src.on with
    | some c => return truth enc (← ev (sc.enter row) c) == some true
    | none => return true
  let mut out : List (List Frame) := []
  let mut matchedRight : List Bool := right.map (fun _ => false)
  for l in left do
    let mut any := false
    for (r, k) in right.zipIdx do
      if ← pairs l r then
        out := out ++ [l ++ [r]]
        any := true
        matchedRight := matchedRight.set k true
    if !any ∧ (src.join == .left ∨ src.join == .full) then
      out := out ++ [l ++ [blankRight.joinedThrough src shared]]
  if src.join == .right ∨ src.join == .full then
    for (r, k) in right.zipIdx do
      if !(matchedRight.getD k true) then out := out ++ [blanks.map Frame.blankOf ++ [r]]
  return out

/-- The output columns of one row: each expression's value, or the columns of every frame for
`*` (the columns a join shares counted once) or of one frame for `t.*`. -/
def projectWith (ev : Scope → Expr → Eval Typed) (sc : Scope) (cols : List ResultColumn) :
    Eval (List (String × Typed)) := do
  let mut out : List (String × Typed) := []
  for (c, k) in cols.zipIdx do
    match c with
    | .expr e aliasName =>
      let v ← ev sc e
      out := out ++ [(resultName e aliasName k, v)]
    | .star =>
      if sc.frames.isEmpty then throw (.error "no tables specified")
      let visible := sc.frames.filter (!·.qualifiedOnly)
      for (f, i) in visible.zipIdx do
        -- Left of a right or full join, a column a later source shares shows what its name reads.
        let later := visible.drop (i + 1)
        let beforeRight := later.any (fun g => g.joinedBy == .right || g.joinedBy == .full)
        for ((n, aff, coll), v) in f.starColumns do
          if !f.merged.any (sameName n) then
            if beforeRight && later.any (fun g => g.merged.any (sameName n)) then
              out := out ++ [(n, ← Scope.unqualified n [visible])]
            else
              out := out ++ [(n, ⟨v, aff, some coll, false, false⟩)]
    | .tableStar q =>
      match sc.frames.find? (fun f => sameName f.name q) with
      | some f =>
        for ((n, aff, coll), v) in f.starColumns do
          out := out ++ [(n, ⟨v, aff, some coll, false, false⟩)]
      | none => throw (.error ("no such table: " ++ q))
  return out

/-- The expression a `GROUP BY` or `ORDER BY` term stands for in a core: a position or an alias
names a result column's expression. -/
def termExpr (cols : List ResultColumn) (e : Expr) : Expr :=
  let byPosition (k : Int) : Option Expr :=
    if 1 ≤ k then match cols[k.toNat - 1]? with
      | some (.expr x _) => some x
      | _ => none
    else none
  match e with
  | .literal (.integer k) => (byPosition k).getD e
  | .column none n =>
    (cols.findSome? (fun c => match c with
      | .expr x (some a) => if sameName a n then some x else none
      | _ => none)).getD e
  | _ => e

/-- The row whose columns an aggregate row reads outside its aggregates: the first of the group,
or the last where the extreme call took its value. -/
def bareRow (rows : List (List Frame)) (steps : Option (List Bool)) : Option (List Frame) :=
  match steps with
  | none => rows.head?
  | some skips =>
    let taken := (rows.zip skips).filter (fun (_, skip) => !skip)
    (taken.getLast?.map (·.1)).orElse (fun _ => rows.head?)

/-- The rows one core of a query gives: its columns and, for each row, its values and its
sort keys. -/
structure CoreRows where
  columns : List (String × Option Affinity × Collation)
  rows : List (List SqlValue × List Typed)
  /-- The collation each result column states: a column's own, or one `COLLATE` gives. -/
  collations : List (Option Collation) := []

/-- A table of `WITH` under the name a query uses. -/
def NamedTable.relation (b : NamedTable) (r : Relation) : Relation :=
  if b.columns.isEmpty then r
  else { r with columns := (b.columns.zip r.columns).map (fun (n, c) => (n, c.2)) }

/-- The name the schema table goes by. -/
def schemaName (n : String) : String :=
  if ["sqlite_schema", "sqlite_temp_master", "sqlite_temp_schema"].any (sameName n) then "sqlite_master" else n

end Sql

namespace Tables

mutual

/-- The value of an expression in a scope, with at most `fuel` nested steps. -/
def evalTyped (t : Tables) : Nat → Scope → Expr → Eval Typed
  | 0, _, _ => .error (.error "Expression tree is too large (maximum depth 1000)")
  | fuel + 1, sc, e =>
    let plain (v : SqlValue) : Typed := ⟨v, none, none, false, false⟩
    let carried (xs : List Typed) (v : SqlValue) : Typed :=
      match xs.find? (·.explicit) with
      | some x => ⟨v, none, x.collation, true, false⟩
      | none => plain v
    let value (x : Expr) : Eval SqlValue := do return (← evalTyped t fuel sc x).value
    -- The parts of an operand of a comparison: those of a row value, or the columns of a query's
    -- first row (NULL when it has none) when it has more than one, or the operand itself.
    let parts (x : Expr) : Eval (List Typed) := do
      match x with
      | .rowValue items => items.mapM (fun i => evalTyped t fuel sc i)
      | .scalarQuery q =>
        let r ← runSelect t fuel sc q
        if r.columns.length = 1 then return [← evalTyped t fuel sc x]
        let vals := r.rows.headD (r.columns.map (fun _ => .null))
        return (r.columns.zip vals).map (fun ((_, aff, coll), v) => ⟨v, aff, some coll, false, false⟩)
      | _ => return [← evalTyped t fuel sc x]
    let isVector (x : Expr) : Bool := match x with
      | .rowValue _ | .scalarQuery _ => true
      | _ => false
    let misused : Stop := .error "row value misused"
    match e with
    | .literal v => .ok (plain (t.encoding.conformValue v))
    | .column q n =>
      match q.isNone, sc.aliasOf? n with
      | true, some x => evalTyped t fuel { sc with aliases := [] } x
      | _, _ => sc.column q n
    | .param i => .ok (plain (sc.params.getD (i - 1) .null))
    | .unary op a => do
      match op, a with
      | .neg, .literal (.integer i) => return plain (arithmetic .sub (.integer 0) (.integer i))
      | .neg, .literal (.real f) => return plain (.real f.negate)
      | _, _ =>
        let x ← evalTyped t fuel sc a
        match op with
        | .pos => return { x with affinity := none }
        | .neg => return carried [x] (arithmetic .sub (.integer 0) (t.encoding.blobAsText x.value))
        | .not => return plain (truthValue ((truth t.encoding x.value).map (!·)))
        | .bitNot => return carried [x] (match x.value with
          | .null => .null
          | other => .integer (-(intValue (t.encoding.blobAsText other)) - 1))
    | .binary op a b => do
      match op with
      | .and =>
        let x := truth t.encoding (← value a)
        if x == some false then return plain (.integer 0)
        let y := truth t.encoding (← value b)
        return plain (truthValue (match x, y with
          | _, some false => some false
          | some true, some true => some true
          | _, _ => none))
      | .or =>
        let x := truth t.encoding (← value a)
        if x == some true then return plain (.integer 1)
        let y := truth t.encoding (← value b)
        return plain (truthValue (match x, y with
          | _, some true => some true
          | some false, some false => some false
          | _, _ => none))
      | .eq | .ne | .lt | .le | .gt | .ge | .is | .isNot =>
        let truthTest := if op = .is ∨ op = .isNot then sc.truthName? b else none
        if let some wanted := truthTest then
          if isVector a then throw misused
          let x ← evalTyped t fuel sc a
          -- NULL fails `IS TRUE` and `IS FALSE` and passes their negations.
          return plain (truthValue (some (match truth t.encoding x.value with
            | none => op = .isNot
            | some v => if op = .is then v == wanted else v != wanted)))
        if isVector a || isVector b then
          let xs ← parts a
          let ys ← parts b
          if xs.length ≠ ys.length then throw misused
          return plain (vectorComparison t.encoding op xs ys)
        let x ← evalTyped t fuel sc a
        let y ← evalTyped t fuel sc b
        return plain (comparisonValue t.encoding op x y)
      | .concat =>
        let x ← evalTyped t fuel sc a
        let y ← evalTyped t fuel sc b
        return carried [x, y] (concatIn t.encoding x.value y.value)
      | .add | .sub | .mul | .div | .rem =>
        let x ← evalTyped t fuel sc a
        let y ← evalTyped t fuel sc b
        return carried [x, y] (arithmetic op (t.encoding.blobAsText x.value) (t.encoding.blobAsText y.value))
      | .bitAnd | .bitOr | .shiftLeft | .shiftRight =>
        let x ← evalTyped t fuel sc a
        let y ← evalTyped t fuel sc b
        return carried [x, y] (bitwise op (t.encoding.blobAsText x.value) (t.encoding.blobAsText y.value))
    | .isNull a negated => do
      let v ← value a
      return plain (.integer (if (v == .null) != negated then 1 else 0))
    | .between a lo hi negated => do
      let x ← parts a
      let l ← parts lo
      let h ← parts hi
      if x.length ≠ l.length ∨ x.length ≠ h.length then throw misused
      let ge := truth t.encoding (vectorComparison t.encoding .ge x l)
      let le := truth t.encoding (vectorComparison t.encoding .le x h)
      let both := match ge, le with
        | some false, _ => some false
        | _, some false => some false
        | some true, some true => some true
        | _, _ => none
      return plain (truthValue (if negated then both.map (!·) else both))
    | .inList (.rowValue xs) items negated => do
      let x ← xs.mapM (fun i => evalTyped t fuel sc i)
      let mut results : List (Option Bool) := []
      for i in items do
        let y ← parts i
        if y.length ≠ x.length then throw misused
        results := results ++ [truth t.encoding (vectorComparison t.encoding .eq x y)]
      let found : Option Bool :=
        if results.any (· == some true) then some true
        else if results.any (· == none) then none
        else some false
      return plain (truthValue (if negated then found.map (!·) else found))
    | .inList a items negated => do
      let x ← evalTyped t fuel sc a
      let ys ← items.mapM (fun i => evalTyped t fuel sc i)
      let coll := x.collation.getD .binary
      let results := ys.map (fun y =>
        let (p, q) := comparisonOperands x.affinity x.value y.value
        match p, q with
        | .null, _ => none
        | _, .null => none
        | _, _ => some (SqlValue.compareWith coll p q == .eq))
      let found : Option Bool :=
        if items.isEmpty then some false
        else if results.any (· == some true) then some true
        else if x.value == .null ∨ results.any (· == none) then none
        else some false
      return plain (truthValue (if negated then found.map (!·) else found))
    | .inQuery (.rowValue xs) q negated => do
      let x ← xs.mapM (fun i => evalTyped t fuel sc i)
      let r ← runSelect t fuel sc q
      if r.columns.length ≠ x.length then
        throw (.error ("sub-select returns " ++ toString r.columns.length ++ " columns - expected " ++
          toString x.length))
      let results := r.rows.map (fun row => truth t.encoding (vectorComparison t.encoding .eq x
        ((r.columns.zip row).map (fun ((_, aff, coll), v) => ⟨v, aff, some coll, false, false⟩))))
      let found : Option Bool :=
        if results.any (· == some true) then some true
        else if results.any (· == none) then none
        else some false
      return plain (truthValue (if negated then found.map (!·) else found))
    | .inQuery a q negated => do
      let x ← evalTyped t fuel sc a
      let r ← runSelect t fuel sc q
      if r.columns.length ≠ 1 then
        throw (.error ("sub-select returns " ++ toString r.columns.length ++ " columns - expected 1"))
      let (_, raff, rcoll) := r.columns.headD ("", none, .binary)
      let aff := comparisonAffinity x.affinity raff
      let coll := if x.explicit then x.collation.getD .binary else (x.collation.getD rcoll)
      let results := r.rows.map (fun row =>
        let (p, q) := comparisonOperands aff x.value (row.headD .null)
        match p, q with
        | .null, _ => none
        | _, .null => none
        | _, _ => some (SqlValue.compareWith coll p q == .eq))
      let found : Option Bool :=
        if r.rows.isEmpty then some false
        else if results.any (· == some true) then some true
        else if x.value == .null ∨ results.any (· == none) then none
        else some false
      return plain (truthValue (if negated then found.map (!·) else found))
    | .existsQuery q => do
      let r ← runSelect t fuel sc q
      return plain (.integer (if r.rows.isEmpty then 0 else 1))
    | .scalarQuery q => do
      let r ← runSelect t fuel sc q
      if r.columns.length ≠ 1 then
        throw (.error ("sub-select returns " ++ toString r.columns.length ++ " columns - expected 1"))
      let (_, aff, coll) := r.columns.headD ("", none, .binary)
      return ⟨(r.rows.head?.bind List.head?).getD .null, aff, some coll, false, false⟩
    | .like a pattern escape glob negated => do
      let x ← value a
      let p ← value pattern
      let esc ← match escape with
        | some ex => some <$> value ex
        | none => pure none
      let read := t.encoding.blobAsText
      match patternValue (if glob then globRules else likeRules) (read p) (read x) (esc.map read) with
      | .ok v => return plain (if negated then truthValue ((truth t.encoding v).map (!·)) else v)
      | .error m => throw (.error m)
    | .caseOf operand branches otherwise => do
      let subject ← match operand with
        | some o => some <$> evalTyped t fuel sc o
        | none => pure none
      let mut chosen : Option Expr := none
      for (w, th) in branches do
        let hit ← match subject with
          | some s => do
            let wv ← evalTyped t fuel sc w
            pure (compareTyped t.encoding s wv == some .eq)
          | none => do pure (truth t.encoding (← value w) == some true)
        if hit then
          chosen := some th
          break
      match chosen.orElse (fun _ => otherwise) with
      | some x =>
        let r ← evalTyped t fuel sc x
        return { plain r.value with isJson := r.isJson }
      | none => return plain .null
    | .cast a ty => do
      let x ← evalTyped t fuel sc a
      return { x with value := castTo t.encoding ty x.value, affinity := some (affinityOf ty) }
    | .collate a n => do
      let v ← evalTyped t fuel sc a
      -- An unknown collation fails where a comparison needs it, when the statement is compiled.
      match Collation.ofName n with
      | some c => return { v with collation := some c, explicit := true }
      | none => return v
    | .call n args distinct star => do
      let name := upperAscii n
      let wrong : Stop := .error ("wrong number of arguments to function " ++ n ++ "()")
      match Aggregate.ofCall name args.length star with
      | some agg =>
        if !agg.takes name args.length then throw wrong
        match sc.group with
        | none => throw (.error ("misuse of aggregate function " ++ n ++ "()"))
        | some rows =>
          let typedRows ← rows.mapM (fun row =>
            args.mapM (fun x => evalTyped t fuel { sc with frames := row, group := none } x))
          let coll := ((typedRows.head?.bind List.head?).bind (·.collation)).getD .binary
          let typedRows := if distinct then
              typedRows.foldl (fun acc r =>
                if acc.any (fun a => sameRowUnder t.encoding [coll] (a.map (·.value)) (r.map (·.value))) then acc
                else acc ++ [r]) []
            else typedRows
          match agg.finish t.encoding coll typedRows with
          | .ok v => return { value := v, isJson := agg.givesJson }
          | .error m => throw (.error m)
      | none =>
        if star then throw wrong
        match name with
        | "COALESCE" | "IFNULL" =>
          if (name = "COALESCE" ∧ args.length < 2) ∨ (name = "IFNULL" ∧ args.length ≠ 2) then throw wrong
          let mut found : Typed := plain .null
          for x in args do
            let v ← evalTyped t fuel sc x
            if v.value != .null then
              found := v
              break
          return { carried [found] found.value with isJson := found.isJson }
        | "IIF" =>
          if args.length ≠ 3 then throw wrong
          let c ← value (args.getD 0 (.literal .null))
          let r ← evalTyped t fuel sc (args.getD (if truth t.encoding c == some true then 1 else 2) (.literal .null))
          return { plain r.value with isJson := r.isJson }
        | "CURRENT_DATE" | "CURRENT_TIME" | "CURRENT_TIMESTAMP" =>
          let fn := if name = "CURRENT_DATE" then "DATE" else if name = "CURRENT_TIME" then "TIME" else "DATETIME"
          return plain ((dateTimeFunction t.clock fn [.ofString "now"]).getD .null)
        | _ =>
          let typed ← args.mapM (fun x => evalTyped t fuel sc x)
          let vs := typed.map (·.value)
          match SqlJson.jsonFunction name n (typed.map (fun x => { value := x.value, isJson := x.isJson })) with
          | some r =>
            let r ← liftFailure r
            return { plain (t.encoding.conformValue r.value) with isJson := r.isJson }
          | none =>
            let coll := (typed.findSome? (·.collation)).getD .binary
            match scalarFunction { sc.ctx with now := t.clock, encoding := t.encoding } n name coll vs with
            | some (.ok v) => return carried typed (t.encoding.conformValue v)
            | some (.error msg) => throw (.error msg)
            | none => throw (.error ("no such function: " ++ n))
    | .raise kind msg =>
      match kind with
      | .ignore => .error .ignore
      | _ => .error (.failure (engineError .constraint msg))
    | .rowValue _ => .error (.error "row value misused")
    | .faulty msg => .error (.error msg)
    | .callWith n args distinct star orderBy filter windowSpec => do
      match windowSpec with
      | some o =>
        match sc.window with
        | some w => windowValue t fuel sc w n args star filter o
        | none => throw (.error ("misuse of window function " ++ n ++ "()"))
      | none =>
        let name := upperAscii n
        match Aggregate.ofCall name args.length star with
        | none =>
          let clause := if filter.isSome then "FILTER" else "ORDER BY"
          throw (.error (clause ++ " may not be used with non-aggregate " ++ n ++ "()"))
        | some agg =>
          if !agg.takes name args.length then
            throw (.error ("wrong number of arguments to function " ++ n ++ "()"))
          match sc.group with
          | none => throw (.error ("misuse of aggregate function " ++ n ++ "()"))
          | some rows =>
            -- The engine leaves the rows of count, min and max in the order they come.
            let ordered := !orderBy.isEmpty && !(name == "COUNT" || name == "MIN" || name == "MAX")
            let mut entries : List (List Typed × List Typed) := []
            for row in rows do
              let s := { sc with frames := row, group := none }
              let pass ← match filter with
                | some f => do pure (truth t.encoding (← evalTyped t fuel s f).value == some true)
                | none => pure true
              if pass then
                let key ← if ordered then orderBy.mapM (fun o => evalTyped t fuel s o.expr) else pure []
                let vals ← args.mapM (fun x => evalTyped t fuel s x)
                entries := entries ++ [(vals, key)]
            let coll := ((entries.head?.bind (·.1.head?)).bind (·.collation)).getD .binary
            let unique := if distinct then
                entries.foldl (fun acc r =>
                  if acc.any (fun a => sameRowUnder t.encoding [coll] (a.1.map (·.value)) (r.1.map (·.value))) then acc
                  else acc ++ [r]) []
              else entries
            let sorted := if ordered then sortByKeys t.encoding orderBy unique else unique
            match agg.finish t.encoding coll (sorted.map (·.1)) with
            | .ok v => return { value := v, isJson := agg.givesJson }
            | .error m => throw (.error m)

/-- The value of a window function on the current row of the query: the rows of the current
row's partition in the window's order, and the function over them or over the frame of the
current row; with at most `fuel` nested steps. -/
def windowValue (t : Tables) : Nat → Scope → WindowRows → String → List Expr → Bool →
    Option Expr → Over → Eval Typed
  | 0, _, _, _, _, _, _, _ => .error (.error "Expression tree is too large (maximum depth 1000)")
  | fuel + 1, sc, w, n, args, star, filter, windowSpec => do
    let win ← match resolveOver w.named windowSpec with
      | .ok win => pure win
      | .error msg => throw (.error msg)
    let name := upperAscii n
    let plain (v : SqlValue) : Typed := { value := v }
    let rowScope (k : Nat) : Scope :=
      let (frames, group) := w.rows.getD k ([], none)
      { sc with frames, group, window := none }
    let keyed ← (List.range w.rows.length).mapM (fun k => do
      let s := rowScope k
      let part ← win.partitionBy.mapM (fun x => evalTyped t fuel s x)
      let ord ← win.orderBy.mapM (fun o => evalTyped t fuel s o.expr)
      pure (k, part, ord))
    let mine := match keyed[w.current]? with
      | some (_, p, _) => p
      | none => []
    let colls := mine.map (fun x => x.collation.getD .binary)
    let inPartition := keyed.filter (fun (_, p, _) =>
      compareRowsUnder t.encoding colls (p.map (·.value)) (mine.map (·.value)) == .eq)
    let sorted := sortByKeys t.encoding win.orderBy (inPartition.map (fun (k, _, o) => (k, o)))
    let order := sorted.map (·.1)
    let groups := peerGroups t.encoding win.orderBy (sorted.map (·.2))
    let count := order.length
    let pos := (order.findIdx? (· == w.current)).getD 0
    let g := groups.getD pos 0
    let current := rowScope w.current
    let arg (k : Nat) (s : Scope) : Eval Typed := evalTyped t fuel s (args.getD k (.literal .null))
    let ratio (a b : Nat) : Typed := plain (arithmetic .div (.real (Binary64.ofNat a)) (.integer b))
    match name with
    | "ROW_NUMBER" => return plain (.integer (pos + 1))
    | "RANK" => return plain (.integer (groupFirst groups g + 1))
    | "DENSE_RANK" => return plain (.integer (g + 1))
    | "PERCENT_RANK" =>
      if count > 1 then return ratio (groupFirst groups g).toNat (count - 1)
      else return plain (.real (Binary64.ofNat 0))
    | "CUME_DIST" => return ratio ((groupLast groups g).toNat + 1) count
    | "NTILE" =>
      let buckets := intValue (← arg 0 (rowScope (order.headD w.current))).value
      if buckets ≤ 0 then throw (.error "argument of ntile must be a positive integer")
      return plain (.integer (ntileOf buckets.toNat count pos))
    | "LAG" | "LEAD" =>
      let offset ← if args.length ≥ 2 then do pure (← arg 1 current).value else pure (.integer 1)
      let target := arithmetic (if name = "LEAD" then .add else .sub) (.integer (pos + 1)) offset
      let place : Option Int := match target with
        | .integer i => some i
        | .real f => exactInt f
        | _ => none
      match place with
      | some i =>
        if 1 ≤ i ∧ i ≤ count then return bareValue (← arg 0 (rowScope (order.getD (i.toNat - 1) 0)))
        else if args.length ≥ 3 then return bareValue (← arg 2 current) else return plain .null
      | none => if args.length ≥ 3 then return bareValue (← arg 2 current) else return plain .null
    | _ =>
      let frame := win.frameOrDefault
      if frame.unit == .range ∧ (frame.start.hasOffset ∨ frame.finish.hasOffset) ∧
          win.orderBy.length ≠ 1 then
        throw (.error "RANGE with offset PRECEDING/FOLLOWING requires one ORDER BY expression")
      let edge (b : FrameBound) (isStart : Bool) : Eval FrameEdge := do
        match b with
        | .unboundedPreceding | .unboundedFollowing => pure .unbounded
        | .currentRow => pure .current
        | .preceding x =>
          match checkedOffset frame.unit isStart (← evalTyped t fuel current x).value with
          | .ok v => pure (.preceding v)
          | .error msg => throw (.error msg)
        | .following x =>
          match checkedOffset frame.unit isStart (← evalTyped t fuel current x).value with
          | .ok v => pure (.following v)
          | .error msg => throw (.error msg)
      let startEdge ← edge frame.start true
      let finishEdge ← edge frame.finish false
      let values := sorted.map (fun (_, o) => ((o.head?.map (·.value)).getD .null))
      let desc := (win.orderBy.head?.map (·.desc)).getD false
      let span := frameSpan t.encoding frame.unit startEdge finishEdge frame.exclude groups values desc pos
      let rows := span.map (fun i => rowScope (order.getD i 0))
      match name with
      | "FIRST_VALUE" =>
        match rows.head? with
        | some s => return bareValue (← arg 0 s)
        | none => return plain .null
      | "LAST_VALUE" =>
        match rows.getLast? with
        | some s => return bareValue (← arg 0 s)
        | none => return plain .null
      | "NTH_VALUE" =>
        let nthOf (s : Scope) : Eval Nat := do
          let nth : Option Int := match asNumber (← arg 1 s).value with
            | some (.integer i) => some i
            | some (.real f) => exactInt f
            | _ => none
          match nth with
          | some i =>
            if i ≤ 0 then throw (.error "second argument to nth_value must be a positive integer")
            pure i.toNat
          | none => throw (.error "second argument to nth_value must be a positive integer")
        if frame.exclude == .noOthers then
          -- The place is read on the current row, and counts from the start of the frame.
          let k ← nthOf current
          match rows[k - 1]? with
          | some s => return bareValue (← arg 0 s)
          | none => return plain .null
        else
          -- Each row of the frame is visited, reading the place on that row.
          let mut found : Typed := plain .null
          for (s, k) in rows.zipIdx do
            if (← nthOf s) = k + 1 then found := bareValue (← arg 0 s)
          return found
      | _ =>
        match Aggregate.ofCall name args.length star with
        | none => throw (.error (n ++ "() may not be used as a window function"))
        | some agg =>
          if !agg.takes name args.length then
            throw (.error ("wrong number of arguments to function " ++ n ++ "()"))
          let mut typedRows : List (List Typed) := []
          for s in rows do
            let pass ← match filter with
              | some f => do pure (truth t.encoding (← evalTyped t fuel s f).value == some true)
              | none => pure true
            if pass then typedRows := typedRows ++ [← args.mapM (fun x => evalTyped t fuel s x)]
          let coll := ((typedRows.head?.bind List.head?).bind (·.collation)).getD .binary
          match agg.finish t.encoding coll typedRows with
          | .ok v => return { value := v, isJson := agg.givesJson }
          | .error m => throw (.error m)

/-- The rows of a query evaluated inside a scope, with at most `fuel` nested steps. -/
def runSelect (t : Tables) : Nat → Scope → Select → Eval Relation
  | 0, _, _ => .error (.error "Expression tree is too large (maximum depth 1000)")
  | fuel + 1, sc, q => do
    let sc := { sc with tables := q.ctes.map (fun c =>
      ({ name := c.name, columns := c.columns, body := .query c.query } : NamedTable)) ++ sc.tables }
    let limitOf (e : Option Expr) : Eval (Option Int) := match e with
      | none => pure none
      | some x => do
        match limitValue (← evalTyped t fuel sc x).value with
        | some i => pure (some i)
        | none => throw (.error "datatype mismatch")
    match q.rest with
    | [] =>
      let r ← runCore t fuel sc q.first q.orderBy
      let rows := if q.orderBy.isEmpty then r.rows else sortByKeys t.encoding q.orderBy r.rows
      let limit ← limitOf q.limit
      let offset ← limitOf q.offset
      return { columns := r.columns, rows := cutRows offset limit (rows.map (·.1)) }
    | _ =>
      let first ← runCore t fuel sc q.first []
      let width := first.columns.length
      -- Each column compares under the collation of the first core from the left that states one.
      let mut stated : List (Option Collation) := first.collations
      let mut cores : List (Compound × CoreRows) := []
      for (op, core) in q.rest do
        let more ← runCore t fuel sc core []
        cores := cores ++ [(op, more)]
        stated := (List.range width).map (fun k => (stated.getD k none).orElse (fun _ => more.collations.getD k none))
      let colls := stated.map (·.getD .binary)
      let mut rows : List (List SqlValue) := first.rows.map (·.1)
      for (op, more) in cores do
        if more.columns.length ≠ width then
          let word := match op with
            | .unionAll => "UNION ALL"
            | .union => "UNION"
            | .intersect => "INTERSECT"
            | .except => "EXCEPT"
          throw (.error ("SELECTs to the left and right of " ++ word ++
            " do not have the same number of result columns"))
        let others := more.rows.map (·.1)
        rows := match op with
          | .unionAll => rows ++ others
          | .union => sortedSet t.encoding colls (rows ++ others)
          | .intersect => sortedSet t.encoding colls (rows.filter (fun r => others.any (sameRowUnder t.encoding colls r)))
          | .except => sortedSet t.encoding colls (rows.filter (fun r => !others.any (sameRowUnder t.encoding colls r)))
      let mut keyed : List (List SqlValue × List Typed) := rows.map (·, [])
      if !q.orderBy.isEmpty then
        let mut picks : List (Nat × Option Collation) := []
        for (term, i) in q.orderBy.zipIdx do
          match orderColumn first.columns term.expr with
          | some p => picks := picks ++ [p]
          | none => throw (.error (ordinal (i + 1) ++
              " ORDER BY term does not match any column in the result set"))
        let keyColumns := (first.columns.zip colls).map (fun ((n, aff, _), c) => (n, aff, c))
        keyed := sortByKeys t.encoding q.orderBy (rows.map (fun vals => (vals, picks.map (fun (k, c) =>
          let key := outputKey keyColumns vals k
          match c with
          | some c => { key with collation := some c }
          | none => key))))
      let limit ← limitOf q.limit
      let offset ← limitOf q.offset
      return { columns := first.columns, rows := cutRows offset limit (keyed.map (·.1)) }

/-- The rows of one core of a query inside a scope, each with its sort keys under the ordering
terms given, with at most `fuel` nested steps. -/
def runCore (t : Tables) : Nat → Scope → SelectCore → List OrderTerm → Eval CoreRows
  | 0, _, _, _ => .error (.error "Expression tree is too large (maximum depth 1000)")
  | fuel + 1, sc, core, order => do
    let ev (s : Scope) (x : Expr) : Eval SqlValue := do return (← evalTyped t fuel s x).value
    if !core.values.isEmpty then
      let rows ← core.values.mapM (fun r => r.mapM (fun x => evalTyped t fuel sc x))
      let width := (rows.head?.map List.length).getD 0
      if rows.any (·.length ≠ width) then throw (.error "all VALUES must have the same number of terms")
      let cols := (List.range width).map (fun k => ("column" ++ toString (k + 1), (none : Option Affinity), Collation.binary))
      let keyed := rows.map (fun r =>
        let vals := r.map (·.value)
        (vals, order.map (fun term => match orderColumn cols term.expr with
          | some (k, c) => { outputKey cols vals k with collation := c.orElse (fun _ => some .binary) }
          | none => ⟨.null, none, none, false, false⟩)))
      return { columns := cols, rows := keyed }
    -- The sources, joined left to right.
    let mut joined : List (List Frame) := [[]]
    let mut blanks : List Frame := []
    for (src, i) in core.sources.zipIdx do
      if i > 0 && src.isCall then
        -- A function's arguments may read the sources before it: call it for each row so far.
        let mut acc : List (List Frame) := []
        let callName := match src.item with
          | .call n _ => n
          | _ => ""
        let mut blank : Frame :=
          Frame.blankOf (eachFrame (src.aliasName.getD callName) 0 (SqlJson.eachColumns.map (fun _ => default)))
        for l in joined do
          let (b, frames) ← sourceRows t fuel (sc.enter l) src
          blank := b
          acc := acc ++ (← joinRows t.encoding ev sc src b blanks [l] frames)
        joined := acc
        blanks := blanks ++ [blank.joinedThrough src (sharedColumns src blank blanks)]
      else
        let (blank, frames) ← sourceRows t fuel sc src
        joined ← if i = 0 then pure (frames.map ([·]))
          else joinRows t.encoding ev sc src blank blanks joined frames
        blanks := blanks ++ [if i = 0 then blank else blank.joinedThrough src (sharedColumns src blank blanks)]
    let aliases := core.columns.filterMap (fun c => match c with
      | .expr x (some a) => some (a, x)
      | _ => none)
    let inRow (row : List Frame) : Scope := { sc.enter row with aliases }
    let kept ← joined.filterM (fun row => match core.condition with
      | some c => (ev (inRow row) c).map (fun v => truth t.encoding v == some true)
      | none => pure true)
    let keysIn (s : Scope) (cols : List (String × Typed)) : Eval (List Typed) :=
      order.mapM (fun term => do
        let x := termExpr core.columns term.expr
        match term.expr with
        | .literal (.integer k) =>
          if 1 ≤ k ∧ k.toNat ≤ cols.length then pure ((cols.getD (k.toNat - 1) ("", ⟨.null, none, none, false, false⟩)).2)
          else throw (.error (ordinal ((order.findIdx? (fun o => match o.expr with
              | .literal (.integer j) => j == k
              | _ => false)).getD 0 + 1) ++ " ORDER BY term out of range - should be between 1 and " ++
            toString cols.length))
        | _ => evalTyped t fuel { s with aliases } x)
    let aggregate := !core.groupBy.isEmpty ∨ core.having.isSome ∨
      core.columns.any (fun c => match c with
        | .expr x _ => x.hasAggregate fuel
        | _ => false) ∨
      order.any (fun o => o.expr.hasAggregate fuel)
    -- The rows of the result: each row kept, or each group that `HAVING` keeps.
    let mut bases : List Scope := []
    if aggregate then
      -- Rows in groups, in the order of their group values.
      let groups ← if core.groupBy.isEmpty then pure [kept]
        else do
          let keyedRows ← kept.mapM (fun row => do
            let ks ← core.groupBy.mapM (fun g => evalTyped t fuel (inRow row) (match g with
              | .literal (.integer _) => termExpr core.columns g
              | _ => g))
            pure (row, ks))
          let colls := ((keyedRows.head?.map (·.2)).getD []).map (fun k => k.collation.getD .binary)
          let cmp (a b : List Typed) : Ordering := compareRowsUnder t.encoding colls (a.map (·.value)) (b.map (·.value))
          let sorted := keyedRows.mergeSort (fun a b => cmp a.2 b.2 != .gt)
          let grouped := sorted.foldl (fun (acc : List (List (List Frame × List Typed))) r =>
            match acc.getLast? with
            | some g =>
              if g.head?.any (fun h => cmp h.2 r.2 == .eq) then acc.dropLast ++ [g ++ [r]] else acc ++ [[r]]
            | none => [[r]]) []
          pure (grouped.map (·.map (·.1)))
      let extremes := core.columns.flatMap (fun c => match c with
          | .expr x _ => x.extremeCalls fuel
          | _ => []) ++ order.flatMap (fun o => o.expr.extremeCalls fuel) ++
        ((core.having.map (·.extremeCalls fuel)).getD [])
      for g in groups do
        let steps ← match extremes.getLast? with
          | some (.call n args _ _) => do
            let vals ← g.mapM (fun row => do
              let typed ← args.mapM (fun x => evalTyped t fuel { sc.enter row with group := none } x)
              pure ((typed.headD ⟨.null, none, none, false, false⟩)))
            let coll := ((vals.head?).bind (·.collation)).getD .binary
            pure (some (extremeSteps t.encoding (upperAscii n = "MAX") coll (vals.map (·.value))).2)
          | _ => pure none
        let bare := (bareRow g steps).getD (blanks.map Frame.blankOf)
        let gs := { sc.enter bare with group := some g }
        let keep ← match core.having with
          | some h => (ev { gs with aliases } h).map (fun v => truth t.encoding v == some true)
          | none => pure true
        if keep then bases := bases ++ [gs]
    else
      bases := kept.map sc.enter
    let overs := core.columns.flatMap (fun c => match c with
        | .expr x _ => x.windowsCalled fuel
        | _ => []) ++ order.flatMap (fun o => o.expr.windowsCalled fuel)
    let named := core.windows.reverse
    let seen := bases.map (fun b => (b.frames, b.group))
    let mut out : List (List (String × Typed) × List Typed) := []
    for (b, k) in bases.zipIdx do
      let s := if overs.isEmpty then b else { b with window := some { rows := seen, current := k, named } }
      let cols ← projectWith (fun s x => evalTyped t fuel s x) s core.columns
      out := out ++ [(cols, ← keysIn s cols)]
    -- The rows come out in the order of their windows: sorted by the first window met, rows
    -- that it ties sorted by the next, and so on.
    if !overs.isEmpty then
      let mut indexed := (List.range out.length).zip out
      for o in overs.reverse do
        match resolveOver named o with
        | .ok win =>
          let terms := win.partitionBy.map (fun x => ({ expr := x } : OrderTerm)) ++ win.orderBy
          let keyed ← indexed.mapM (fun (k, r) => do
            let ks ← terms.mapM (fun term => evalTyped t fuel (bases.getD k {}) term.expr)
            pure ((k, r), ks))
          indexed := (sortByKeys t.encoding terms keyed).map (·.1)
        | .error _ => pure ()
      out := indexed.map (·.2)
    let header : List (String × Typed) ← match out.head? with
      | some (cols, _) => pure cols
      | none =>
        -- The columns do not depend on the rows: take them from a row of NULLs.
        match projectWith (fun s x => evalTyped t fuel s x) (sc.enter (blanks.map Frame.blankOf)) core.columns with
        | .ok cols => pure cols
        | .error _ => pure (core.columns.zipIdx.map (fun (c, k) => match c with
          | .expr x aliasName => (resultName x aliasName k, ⟨.null, none, none, false, false⟩)
          | _ => ("*", ⟨.null, none, none, false, false⟩)))
    let columns := header.map (fun (n, v) => (n, v.affinity, v.collation.getD .binary))
    let rows := out.map (fun (cols, keys) => (cols.map (·.2.value), keys))
    let rows := if core.distinct then
        let colls := columns.map (·.2.2)
        rows.foldl (fun acc r => if acc.any (fun a => sameRowUnder t.encoding colls a.1 r.1) then acc else acc ++ [r]) []
      else rows
    return { columns, rows, collations := header.map (·.2.collation) }

/-- The rows of one source of `FROM` inside a scope, as frames, with the NULL frame of its shape;
with at most `fuel` nested steps. -/
def sourceRows (t : Tables) : Nat → Scope → Sql.Source → Eval (Frame × List Frame)
  | 0, _, _ => .error (.error "Expression tree is too large (maximum depth 1000)")
  | fuel + 1, sc, src => do
    let ofRelation (name : String) (r : Relation) : Frame × List Frame :=
      let blank : Frame := Frame.blankOf (r.frame name [])
      (blank, r.rows.map (r.frame name))
    match src.item with
    | .query q =>
      let r ← runSelect t fuel sc q
      return ofRelation (src.aliasName.getD "") r
    | .call n args =>
      let fn := lowerAscii n
      match pragmaName n with
      | some p =>
        let vals ← args.mapM (fun x => evalTyped t fuel sc x)
        let widths ← if p == "table_list" then viewWidths t fuel sc else pure []
        match pragmaFrames t widths (src.aliasName.getD n) p (vals.map (·.value)) with
        | some r => return ← r
        | none => throw (.error ("no such table: " ++ n))
      | none => pure ()
      if fn ≠ "json_each" ∧ fn ≠ "json_tree" then throw (.error ("no such table: " ++ n))
      if args.length > 2 then throw (.error ("too many arguments on " ++ n ++ "() - max 2"))
      let name := src.aliasName.getD n
      let blank : Frame := Frame.blankOf (eachFrame name 0 (SqlJson.eachColumns.map (fun _ => default)))
      if args.isEmpty then return (blank, [])
      let vals ← args.mapM (fun x => evalTyped t fuel sc x)
      let jargs := vals.map (fun x => ({ value := x.value, isJson := x.isJson } : SqlJson.JsonArg))
      let rows ← liftFailure (SqlJson.eachRows (fn = "json_tree") jargs)
      let root := match jargs with
        | [_, r] => SqlJson.pathText r.value
        | _ => "$"
      let input := (jargs.headD default).value
      let frames ← rows.zipIdx.mapM (fun (r, k) => do
        pure (eachFrame name k (← liftFailure (r.values input root))))
      return (blank, frames)
    | .named n =>
      let name := src.aliasName.getD n
      match sc.tables.find? (fun b => sameName b.name n) with
      | some b =>
        let r ← namedRows t fuel sc b
        return ofRelation name (b.relation r)
      | none =>
        match t.schema.table? (schemaName n) with
        | some tbl =>
          let rowEv (s : Scope) (x : Expr) : Eval SqlValue := do return (← evalTyped t fuel s x).value
          let frames := (t.rowsOf tbl.name).map (fun (rowid, vals) => tbl.frameWith rowEv name rowid vals)
          let blank : Frame :=
            { name, columns := tbl.frameColumns, values := tbl.columns.map (fun _ => .null),
              rowid := some 0, blank := true }
          return (blank, frames)
        | none =>
          match t.schema.view? n with
          | some v =>
            if sc.within.any (sameName v.name) then
              throw (.error ("view " ++ v.name ++ " is circularly defined"))
            let r ← runSelect t fuel { ctx := sc.ctx, within := v.name :: sc.within } v.query
            let names := if v.columns.isEmpty then r.columns.map (·.1) else v.columns
            return ofRelation name { r with columns := (names.zip r.columns).map (fun (m, c) => (m, c.2)) }
          | none =>
            match pragmaName n with
            | some p =>
              let widths ← if p == "table_list" then viewWidths t fuel sc else pure []
              match pragmaFrames t widths name p [] with
              | some r => r
              | none => throw (.error ("no such table: " ++ n))
            | none => throw (.error ("no such table: " ++ n))

/-- The number of columns of each view, as `table_list` reports it: the names the view gives,
the columns its query states, or else the columns its query gives when run (0 when that fails);
with at most `fuel` nested steps. -/
def viewWidths (t : Tables) : Nat → Scope → Eval (List (String × Nat))
  | 0, _ => pure []
  | fuel + 1, sc => t.schema.views.mapM (fun v => do
    if !v.columns.isEmpty then return (v.name, v.columns.length)
    match v.query.statedWidth with
    | some w => return (v.name, w)
    | none =>
      let w ← tryCatch (do
          let r ← runSelect t fuel { ctx := sc.ctx, within := v.name :: sc.within } v.query
          pure r.columns.length)
        (fun _ => pure 0)
      return (v.name, w))

/-- The rows of a table of `WITH`: rows already computed, the rows of its query, or the rows of
a recursive query; with at most `fuel` nested steps. -/
def namedRows (t : Tables) : Nat → Scope → NamedTable → Eval Relation
  | 0, _, _ => .error (.error "Expression tree is too large (maximum depth 1000)")
  | fuel + 1, sc, b => do
    match b.body with
    | .rows r => return r
    | .query q =>
      let cores := (Compound.unionAll, q.first) :: q.rest
      let anchors := cores.takeWhile (fun (_, c) => !c.reads b.name)
      let steps := cores.drop anchors.length
      match anchors, steps with
      | (_, a) :: moreAnchors, (op, _) :: _ =>
        let start ← runSelect t fuel sc { first := a, rest := moreAnchors }
        let names := if b.columns.isEmpty then start.columns.map (·.1) else b.columns
        let columns := (names.zip start.columns).map (fun (m, c) => (m, c.2))
        let colls := columns.map (·.2.2)
        let distinct := op == .union
        let limitOf (e : Option Expr) : Eval (Option Int) := match e with
          | none => pure none
          | some x => do
            match limitValue (← evalTyped t fuel sc x).value with
            | some i => pure (some i)
            | none => throw (.error "datatype mismatch")
        let limit ← limitOf q.limit
        let offset ← limitOf q.offset
        let first := if distinct then distinctUnder t.encoding colls start.rows else start.rows
        recursiveRows t fuel sc b.name columns (steps.map (·.2)) q.orderBy distinct first first []
          ((offset.getD 0).toNat) limit
      | _, _ =>
        if sc.within.any (sameName b.name) then throw (.error ("circular reference: " ++ b.name))
        runSelect t fuel { sc with within := b.name :: sc.within } q

/-- Run a recursive query from its queue: take the first row (or the least under the ordering
terms), give it out unless the offset skips it, and queue the rows the recursive parts give
for it, leaving out under `UNION` the rows seen before; stop at the limit or when the queue is
empty; with at most `fuel` rows. -/
def recursiveRows (t : Tables) : Nat → Scope → String → List (String × Option Affinity × Collation) →
    List SelectCore → List OrderTerm → Bool → List (List SqlValue) → List (List SqlValue) →
    List (List SqlValue) → Nat → Option Int → Eval Relation
  | 0, _, _, columns, _, _, _, _, _, out, _, _ => .ok { columns, rows := out }
  | fuel + 1, sc, name, columns, parts, order, distinct, queue, seen, out, skip, limit => do
    let done : Bool := match limit with
      | some n => decide (n ≥ 0 ∧ out.length ≥ n.toNat)
      | none => false
    if done then return { columns, rows := out }
    let colls := columns.map (·.2.2)
    let next := if order.isEmpty then queue.head?
      else
        let keyed := queue.map (fun r => (r, order.map (fun term =>
          match orderColumn columns term.expr with
          | some (k, c) => { outputKey columns r k with collation := c.orElse (fun _ => some ((colls.getD k .binary))) }
          | none => ⟨.null, none, none, false, false⟩)))
        ((sortByKeys t.encoding order keyed).head?).map (·.1)
    match next with
    | none => return { columns, rows := out }
    | some row =>
      let rest := match queue.findIdx? (fun r => r == row) with
        | some k => queue.eraseIdx k
        | none => queue.drop 1
      let (out, skip) := if skip > 0 then (out, skip - 1) else (out ++ [row], 0)
      let current : NamedTable :=
        { name, columns := columns.map (·.1), body := .rows { columns, rows := [row] } }
      let here : Scope := { sc with tables := current :: sc.tables }
      let mut found : List (List SqlValue) := []
      for part in parts do
        let r ← runSelect t fuel here { first := part }
        found := found ++ r.rows
      let (fresh, seen) := if distinct then
          found.foldl (fun (acc, seen) r =>
            if seen.any (sameRowUnder t.encoding colls r) then (acc, seen) else (acc ++ [r], seen ++ [r])) ([], seen)
        else (found, seen)
      recursiveRows t fuel sc name columns parts order distinct (rest ++ fresh) seen out skip limit

end

/-- The nesting bound of an evaluation. -/
def evalFuel : Nat := 100000

/-- Evaluate one of the content's own expressions, which read nothing but the row. -/
def rowEvaluator (t : Tables) : RowEvaluator := fun sc e => do return (← t.evalTyped evalFuel sc e).value

/-- The value of an expression. -/
def eval (t : Tables) (sc : Scope) (e : Expr) : Eval SqlValue := do
  return (← t.evalTyped evalFuel sc e).value

/-- The truth of a condition. -/
def holds (t : Tables) (sc : Scope) (e : Expr) : Eval (Option Bool) := do
  return truth t.encoding (← t.eval sc e)

/-- The rows of a query. -/
def query (t : Tables) (sc : Scope) (s : Select) : Eval Relation := t.runSelect evalFuel sc s

end Tables

namespace Sql

/-- The content an expression that reads nothing but the rows in scope needs: no table, only
the encoding of the database's text, which decides how text compares and converts. -/
def Tables.bare (enc : TextEncoding) : Tables := { file := { encoding := enc.headerNumber } }

namespace Scope

/-- The value of an expression that reads nothing but the rows in scope (no table, view or
query of the database), in a database of an encoding. -/
def evalTyped (sc : Scope) (enc : TextEncoding) (e : Expr) : Eval Typed :=
  (Tables.bare enc).evalTyped Tables.evalFuel sc e

/-- The value of an expression that reads nothing but the rows in scope. -/
def eval (sc : Scope) (enc : TextEncoding) (e : Expr) : Eval SqlValue := (Tables.bare enc).eval sc e

/-- The truth of a condition that reads nothing but the rows in scope. -/
def holds (sc : Scope) (enc : TextEncoding) (e : Expr) : Eval (Option Bool) :=
  (Tables.bare enc).holds sc e

end Scope

/-- The value of a column's default, in a database of an encoding. -/
def Column.defaultOf (c : Column) (enc : TextEncoding) : SqlValue :=
  c.defaultWith (Tables.bare enc).rowEvaluator

namespace Table

/-- The values of a row's columns, generated ones computed, in a database of an encoding. -/
def columnValues (t : Table) (enc : TextEncoding) (rowid : Int) (vals : List SqlValue) : List SqlValue :=
  t.columnValuesWith (Tables.bare enc).rowEvaluator rowid vals

/-- Compute the generated columns of a row. -/
def computeGenerated (t : Table) (enc : TextEncoding) (all : Bool) (rowid : Int) (cols : List SqlValue) :
    List SqlValue :=
  t.computeGeneratedWith (Tables.bare enc).rowEvaluator all rowid cols

/-- A row of a table as expressions see it, under a name. -/
def frame (t : Table) (enc : TextEncoding) (name : String) (rowid : Int) (vals : List SqlValue) : Frame :=
  t.frameWith (Tables.bare enc).rowEvaluator name rowid vals

/-- The value of a column as an index key holds it. -/
def storedValue (t : Table) (enc : TextEncoding) (rowid : Int) (vals : List SqlValue) (k : Nat) : SqlValue :=
  t.storedValueWith (Tables.bare enc).rowEvaluator rowid vals k

end Table

/-- The key a row has in an index, if the index holds one for it, in a database of an
encoding. -/
def Index.keyOf (i : Index) (enc : TextEncoding) (t : Table) (rowid : Int) (vals : List SqlValue) :
    Eval (Option (List SqlValue)) :=
  i.keyWith (Tables.bare enc).rowEvaluator enc t rowid vals

end Sql

end DocStore
