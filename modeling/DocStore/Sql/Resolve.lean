import DocStore.Sql.Catalog
import DocStore.Sql.Modify
/-!
# Checking statements before they run

The engine compiles a statement before it runs any of it, and with the statement the body of
every trigger the statement may fire. Names are resolved then: a column, table or function
that does not exist is an error even in a branch that never runs, and the statement changes
nothing. `Tables.checkFiring` repeats those checks for the triggers a write compiles and gives
the error the engine reports.

The checks keep the engine's order, because when a statement holds several faults the one
reported is the one its order meets last or first:

* A query is first *expanded*: the sources of its `FROM` are looked up, `*` is replaced by the
  columns it stands for, and every query nested in it is expanded the same way. The first
  failure stops the expansion.
* Its names are then *resolved*, core by core from the last: `LIMIT`, the queries of `FROM`,
  the result columns, `HAVING`, `WHERE`, then `ORDER BY` and `GROUP BY`.
* In an expression the walk is in prefix order. A fault is recorded and the walk goes on, but
  once any fault is recorded an operator's operands are no longer visited; a function still
  checks its arguments, and a column that does not resolve ends the walk. So within one
  expression the fault met last is the one reported.
* A statement stops at its first fault. A trigger's body is checked as a separate statement
  whose first fault is kept; the statement then goes on compiling, so the trigger met first
  decides. A trigger is compiled once per statement, which ends the recursion of triggers that
  fire each other.
* Last come the faults found while generating code: literals out of range, row values where a
  single value belongs, and unknown collations where a comparison needs one.
-/

namespace DocStore

open Sql

namespace Sql

/-- A source of `FROM` as names see it: the name it goes by, the columns `*` shows, hidden
columns a name still reaches, whether it has a rowid, the columns an earlier source took through
`USING` or `NATURAL` (an unqualified name skips them here), and whether every name is one of its
columns (a virtual table whose columns are not known). -/
structure Shape where
  name : String
  columns : List String
  hidden : List String := []
  rowid : Bool := false
  merged : List String := []
  anyName : Bool := false
deriving Repr, Inhabited

/-- Whether a source has a column of a name. -/
def Shape.has (s : Shape) (n : String) : Bool :=
  s.anyName || s.columns.any (sameName · n) || s.hidden.any (sameName · n)

/-- One query level of a name's lookup: its sources, the result columns named with `AS` that a
name may stand for, whether aggregates and window functions may appear, and the windows the
query names (the latest first). -/
structure Level where
  sources : List Shape := []
  aliases : List (String × Expr) := []
  aggregates : Bool := false
  windows : Bool := false
  named : List (String × Window) := []
deriving Inhabited

/-- A table of `WITH` in scope, with the columns it has while its own query is expanded when it
refers to itself. -/
structure CteBinding where
  table : CommonTable
  columns : Option (List String) := none

/-- Where the names of a statement are looked up: the query levels, innermost first; the rows a
trigger sees as `new` and `old`; the tables of `WITH`, innermost first; the views and tables of
`WITH` being expanded; and whether the queries met are expanded already, as those inside an
expanded query are. -/
structure Context where
  levels : List Level := []
  newRow : Option Shape := none
  oldRow : Option Shape := none
  ctes : List CteBinding := []
  within : List String := []
  expanded : Bool := false
deriving Inhabited

/-- The state of a check: the fault recorded last, the triggers compiled so far, and whether
the expression being resolved used an aggregate. -/
structure Check where
  fault : Option String := none
  compiled : List String := []
  sawAggregate : Bool := false
deriving Inhabited

/-- A check in progress. -/
abbrev CheckM := StateM Check

namespace Check

/-- Record a fault, replacing the one recorded before. -/
def note (msg : String) : CheckM Unit := modify (fun c => { c with fault := some msg })

/-- Whether a fault has been recorded. -/
def failed : CheckM Bool := do return (← get).fault.isSome

end Check

open Check

/-! ## Expressions as the checks see them -/

/-- The number of values an operand stands for: the items of a row value, the result columns
of a query (a `*` counts once before expansion), or one. -/
def Expr.width : Expr → Nat
  | .rowValue items => items.length
  | .scalarQuery q => q.first.columns.length
  | _ => 1

/-- Whether an expression is a function call the engine treats as an aggregate. -/
def isAggregateCall (name : String) (argc : Nat) : Bool :=
  lookupFunction name argc == .found .aggregate

/-- The result columns of a core named with `AS`. -/
def aliasesOf (core : SelectCore) : List (String × Expr) :=
  core.columns.filterMap (fun c => match c with
    | .expr x (some a) => some (a, x)
    | _ => none)

/-- The `WHERE` of a core with the `ON` conditions of its joins after it, as the engine merges
them: a conjunction with a literal zero on either side is zero, except across an outer join. -/
def conditionWithJoins (core : SelectCore) : Option Expr :=
  core.sources.foldl (fun acc src =>
    match src.on, acc with
    | none, _ => acc
    | some on, none => some on
    | some on, some w =>
      let outer := src.join != .inner
      if !outer ∧ (w.isZeroLiteral ∨ on.isZeroLiteral) then some (.literal (.integer 0))
      else some (.binary .and w on)) core.condition

/-- The expressions of a core in the order the engine visits them while expanding: result
columns, the condition with the joins' conditions, grouping, `HAVING`, then the arguments of
table-valued functions. -/
def coreExprs (core : SelectCore) : List Expr :=
  core.columns.filterMap (fun c => match c with
    | .expr x _ => some x
    | _ => none) ++ (conditionWithJoins core).toList ++ core.groupBy ++ core.having.toList ++
  core.sources.flatMap (fun s => match s.item with
    | .call _ args => args
    | _ => [])

/-- The word of a compound operator in messages. -/
def compoundWord : Compound → String
  | .unionAll => "UNION ALL"
  | .union => "UNION"
  | .intersect => "INTERSECT"
  | .except => "EXCEPT"

/-- The cores of a query from the last to the first, each with the operator that joins it to the
core before it (none for the first). -/
def coresFromLast (q : Select) : List (SelectCore × Option Compound) :=
  ((q.first, none) :: q.rest.map (fun (op, c) => (c, some op))).reverse

/-- The name a table of the main schema is found under: `sqlite_schema` is the schema table;
the temporary schema's names are not found there. -/
def mainTableName (n : String) : String := if sameName n "sqlite_schema" then "sqlite_master" else n

/-- The shape of a table of the schema under a name. -/
def tableShape (name : String) (t : Table) : Shape :=
  { name, columns := t.columns.map (·.name), rowid := !t.withoutRowid }

/-- The result column names of a core, given the shapes of its sources. -/
def coreNames (core : SelectCore) (shapes : List Shape) : Except String (List String) := do
  if !core.values.isEmpty then
    return (List.range ((core.values.head?.map List.length).getD 0)).map (fun k => "column" ++ toString (k + 1))
  let mut out : List String := []
  for (c, k) in core.columns.zipIdx do
    match c with
    | .expr x aliasName => out := out ++ [resultName x aliasName k]
    | .star =>
      if shapes.isEmpty then throw "no tables specified"
      for s in shapes do
        out := out ++ s.columns.filter (fun n => !s.merged.any (sameName n))
    | .tableStar t =>
      match shapes.find? (fun s => sameName s.name t) with
      | some s => out := out ++ s.columns
      | none => throw ("no such table: " ++ t)
  return out

/-! ## Expansion -/

/-- How the columns a source shares with the sources before it are joined: `NATURAL` joins every
shared column, `USING` the ones it names, which must be in both. With a right or full join among
the sources (`rightward`), a shared column that more than one source before has must be shared
by each of them after the first through its own join. -/
def joinShapes (shapes : List Shape) (src : Source) (right : Shape) (rightward : Bool) :
    Except String Shape := do
  let shared :=
    if src.natural then right.columns.filter (fun c => shapes.any (·.has c))
    else src.usingColumns
  for c in shared do
    if !src.natural ∧ (!right.has c ∨ !shapes.any (·.has c)) then
      throw ("cannot join using column " ++ c ++ " - column not present in both tables")
    if rightward then
      match shapes.findIdx? (·.has c) with
      | some k =>
        if (shapes.drop (k + 1)).any (fun sh => sh.has c ∧ !sh.merged.any (sameName c)) then
          throw ("ambiguous reference to " ++ c ++ " in USING()")
      | none => pure ()
  return { right with merged := shared }

mutual

/-- Expand a query: look up its sources and those of every query in it, replacing `*`; the
names of its result columns, or the first failure. With `fromOnly`, only the sources of its last
core are looked up, as the engine does when a fault is already recorded. -/
def expandSelect (s : Schema) : Nat → Context → Bool → Select → Except String (List String)
  | 0, _, _, _ => .error "Expression tree is too large (maximum depth 1000)"
  | fuel + 1, cx, fromOnly, q => do
    let cx := { cx with ctes := q.ctes.reverse.map (fun t => { table := t }) ++ cx.ctes }
    let mut names : List String := []
    let mut last := true
    for (core, _) in coresFromLast q do
      let shapes ← expandSources s fuel cx fromOnly core
      if fromOnly then return []
      names ← coreNames core shapes
      for x in coreExprs core ++ core.values.flatten do
        expandExpr s fuel cx x
      if last then
        for x in q.orderBy.map (·.expr) ++ q.limit.toList ++ q.offset.toList do
          expandExpr s fuel cx x
      last := false
    return names

/-- Look up the sources of a core, in order, and join them: their shapes. -/
def expandSources (s : Schema) : Nat → Context → Bool → SelectCore → Except String (List Shape)
  | 0, _, _, _ => .error "Expression tree is too large (maximum depth 1000)"
  | fuel + 1, cx, fromOnly, core => do
    let mut found : List Shape := []
    for src in core.sources do
      found := found ++ [← expandSource s fuel cx fromOnly src]
    -- The joins are checked once every source is found.
    let rightward := core.sources.any (fun src => src.join == .right ∨ src.join == .full)
    let mut shapes : List Shape := []
    for ((src, shape), i) in (core.sources.zip found).zipIdx do
      shapes := shapes ++ [← if i = 0 then pure shape else joinShapes shapes src shape rightward]
    return shapes

/-- Look up one source of `FROM`: a query, a table of `WITH`, a table, a view, or a table that
needs no definition. -/
def expandSource (s : Schema) : Nat → Context → Bool → Source → Except String Shape
  | 0, _, _, _ => .error "Expression tree is too large (maximum depth 1000)"
  | fuel + 1, cx, fromOnly, src => do
    match src.item with
    | .query q =>
      let names ← expandSelect s fuel cx fromOnly q
      return { name := src.aliasName.getD "", columns := names }
    | .call n _ =>
      match builtinTable n with
      | some (cols, hidden) => return { name := src.aliasName.getD n, columns := cols, hidden, rowid := true }
      | none =>
        if (s.table? n).isSome ∨ (s.view? n).isSome then throw ("'" ++ n ++ "' is not a function")
        throw ("no such table: main." ++ n)
    | .named n =>
      let name := src.aliasName.getD n
      match cx.ctes.find? (fun b => sameName b.table.name n) with
      | some b =>
        match b.columns with
        | some cols => return { name, columns := cols }
        | none =>
          if cx.within.any (sameName n) then throw ("circular reference: " ++ b.table.name)
          let cols ← expandCommonTable s fuel cx b.table
          return { name, columns := cols }
      | none =>
        match s.table? (mainTableName n) with
        | some t => return tableShape name t
        | none =>
          match s.view? n with
          | some v =>
            if cx.within.any (sameName v.name) then throw ("view " ++ v.name ++ " is circularly defined")
            let names ← expandSelect s fuel { within := v.name :: cx.within } false v.query
            return { name, columns := if v.columns.isEmpty then names else v.columns }
          | none =>
            if s.virtuals.any (sameName n) then return { name, columns := [], rowid := true, anyName := true }
            match builtinTable n with
            | some (cols, hidden) =>
              if sameName n "dbstat" then throw "unsafe use of virtual table \"dbstat\""
              return { name, columns := cols, hidden, rowid := true }
            | none => throw ("no such table: main." ++ n)

/-- Expand a table of `WITH` where a query uses it: the columns it has. A compound whose later
cores read the table itself is recursive: its first core gives the columns the later ones see. -/
def expandCommonTable (s : Schema) : Nat → Context → CommonTable → Except String (List String)
  | 0, _, _ => .error "Expression tree is too large (maximum depth 1000)"
  | fuel + 1, cx, t => do
    let inner := { cx with within := t.name :: cx.within }
    let firstNames ← expandSelect s fuel inner false { t.query with rest := [], orderBy := [], limit := none, offset := none }
    if !t.columns.isEmpty ∧ firstNames.length ≠ t.columns.length then
      throw ("table " ++ t.name ++ " has " ++ toString firstNames.length ++ " values for " ++
        toString t.columns.length ++ " columns")
    let cols := if t.columns.isEmpty then firstNames else t.columns
    let selfBound := { inner with ctes := { table := t, columns := some cols } :: inner.ctes }
    discard (expandSelect s fuel selfBound false t.query)
    return cols

/-- Expand the queries inside an expression, in the order the engine walks it. -/
def expandExpr (s : Schema) : Nat → Context → Expr → Except String Unit
  | 0, _, _ => .error "Expression tree is too large (maximum depth 1000)"
  | fuel + 1, cx, e => do
    let go (x : Expr) : Except String Unit := expandExpr s fuel cx x
    match e with
    | .scalarQuery q | .existsQuery q => discard (expandSelect s fuel cx false q)
    | .inQuery a q _ => go a; discard (expandSelect s fuel cx false q)
    | .unary _ a | .isNull a _ | .cast a _ | .collate a _ => go a
    | .binary _ a b => go a; go b
    | .between a lo hi _ => go a; go lo; go hi
    | .inList a items _ => go a; items.forM go
    | .like a p esc _ _ => go p; go a; esc.forM go
    | .caseOf op branches other =>
      op.forM go
      for (w, t) in branches do
        go w
        go t
      other.forM go
    | .call _ args _ _ => args.forM go
    | .callWith _ args _ _ orderBy filter windowSpec =>
      args.forM go
      orderBy.forM (fun o => go o.expr)
      match windowSpec with
      | some (.window w) =>
        w.orderBy.forM (fun o => go o.expr)
        w.partitionBy.forM go
      | _ => pure ()
      filter.forM go
    | .rowValue items => items.forM go
    | .literal _ | .column _ _ | .param _ | .raise _ _ | .faulty _ => pure ()

end

/-! ## Names -/

/-- What a name reaches at one level: nothing, one column, more than one, or a result column
named with `AS` (its expression). -/
inductive Reach where
  | none
  | one
  | many
  | aliased (x : Expr)

/-- Look a column name up among the sources of a level, then as `new` or `old` of a trigger,
then as the rowid of the sources, then among the level's result column names. -/
def Level.reach (cx : Context) (l : Level) (q : Option String) (n : String) : Reach :=
  let named := l.sources.filter (fun s => match q with
    | some qual => sameName s.name qual
    | none => true)
  let hits := named.filter (fun s => s.has n && (q.isSome || !s.merged.any (sameName n)))
  match hits with
  | [_] => .one
  | _ :: _ :: _ => .many
  | [] =>
    let triggerRow := match q with
      | some qual =>
        if sameName qual "new" then cx.newRow
        else if sameName qual "old" then cx.oldRow
        else none
      | none => none
    match triggerRow with
    | some r =>
      if r.has n || (isRowidName n && r.rowid) then .one else .none
    | none =>
      let rowids := named.filter (·.rowid)
      if isRowidName n ∧ !rowids.isEmpty then (if rowids.length = 1 then .one else .many)
      else
        match q with
        | some _ => .none
        | none =>
          match l.aliases.find? (fun a => sameName a.1 n) with
          | some (_, x) => .aliased x
          | none => .none

/-- Whether an expression holds a call of an aggregate outside nested queries. -/
def Expr.hasAggregateCall : Nat → Expr → Bool
  | 0, _ => false
  | fuel + 1, e =>
    let go := Expr.hasAggregateCall fuel
    match e with
    | .call n args _ star => isAggregateCall n (if star then 0 else args.length) || args.any go
    | .callWith n args _ star orderBy filter windowSpec =>
      (windowSpec.isNone && isAggregateCall n (if star then 0 else args.length)) || args.any go ||
        orderBy.any (fun o => go o.expr) || filter.any go
    | .unary _ a | .isNull a _ | .cast a _ | .collate a _ => go a
    | .binary _ a b => go a || go b
    | .between a lo hi _ => go a || go lo || go hi
    | .inList a items _ => go a || items.any go
    | .inQuery a _ _ => go a
    | .like a p esc _ _ => go a || go p || esc.any go
    | .caseOf op branches other =>
      op.any go || branches.any (fun (w, t) => go w || go t) || other.any go
    | .rowValue items => items.any go
    | _ => false

/-- Whether an expression holds a call with `OVER` outside nested queries. -/
def Expr.hasWindowCall : Nat → Expr → Bool
  | 0, _ => false
  | fuel + 1, e =>
    let go := Expr.hasWindowCall fuel
    match e with
    | .callWith _ args _ _ orderBy filter windowSpec =>
      windowSpec.isSome || args.any go || orderBy.any (fun o => go o.expr) || filter.any go
    | .call _ args _ _ => args.any go
    | .unary _ a | .isNull a _ | .cast a _ | .collate a _ => go a
    | .binary _ a b => go a || go b
    | .between a lo hi _ => go a || go lo || go hi
    | .inList a items _ => go a || items.any go
    | .inQuery a _ _ => go a
    | .like a p esc _ _ => go a || go p || esc.any go
    | .caseOf op branches other =>
      op.any go || branches.any (fun (w, t) => go w || go t) || other.any go
    | .rowValue items => items.any go
    | _ => false

/-- Whether a name has an entry that is an aggregate or a window function, which may then be
called with `OVER`. -/
def windowCapable (name : String) : Bool :=
  functionCatalog.any (fun e => e.name == upperAscii name && e.kind != .scalar)

/-- The checks the engine makes of the window of a call when it resolves it: the window it
names or builds on must exist, an offset under `RANGE` needs exactly one ordering term, and a
window function proper takes no `FILTER`. -/
def windowFault (named : List (String × Window)) (kind : FunctionKind) (filter : Option Expr) :
    Over → Option String
  | .named m =>
    match named.find? (fun d => sameName d.1 m) with
    | none => some ("no such window: " ++ m)
    | some (_, w) => framedFault w
  | .window w =>
    match Parser.chainWindow named w with
    | .error msg => some msg
    | .ok w => framedFault w
where
  framedFault (w : Window) : Option String :=
    let offset (b : FrameBound) : Bool := match b with
      | .preceding _ | .following _ => true
      | _ => false
    match w.frame with
    | some f =>
      if f.unit == .range ∧ (offset f.start ∨ offset f.finish) ∧ w.orderBy.length ≠ 1 then
        some "RANGE with offset PRECEDING/FOLLOWING requires one ORDER BY expression"
      else if kind == .window ∧ filter.isSome then
        some "FILTER clause may only be used with aggregate window functions"
      else none
    | none =>
      if kind == .window ∧ filter.isSome then
        some "FILTER clause may only be used with aggregate window functions"
      else none

/-- What a column name reaches through the levels, innermost first: the first level where it
reaches anything decides. -/
def reachThrough (cx : Context) (q : Option String) (n : String) : List Level → Option (Level × Reach)
  | [] => none
  | l :: rest =>
    match l.reach cx q n with
    | .none => reachThrough cx q n rest
    | r => some (l, r)

/-- Resolve a column name through the levels, innermost first: a fault ends the walk. With no
level reaching it, `new.x` and `old.x` are still looked up, and `true` and `false` are values. -/
def lookupColumn (cx : Context) (q : Option String) (n : String) : CheckM Bool := do
  let written := match q with
    | some qual => qual ++ "." ++ n
    | none => n
  match reachThrough cx q n cx.levels with
  | some (_, .one) => return false
  | some (_, .many) =>
    note ("ambiguous column name: " ++ written)
    return true
  | some (l, .aliased x) =>
    if !l.aggregates ∧ x.hasAggregateCall 64 then
      note ("misuse of aliased aggregate " ++ n)
      return true
    let atTop := match cx.levels with
      | h :: _ => match h.reach cx q n with
        | .aliased _ => true
        | _ => false
      | [] => false
    if x.hasWindowCall 64 ∧ (!l.windows ∨ !atTop) then
      note ("misuse of aliased window function " ++ n)
      return true
    return false
  | _ =>
    if q.isNone ∧ (sameName n "true" ∨ sameName n "false") then return false
    match Level.reach cx {} q n with
    | .one => return false
    | _ =>
      note ("no such column: " ++ written)
      return true

/-- The argument of `likelihood` must be a real literal between 0 and 1. -/
def probabilityLiteral : Expr → Bool
  | .literal (.real f) => Binary64.compareInt 1 f != .lt
  | _ => false

mutual

/-- Walk an expression, resolving its names; `true` when the walk must stop. -/
def walkExpr (s : Schema) : Nat → Context → Expr → CheckM Bool
  | 0, _, _ => do note "Expression tree is too large (maximum depth 1000)"; return true
  | fuel + 1, cx, e => do
    let walk (x : Expr) : CheckM Bool := walkExpr s fuel cx x
    -- An operator's operands, visited unless a fault is recorded.
    let operands (xs : List Expr) : CheckM Bool := do
      if ← failed then return false
      walkAll s fuel cx xs
    match e with
    | .literal _ | .param _ | .raise _ _ | .faulty _ => return false
    | .column q n => lookupColumn cx q n
    | .call n args _ star => do
      let argc := if star then 0 else args.length
      let level := cx.levels.headD {}
      let mut aggregate := false
      match lookupFunction n argc with
      | .unknown => note ("no such function: " ++ n)
      | .wrongCount => note ("wrong number of arguments to function " ++ n ++ "()")
      | .found .window => note ("misuse of window function " ++ n ++ "()")
      | .found .aggregate =>
        if level.aggregates then aggregate := true
        else note ("misuse of aggregate function " ++ n ++ "()")
      | .found .scalar =>
        if upperAscii n = "LIKELIHOOD" ∧ !probabilityLiteral (args.getD 1 (.literal .null)) then
          note ("second argument to " ++ n ++ "() must be a constant between 0.0 and 1.0")
      if aggregate then modify (fun c => { c with sawAggregate := true })
      let inner := if aggregate then
          { cx with levels := match cx.levels with
            | l :: rest => { l with aggregates := false } :: rest
            | [] => [] }
        else cx
      discard (walkAll s fuel inner args)
      return false
    | .callWith n args _ star orderBy filter windowSpec => do
      let argc := if star then 0 else args.length
      let level := cx.levels.headD {}
      let mut called : Option FunctionKind := none
      match lookupFunction n argc with
      | .unknown => note ("no such function: " ++ n)
      | .wrongCount =>
        if windowSpec.isSome ∧ !windowCapable n then note (n ++ "() may not be used as a window function")
        else note ("wrong number of arguments to function " ++ n ++ "()")
      | .found kind =>
        if kind == .scalar ∧ windowSpec.isSome then note (n ++ "() may not be used as a window function")
        else if kind != .scalar ∧
            (!level.aggregates ∨ (kind == .window ∧ windowSpec.isNone) ∨ (windowSpec.isSome ∧ !level.windows)) then
          let what := if kind == .window ∨ windowSpec.isSome then "window" else "aggregate"
          note ("misuse of " ++ what ++ " function " ++ n ++ "()")
        else if kind == .scalar then
          let clause := if filter.isSome then "FILTER" else "ORDER BY"
          note (clause ++ " may not be used with non-aggregate " ++ n ++ "()")
        else called := some kind
      match called with
      | none =>
        discard (walkAll s fuel cx args)
        return false
      | some kind =>
        -- No window function inside, and no aggregate inside an aggregate.
        let inner := { cx with levels := match cx.levels with
          | l :: rest => { l with windows := false, aggregates := l.aggregates && windowSpec.isSome } :: rest
          | [] => [] }
        discard (walkAll s fuel inner args)
        discard (walkAll s fuel inner (orderBy.map (·.expr)))
        match windowSpec with
        | some o =>
          match windowFault level.named kind filter o with
          | some msg => note msg
          | none => pure ()
          let win : Window := match o with
            | .named m => ((level.named.find? (fun d => sameName d.1 m)).map (·.2)).getD {}
            | .window w => (Parser.chainWindow level.named w).toOption.getD w
          discard (walkAll s fuel inner win.partitionBy)
          discard (walkAll s fuel inner (win.orderBy.map (·.expr)))
        | none => modify (fun c => { c with sawAggregate := true })
        discard (walkAll s fuel inner filter.toList)
        return false
    | .isNull a _ => do
      discard (walk a)
      return false
    | .scalarQuery q | .existsQuery q => do
      prepareSelect s fuel cx cx.expanded q
      return false
    | .inQuery a q _ => do
      prepareSelect s fuel cx cx.expanded q
      if ← failed then return false
      walk a
    | .binary op a b =>
      if op == .eq ∨ op == .ne ∨ op == .lt ∨ op == .le ∨ op == .gt ∨ op == .ge ∨ op == .is ∨ op == .isNot then do
        if op == .is ∨ op == .isNot then
          match b with
          | .column none _ => if ← walk b then return true
          | _ => pure ()
        if a.width ≠ b.width then note "row value misused"
        operands [a, b]
      else operands [a, b]
    | .between a lo hi _ => do
      let w := a.width
      if lo.width ≠ w ∨ hi.width ≠ w then note "row value misused"
      operands [a, lo, hi]
    | .unary _ a | .cast a _ | .collate a _ => operands [a]
    | .inList a items _ => operands (a :: items)
    | .like a p esc _ _ => do
      let argc := 2 + esc.toList.length
      -- The operator is a call of `like` or `glob`, the pattern first.
      if argc = 3 ∧ lookupFunction "LIKE" 3 != .found .scalar then note "wrong number of arguments to function LIKE()"
      discard (walkAll s fuel cx ([p, a] ++ esc.toList))
      return false
    | .caseOf op branches other =>
      operands (op.toList ++ branches.flatMap (fun (w, t) => [w, t]) ++ other.toList)
    | .rowValue items => operands items

/-- Walk expressions in order, stopping at the first walk that must stop. -/
def walkAll (s : Schema) : Nat → Context → List Expr → CheckM Bool
  | 0, _, _ => return true
  | fuel + 1, cx, xs => do
    for x in xs do
      if ← walkExpr s fuel cx x then return true
    return false

/-- Resolve the names of an expression on its own, as a clause of a statement: `true` when a
fault is recorded, this one's or an earlier one. -/
def resolveClause (s : Schema) : Nat → Context → Option Expr → CheckM Bool
  | 0, _, _ => return true
  | fuel + 1, cx, x => do
    match x with
    | none => return false
    | some e =>
      discard (walkExpr s fuel cx e)
      failed

/-- Resolve a list of expressions, stopping after the first one that leaves a fault. -/
def resolveList (s : Schema) : Nat → Context → List Expr → CheckM Bool
  | 0, _, _ => return true
  | fuel + 1, cx, xs => do
    for x in xs do
      discard (walkExpr s fuel cx x)
      if ← failed then return true
    return false

/-- Prepare a query: expand it unless the query around it did, then resolve its names. -/
def prepareSelect (s : Schema) : Nat → Context → Bool → Select → CheckM Unit
  | 0, _, _, _ => note "Expression tree is too large (maximum depth 1000)"
  | fuel + 1, cx, nested, q => do
    if !nested then
      match expandSelect s fuel cx (← failed) q with
      | .error msg => note msg; return
      | .ok _ => pure ()
      if ← failed then return
    discard (resolveSelect s fuel cx q)

/-- Resolve the names of an expanded query, core by core from the last; `true` when a fault
is recorded. -/
def resolveSelect (s : Schema) : Nat → Context → Select → CheckM Bool
  | 0, _, _ => return true
  | fuel + 1, cx, q => do
    let cx := { cx with ctes := q.ctes.reverse.map (fun t => { table := t }) ++ cx.ctes, expanded := true }
    let cores := coresFromLast q
    let compound := !q.rest.isEmpty
    let mut right : Option (SelectCore × Option Compound) := none
    for (core, op) in cores do
      let atLast := right.isNone
      if atLast then
        let bare : Context := { cx with levels := [] }
        if ← resolveList s fuel bare (q.limit.toList ++ q.offset.toList) then return true
      -- The queries of `FROM` see the queries around this one, not its own sources.
      for src in core.sources do
        match src.item with
        | .query sub =>
          discard (resolveSelect s fuel cx sub)
          if ← failed then return true
        | .named n =>
          match cx.ctes.find? (fun b => sameName b.table.name n) with
          | some b =>
            if b.columns.isNone ∧ !cx.within.any (sameName n) then
              let cols := ((expandCommonTable s fuel cx b.table).toOption).getD []
              let self : CteBinding := { table := b.table, columns := some cols }
              let bound := { cx with within := n :: cx.within, ctes := self :: cx.ctes }
              discard (resolveSelect s fuel bound b.table.query)
              if ← failed then return true
          | none =>
            if (s.table? (mainTableName n)).isNone then
              match s.view? n with
              | some v =>
                if !cx.within.any (sameName v.name) then
                  discard (resolveSelect s fuel { cx with levels := [], ctes := [], within := v.name :: cx.within } v.query)
                  if ← failed then return true
              | none => pure ()
        | .call _ _ => pure ()
      let shapes := (expandSources s fuel cx false core).toOption.getD []
      let level : Level :=
        { sources := shapes, aggregates := true, windows := true, named := core.windows.reverse }
      let saved := (← get).sawAggregate
      modify (fun c => { c with sawAggregate := false })
      let results := core.columns.filterMap (fun c => match c with
        | .expr x _ => some x
        | _ => none) ++ core.values.flatten
      let stop ← resolveList s fuel { cx with levels := level :: cx.levels } results
      let aggregate := !core.groupBy.isEmpty ∨ (← get).sawAggregate
      modify (fun c => { c with sawAggregate := saved })
      if stop then return true
      let level := { level with aggregates := aggregate, aliases := aliasesOf core, windows := false }
      let here := { cx with levels := level :: cx.levels }
      if core.having.isSome ∧ !aggregate then
        note "HAVING clause on a non-aggregate query"
        return true
      if ← resolveClause s fuel here core.having then return true
      if ← resolveClause s fuel here (conditionWithJoins core) then return true
      for src in core.sources do
        match src.item with
        | .call _ args => if ← resolveList s fuel here args then return true
        | _ => pure ()
      let ordering := { cx with levels := [{ level with aggregates := true, windows := true }] }
      let grouping := { cx with levels := [{ level with aggregates := true }] }
      -- Positions count the result columns with `*` and `t.*` expanded.
      let width := ((coreNames core shapes).toOption.map List.length).getD core.columns.length
      if !compound ∧ atLast then
        for (term, i) in q.orderBy.zipIdx do
          match term.expr with
          | .column none n => if (aliasesOf core).any (fun a => sameName a.1 n) then continue
          | .literal (.integer k) =>
            if k < 1 ∨ k > width then
              note (ordinal (i + 1) ++ " ORDER BY term out of range - should be between 1 and " ++
                toString width)
              return true
            continue
          | _ => pure ()
          if ← resolveClause s fuel ordering (some term.expr) then return true
      for (g, i) in core.groupBy.zipIdx do
        match g with
        | .literal (.integer k) =>
          if k < 1 ∨ k > width then
            note (ordinal (i + 1) ++ " GROUP BY term out of range - should be between 1 and " ++
              toString width)
            return true
        | _ => if ← resolveClause s fuel grouping (some g) then return true
      if core.groupBy.any (·.hasAggregateCall 64) then
        note "aggregate functions are not allowed in the GROUP BY clause"
        return true
      match right with
      | some (rcore, rop) =>
        let mine := ((expandSources s fuel cx false core).toOption.bind (fun sh => (coreNames core sh).toOption)).map List.length
        let theirs := ((expandSources s fuel cx false rcore).toOption.bind (fun sh => (coreNames rcore sh).toOption)).map List.length
        if mine ≠ theirs then
          note ("SELECTs to the left and right of " ++ compoundWord (rop.getD .unionAll) ++
            " do not have the same number of result columns")
          return true
      | none => pure ()
      right := some (core, op)
    if compound then
      let leftmost := q.first
      let names := ((expandSources s fuel cx false leftmost).toOption.bind (fun sh => (coreNames leftmost sh).toOption)).getD []
      let cols := names.map (fun n => (n, (none : Option Affinity), Collation.binary))
      for (term, i) in q.orderBy.zipIdx do
        if (orderColumn cols term.expr).isNone then
          note (ordinal (i + 1) ++ " ORDER BY term does not match any column in the result set")
          return true
    return false

end

/-! ## Generating code -/

/-- Whether an expression holds `COLLATE`, outside nested queries: the engine marks every
expression above a `COLLATE`, through operands and arguments alike. -/
def Expr.hasCollate : Nat → Expr → Bool
  | 0, _ => false
  | fuel + 1, e =>
    let go := Expr.hasCollate fuel
    match e with
    | .collate _ _ => true
    | .unary _ a | .isNull a _ | .cast a _ | .inQuery a _ _ => go a
    | .binary _ a b => go a || go b
    | .between a lo hi _ => go a || go lo || go hi
    | .inList a items _ => go a || items.any go
    | .like a p esc _ _ => go a || go p || esc.any go
    | .caseOf op branches other =>
      op.any go || branches.any (fun (w, t) => go w || go t) || other.any go
    | .call _ args _ _ | .callWith _ args _ _ _ _ _ | .rowValue args => args.any go
    | _ => false

/-- The collation an operand asks for by name, found as the engine looks for it: down through
casts and unary plus, into the first value of a row value, and otherwise into the first operand
that holds a `COLLATE`. A column ends the search. -/
def Expr.collationName : Nat → Expr → Option String
  | 0, _ => none
  | fuel + 1, e =>
    let go := Expr.collationName fuel
    let marked (x : Expr) : Bool := x.hasCollate 64
    let firstMarked (xs : List Expr) : Option String := (xs.find? marked).bind go
    match e with
    | .collate _ n => some n
    | .cast a _ | .unary .pos a => go a
    | .rowValue (x :: _) => go x
    | .column _ _ => none
    | _ =>
      if !marked e then none
      else match e with
        | .unary _ a | .isNull a _ | .inQuery a _ _ => go a
        | .binary _ a b => if marked a then go a else go b
        | .between a lo hi _ => if marked a then go a else firstMarked [lo, hi]
        | .inList a items _ => if marked a then go a else firstMarked items
        | .like a p esc _ _ => firstMarked ([p, a] ++ esc.toList)
        | .caseOf op branches other =>
          match op with
          | some o => if marked o then go o else firstMarked (branches.flatMap (fun (w, t) => [w, t]) ++ other.toList)
          | none => firstMarked (branches.flatMap (fun (w, t) => [w, t]) ++ other.toList)
        | .call _ args _ _ | .callWith _ args _ _ _ _ _ => firstMarked args
        | _ => none

/-- The collation a comparison of two operands uses, checked: the left one's when it holds a
`COLLATE`, else the right one's; an unknown name is a fault. -/
def checkComparison (a b : Expr) : CheckM Unit := do
  let chosen := if a.hasCollate 64 then a.collationName 64
    else if b.hasCollate 64 then b.collationName 64
    else none
  match chosen with
  | some n => if (Collation.ofName n).isNone then note ("no such collation sequence: " ++ n)
  | none => pure ()

/-- The first aggregate call of an expression outside nested queries, with its name as written;
a name that is a result column's alias stands for that column's expression. -/
def Expr.firstAggregate (aliases : List (String × Expr)) : Nat → Expr → Option String
  | 0, _ => none
  | fuel + 1, e =>
    let go := Expr.firstAggregate aliases fuel
    let first (xs : List Expr) : Option String := xs.findSome? go
    match e with
    | .call n args _ star =>
      if isAggregateCall n (if star then 0 else args.length) then some n else first args
    | .callWith n args _ star _ _ windowSpec =>
      if windowSpec.isNone ∧ isAggregateCall n (if star then 0 else args.length) then some n else first args
    | .column none n => (aliases.find? (fun a => sameName a.1 n)).bind (fun a => (a.2.firstAggregate [] fuel))
    | .unary _ a | .isNull a _ | .cast a _ | .collate a _ | .inQuery a _ _ => go a
    | .binary _ a b => first [a, b]
    | .between a lo hi _ => first [a, lo, hi]
    | .inList a items _ => first (a :: items)
    | .like a p esc _ _ => first ([p, a] ++ esc.toList)
    | .caseOf op branches other => first (op.toList ++ branches.flatMap (fun (w, t) => [w, t]) ++ other.toList)
    | .rowValue items => first items
    | _ => none

/-- Check the collation of an operand used on its own to order or compare rows. -/
def checkOrdering (a : Expr) : CheckM Unit := checkComparison a (.literal .null)

mutual

/-- The faults found while generating code for an expression; `vector` when a row value may
stand here. -/
def codeExpr (s : Schema) : Nat → Context → Bool → Expr → CheckM Unit
  | 0, _, _, _ => pure ()
  | fuel + 1, cx, vector, e => do
    let code (v : Bool) (x : Expr) : CheckM Unit := codeExpr s fuel cx v x
    let queryWidth (q : Select) : Nat := ((expandSelect s fuel cx false q).toOption.map List.length).getD 1
    match e with
    | .faulty msg => note msg
    | .rowValue items =>
      if !vector then note "row value misused"
      else items.forM (code false)
    | .scalarQuery q =>
      let w := queryWidth q
      if !vector ∧ w ≠ 1 then note ("sub-select returns " ++ toString w ++ " columns - expected 1")
      codeSelect s fuel cx q
    | .existsQuery q => codeSelect s fuel cx q
    | .binary op a b =>
      if op == .eq ∨ op == .ne ∨ op == .lt ∨ op == .le ∨ op == .gt ∨ op == .ge ∨ op == .is ∨ op == .isNot then
        checkComparison a b
        code true a
        code true b
      else
        code false a
        code false b
    | .between a lo hi _ =>
      checkComparison a lo
      checkComparison a hi
      code true a
      code true lo
      code true hi
    | .inList a items _ =>
      code true a
      for i in items do
        checkComparison a i
        code (a.width > 1) i
    | .inQuery a q _ =>
      let w := queryWidth q
      if a.width ≠ w then
        note ("sub-select returns " ++ toString w ++ " columns - expected " ++ toString a.width)
      code true a
      codeSelect s fuel cx q
    | .call n args distinct star =>
      let argc := if star then 0 else args.length
      if distinct ∧ isAggregateCall n argc ∧ argc ≠ 1 then
        note "DISTINCT aggregates must have exactly one argument"
      let u := upperAscii n
      if (u = "MIN" ∨ u = "MAX" ∨ u = "NULLIF") then
        match args.find? (·.hasCollate 64) with
        | some x => checkOrdering x
        | none => pure ()
      args.forM (code false)
    | .callWith n args distinct star orderBy filter windowSpec =>
      let argc := if star then 0 else args.length
      if distinct ∧ isAggregateCall n argc ∧ argc ≠ 1 then
        note "DISTINCT aggregates must have exactly one argument"
      let u := upperAscii n
      if windowSpec.isNone ∧ !(u = "COUNT" ∨ u = "MIN" ∨ u = "MAX") then
        for o in orderBy do
          checkOrdering o.expr
          code false o.expr
      args.forM (code false)
      filter.forM (code false)
      match windowSpec with
      | some (.window w) =>
        for x in w.partitionBy do
          checkOrdering x
          code false x
        for o in w.orderBy do
          checkOrdering o.expr
          code false o.expr
      | _ => pure ()
    | .caseOf op branches other =>
      match op with
      | some o =>
        code true o
        for (w, t) in branches do
          checkComparison o w
          code true w
          code false t
      | none =>
        for (w, t) in branches do
          code false w
          code false t
      other.forM (code false)
    | .unary _ a | .isNull a _ | .cast a _ | .collate a _ => code false a
    | .like a p esc _ _ =>
      code false p
      code false a
      esc.forM (code false)
    | .literal _ | .column _ _ | .param _ | .raise _ _ => pure ()

/-- The faults found while generating code for a query. -/
def codeSelect (s : Schema) : Nat → Context → Select → CheckM Unit
  | 0, _, _ => pure ()
  | fuel + 1, cx, q => do
    let code (x : Expr) : CheckM Unit := codeExpr s fuel cx false x
    for (core, _) in (coresFromLast q).reverse do
      for src in core.sources do
        match src.item with
        | .query sub => codeSelect s fuel cx sub
        | .call _ args => args.forM code
        | .named _ => pure ()
      -- The arguments of a table function fill its hidden columns, one each; the last source
      -- given more than it has is the one reported, and the query is coded no further.
      let mut overfull := false
      for src in core.sources do
        match src.item with
        | .call n args =>
          match builtinTable n with
          | some (_, hidden) =>
            if args.length > hidden.length then
              note ("too many arguments on " ++ lowerAscii n ++ "() - max " ++ toString hidden.length)
              overfull := true
          | none => pure ()
        | _ => pure ()
      if overfull then return
      (conditionWithJoins core).forM code
      -- The condition of an aggregate query is not computed with the groups: an aggregate
      -- there, written or through a result column's name, has nothing to read.
      let aggregate := !core.groupBy.isEmpty ∨ core.columns.any (fun c => match c with
        | .expr x _ => x.hasAggregateCall 64
        | _ => false)
      if aggregate then
        let shapes := ((expandSources s fuel cx false core).toOption).getD []
        let aliases := (aliasesOf core).filter (fun a => !shapes.any (·.has a.1))
        match (conditionWithJoins core).bind (·.firstAggregate aliases 64) with
        | some n => note ("misuse of aggregate: " ++ n ++ "()")
        | none => pure ()
      for c in core.columns do
        match c with
        | .expr x _ =>
          if core.distinct ∨ !q.rest.isEmpty then checkOrdering x
          code x
        | _ => pure ()
      for r in core.values do
        r.forM code
      for g in core.groupBy do
        checkOrdering g
        code g
      core.having.forM code
    for term in q.orderBy do
      checkOrdering term.expr
      code term.expr
    q.limit.forM code
    q.offset.forM code

end

/-! ## Statements and triggers -/

/-- The shape a trigger or a statement sees of the table or view it writes: a view's columns
come from its query. -/
def writeShape (s : Schema) (name : String) : Option Shape :=
  match s.table? (mainTableName name) with
  | some t => some (tableShape t.name t)
  | none =>
    match s.view? name with
    | some v =>
      let names := if !v.columns.isEmpty then v.columns
        else ((expandSelect s 4096 { within := [v.name] } false v.query).toOption).getD []
      some { name := v.name, columns := names }
    | none => none

/-- The triggers a write of a table compiles, newest first: those of the given timings whose
event the change fires. -/
def compiledTriggers (s : Schema) (table : String) (timings : List TriggerTiming)
    (event : TriggerEvent) : List Trigger :=
  (s.triggersOf table).reverse.filter (fun g => timings.contains g.timing && g.event.fires event)

/-- The timings of the triggers each part of a write compiles: for a view its `INSTEAD OF`
triggers; for a table the `BEFORE` ones and then the `AFTER` ones of an insert, but those of
both timings together, in the order of the list, for an update or a delete. -/
def timingGroups (isView : Bool) (event : TriggerEvent) : List (List TriggerTiming) :=
  if isView then [[.insteadOf]]
  else match event with
    | .insert => [[.before], [.after]]
    | _ => [[.before, .after]]

mutual

/-- Compile the triggers a write of a table fires for an event, each once per statement: the
groups of timings in order, and within a group the triggers newest first. -/
def compileFiring (s : Schema) : Nat → String → TriggerEvent → List (List TriggerTiming) → CheckM Unit
  | 0, _, _, _ => pure ()
  | fuel + 1, table, event, groups => do
    for timings in groups do
      for g in compiledTriggers s table timings event do
        compileTrigger s fuel g

/-- Compile a trigger as a statement of its own: its `WHEN` condition, then its steps, which stop
at the first fault. The first fault of the trigger is kept unless the statement compiling it has
one already. -/
def compileTrigger (s : Schema) : Nat → Trigger → CheckM Unit
  | 0, _ => pure ()
  | fuel + 1, g => do
    if (← get).compiled.any (sameName g.name) then return
    modify (fun c => { c with compiled := g.name :: c.compiled })
    let outer := (← get).fault
    modify (fun c => { c with fault := none })
    let row := writeShape s g.table
    let cx : Context :=
      { newRow := if g.event == .delete then none else row,
        oldRow := if g.event == .insert then none else row }
    if !(← resolveClause s fuel cx g.condition) then
      g.condition.forM (codeExpr s fuel cx false)
    for step in g.steps do
      if ← failed then break
      checkStep s fuel cx step
    let inner := (← get).fault
    modify (fun c => { c with fault := outer.orElse (fun _ => inner) })

/-- Check one step of a trigger's body as the engine compiles it. -/
def checkStep (s : Schema) : Nat → Context → TriggerStep → CheckM Unit
  | 0, _, _ => pure ()
  | fuel + 1, cx, step => do
    let fire (table : String) (event : TriggerEvent) : CheckM Unit :=
      compileFiring s fuel table event (timingGroups (s.table? (mainTableName table)).isNone event)
    let target (name : String) (event : TriggerEvent) : CheckM (Option Shape) := do
      match s.table? (mainTableName name) with
      | some t =>
        if sameName t.name "sqlite_master" then
          note "table sqlite_master may not be modified"
          return none
        return some (tableShape t.name t)
      | none =>
        match s.view? name with
        | some v =>
          if (compiledTriggers s v.name [.insteadOf] event).isEmpty then
            note ("cannot modify " ++ v.name ++ " because it is a view")
            return none
          return writeShape s v.name
        | none =>
          if (builtinTable name).isSome then note ("table " ++ name ++ " may not be modified")
          else note ("no such table: main." ++ name)
          return none
    match step with
    | .select q =>
      prepareSelect s fuel { cx with levels := [] } false q
      if !(← failed) then codeSelect s fuel cx q
    | .update name _ sets cond =>
      let names := sets.flatMap (·.1)
      match ← target name (.update names) with
      | none => pure ()
      | some shape =>
        let here := { cx with levels := [{ sources := [shape] }] }
        for (cols, x) in sets do
          if ← resolveClause s fuel here (some x) then return
          for c in cols do
            if !shape.has c ∧ !(isRowidName c ∧ shape.rowid) then
              note ("no such column: " ++ c)
              return
        if ← resolveClause s fuel here cond then return
        fire shape.name (.update names)
        cond.forM (codeExpr s fuel here false)
        for (cols, x) in sets do
          codeExpr s fuel here (cols.length > 1) x
    | .insert name _ columns source =>
      match ← target name .insert with
      | none => pure ()
      | some shape =>
        for c in columns do
          if !shape.has c ∧ !(isRowidName c ∧ shape.rowid) then
            note ("table " ++ shape.name ++ " has no column named " ++ c)
            return
        let bare := { cx with levels := [] }
        let width ← match source with
          | .values rows =>
            for r in rows do
              if ← resolveList s fuel bare r then return
            pure ((rows.head?.map List.length).getD 0)
          | .query q =>
            prepareSelect s fuel bare false q
            if ← failed then return
            codeSelect s fuel bare q
            pure (((expandSelect s fuel bare false q).toOption.map List.length).getD 0)
          | .defaults => pure 0
        if source matches .defaults then pure ()
        else if columns.isEmpty ∧ width ≠ shape.columns.length then
          note ("table " ++ shape.name ++ " has " ++ toString shape.columns.length ++ " columns but " ++
            toString width ++ " values were supplied")
          return
        else if !columns.isEmpty ∧ width ≠ columns.length then
          note (toString width ++ " values for " ++ toString columns.length ++ " columns")
          return
        fire shape.name .insert
        match source with
        | .values rows => for r in rows do r.forM (codeExpr s fuel bare false)
        | _ => pure ()
    | .delete name cond =>
      match ← target name .delete with
      | none => pure ()
      | some shape =>
        let here := { cx with levels := [{ sources := [shape] }] }
        if ← resolveClause s fuel here cond then return
        fire shape.name .delete
        cond.forM (codeExpr s fuel here false)

end

/-- The fault the engine reports when a write of a table compiles the triggers it fires: for
each event in order, the triggers of the timings given; the first trigger with a fault decides. -/
def firingFault (s : Schema) (table : String) (plan : List (TriggerEvent × List TriggerTiming)) :
    Option String :=
  let run : CheckM Unit := plan.forM (fun (ev, timings) => compileFiring s 4096 table ev [timings])
  (run.run {}).2.fault

end Sql

end DocStore
