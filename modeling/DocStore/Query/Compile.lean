import DocStore.Query.Basic
/-!
# Compiling queries

`compile` turns a query into a document `SELECT` and its bindings, after `validate` has checked
its shape:

* every `where` and `orderBy` field is a valid field path, every `in` operand a non-empty array;
* when the query is ordered, every inequality filter is on the field of the first ordering;
* `limitToLast` needs an ordering.

The constraints are checked in order and the first offence is reported (for one `where`: its
path, then its `in` operand, then the ordering rule).

The last `limit` wins over any `limitToLast`. A `limitToLast` alone is run as a `limit` on the
reversed order (every sort key and the tie break flipped), and the rows are reversed back
afterwards (`reverse`). A limit beyond the 64-bit range is bound as the largest 64-bit integer.

`compileCount` counts the filtered documents; it ignores ordering and limits and so checks only
the `where` constraints, in the order the filters are built.
-/

namespace DocStore

/-- A compiled query: the statement, its bindings in order, and whether the rows come back
in reverse. -/
structure CompiledQuery where
  statement : Statement
  bindings : List SqlValue
  reverse : Bool
deriving DecidableEq, Repr

/-- The SQL text of a compiled query. -/
def CompiledQuery.sql (c : CompiledQuery) : String := c.statement.text

namespace Query

/-- The field of the first `orderBy`, if any. -/
def firstOrder? (q : Query) : Option String :=
  q.constraints.findSome? (fun c => match c with
    | .orderBy f _ => some f
    | _ => none)

/-- The elements of an `in` operand, which must be a non-empty array. -/
def inOperand (field : String) : Value → Outcome (List Value)
  | .arr (v :: vs) => .ok (v :: vs)
  | _ => .error (.invalid (.inOperand field))

/-- Check one constraint against the query's first ordering. -/
def checkConstraint (first : Option String) : Constraint → Outcome Unit
  | .filter field op value => do
    let _ ← FieldPath.parse field
    if op = .isIn then
      let _ ← inOperand field value
    if op.isInequality then
      match first with
      | some f => if f ≠ field then throw (.invalid (.inequalityOrder field op.name f))
      | none => pure ()
  | .orderBy field _ => do
    let _ ← FieldPath.parse field
  | .limitToLast _ =>
    match first with
    | none => .error (.invalid .limitToLastWithoutOrder)
    | some _ => .ok ()
  | .limit _ => .ok ()

/-- Check the shape of a query: the first offending constraint is reported. -/
def validate (q : Query) : Outcome Unit :=
  q.constraints.forM (checkConstraint q.firstOrder?)

/-- The filter of a `where` constraint and its bindings. -/
def whereFilter (field : String) (op : WhereOp) (value : Value) : Outcome (Filter × List SqlValue) := do
  let path ← FieldPath.parse field
  match op, value with
  | .eq, .null => return (.fieldIsNull path, [])
  | .ne, .null => return (.fieldIsNotNull path, [])
  | .eq, v => return (.fieldCompare path .eq, [v.toSql])
  | .ne, v => return (.fieldCompare path .ne, [v.toSql])
  | .lt, v => return (.fieldCompare path .lt, [v.toSql])
  | .le, v => return (.fieldCompare path .le, [v.toSql])
  | .gt, v => return (.fieldCompare path .gt, [v.toSql])
  | .ge, v => return (.fieldCompare path .ge, [v.toSql])
  | .arrayContains, v => return (.fieldArrayContains path, [v.toSql])
  | .isIn, v =>
    let vs ← inOperand field v
    return (.fieldIn path vs.length, vs.map Value.toSql)

/-- The source filter and its bindings. -/
def sourceFilter : Source → Filter × List SqlValue
  | .collection c => (.collectionIs, [.ofString c.id])
  | .group g =>
    let suffix := "/" ++ g.id
    (.inGroup, [.ofString g.id, .integer suffix.length, .ofString suffix])

/-- The filters of a query, the source first and then each `where` in order, with their
bindings concatenated in the same order. -/
def predicates (q : Query) : Outcome (List Filter × List SqlValue) := do
  let src := sourceFilter q.source
  let rest ← q.constraints.filterMapM (fun c => match c with
    | .filter field op value => some <$> whereFilter field op value
    | _ => pure none)
  return (src.1 :: rest.map Prod.fst, src.2 ++ (rest.map Prod.snd).flatten)

/-- The last `limit` and the last `limitToLast`. -/
def effectiveLimits (q : Query) : Option Nat × Option Nat :=
  q.constraints.foldl (fun (acc : Option Nat × Option Nat) c => match c with
    | .limit n => (some n, acc.2)
    | .limitToLast n => (acc.1, some n)
    | _ => acc) (none, none)

/-- The sort keys of the `orderBy` constraints, flipped when `reverse`. -/
def sortKeys (q : Query) (reverse : Bool) : Outcome (List SortKey) :=
  q.constraints.filterMapM (fun c => match c with
    | .orderBy field dir => do
      let p ← FieldPath.parse field
      return some ⟨p, if reverse then dir.flipped else dir⟩
    | _ => pure none)

/-- The largest 64-bit integer. -/
def maxInt64 : Nat := Nat.pow 2 63 - 1

/-- Compile a valid query into its document `SELECT`. -/
def compile (q : Query) : Outcome CompiledQuery := do
  q.validate
  let (limit, limitToLast) := q.effectiveLimits
  let reverse := limit.isNone && limitToLast.isSome
  let (filters, bindings) ← q.predicates
  let keys ← q.sortKeys reverse
  let tiebreak := if reverse then Direction.desc else Direction.asc
  let limitBinding : List SqlValue := match limit.or limitToLast with
    | some n => [.integer (min n maxInt64)]
    | none => []
  return {
    statement := .selectDocuments filters keys tiebreak (limit.or limitToLast).isSome
    bindings := bindings ++ limitBinding
    reverse := reverse }

/-- Compile the count of a query's filtered documents. -/
def compileCount (q : Query) : Outcome CompiledQuery := do
  let (filters, bindings) ← q.predicates
  return { statement := .countDocuments filters, bindings := bindings, reverse := false }

end Query

end DocStore
