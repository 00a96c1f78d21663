import DocStore.Reference
import DocStore.Sql.Statement
/-!
# Queries

A query reads one collection or every collection of a group, filtered by `where` constraints,
sorted by `orderBy` constraints and cut by `limit` (the first `n`) or `limitToLast` (the last
`n`). Constraints are kept in the order they were given; that order decides which error is
reported and how sort keys nest.

Operators and directions are read from their names. A direction is read without regard to the
case of ASCII letters, and a refused direction is quoted in that lowered form.
-/

namespace DocStore

/-- The operator of a `where` constraint. -/
inductive WhereOp where
  | lt
  | le
  | eq
  | ge
  | gt
  | ne
  | arrayContains
  | isIn
deriving DecidableEq, Repr

namespace WhereOp

/-- The name of an operator. -/
def name : WhereOp → String
  | .lt => "<"
  | .le => "<="
  | .eq => "=="
  | .ge => ">="
  | .gt => ">"
  | .ne => "!="
  | .arrayContains => "array-contains"
  | .isIn => "in"

/-- Operators that compare by order or difference: `<`, `<=`, `>`, `>=` and `!=`. -/
def isInequality : WhereOp → Bool
  | .lt | .le | .gt | .ge | .ne => true
  | _ => false

/-- Every operator. -/
def all : List WhereOp := [.lt, .le, .eq, .ge, .gt, .ne, .arrayContains, .isIn]

end WhereOp

/-- Names that are not operators or directions. -/
inductive NameError where
  | unknownOperator (name : String)
  | unknownDirection (lowered : String)
deriving DecidableEq, Repr

/-- The text of a refused name. -/
def NameError.text : NameError → String
  | .unknownOperator s => "Unknown where operator '" ++ s ++ "'"
  | .unknownDirection s => "Unknown sort direction '" ++ s ++ "'"

/-- The operator with the given name. -/
def WhereOp.parse (s : String) : Except NameError WhereOp :=
  match WhereOp.all.find? (fun op => op.name == s) with
  | some op => .ok op
  | none => .error (.unknownOperator s)

/-- Lowercase the ASCII letters of a text, leaving every other character as it is. -/
def asciiLower (s : String) : String :=
  String.ofList (s.toList.map (fun c => if 'A' ≤ c ∧ c ≤ 'Z' then Char.ofNat (c.toNat + 32) else c))

/-- The direction named `asc` or `desc`, in any ASCII case. -/
def Direction.parse (s : String) : Except NameError Direction :=
  let l := asciiLower s
  if l = "asc" then .ok .asc
  else if l = "desc" then .ok .desc
  else .error (.unknownDirection l)

/-- One constraint of a query. -/
inductive Constraint where
  | filter (field : String) (op : WhereOp) (value : Value)
  | orderBy (field : String) (direction : Direction)
  | limit (n : Nat)
  | limitToLast (n : Nat)
deriving Repr

/-- Where a query reads. -/
inductive Source where
  | collection (c : CollectionRef)
  | group (g : GroupRef)
deriving DecidableEq, Repr

/-- The id of the collection or group. -/
def Source.id : Source → String
  | .collection c => c.id
  | .group g => g.id

/-- A query: its source and its constraints in order. -/
structure Query where
  source : Source
  constraints : List Constraint
deriving Repr

/-- Whether the query reads a collection group. -/
def Query.isGroup (q : Query) : Bool :=
  match q.source with
  | .group _ => true
  | .collection _ => false

end DocStore
