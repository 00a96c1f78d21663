import DocStore.Sql.Functions
/-!
# Values in scope, comparisons and arithmetic

What an expression sees and the operators that need no database:

* A `Frame` is a row an expression can see, with its columns' names, affinities and
  collations; a `Scope` is the frames in scope (innermost first), the statement's parameters,
  the rows of the group an aggregate folds over, the tables of `WITH`, and what calls can see
  of the connection.
* A column named without a qualifier is looked up in every row in scope except `new` and
  `old`, which only a qualifier reaches; the innermost frames that have it win. `rowid`, `oid`
  and `_rowid_` name the rowid when no column has that name, and `true` and `false` stand for
  1 and 0.
* A comparison first converts its operands by the comparison affinity: when both sides have an
  affinity, numeric if either is numeric and none otherwise; when one side has one, that one.
  It then compares under the collation of the left operand's `COLLATE`, else the right one's,
  else the left operand's, else the right one's, else binary. A NULL operand makes the result
  NULL, except for `IS` and `IS NOT`.
* Arithmetic reads text by its numeric prefix; integer arithmetic that overflows 64 bits
  continues in reals; division or remainder by zero is NULL.
-/

namespace DocStore

namespace Sql

/-- What stops an evaluation: a failure, or `RAISE(IGNORE)`. -/
inductive Stop where
  | failure (f : EngineFailure)
  | ignore
deriving DecidableEq, Repr, Inhabited

/-- The outcome of an evaluation. -/
abbrev Eval := Except Stop

/-- Stop with an error message. -/
def Stop.error (text : String) : Stop := .failure (engineError .error text)

/-- Lift a failure of the engine. -/
def liftFailure {α : Type} (r : Except EngineFailure α) : Eval α := r.mapError Stop.failure

/-- A row an expression can see: the name that qualifies it, its columns with their affinities
(none for a column of a view that computes it) and collations, its values and its rowid. `new`
and `old` rows are reached only by name; the columns in `merged` (those a `USING` or `NATURAL`
join shares with an earlier source) are reached only by name too. -/
structure Frame where
  name : String
  columns : List (String × Option Affinity × Collation)
  values : List SqlValue
  rowid : Option Int := none
  qualifiedOnly : Bool := false
  merged : List String := []
  /-- A row of NULLs standing for no row, whose rowid is NULL too. -/
  blank : Bool := false
  /-- How many leading columns `*` shows; all when none. -/
  shown : Option Nat := none
  /-- The positions of the values that are JSON text a JSON function gave. -/
  jsonAt : List Nat := []
  /-- The join that brought the frame in; the first source counts as inner. -/
  joinedBy : JoinKind := .inner
deriving Repr, Inhabited

/-- A value with the affinity and collation it carries into a comparison; `explicit` when the
collation comes from `COLLATE`. -/
structure Typed where
  value : SqlValue
  affinity : Option Affinity := none
  collation : Option Collation := none
  explicit : Bool := false
  /-- Whether the value is JSON text that a JSON function gave. -/
  isJson : Bool := false
deriving Repr, Inhabited

/-- The rows of a query: its columns, each with a name, the affinity its values carry and its
collation, and its rows of values. -/
structure Relation where
  columns : List (String × Option Affinity × Collation)
  rows : List (List SqlValue)
deriving Repr, Inhabited

/-- What a table of `WITH` stands for where it is named: its query, or rows already computed
(the row a recursive query is working on). -/
inductive TableBody where
  | query (q : Select)
  | rows (r : Relation)
deriving Repr, Inhabited

/-- A table of `WITH` in scope: its name, its column names (empty to take the query's) and what
it stands for. -/
structure NamedTable where
  name : String
  columns : List String := []
  body : TableBody
deriving Repr, Inhabited

/-- The rows a window function of a query reads: every row the query gives, as its frames and
its group, the place of the current one, and the windows the query names, the latest first. -/
structure WindowRows where
  rows : List (List Frame × Option (List (List Frame))) := []
  current : Nat := 0
  named : List (String × Window) := []

instance : Repr WindowRows := ⟨fun _ _ => "window rows"⟩

/-- What an expression sees: the frames of the query it is in, those of the queries around it
(innermost first), the parameters, the rows of the group an aggregate folds over (each row the
frames of the query), the tables of `WITH`, and what calls can see of the connection. -/
structure Scope where
  frames : List Frame := []
  outer : List (List Frame) := []
  params : List SqlValue := []
  group : Option (List (List Frame)) := none
  tables : List NamedTable := []
  ctx : CallContext := {}
  /-- The views and tables of `WITH` being expanded, innermost first. -/
  within : List String := []
  /-- The result columns named with `AS` in the query the frames belong to: a name that no
  frame of that query has stands for the expression of the column of that name. -/
  aliases : List (String × Expr) := []
  /-- The rows the window functions of the query read, when the query has any. -/
  window : Option WindowRows := none
deriving Repr, Inhabited

/-- The truth of a value in a database of an encoding: NULL is unknown; numbers are true unless
zero; text and blobs by their numeric prefix, a blob read as text of the encoding. -/
def truth (enc : TextEncoding) : SqlValue → Option Bool
  | .null => none
  | .integer i => some (i ≠ 0)
  | .real f => some !f.isZero
  | v => some !(realValue (enc.blobAsText v)).isZero

/-- A truth as a value. -/
def truthValue : Option Bool → SqlValue
  | none => .null
  | some b => .integer (if b then 1 else 0)

/-- The names of the rowid. -/
def isRowidName (n : String) : Bool := ["rowid", "oid", "_rowid_"].contains (lowerAscii n)

/-- Whether a frame has a column of a name that an unqualified name reaches. -/
def Frame.has (f : Frame) (n : String) : Bool :=
  f.columns.any (fun c => sameName c.1 n) && !f.merged.any (sameName n)

/-- The value of a column of a frame by name. -/
def Frame.lookup (f : Frame) (n : String) : Option Typed :=
  match f.columns.findIdx? (fun c => sameName c.1 n) with
  | some i =>
    let (_, aff, coll) := f.columns[i]?.getD ("", none, .binary)
    some ⟨f.values.getD i .null, aff, some coll, false, f.jsonAt.contains i⟩
  | none =>
    if isRowidName n then
      f.rowid.map (fun r => ⟨if f.blank then .null else .integer r, some .integer, some .binary, false, false⟩)
    else none

/-- The columns and values of a frame that `*` shows. -/
def Frame.starColumns (f : Frame) : List ((String × Option Affinity × Collation) × SqlValue) :=
  let all := f.columns.zip f.values
  match f.shown with
  | some k => all.take k
  | none => all

namespace Scope

/-- The frames of the query and of those around it, innermost first. -/
def levels (sc : Scope) : List (List Frame) := sc.frames :: sc.outer

/-- A scope for a query nested in this one: the frames of this one move outward. -/
def enter (sc : Scope) (frames : List Frame) : Scope :=
  { sc with frames, outer := sc.frames :: sc.outer, group := none, aliases := [], window := none }

/-- Whether an unqualified name is found among the frames of the query itself, a column or the
rowid of its only frame, so that neither a result column's name nor an outer query is looked at. -/
def hasHere (sc : Scope) (n : String) : Bool :=
  let visible := sc.frames.filter (fun f => !f.qualifiedOnly)
  visible.any (·.has n) ||
    (isRowidName n && match visible with
      | [f] => (f.lookup n).isSome
      | [] => false
      | _ => true)

/-- The expression of a result column named with `AS` that an unqualified name stands for, when
no frame of the query has the name. -/
def aliasOf? (sc : Scope) (n : String) : Option Expr :=
  if sc.hasHere n then none else (sc.aliases.find? (fun a => sameName a.1 n)).map (·.2)

/-- The value of a name that is no column: `true` and `false`. -/
def constantName (n : String) : Eval Typed :=
  if lowerAscii n = "true" then .ok ⟨.integer 1, none, none, false, false⟩
  else if lowerAscii n = "false" then .ok ⟨.integer 0, none, none, false, false⟩
  else .error (.error ("no such column: " ++ n))

/-- The frames of one query an unqualified name reads, looked up from the first source to the
last: how many were counted, the frames a full join gathered before the last, and the last.
A frame whose column the join that brought it in shares with the frames before it leaves the
name to them after an inner or left join, takes it over alone after a right join, and joins
them after a full join; another frame with the name is counted, leaving nothing gathered. -/
def readers (n : String) (frames : List Frame) : Nat × List Frame × Option Frame :=
  frames.foldl (fun (count, gathered, last) f =>
    if !f.columns.any (fun c => sameName c.1 n) then (count, gathered, last)
    else if count = 0 then (1, gathered, some f)
    else if !f.merged.any (sameName n) then (count + 1, [], some f)
    else match f.joinedBy with
      | .inner | .left => (count, gathered, last)
      | .right => (1, [], some f)
      | .full => (count + 1, gathered ++ last.toList, some f)) (0, [], none)

/-- Look up an unqualified name level by level: the first level where a frame has it wins. One
frame counted reads its column; more are ambiguous unless a full join gathered all but the
last, when the name reads the first of their values that is not NULL, with no affinity or
collation. A rowid name reaches the rowid of a level's only frame. -/
def unqualified (n : String) : List (List Frame) → Eval Typed
  | [] => constantName n
  | lvl :: rest =>
    let visible := lvl.filter (fun f => !f.qualifiedOnly)
    match readers n visible with
    | (1, _, some f) => match f.lookup n with
      | some v => .ok v
      | none => .error (.error ("no such column: " ++ n))
    | (count + 2, gathered, some f) =>
      if gathered.length = count + 1 then
        let vals := (gathered ++ [f]).filterMap (·.lookup n)
        match vals.find? (·.value != .null) with
        | some v => .ok { v with affinity := none, collation := none, explicit := false }
        | none => .ok ⟨.null, none, none, false, false⟩
      else .error (.error ("ambiguous column name: " ++ n))
    | _ =>
      if isRowidName n then
        match visible with
        | [f] => match f.lookup n with
          | some v => .ok v
          | none => unqualified n rest
        | _ :: _ :: _ => .error (.error ("ambiguous column name: " ++ n))
        | [] => unqualified n rest
      else unqualified n rest

/-- The value of a column reference. -/
def column (sc : Scope) (q : Option String) (n : String) : Eval Typed :=
  match q with
  | some qual =>
    match sc.levels.findSome? (fun lvl =>
        (lvl.filter (fun f => sameName f.name qual)).findSome? (·.lookup n)) with
    | some v => .ok v
    | none => .error (.error ("no such column: " ++ qual ++ "." ++ n))
  | none => unqualified n sc.levels

/-- The truth a bare `true` or `false` (a `COLLATE` around it aside) names on the right of `IS`
or `IS NOT`, when no frame of the query or of those around it has a column of that name: there
the operator tests the truth of its left side instead of comparing. -/
def truthName? (sc : Scope) : Expr → Option Bool
  | .collate e _ => sc.truthName? e
  | .column none n =>
    if sc.levels.any (fun lvl => lvl.any (fun f => !f.qualifiedOnly && f.has n)) then none
    else if lowerAscii n = "true" then some true
    else if lowerAscii n = "false" then some false
    else none
  | _ => none

end Scope

/-- The affinity a comparison converts its operands by. -/
def comparisonAffinity : Option Affinity → Option Affinity → Option Affinity
  | some a, some b => if a.isNumeric ∨ b.isNumeric then some .numeric else some .blob
  | some a, none => some a
  | none, some b => some b
  | none, none => none

/-- The operands of a comparison converted by its affinity: a numeric affinity reads text
that is a number as that number; text affinity writes numbers as text when the other operand is
text. -/
def comparisonOperands (aff : Option Affinity) (x y : SqlValue) : SqlValue × SqlValue :=
  let number : SqlValue → SqlValue
    | .text s => (numericAffinity false s).getD (.text s)
    | v => v
  let written : SqlValue → SqlValue
    | .integer i => .text (integerBytes i)
    | .real f => .text (realBytes f)
    | v => v
  let isText : SqlValue → Bool
    | .text _ => true
    | _ => false
  match aff with
  | some a =>
    if a.isNumeric then (number x, number y)
    else if a == .text ∧ (isText x ∨ isText y) then (written x, written y)
    else (x, y)
  | none => (x, y)

/-- The collation of a comparison. -/
def comparisonCollation (a b : Typed) : Collation :=
  if a.explicit then a.collation.getD .binary
  else if b.explicit then b.collation.getD .binary
  else match a.collation with
    | some c => c
    | none => b.collation.getD .binary

/-- Compare two operands for a comparison operator: the order, or none when either is NULL. -/
def compareTyped (enc : TextEncoding) (a b : Typed) : Option Ordering :=
  let (x, y) := comparisonOperands (comparisonAffinity a.affinity b.affinity) a.value b.value
  match x, y with
  | .null, _ => none
  | _, .null => none
  | _, _ => some (SqlValue.compareIn enc (comparisonCollation a b) x y)

/-- The value of a comparison operator. -/
def comparisonValue (enc : TextEncoding) (op : BinOp) (a b : Typed) : SqlValue :=
  match op with
  | .is =>
    match a.value, b.value with
    | .null, .null => .integer 1
    | .null, _ => .integer 0
    | _, .null => .integer 0
    | _, _ => truthValue ((compareTyped enc a b).map (· == .eq))
  | .isNot =>
    match a.value, b.value with
    | .null, .null => .integer 0
    | .null, _ => .integer 1
    | _, .null => .integer 1
    | _, _ => truthValue ((compareTyped enc a b).map (· != .eq))
  | _ =>
    truthValue ((compareTyped enc a b).map (fun o => match op with
      | .eq => o == .eq
      | .ne => o != .eq
      | .lt => o == .lt
      | .le => o != .gt
      | .gt => o == .gt
      | .ge => o != .lt
      | _ => false))

/-- The value of a comparison of two row values of the same size. Equality holds when every
pair is equal and fails when one pair differs; `<>` is its negation; `IS` compares pairs with
NULL equal to NULL. The orderings compare pairs from the left: the first pair that differs
decides, a NULL before the last pair makes the result NULL, and the last pair is compared with
the operator itself. -/
def vectorComparison (enc : TextEncoding) (op : BinOp) : List Typed → List Typed → SqlValue
  | [], _ | _, [] => .integer 1
  | [x], [y] =>
    match op with
    | .eq | .ne | .is | .isNot | .lt | .le | .gt | .ge => comparisonValue enc op x y
    | _ => .null
  | x :: xs, y :: ys =>
    let rest := vectorComparison enc op xs ys
    match op with
    | .eq => truthValue (match truth enc (comparisonValue enc .eq x y), truth enc rest with
      | some false, _ | _, some false => some false
      | some true, some true => some true
      | _, _ => none)
    | .ne => truthValue (match truth enc (comparisonValue enc .ne x y), truth enc rest with
      | some true, _ | _, some true => some true
      | some false, some false => some false
      | _, _ => none)
    | .is => if comparisonValue enc .is x y == .integer 1 then rest else .integer 0
    | .isNot => if comparisonValue enc .is x y == .integer 1 then rest else .integer 1
    | .lt | .le | .gt | .ge =>
      match compareTyped enc x y with
      | none => .null
      | some .eq => rest
      | some o =>
        let below := op == .lt || op == .le
        .integer (if (o == .lt) == below then 1 else 0)
    | _ => .null

/-- Whether an integer is within 64 bits. -/
def fits64 (i : Int) : Bool := -(Nat.pow 2 63 : Int) ≤ i ∧ i < Nat.pow 2 63

/-- The value of an arithmetic operator. Two integers give an integer unless the result leaves 64
bits; otherwise both operands are read as reals. Division or remainder by zero, and a result
that is not a number, are NULL. -/
def arithmetic (op : BinOp) (a b : SqlValue) : SqlValue :=
  match a, b with
  | .null, _ => .null
  | _, .null => .null
  | _, _ =>
    let real : SqlValue :=
      let fx := realValue a
      let fy := realValue b
      let r : Option Binary64 := match op with
        | .add => some (addReals fx fy)
        | .sub => some (addReals fx fy.negate)
        | .mul => some (mulReals fx fy)
        | .div => if fy.isZero then none else some (divReals fx fy)
        | .rem =>
          let i := intValue a
          let j := intValue b
          if j = 0 then none else some (Binary64.ofInt (i.tmod (if j = -1 then 1 else j)))
        | _ => none
      match r with
      | some f => if isNaN f then .null else .real f
      | none => .null
    match numericOperand a, numericOperand b with
    | .integer i, .integer j =>
      match op with
      | .add => if fits64 (i + j) then .integer (i + j) else real
      | .sub => if fits64 (i - j) then .integer (i - j) else real
      | .mul => if fits64 (i * j) then .integer (i * j) else real
      | .div =>
        if j = 0 then .null else if i = -(Nat.pow 2 63) ∧ j = -1 then real else .integer (i.tdiv j)
      | .rem => if j = 0 then .null else .integer (i.tmod (if j = -1 then 1 else j))
      | _ => .null
    | _, _ => real

/-- A value as a 64-bit integer, the way bitwise operators read it. -/
def integerOperand (v : SqlValue) : Int := intValue v

/-- Wrap an integer to 64 bits. -/
def wrap64 (i : Int) : Int :=
  let m := i % (Nat.pow 2 64)
  if m ≥ Nat.pow 2 63 then m - Nat.pow 2 64 else m

/-- The value of a bitwise operator. -/
def bitwise (op : BinOp) (a b : SqlValue) : SqlValue :=
  match a, b with
  | .null, _ => .null
  | _, .null => .null
  | _, _ =>
    let i := integerOperand a
    let j := integerOperand b
    let u (k : Int) : Nat := (k % (Nat.pow 2 64)).toNat
    let shift (left : Bool) (n : Int) : Int :=
      let (left, n) := if n < 0 then (!left, -n) else (left, n)
      if n ≥ 64 then (if !left ∧ i < 0 then -1 else 0)
      else if left then wrap64 (i * Nat.pow 2 n.toNat)
      else if i < 0 then -(((-i - 1) / Nat.pow 2 n.toNat) + 1) else i / Nat.pow 2 n.toNat
    match op with
    | .bitAnd => .integer (wrap64 (u i &&& u j))
    | .bitOr => .integer (wrap64 (u i ||| u j))
    | .shiftLeft => .integer (shift true j)
    | .shiftRight => .integer (shift false j)
    | _ => .null

end Sql

end DocStore
