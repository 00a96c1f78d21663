import DocStore.Sql.Operators
import DocStore.Sql.Json
/-!
# Aggregate functions

An aggregate folds the values its arguments take on the rows of a group into one value. The
engine's aggregates:

* `count(*)` counts rows, `count(X)` the rows where X is not NULL;
* `sum(X)` adds integers exactly while every value is an integer, and fails with
  `integer overflow` when such a sum leaves 64 bits; once a value is not an integer it adds
  reals with a running error term (Kahan–Babuška–Neumaier), integers of 2^52 and more in two
  parts; `total(X)` is the same sum as a real, 0.0 for no values, and `avg(X)` the sum divided
  by the count;
* `min(X)` and `max(X)` keep the least or greatest value under the collation of X, the first
  of equal values;
* `group_concat(X, S)` and `string_agg(X, S)` join the texts of the values that are not NULL,
  with the separator (a comma by default) before each but the first;
* `json_group_array(X)` gathers the values in a JSON array and `json_group_object(K, V)` the
  pairs in a JSON object (a NULL key is written as nothing), values written as `json_array`
  writes them; the `jsonb_` forms give the binary form.

Values that are not NULL count; text that reads as a number is that number for `sum`.
-/

namespace DocStore

namespace Sql

/-- An aggregate function. -/
inductive Aggregate where
  | countRows
  | count
  | sum
  | total
  | avg
  | min
  | max
  | groupConcat
  | jsonArray (binary : Bool)
  | jsonObject (binary : Bool)
deriving DecidableEq, Repr, Inhabited

namespace Aggregate

/-- The aggregate a call names, given its upper-case name, its number of arguments and whether
it is written with `*`; none for a scalar function. `min` and `max` with more than one argument
are scalar. -/
def ofCall (name : String) (argc : Nat) (star : Bool) : Option Aggregate :=
  match name with
  | "COUNT" => some (if star ∨ argc = 0 then .countRows else .count)
  | "SUM" => some .sum
  | "TOTAL" => some .total
  | "AVG" => some .avg
  | "MIN" => if argc ≤ 1 then some .min else none
  | "MAX" => if argc ≤ 1 then some .max else none
  | "GROUP_CONCAT" | "STRING_AGG" => some .groupConcat
  | "JSON_GROUP_ARRAY" => some (.jsonArray false)
  | "JSON_GROUP_OBJECT" => some (.jsonObject false)
  | "JSONB_GROUP_ARRAY" => some (.jsonArray true)
  | "JSONB_GROUP_OBJECT" => some (.jsonObject true)
  | _ => none

/-- Whether an aggregate takes a number of arguments; `string_agg` needs its separator. -/
def takes (name : String) (a : Aggregate) (argc : Nat) : Bool :=
  match a with
  | .countRows => argc = 0
  | .count | .sum | .total | .avg | .min | .max | .jsonArray _ => argc = 1
  | .groupConcat => argc = 2 ∨ (argc = 1 ∧ name ≠ "STRING_AGG")
  | .jsonObject _ => argc = 2

/-- Does an aggregate give JSON text? -/
def givesJson : Aggregate → Bool
  | .jsonArray false | .jsonObject false => true
  | _ => false

end Aggregate

/-! ## Sums -/

/-- The magnitude of a real. -/
def absReal (x : Binary64) : Binary64 := { x with neg := false }

/-- Whether a real is infinite or not a number. -/
def isOverflow (x : Binary64) : Bool := x.exponent ≥ 2047

/-- A running sum: the count of values, the exact integer sum while every value is an integer,
and once not, the real sum with its error term, and whether the integers overflowed last. -/
structure SumState where
  count : Nat := 0
  approx : Bool := false
  overflow : Bool := false
  intSum : Int := 0
  realSum : Binary64 := Binary64.zero
  error : Binary64 := Binary64.zero
deriving Repr, Inhabited

namespace SumState

/-- Add a real to the real sum, keeping the rounding error of the addition in the error term. -/
def stepReal (p : SumState) (r : Binary64) : SumState :=
  let s := p.realSum
  let t := addReals s r
  let err := if Binary64.compareValue (absReal s) (absReal r) == .gt
    then addReals (addReals s t.negate) r
    else addReals (addReals r t.negate) s
  { p with realSum := t, error := addReals p.error err }

/-- An integer split for the real sum: integers of 2^52 and more go in as their part above the
last fourteen bits and the rest. -/
def splitInt (i : Int) : List Int :=
  if i ≤ -4503599627370496 ∨ i ≥ 4503599627370496 then
    let small := i.tmod 16384
    [i - small, small]
  else [i]

/-- Add an integer to the real sum. -/
def stepInt (p : SumState) (i : Int) : SumState :=
  (splitInt i).foldl (fun p k => p.stepReal (Binary64.ofInt k)) p

/-- Start the real sum from the integer sum so far. -/
def start (p : SumState) : SumState :=
  match splitInt p.intSum with
  | [big, small] => { p with approx := true, realSum := Binary64.ofInt big, error := Binary64.ofInt small }
  | _ => { p with approx := true, realSum := Binary64.ofInt p.intSum, error := Binary64.zero }

/-- Add one value, in a database of an encoding: NULL is skipped; an integer (or text that
reads as one) adds exactly while the sum is exact; anything else makes the sum a real, a blob
read as text of the encoding. -/
def add (enc : TextEncoding) (p : SumState) (v : SqlValue) : SumState :=
  let v := match v with
    | .text s => (numericAffinity false s).getD v
    | v => v
  match v with
  | .null => p
  | .integer i =>
    let p := { p with count := p.count + 1 }
    if p.approx then p.stepInt i
    else if fits64 (p.intSum + i) then { p with intSum := p.intSum + i }
    else { p.start with overflow := true }.stepInt i
  | other =>
    let p := { p with count := p.count + 1 }
    let p := if p.approx then { p with overflow := false } else p.start
    p.stepReal (realValue (enc.blobAsText other))

/-- The real value of a sum: the real sum with its error term when that is finite. -/
def real (p : SumState) : Binary64 :=
  if p.approx then (if isOverflow p.error then p.realSum else addReals p.realSum p.error)
  else Binary64.ofInt p.intSum

end SumState

/-! ## Folding a group -/

/-- The steps of `min` or `max` over the values of a group: the best value so far and, for each
value, whether it left the best as it was (a NULL does not, before any value). -/
def extremeSteps (enc : TextEncoding) (largest : Bool) (coll : Collation) (vals : List SqlValue) :
    Option SqlValue × List Bool :=
  vals.foldl (fun (best, skips) v =>
    match v, best with
    | .null, none => (none, skips ++ [false])
    | .null, some b => (some b, skips ++ [true])
    | v, none => (some v, skips ++ [false])
    | v, some b =>
      let o := SqlValue.compareIn enc coll b v
      let better := if largest then o == .lt else o == .gt
      if better then (some v, skips ++ [false]) else (some b, skips ++ [true])) (none, [])

/-- The text of `group_concat` over rows of a value and a separator. -/
def concatenation (withSeparator : Bool) (rows : List (List SqlValue)) : SqlValue :=
  let joined := rows.foldl (fun (acc : Option (List UInt8)) r =>
    match r with
    | v :: rest =>
      match textBytes v with
      | none => acc
      | some b =>
        match acc with
        | none => some b
        | some a =>
          let sep := if withSeparator then (textBytes (rest.headD .null)).getD [] else [44]
          some (a ++ sep ++ b)
    | [] => acc) none
  match joined with
  | some b => .text b
  | none => .null

/-- A value of an aggregate's argument as JSON text. -/
def jsonPart (t : Typed) : Except String String :=
  match (SqlJson.JsonArg.jsonText { value := t.value, isJson := t.isJson }) with
  | .ok s => .ok s
  | .error f => .error (f.detail.getD "")

/-- Built JSON text as an aggregate's value: the text, or the binary form of what it reads as. -/
def jsonAggregateValue (binary : Bool) (text : String) : SqlValue :=
  (SqlJson.builtResult binary text).value

/-- The value of an aggregate over the argument values of the rows of a group, under the
collation of its first argument, in a database of an encoding. -/
def Aggregate.finish (a : Aggregate) (enc : TextEncoding) (coll : Collation) (typedRows : List (List Typed)) :
    Except String SqlValue :=
  let rows := typedRows.map (·.map (·.value))
  let firsts := rows.map (fun r => r.headD .null)
  match a with
  | .countRows => .ok (.integer rows.length)
  | .count => .ok (.integer (firsts.filter (· != .null)).length)
  | .sum =>
    let p := firsts.foldl (SumState.add enc) {}
    if p.count = 0 then .ok .null
    else if p.approx then (if p.overflow then .error "integer overflow" else .ok (.real p.real))
    else .ok (.integer p.intSum)
  | .total => .ok (.real (firsts.foldl (SumState.add enc) {}).real)
  | .avg =>
    let p := firsts.foldl (SumState.add enc) {}
    if p.count = 0 then .ok .null
    else .ok (.real (divReals p.real (Binary64.ofNat p.count)))
  | .min => .ok ((extremeSteps enc false coll firsts).1.getD .null)
  | .max => .ok ((extremeSteps enc true coll firsts).1.getD .null)
  | .groupConcat =>
    .ok (concatenation (rows.any (·.length ≥ 2)) (rows.map (·.map enc.blobAsText)))
  | .jsonArray binary => do
    let parts ← typedRows.mapM (fun r => jsonPart (r.headD default))
    .ok (jsonAggregateValue binary ("[" ++ ",".intercalate parts ++ "]"))
  | .jsonObject binary => do
    let parts ← typedRows.mapM (fun r => do
      let k := (r.headD default).value
      let key := match k with
        | .null => ""
        | _ => SqlJson.Writer.quoted .raw (String.ofList ((SqlJson.inputText k).toList.takeWhile (· ≠ '\x00')))
      pure (key ++ ":" ++ (← jsonPart (r.getD 1 default))))
    .ok (jsonAggregateValue binary ("\x7b" ++ ",".intercalate parts ++ "\x7d"))

end Sql

end DocStore
