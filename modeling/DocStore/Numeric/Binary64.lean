/-!
# Binary64 numbers

Finite IEEE 754 double-precision numbers, kept as their three fields: sign, biased exponent and
fraction. A number denotes `significand · 2 ^ scale`, with subnormals at biased exponent 0.

Every operation here is exact arithmetic on `Nat` followed by a single rounding to nearest with
ties to even (`roundRatio`), so each one is the correctly rounded IEEE operation. Overflow is
reported as `none`: the documents of this library never hold an infinity or a NaN, because the
JSON reader refuses numbers beyond the finite range.
-/

namespace DocStore

/-- A finite binary64 number by its fields: the sign, the biased exponent (below 2047) and the
trailing 52 bits of the significand. Equality is equality of bit patterns, so `-0.0 ≠ 0.0`. -/
structure Binary64 where
  neg : Bool
  exponent : Nat
  fraction : Nat
deriving DecidableEq, Repr, Inhabited

namespace Binary64

/-- Positive zero. -/
def zero : Binary64 := ⟨false, 0, 0⟩

/-- The integer significand: the fraction with the hidden bit of a normal number. -/
def significand (x : Binary64) : Nat :=
  if x.exponent = 0 then x.fraction else x.fraction + Nat.pow 2 52

/-- The power of two that scales the significand. -/
def scale (x : Binary64) : Int :=
  if x.exponent = 0 then -1074 else (x.exponent : Int) - 1075

/-- Both zeros. -/
def isZero (x : Binary64) : Bool := x.exponent == 0 && x.fraction == 0

/-- The number with the opposite sign. -/
def negate (x : Binary64) : Binary64 := { x with neg := !x.neg }

/-- `num < den · 2 ^ k`, decided on naturals. -/
def ltScaledPow2 (num den : Nat) (k : Int) : Bool :=
  if 0 ≤ k then num < den * Nat.pow 2 k.toNat else num * Nat.pow 2 (-k).toNat < den

/-- Round the quantity `num / den` with sign `neg` to the nearest binary64, ties to even.
The exponent is found from the bit lengths (the quotient lies in `[2 ^ k, 2 ^ (k + 1))`), the
significand is the quotient scaled to 53 bits, and the remainder decides the rounding.
`none` is an overflow to infinity. -/
def roundRatio (neg : Bool) (num den : Nat) : Option Binary64 :=
  if num = 0 ∨ den = 0 then some ⟨neg, 0, 0⟩ else
  let k0 : Int := (Nat.log2 num : Int) - (Nat.log2 den : Int)
  let k : Int := if ltScaledPow2 num den k0 then k0 - 1 else k0
  let q : Int := max (k - 52) (-1074)
  let n' := if 0 ≤ q then num else num * Nat.pow 2 (-q).toNat
  let d' := if 0 ≤ q then den * Nat.pow 2 q.toNat else den
  let m0 := n' / d'
  let r := n' % d'
  let m1 := if 2 * r > d' ∨ (2 * r = d' ∧ m0 % 2 = 1) then m0 + 1 else m0
  let m := if m1 = Nat.pow 2 53 then Nat.pow 2 52 else m1
  let q' := if m1 = Nat.pow 2 53 then q + 1 else q
  if m < Nat.pow 2 52 then some ⟨neg, 0, m⟩
  else
    let e := q' + 1075
    if 2047 ≤ e then none else some ⟨neg, e.toNat, m - Nat.pow 2 52⟩

/-- Round `mant · 2 ^ e2` with sign `neg`. -/
def roundScaled (neg : Bool) (mant : Nat) (e2 : Int) : Option Binary64 :=
  if 0 ≤ e2 then roundRatio neg (mant * Nat.pow 2 e2.toNat) 1
  else roundRatio neg mant (Nat.pow 2 (-e2).toNat)

/-- The binary64 nearest to a natural number (never an overflow below `2 ^ 1024`). -/
def ofNat (n : Nat) : Binary64 :=
  (roundRatio false n 1).getD zero

/-- The binary64 nearest to an integer. -/
def ofInt (i : Int) : Binary64 :=
  if i < 0 then (ofNat i.natAbs).negate else ofNat i.natAbs

/-- The correctly rounded product; `none` on overflow. -/
def mul (x y : Binary64) : Option Binary64 :=
  roundScaled (x.neg != y.neg) (x.significand * y.significand) (x.scale + y.scale)

/-- The correctly rounded sum of two numbers of one sign; `none` on overflow. -/
def addSameSign (x y : Binary64) : Option Binary64 :=
  let e := min x.scale y.scale
  roundScaled x.neg (x.significand * Nat.pow 2 (x.scale - e).toNat + y.significand * Nat.pow 2 (y.scale - e).toNat) e

/-- The correctly rounded quotient by a nonzero divisor; `none` on overflow. -/
def div (x y : Binary64) : Option Binary64 :=
  if y.significand = 0 then none else
  let e := x.scale - y.scale
  roundRatio (x.neg != y.neg) (x.significand * (if 0 ≤ e then Nat.pow 2 e.toNat else 1))
    (y.significand * (if 0 ≤ e then 1 else Nat.pow 2 (-e).toNat))

/-- The binary64 nearest to `10 ^ i`. -/
def pow10 (i : Nat) : Binary64 :=
  (roundRatio false (Nat.pow 10 i) 1).getD zero

/-- Order of two signed dyadic quantities `a · 2 ^ ea` and `b · 2 ^ eb` given by magnitudes. -/
def compareMagnitudes (a : Nat) (ea : Int) (b : Nat) (eb : Int) : Ordering :=
  let e := min ea eb
  compare (a * Nat.pow 2 (ea - e).toNat) (b * Nat.pow 2 (eb - e).toNat)

/-- Numeric order of two numbers; the two zeros are equal. -/
def compareValue (x y : Binary64) : Ordering :=
  let mx := x.significand
  let my := y.significand
  match mx == 0, my == 0 with
  | true, true => .eq
  | true, false => if y.neg then .gt else .lt
  | false, true => if x.neg then .lt else .gt
  | false, false =>
    match x.neg, y.neg with
    | false, true => .gt
    | true, false => .lt
    | false, false => compareMagnitudes mx x.scale my y.scale
    | true, true => compareMagnitudes my y.scale mx x.scale

/-- Numeric order of an integer and a number, exactly. -/
def compareInt (i : Int) (y : Binary64) : Ordering :=
  let my := y.significand
  if my = 0 then compare i 0
  else if i = 0 then (if y.neg then .gt else .lt)
  else match decide (i < 0), y.neg with
    | false, true => .gt
    | true, false => .lt
    | false, false => compareMagnitudes i.natAbs 0 my y.scale
    | true, true => compareMagnitudes my y.scale i.natAbs 0

/-- The integer value of a number whose value is integral, truncated toward zero otherwise. -/
def truncate (x : Binary64) : Int :=
  let m := x.significand
  let e := x.scale
  let n : Nat := if 0 ≤ e then m * Nat.pow 2 e.toNat else m / Nat.pow 2 (-e).toNat
  if x.neg then -(n : Int) else n

end Binary64

end DocStore
