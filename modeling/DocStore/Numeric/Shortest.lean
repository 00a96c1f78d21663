import DocStore.Numeric.Binary64
/-!
# Shortest decimal of a binary64 number

The decimal `digits · 10 ^ exp10` with the fewest significant digits that reads back as the
given nonzero number, and of two such decimals the nearer one (an exact tie goes to the even
digit). A decimal reads back when it lies in the rounding interval of the number: half a unit in
the last place on either side, only a quarter below when the significand is a power of two
that is not the smallest normal one, the ends included when the significand is even.

For each count of digits `n` the candidates are the two neighbours of the number on the decimal
grid `10 ^ (e10 + 1 - n)`, where `e10` is the decimal exponent of the number. All comparisons
are exact on naturals.
-/

namespace DocStore

namespace Binary64

/-- `a · 10 ^ ka · 2 ^ ja ≤ b · 10 ^ kb · 2 ^ jb`, or `<` when `strict`, decided on naturals by
moving every negative power to the other side. -/
def leScaled (strict : Bool) (a : Nat) (ka ja : Int) (b : Nat) (kb jb : Int) : Bool :=
  let k := min ka kb
  let j := min ja jb
  let l := a * Nat.pow 10 (ka - k).toNat * Nat.pow 2 (ja - j).toNat
  let r := b * Nat.pow 10 (kb - k).toNat * Nat.pow 2 (jb - j).toNat
  if strict then l < r else l ≤ r

/-- The decimal exponent of the positive quantity `m · 2 ^ q`: the largest `e` with
`10 ^ e ≤ m · 2 ^ q`. An estimate from the bit length is corrected by at most a few steps. -/
def decimalExponent (m : Nat) (q : Int) : Int :=
  let bits : Int := (Nat.log2 m : Int) + q
  let est : Int := (bits * 78913) / 262144
  -- `tenPowLe e` holds when `10 ^ e ≤ m · 2 ^ q`
  let tenPowLe (e : Int) : Bool := leScaled false 1 e 0 m 0 q
  let up := fun (e : Int) => if tenPowLe (e + 1) then e + 1 else e
  let down := fun (e : Int) => if tenPowLe e then e else e - 1
  up (up (down (down est)))

/-- The decimal candidate chosen on one grid, if any: `none` when neither neighbour lies in the
rounding interval. -/
def gridChoice (m : Nat) (q : Int) (inclusive : Bool) (gapBelow : Nat) (k : Int) :
    Option Nat :=
  -- m · 2 ^ q / 10 ^ k = num / den
  let num := m * Nat.pow 2 (max q 0).toNat * Nat.pow 10 (max (-k) 0).toNat
  let den := Nat.pow 2 (max (-q) 0).toNat * Nat.pow 10 (max k 0).toNat
  let lo := num / den
  let r := num % den
  -- distances: below = r / den · 10 ^ k, above = (den - r) / den · 10 ^ k;
  -- gaps: gapBelow / 4 · 2 ^ q below and 2 / 4 · 2 ^ q above
  let loOk := leScaled (!inclusive) r k 2 (gapBelow * den) 0 q
  let hiOk := leScaled (!inclusive) (den - r) k 2 (2 * den) 0 q
  match loOk, hiOk with
  | true, true =>
    if 2 * r < den then some lo
    else if 2 * r > den then some (lo + 1)
    else if lo % 2 = 0 then some lo else some (lo + 1)
  | true, false => some lo
  | false, true => some (lo + 1)
  | false, false => none

/-- Remove trailing zeros of the digits, raising the exponent. -/
def normalizeDecimal : Nat → Nat → Int → Nat × Int
  | 0, d, k => (d, k)
  | fuel + 1, d, k => if d ≠ 0 ∧ d % 10 = 0 then normalizeDecimal fuel (d / 10) (k + 1) else (d, k)

/-- Search the grids for one to seventeen digits. -/
def searchGrids (m : Nat) (q : Int) (inclusive : Bool) (gapBelow : Nat) (e10 : Int) :
    List Nat → Option (Nat × Int)
  | [] => none
  | n :: rest =>
    let k := e10 + 1 - n
    match gridChoice m q inclusive gapBelow k with
    | some d => some (normalizeDecimal 20 d k)
    | none => searchGrids m q inclusive gapBelow e10 rest

/-- The shortest decimal `(digits, exp10)` that reads back as the magnitude of `x`; zero gives
`(0, 0)`. Seventeen digits always suffice, so the last fallback (all the exact digits) is
never reached for a finite number. -/
def shortestDecimal (x : Binary64) : Nat × Int :=
  let m := x.significand
  let q := x.scale
  if m = 0 then (0, 0) else
  let inclusive := m % 2 == 0
  let gapBelow := if x.fraction = 0 ∧ 1 < x.exponent then 1 else 2
  let e10 := decimalExponent m q
  match searchGrids m q inclusive gapBelow e10 (List.range' 1 17) with
  | some r => r
  | none => (m, 0)

end Binary64

end DocStore
