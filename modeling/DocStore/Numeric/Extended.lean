import DocStore.Numeric.Binary64
/-!
# Extended-precision numbers

The 80-bit extended format of x87 hardware keeps a 64-bit significand and a 15-bit exponent.
The engine converts between decimal text and binary64 through this format: a decimal significand
is scaled by powers of ten one factor at a time, every product rounded to 64 bits, and the
result is rounded once more to binary64. Each product loses a little, so the result can miss
the correctly rounded binary64 of the decimal by one unit; following the roundings step by
step gives the engine's answers exactly.

A number here is a nonnegative `mant · 2 ^ exp` with `mant < 2 ^ 64`. Every operation is exact
arithmetic on `Nat` followed by one rounding to nearest with ties to even (`roundScaled`), the
last kept bit never below `2 ^ -16445`, the format's smallest subnormal. `none` stands for an
overflow to infinity.
-/

namespace DocStore

/-- A nonnegative extended-precision number `mant · 2 ^ exp`, with `mant < 2 ^ 64`. -/
structure Extended where
  mant : Nat
  exp : Int
deriving DecidableEq, Repr, Inhabited

namespace Extended

/-- The exponent of the smallest subnormal of the format. -/
def minLsb : Int := -16445

/-- Round `m · 2 ^ e` to 64 significant bits, nearest with ties to even: the bits below the
last kept one decide, the last kept bit being the 64th from the top and never below
`2 ^ minLsb`. A result of `2 ^ 16384` or more overflows. -/
def roundScaled (m : Nat) (e : Int) : Option Extended :=
  if m = 0 then some ⟨0, 0⟩ else
  let len : Int := (Nat.log2 m : Int) + 1
  let lsb : Int := max (e + len - 64) minLsb
  let (q, qe) : Nat × Int :=
    if lsb ≤ e then (m, e)
    else
      let s := (lsb - e).toNat
      let q := m / Nat.pow 2 s
      let r := m % Nat.pow 2 s
      let half := Nat.pow 2 (s - 1)
      let q := if r > half ∨ (r = half ∧ q % 2 = 1) then q + 1 else q
      if q = Nat.pow 2 64 then (Nat.pow 2 63, lsb + 1) else (q, lsb)
  if q = 0 then some ⟨0, 0⟩
  else if qe + (Nat.log2 q : Int) ≥ 16384 then none
  else some ⟨q, qe⟩

/-- Round the positive ratio `num / den` the same way; used for the format's decimal constants. -/
def roundRatio (num den : Nat) : Option Extended :=
  if num = 0 ∨ den = 0 then some ⟨0, 0⟩ else
  let k0 : Int := (Nat.log2 num : Int) - (Nat.log2 den : Int)
  let k : Int := if Binary64.ltScaledPow2 num den k0 then k0 - 1 else k0
  -- The quotient lies in `[2 ^ k, 2 ^ (k + 1))`; two guard bits and a sticky bit decide.
  let q : Int := max (k - 66) (minLsb - 3)
  let n' := if 0 ≤ q then num else num * Nat.pow 2 (-q).toNat
  let d' := if 0 ≤ q then den * Nat.pow 2 q.toNat else den
  let m := n' / d'
  let sticky := if n' % d' = 0 then 0 else 1
  roundScaled (2 * m + sticky) (q - 1)

/-- The extended number nearest to `sig · 10 ^ e10`, as a compiler reads a `long double`
literal; only finite constants are asked for. -/
def ofDecimal (sig : Nat) (e10 : Int) : Extended :=
  let r := if 0 ≤ e10 then roundScaled (sig * Nat.pow 10 e10.toNat) 0 else roundRatio sig (Nat.pow 10 (-e10).toNat)
  r.getD ⟨0, 0⟩

/-- A natural number below `2 ^ 64`, which the format holds exactly. -/
def ofNat (n : Nat) : Extended := (roundScaled n 0).getD ⟨0, 0⟩

/-- The magnitude of a binary64 number, which the format holds exactly. -/
def ofBinary64 (f : Binary64) : Extended := ⟨f.significand, f.scale⟩

/-- The rounded product; `none` on overflow. -/
def mul (x y : Extended) : Option Extended := roundScaled (x.mant * y.mant) (x.exp + y.exp)

/-- Numeric order. -/
def compare (x y : Extended) : Ordering := Binary64.compareMagnitudes x.mant x.exp y.mant y.exp

/-- The integer part, as a conversion to an unsigned integer truncates. -/
def truncate (x : Extended) : Nat :=
  if 0 ≤ x.exp then x.mant * Nat.pow 2 x.exp.toNat else x.mant / Nat.pow 2 (-x.exp).toNat

/-- The binary64 nearest to a number, with sign `neg`; `none` when it overflows. -/
def toBinary64 (neg : Bool) (x : Extended) : Option Binary64 := Binary64.roundScaled neg x.mant x.exp

/-- Multiply by a factor `n` times, the product rounded each time; infinity stays infinity. -/
def mulTimes (factor : Extended) : Nat → Option Extended → Option Extended
  | 0, x => x
  | n + 1, x => mulTimes factor n (x.bind (fun v => v.mul factor))

end Extended

end DocStore
