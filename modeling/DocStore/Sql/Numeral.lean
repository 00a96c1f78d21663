import DocStore.Numeric.Extended
/-!
# How the engine reads and writes numbers

The engine reads and writes decimal numbers with its own routines, over the bytes of a text.

* `readReal` reads a decimal number at the start of a text: blanks, a sign, digits with an
  optional fraction and exponent, blanks. The significand keeps the digits that fit below
  `(2 ^ 64 - 10) / 10`; further digits of the integer part only raise the exponent, further
  fraction digits are dropped, and the exponent stops growing at 10000. The significand is
  then scaled by powers of ten in extended precision (`Extended`), in factors of `10 ^ 100`,
  `10 ^ 10` and `10`, each product rounded, and the result rounded to binary64. The verdict
  says how much of the text was a number (`ReadVerdict`).
* `readInteger` reads the integer at the start of a text, clamped to 64 bits, with its own
  verdict (`IntegerVerdict`).
* `decodeReal` gives the decimal digits of a binary64 number the way the engine's formatter
  does: the number is scaled into `[10 ^ 17, 10 ^ 19)` in extended precision, truncated to an
  integer, and its digits rounded half up to the digits asked for.
* `realText` is the engine's text of a real: fifteen significant digits, positional for
  exponents from -4 to 14 and exponential otherwise, trailing zeros dropped but one digit kept
  after the point.
-/

namespace DocStore

namespace Sql

/-- A blank as the engine's number readers skip it: space, tab, line feed, vertical tab, form
feed, carriage return. -/
def isSpaceByte (b : UInt8) : Bool := b = 32 || (9 ≤ b && b ≤ 13)

/-- An ASCII digit. -/
def isDigitByte (b : UInt8) : Bool := 48 ≤ b && b ≤ 57

/-- The value of an ASCII digit. -/
def digitValue (b : UInt8) : Nat := b.toNat - 48

/-- The largest significand the reader still extends by a digit. -/
def significandCap : Nat := (Nat.pow 2 64 - 1 - 9) / 10

/-- How much of a text the decimal reader took as a number: `none` when it found no number, or
an integer followed by more text; `prefixOnly` when it found a number with a point or an
exponent followed by more text; `whole k` when the whole text is a number, `k` counting one
plus one for a point plus one for an exponent. -/
inductive ReadVerdict where
  | none
  | prefixOnly
  | whole (kind : Nat)
deriving DecidableEq, Repr, Inhabited

/-- The integer digits of a number: the significand, the exponent shift from digits past the
cap, the count of digits taken, and the rest of the text. -/
def scanIntegerDigits : List UInt8 → Nat → Int → Nat → Nat × Int × Nat × List UInt8
  | b :: rest, s, d, n =>
    if isDigitByte b then
      let s := s * 10 + digitValue b
      if s ≥ significandCap then
        let more := rest.takeWhile isDigitByte
        (s, d + more.length, n + 1, rest.drop more.length)
      else scanIntegerDigits rest s d (n + 1)
    else (s, d, n, b :: rest)
  | [], s, d, n => (s, d, n, [])

/-- The fraction digits of a number: those that fit extend the significand and lower the shift. -/
def scanFractionDigits : List UInt8 → Nat → Int → Nat → Nat × Int × Nat × List UInt8
  | b :: rest, s, d, n =>
    if isDigitByte b then
      if s < significandCap then scanFractionDigits rest (s * 10 + digitValue b) (d - 1) (n + 1)
      else scanFractionDigits rest s d n
    else (s, d, n, b :: rest)
  | [], s, d, n => (s, d, n, [])

/-- The exponent digits: the value, stuck at 10000 once it gets there, and whether any digit was
read. -/
def scanExponentDigits : List UInt8 → Nat → Bool → Nat × Bool × List UInt8
  | b :: rest, e, any =>
    if isDigitByte b then scanExponentDigits rest (if e < 10000 then e * 10 + digitValue b else 10000) true
    else (e, any, b :: rest)
  | [], e, any => (e, any, [])

/-- The factors the reader scales by, as the compiler rounds them to extended precision. -/
def tenE100 : Extended := Extended.ofDecimal 1 100
def tenE10 : Extended := Extended.ofDecimal 1 10
def tenE1 : Extended := Extended.ofDecimal 1 1
def tenEm100 : Extended := Extended.ofDecimal 1 (-100)
def tenEm10 : Extended := Extended.ofDecimal 1 (-10)
def tenEm1 : Extended := Extended.ofDecimal 1 (-1)

/-- The largest extended number the reader turns into a finite binary64. -/
def largestFinite : Extended := Extended.ofDecimal 17976931348623156998 289

/-- Infinity with a sign, as the values of the engine hold it. -/
def infinity (neg : Bool) : Binary64 := ⟨neg, 2047, 0⟩

/-- The binary64 the reader makes of the significand `s` scaled by `10 ^ e` (before the sign):
first the exponent is brought towards zero while that is exact, then the scaling is done in
extended precision. -/
def scaleDecimal (s : Nat) (e : Int) : Binary64 :=
  -- Move the exponent into the significand while it fits, and strip trailing zeros.
  let (s, e) := if e > 0 then
      let steps := ((List.range e.toNat).takeWhile (fun k => s * Nat.pow 10 k < (Nat.pow 2 64 - 1) / 10)).length
      (s * Nat.pow 10 steps, e - steps)
    else (s, e)
  let (s, e) := if e < 0 then
      let steps := ((List.range (-e).toNat).takeWhile (fun k => (s / Nat.pow 10 k) % 10 = 0)).length
      (s / Nat.pow 10 steps, e + steps)
    else (s, e)
  if e = 0 then (Binary64.roundScaled false s 0).getD (infinity false)
  else
    let r := some (Extended.ofNat s)
    let r := if e > 0 then
        let n := e.toNat
        Extended.mulTimes tenE1 (n % 10) (Extended.mulTimes tenE10 (n % 100 / 10)
          (Extended.mulTimes tenE100 (n / 100) r))
      else
        let n := (-e).toNat
        Extended.mulTimes tenEm1 (n % 10) (Extended.mulTimes tenEm10 (n % 100 / 10)
          (Extended.mulTimes tenEm100 (n / 100) r))
    match r with
    | none => infinity false
    | some x =>
      if x.compare largestFinite == .gt then infinity false
      else (x.toBinary64 false).getD (infinity false)

/-- Read a decimal number at the start of the bytes of a text: its value (0 when there is
none) and the verdict. -/
def readReal (bs : List UInt8) : Binary64 × ReadVerdict :=
  if bs.isEmpty then (Binary64.zero, .none) else
  let rest := bs.dropWhile isSpaceByte
  if rest.isEmpty then (Binary64.zero, .none) else
  let (neg, rest) := match rest with
    | 45 :: r => (true, r)
    | 43 :: r => (false, r)
    | r => (false, r)
  let (s, d, nDigit, rest) := scanIntegerDigits rest 0 0 0
  -- `kind` counts one, plus one for a point, plus one for an exponent.
  let (s, d, nDigit, kind, rest) := match rest with
    | 46 :: r =>
      let (s, d, n, r) := scanFractionDigits r s d nDigit
      (s, d, n, 2, r)
    | r => (s, d, nDigit, 1, r)
  let (e, eValid, kind, rest) := match rest with
    | b :: r =>
      if b = 101 || b = 69 then
        match r with
        | [] => ((0 : Int), false, kind + 1, ([] : List UInt8))
        | _ =>
          let (eneg, r) := match r with
            | 45 :: r' => (true, r')
            | 43 :: r' => (false, r')
            | r' => (false, r')
          let (ev, any, r) := scanExponentDigits r 0 false
          ((if eneg then -(ev : Int) else ev), any, kind + 1, r)
      else (0, true, kind, b :: r)
    | [] => (0, true, kind, [])
  let rest := rest.dropWhile isSpaceByte
  let value :=
    if s = 0 then (if neg then Binary64.zero.negate else Binary64.zero)
    else
      let v := scaleDecimal s (e + d)
      if neg then v.negate else v
  let verdict :=
    if rest.isEmpty && nDigit > 0 && eValid then ReadVerdict.whole kind
    else if kind ≥ 2 && (kind = 3 || eValid) && nDigit > 0 then .prefixOnly
    else .none
  (value, verdict)

/-- How much of a text the integer reader took: `ok` for a whole integer within 64 bits (blanks
after it allowed), `trailing` for an integer followed by other text, `empty` when there is no
digit, `overflow` for digits beyond 64 bits, and `limit` for exactly `2 ^ 63` without a
sign. -/
inductive IntegerVerdict where
  | ok
  | trailing
  | empty
  | overflow
  | limit
deriving DecidableEq, Repr, Inhabited

/-- Read the integer at the start of the bytes of a text: its value, clamped to 64 bits, and the
verdict. -/
def readInteger (bs : List UInt8) : Int × IntegerVerdict :=
  let rest := bs.dropWhile isSpaceByte
  let (neg, rest) := match rest with
    | 45 :: r => (true, r)
    | 43 :: r => (false, r)
    | r => (false, r)
  let signless := rest
  let rest := rest.dropWhile (· = 48)
  let digits := rest.takeWhile isDigitByte
  let after := rest.drop digits.length
  let u : Nat := digits.foldl (fun acc b => acc * 10 + digitValue b) 0
  let clamped : Int := if neg then -(Nat.pow 2 63 : Int) else Nat.pow 2 63 - 1
  let value : Int := if u > Nat.pow 2 63 - 1 then clamped else if neg then -(u : Int) else u
  let base : IntegerVerdict :=
    if digits.isEmpty && signless.length = rest.length then .empty
    else if !after.all isSpaceByte then .trailing
    else .ok
  if digits.length < 19 then (value, base)
  else if u < Nat.pow 2 63 ∧ digits.length = 19 then (value, base)
  else if digits.length > 19 ∨ u > Nat.pow 2 63 then (clamped, .overflow)
  else if neg then (clamped, base) else (clamped, .limit)

/-- Whether an extended number is at least `10 ^ k` (the constant as the compiler rounds it). -/
def atLeastPow10 (x : Extended) (k : Int) : Bool := x.compare (Extended.ofDecimal 1 k) != .lt

/-- Scale `x` by `factor` while `x` stays on the side of `10 ^ bound` that `above` names (at or
above it when `above`, below it otherwise), adding `step` to the exponent each time. A binary64
lies within `10 ^ ±330`, so a fuel of 40 rounds is more than any loop needs. -/
def scaleWhile (above : Bool) (bound : Int) (factor : Extended) (step : Int) :
    Nat → Extended × Int → Extended × Int
  | 0, acc => acc
  | n + 1, (x, exp) =>
    if atLeastPow10 x bound == above then
      match x.mul factor with
      | some y => scaleWhile above bound factor step n (y, exp + step)
      | none => (x, exp)
    else (x, exp)

/-- The decimal digits of a positive finite binary64 number as the engine's formatter finds
them, and the position of the decimal point counted from the start of the digits. -/
def scaledDigits (f : Binary64) : List Nat × Int :=
  let start := Extended.ofBinary64 f
  let (x, exp) :=
    if atLeastPow10 start 19 then
      scaleWhile true 19 tenEm1 1 40 (scaleWhile true 29 tenEm10 10 40
        (scaleWhile true 119 tenEm100 100 40 (start, 0)))
    else
      scaleWhile false 17 tenE1 (-1) 40 (scaleWhile false 7 tenE10 (-10) 40
        (scaleWhile false (-97) tenE100 (-100) 40 (start, 0)))
  let ds := (toString x.truncate).toList.map (fun c => c.toNat - 48)
  (ds, (ds.length : Int) + exp)

/-- The digits of a number as the engine's formatter gives them: the significant digits without
trailing zeros (at least one) and the position of the decimal point. `round` is the count of
significant digits to keep when positive, or, when negative, minus the count of digits to keep
after the point; zero keeps every digit (so a fixed conversion without places truncates);
`most` caps the digits kept. Rounding is half up on the first dropped digit. -/
def decodeReal (f : Binary64) (round : Int) (most : Nat) : List Nat × Int :=
  if f.isZero then ([0], 1) else
  let (ds, point) := scaledDigits { f with neg := false }
  -- A negative `round` counts digits after the point; rounding away every digit may still
  -- round up to a new leading one.
  let (ds, point, round) : List Nat × Int × Int :=
    if round < 0 then
      let r := point - round
      if r = 0 ∧ ds.headD 0 ≥ 5 then (0 :: ds, point + 1, 1) else (ds, point, r)
    else (ds, point, round)
  let (ds, point) :=
    if round > 0 ∧ (round < ds.length ∨ ds.length > most) then
      let keep := min round.toNat most
      let kept := ds.take keep
      if ds.getD keep 0 ≥ 5 then
        let v := kept.foldl (fun acc d => acc * 10 + d) 0 + 1
        let s := (toString v).toList.map (fun c => c.toNat - 48)
        if s.length > kept.length then (s, point + 1) else (s, point)
      else (kept, point)
    else (ds, point)
  let trimmed := (ds.reverse.dropWhile (· = 0)).reverse
  (if trimmed.isEmpty then [0] else trimmed, point)

/-- The text of a real the way the engine writes one (`%!.15g`): fifteen significant digits,
positional when the decimal exponent is between -4 and 14, exponential (`1.0e+20`) otherwise;
trailing zeros are dropped but one digit stays after the point. Infinities are `Inf` and
`-Inf`. -/
def realText (f : Binary64) : String :=
  if f.exponent ≥ 2047 then (if f.neg then "-Inf" else "Inf")
  else
    let sign := if f.neg ∧ !f.isZero then "-" else ""
    let (ds, point) := decodeReal f 15 26
    let digit (j : Nat) : Char := Char.ofNat (48 + ds.getD j 0)
    let exp := point - 1
    let trim (s : List Char) : List Char :=
      let s := (s.reverse.dropWhile (· = '0')).reverse
      if s.getLast? = some '.' then s ++ ['0'] else s
    if exp < -4 ∨ exp > 14 then
      let mantissa := [digit 0, '.'] ++ (List.range 14).map (fun j => digit (j + 1))
      let e := if exp < 0 then "-" ++ (if -exp < 10 then "0" else "") ++ toString (-exp)
        else "+" ++ (if exp < 10 then "0" else "") ++ toString exp
      sign ++ String.ofList (trim mantissa) ++ "e" ++ e
    else
      let precision := (14 - exp).toNat
      let intPart : List Char :=
        if exp < 0 then ['0'] else (List.range (exp.toNat + 1)).map digit
      let fracPart : List Char :=
        if exp < 0 then
          (List.range precision).map (fun (j : Nat) =>
            let pos : Int := Int.ofNat j + 1 + exp
            if pos < 0 then '0' else digit pos.toNat)
        else (List.range precision).map (fun j => digit (exp.toNat + 1 + j))
      sign ++ String.ofList (trim (intPart ++ ['.'] ++ fracPart))

end Sql

end DocStore
