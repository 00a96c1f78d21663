import DocStore.Sql.Schema
import DocStore.Sql.Numeral
/-!
# Conversions between the engine's kinds of value

The engine converts values in a handful of fixed ways, all built on its two number readers
(`readReal`, `readInteger`) and its real formatter (`realText`):

* `intValue` and `realValue` read any value as a 64-bit integer or a real: text and blobs by
  their longest numeric prefix, reals by truncation clamped to 64 bits.
* `numericOf` is how arithmetic reads text: an integer when the text is an integer (or starts
  with one and has no point or exponent), a real otherwise.
* `numericAffinity` is how a column or a comparison of numeric affinity reads text: only text
  that is a number as a whole becomes one, an integer when it is written as one or is a real
  with a small integer value.
* `applyAffinity` converts a value on its way into a column; `castTo` is `CAST`.
* Numbers read as text in their decimal form, reals with fifteen significant digits.
-/

namespace DocStore

namespace Sql

/-- The decimal text of an integer, as bytes. -/
def integerBytes (i : Int) : List UInt8 := (toString i).toUTF8.toList

/-- The text of a real, as bytes. -/
def realBytes (f : Binary64) : List UInt8 := (realText f).toUTF8.toList

/-- The bytes a value reads as where text is wanted; NULL has none. -/
def textBytes : SqlValue → Option (List UInt8)
  | .null => none
  | .integer i => some (integerBytes i)
  | .real f => some (realBytes f)
  | .text s => some s
  | .blob b => some b

/-- Whether a binary64 is a NaN. -/
def isNaN (f : Binary64) : Bool := f.exponent ≥ 2047 && f.fraction ≠ 0

/-- The integer a real converts to when read as an integer: truncated toward zero, clamped to
64 bits; a NaN reads as the smallest integer. -/
def realToInt (f : Binary64) : Int :=
  if isNaN f then -(Nat.pow 2 63)
  else if f.exponent ≥ 2047 then (if f.neg then -(Nat.pow 2 63) else Nat.pow 2 63 - 1)
  else
    let t := f.truncate
    if t ≤ -(Nat.pow 2 63) then -(Nat.pow 2 63) else if t ≥ Nat.pow 2 63 then Nat.pow 2 63 - 1 else t

/-- The integer nearest below a real in magnitude, clamped a little inside 64 bits: the
conversion the engine uses when it asks whether a real is an integer. -/
def realToI64 (f : Binary64) : Int :=
  if isNaN f then -(Nat.pow 2 63)
  else if f.exponent ≥ 2047 then (if f.neg then -(Nat.pow 2 63) else Nat.pow 2 63 - 1)
  else
    let t := f.truncate
    if t < -9223372036854774784 then -(Nat.pow 2 63) else if t > 9223372036854774784 then Nat.pow 2 63 - 1 else t

/-- Whether a real and an integer are the same number, the integer small enough that every
integer near it is a binary64; zero of either sign is the same as 0. -/
def realSameAsInt (f : Binary64) (i : Int) : Bool :=
  f.isZero || (f.exponent < 2047 && Binary64.compareInt i f == .eq &&
    -2251799813685248 ≤ i && i < 2251799813685248)

/-- The integer a real holds exactly, strictly inside 64 bits. -/
def exactInt (f : Binary64) : Option Int :=
  if f.exponent ≥ 2047 then none
  else
    let i := realToInt f
    if Binary64.compareInt i f == .eq ∧ -(Nat.pow 2 63 : Int) < i ∧ i < Nat.pow 2 63 - 1 then some i else none

/-- Whether the integer reader's verdict allows reading the text as that integer: the whole text,
the text with more after the integer, or no digits at all. -/
def IntegerVerdict.fits : IntegerVerdict → Bool
  | .ok | .trailing | .empty => true
  | _ => false

/-- The integer a value reads as: a real truncated and clamped, text and blobs by their integer
prefix, NULL as 0. -/
def intValue : SqlValue → Int
  | .integer i => i
  | .real f => realToInt f
  | .text s => (readInteger s).1
  | .blob s => (readInteger s).1
  | .null => 0

/-- The real a value reads as: text and blobs by their decimal prefix, NULL as 0. -/
def realValue : SqlValue → Binary64
  | .integer i => Binary64.ofInt i
  | .real f => f
  | .text s => (readReal s).1
  | .blob s => (readReal s).1
  | .null => Binary64.zero

/-- The number arithmetic reads text as: an integer when the text has no point or exponent (or
has a malformed one) and its integer fits 64 bits, a real otherwise. -/
def numericOf (s : List UInt8) : SqlValue :=
  let (r, verdict) := readReal s
  match verdict with
  | .none =>
    let (i, iv) := readInteger s
    if iv.fits then .integer i else .real r
  | .whole 1 =>
    let (i, iv) := readInteger s
    if iv == .ok then .integer i else .real r
  | _ => .real r

/-- A numeric operand: a number stays, text and blobs read as `numericOf` says, NULL stays
NULL. -/
def numericOperand : SqlValue → SqlValue
  | .text s => numericOf s
  | .blob s => numericOf s
  | v => v

/-- A real with an integer value strictly inside 64 bits becomes that integer. -/
def integerAffinity : SqlValue → SqlValue
  | .real f => match exactInt f with
    | some i => .integer i
    | none => .real f
  | v => v

/-- The number a whole text is, for a numeric affinity: `none` unless the text, blanks around it
allowed, is a number. Text written as an integer is that integer when it is a small real's
value or fits 64 bits; otherwise the text is a real, which `tryInt` turns into an integer when
it holds one. -/
def numericAffinity (tryInt : Bool) (s : List UInt8) : Option SqlValue :=
  let (r, verdict) := readReal s
  let asReal : SqlValue := if tryInt then integerAffinity (.real r) else .real r
  match verdict with
  | .whole 1 =>
    let i := realToI64 r
    if realSameAsInt r i then some (.integer i)
    else
      let (j, jv) := readInteger s
      if jv == .ok then some (.integer j) else some asReal
  | .whole _ => some asReal
  | _ => none

/-- A value converted by an affinity on its way into a column: text affinity turns numbers into
text; the numeric affinities turn text that is a number into that number and a real with an
integer value into the integer. -/
def applyAffinity (aff : Affinity) (v : SqlValue) : SqlValue :=
  match aff, v with
  | .text, .integer i => .text (integerBytes i)
  | .text, .real f => .text (realBytes f)
  | .blob, v => v
  | .text, v => v
  | _, .text s => (numericAffinity true s).getD (.text s)
  | _, .real f => integerAffinity (.real f)
  | _, v => v

/-- A text or blob read as `CAST(... AS NUMERIC)` reads it: an integer when its text is an
integer (a prefix of one included) that fits 64 bits or a real with a small integer value, a
real otherwise. -/
def numerify (s : List UInt8) : SqlValue :=
  let (r, verdict) := readReal s
  let (i, iv) := readInteger s
  let byText := match verdict with
    | .none | .whole 1 => iv.fits
    | _ => false
  if byText then .integer i
  else
    let j := realToI64 r
    if realSameAsInt r j then .integer j else .real r

/-- `x || y` in a database of an encoding: NULL when either side is NULL, else the bytes of both
sides as the database holds them (a blob's bytes as they are) joined and read as text of the
encoding, where UTF-16 drops a last odd byte. -/
def concatIn (enc : TextEncoding) (x y : SqlValue) : SqlValue :=
  match textBytes x, textBytes y with
  | some s, some u =>
    match enc with
    | .utf8 => .text (s ++ u)
    | _ =>
      let held (v : SqlValue) (b : List UInt8) : List UInt8 := match v with
        | .blob _ => b
        | _ => enc.encode b
      .text (enc.toUtf8 (held x s ++ held y u))
  | _, _ => .null

/-- A value cast to a type, by the affinity of the type's name, in a database of an encoding: a
blob cast to anything but a blob is read as text of that encoding, and a value cast to a blob
gives the bytes of its text in that encoding. -/
def castTo (enc : TextEncoding) (typeName : String) (v : SqlValue) : SqlValue :=
  let asText : SqlValue := match v with
    | .blob b => .text (enc.toUtf8 b)
    | other => other
  match v with
  | .null => .null
  | _ =>
    match affinityOf typeName with
    | .text => .text ((textBytes asText).getD [])
    | .blob => match v with
      | .blob b => .blob b
      | other => .blob (enc.encode ((textBytes other).getD []))
    | .integer => .integer (intValue asText)
    | .real => .real (realValue asText)
    | .numeric => match asText with
      | .text s => numerify s
      | other => other

/-- The correctly rounded sum of two reals. -/
def addReals (x y : Binary64) : Binary64 :=
  if x.exponent ≥ 2047 then
    (if y.exponent ≥ 2047 ∧ x.neg ≠ y.neg then ⟨false, 2047, 1⟩ else x)
  else if y.exponent ≥ 2047 then y
  else
    let e := min x.scale y.scale
    let sx : Int := (x.significand * Nat.pow 2 (x.scale - e).toNat : Nat)
    let sy : Int := (y.significand * Nat.pow 2 (y.scale - e).toNat : Nat)
    let total := (if x.neg then -sx else sx) + (if y.neg then -sy else sy)
    if total = 0 then
      (if x.neg ∧ y.neg then Binary64.zero.negate else Binary64.zero)
    else (Binary64.roundScaled (total < 0) total.natAbs e).getD ⟨total < 0, 2047, 0⟩

/-- A NaN, the result of operations without a value. -/
def notANumber : Binary64 := ⟨false, 2047, 1⟩

/-- The correctly rounded product, infinities included: infinity times zero is a NaN. -/
def mulReals (x y : Binary64) : Binary64 :=
  let neg := x.neg != y.neg
  if isNaN x then x else if isNaN y then y
  else if x.exponent ≥ 2047 ∨ y.exponent ≥ 2047 then
    (if x.isZero ∨ y.isZero then notANumber else infinity neg)
  else (x.mul y).getD (infinity neg)

/-- The correctly rounded quotient by a nonzero divisor, infinities included. -/
def divReals (x y : Binary64) : Binary64 :=
  let neg := x.neg != y.neg
  if isNaN x then x else if isNaN y then y
  else if x.exponent ≥ 2047 then (if y.exponent ≥ 2047 then notANumber else infinity neg)
  else if y.exponent ≥ 2047 then (if neg then Binary64.zero.negate else Binary64.zero)
  else (x.div y).getD (infinity neg)

end Sql

end DocStore
