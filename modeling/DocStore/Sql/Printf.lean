import DocStore.Sql.Convert
import DocStore.Sql.Text
/-!
# Formatted text

`format` is the engine's `printf`: it copies a format text and replaces each conversion
(`%` followed by flags, a width, a precision and a conversion letter) by the next argument
written in that way. Arguments are read as the conversion needs them: integers by `intValue`,
reals by `realValue`, text by its bytes up to the first NUL; a missing argument reads as 0 or as
no text.

The conversions:

* `d` and `i` signed, `u` unsigned decimal; `x`, `X` and `o` hexadecimal and octal of the
  64-bit pattern, `p` in the digits of `X` with the prefix of `x`; `r` an ordinal (`1st`, `2nd`, `3rd`, `4th`);
* `f`, `e`, `E`, `g` and `G` reals, their digits found by `decodeReal`, at most 16 significant
  digits (26 with the `!` flag);
* `s` and `z` text, `c` a character, `q` and `w` text with single or double quotes doubled, `Q`
  that text in quotes (or `NULL`);
* `%` itself and `n` nothing; any other letter, and the internal `T` and `S`, end the output.
  A format that writes nothing at all, not even an empty conversion, gives NULL.

Flags: `-` pads on the right, `+` and space give positive numbers a sign, `#` the alternate
form, `!` counts width and precision of text in characters and keeps more digits of reals, `0`
pads numbers with zeros, `,` separates thousands of decimal integers. A width or precision of
`*` is taken from the arguments.
-/

namespace DocStore

namespace Sql

/-- The kinds of conversion. -/
inductive Conversion where
  /-- A decimal integer, signed or not. -/
  | decimal (signed : Bool)
  /-- An unsigned integer in a base, with its digits and its alternate-form prefix. -/
  | radix (base : Nat) (upper : Bool) (altPrefix : String)
  | ordinal
  | fixed
  | exponent (upper : Bool)
  | general (upper : Bool)
  | string
  | escaped (quote : UInt8) (enclose : Bool)
  | character
  | size
  | percent
  /-- A letter that ends the output. -/
  | stop
deriving DecidableEq, Repr

/-- The conversion a letter names. -/
def Conversion.ofByte (c : UInt8) : Conversion :=
  match c.toNat with
  | 100 | 105 => .decimal true
  | 117 => .decimal false
  | 115 | 122 => .string
  | 103 => .general false
  | 71 => .general true
  | 113 => .escaped 39 false
  | 81 => .escaped 39 true
  | 119 => .escaped 34 false
  | 99 => .character
  | 111 => .radix 8 false "0"
  | 120 => .radix 16 false "0x"
  | 88 => .radix 16 true "0X"
  | 112 => .radix 16 true "0x"
  | 102 => .fixed
  | 101 => .exponent false
  | 69 => .exponent true
  | 110 => .size
  | 37 => .percent
  | 114 => .ordinal
  | _ => .stop

/-- The flags, width and precision of a conversion. -/
structure Spec where
  leftJustify : Bool := false
  /-- The sign written before a positive number: `+`, space, or none. -/
  signChar : Option UInt8 := none
  alternate : Bool := false
  alternate2 : Bool := false
  zeroPad : Bool := false
  thousands : Bool := false
  width : Nat := 0
  precision : Option Nat := none
deriving Repr

/-- The arguments still to be read. -/
abbrev Arguments := List SqlValue

/-- The next argument as an integer; 0 when there is none. -/
def nextInt : Arguments → Int × Arguments
  | [] => (0, [])
  | v :: rest => (intValue v, rest)

/-- The next argument as a real; 0 when there is none. -/
def nextReal : Arguments → Binary64 × Arguments
  | [] => (Binary64.zero, [])
  | v :: rest => (realValue v, rest)

/-- The next argument as text up to its first NUL; none when there is none or it is NULL. -/
def nextText : Arguments → Option (List UInt8) × Arguments
  | [] => (none, [])
  | v :: rest => ((textBytes v).map textView, rest)

/-- A 64-bit integer read as a 32-bit one, wrapping. -/
def toInt32 (i : Int) : Int :=
  let m := i % (Nat.pow 2 32)
  if m ≥ Nat.pow 2 31 then m - Nat.pow 2 32 else m

/-- The digits of a natural number in a base. -/
def digitsIn (base : Nat) (upper : Bool) (n : Nat) : List UInt8 :=
  let digit (d : Nat) : UInt8 := UInt8.ofNat (if d < 10 then 48 + d else (if upper then 55 else 87) + d)
  let rec go : Nat → Nat → List UInt8 → List UInt8
    | 0, _, acc => acc
    | fuel + 1, n, acc => if n < base then digit n :: acc else go fuel (n / base) (digit (n % base) :: acc)
  go 70 n []

/-- Digits with a comma before every group of three from the right. -/
def groupThousands (ds : List UInt8) : List UInt8 :=
  let n := ds.length
  (ds.zipIdx.flatMap (fun (d, i) => if i > 0 ∧ (n - i) % 3 = 0 then [44, d] else [d]))

/-- The text of an integer conversion, before padding to the width. -/
def integerField (conv : Conversion) (spec : Spec) (v : Int) : List UInt8 :=
  let (signed, base, upper, altPrefix, ordinal) := match conv with
    | .decimal s => (s, 10, false, "", false)
    | .radix b u p => (false, b, u, p, false)
    | _ => (true, 10, false, "", true)
  let thousands := spec.thousands && (match conv with
    | .decimal _ => true
    | _ => false)
  let (magnitude, sign) : Nat × Option UInt8 :=
    if signed then (if v < 0 then (v.natAbs, some 45) else (v.toNat, spec.signChar))
    else ((v % (Nat.pow 2 64)).toNat, none)
  let alternate := spec.alternate && magnitude ≠ 0
  let precision : Nat := spec.precision.getD 0
  let precision :=
    if spec.zeroPad ∧ precision + (if sign.isSome then 1 else 0) < spec.width then
      spec.width - (if sign.isSome then 1 else 0)
    else precision
  let suffix : List UInt8 :=
    if ordinal then
      let x := magnitude % 10
      let x := if x ≥ 4 ∨ (magnitude / 10) % 10 = 1 then 0 else x
      ("thstndrd".toUTF8.toList.drop (2 * x)).take 2
    else []
  let ds := digitsIn base upper magnitude ++ suffix
  let ds := List.replicate (precision - ds.length) 48 ++ ds
  let ds := if thousands then groupThousands ds else ds
  let ds := match sign with
    | some s => s :: ds
    | none => ds
  if alternate then altPrefix.toUTF8.toList ++ ds else ds

/-- The text of a real conversion, before padding to the width. -/
def realField (conv : Conversion) (spec : Spec) (f : Binary64) : List UInt8 :=
  let precision : Nat := spec.precision.getD 6
  let (round, precision) : Int × Nat := match conv with
    | .fixed => (-(precision : Int), precision)
    | .general _ => let p := if precision = 0 then 1 else precision; (p, p)
    | _ => (precision + 1, precision)
  let most := if spec.alternate2 then 26 else 16
  let sign : Option UInt8 := if f.neg ∧ !f.isZero then some 45 else spec.signChar
  let nan := f.exponent ≥ 2047 ∧ f.fraction ≠ 0
  let infinite := f.exponent ≥ 2047 ∧ f.fraction = 0
  if nan then (if spec.zeroPad then "null" else "NaN").toUTF8.toList
  else if infinite ∧ !spec.zeroPad then
    (match sign with
      | some s => [s]
      | none => []) ++ "Inf".toUTF8.toList
  else
    let (ds, point) : List Nat × Int :=
      if infinite then ([9], 1000) else decodeReal { f with neg := false } round most
    let ds := ds.map (fun d => UInt8.ofNat (48 + d))
    let digit (j : Nat) : UInt8 := ds.getD j 48
    let exp := point - 1
    let precision : Nat := match conv with
      | .general _ => if precision > 0 then precision - 1 else precision
      | _ => precision
    let (isExp, precision, rtz) : Bool × Nat × Bool := match conv with
      | .general _ =>
        if exp < -4 ∨ exp > (precision : Int) then (true, precision, !spec.alternate)
        else (false, ((precision : Int) - exp).toNat, !spec.alternate)
      | .exponent _ => (true, precision, spec.alternate2)
      | _ => (false, precision, spec.alternate2)
    let e2 : Int := if isExp then 0 else point - 1
    let dp := precision > 0 || spec.alternate || spec.alternate2
    -- Digits before the point, with commas when asked.
    let whole : List UInt8 × Nat :=
      if e2 < 0 then ([48], 0)
      else
        let n := e2.toNat + 1
        let body := (List.range n).map digit
        (if spec.thousands then groupThousands body else body, n)
    let (intPart, used) := whole
    let leadZeros : Nat := if e2 < 0 then min ((-(e2 + 1)).toNat) precision else 0
    let fracDigits : List UInt8 :=
      List.replicate leadZeros 48 ++ (List.range (precision - leadZeros)).map (fun k => digit (used + k))
    let body := intPart ++ (if dp then [46] else []) ++ fracDigits
    let body :=
      if rtz ∧ dp then
        let t := (body.reverse.dropWhile (· = 48)).reverse
        if t.getLast? = some 46 then (if spec.alternate2 then t ++ [48] else t.dropLast) else t
      else body
    let expPart : List UInt8 :=
      if isExp then
        let letter : UInt8 := match conv with
          | .exponent true | .general true => 69
          | _ => 101
        let (esign, e) : UInt8 × Nat := if exp < 0 then (45, (-exp).toNat) else (43, exp.toNat)
        let ds := if e ≥ 100 then [UInt8.ofNat (48 + e / 100), UInt8.ofNat (48 + e % 100 / 10), UInt8.ofNat (48 + e % 10)]
          else [UInt8.ofNat (48 + e / 10), UInt8.ofNat (48 + e % 10)]
        letter :: esign :: ds
      else []
    let text := (match sign with
      | some s => [s]
      | none => []) ++ body ++ expPart
    if spec.zeroPad ∧ !spec.leftJustify ∧ text.length < spec.width then
      let pad := List.replicate (spec.width - text.length) 48
      match sign with
      | some s => s :: pad ++ text.drop 1
      | none => pad ++ text
    else text

/-- Pad a field to a width (counted in bytes, plus the continuation bytes of its characters
when `chars`), on the left or, with `-`, on the right. -/
def padField (spec : Spec) (chars : Bool) (text : List UInt8) : List UInt8 :=
  let width := if chars ∧ spec.width > 0 then spec.width + (text.filter isContinuation).length else spec.width
  if width > text.length then
    let pad := List.replicate (width - text.length) 32
    if spec.leftJustify then text ++ pad else pad ++ text
  else text

/-- The first character of a text (at most four bytes); a NUL byte for no text. -/
def firstCharBytes (t : Option (List UInt8)) : List UInt8 :=
  match t with
  | some (b :: rest) => if b.toNat / 64 = 3 then b :: (rest.takeWhile isContinuation).take 3 else [b]
  | _ => [0]

/-- The output of one conversion with its arguments read, and the arguments left; `none` when
the conversion ends the output. -/
def convert (conv : Conversion) (spec : Spec) (args : Arguments) : Option (List UInt8 × Arguments) :=
  match conv with
  | .decimal _ | .radix _ _ _ | .ordinal =>
    let (v, args) := nextInt args
    let spec := match conv with
      | .decimal _ => spec
      | _ => { spec with thousands := false }
    some (padField spec false (integerField conv spec v), args)
  | .fixed | .exponent _ | .general _ =>
    let (f, args) := nextReal args
    some (padField spec false (realField conv spec f), args)
  | .size => some ([], args)
  | .percent => some (padField spec false [37], args)
  | .string =>
    let (t, args) := nextText args
    let t := t.getD []
    let t := match spec.precision with
      | some p => if spec.alternate2 then (chars t).take p |>.flatten else t.take p
      | none => t
    some (padField spec spec.alternate2 t, args)
  | .escaped q enclose =>
    let (t, args) := nextText args
    let body := match t with
      | some b => b
      | none => (if enclose then "NULL" else "(NULL)").toUTF8.toList
    let body := match spec.precision with
      | some p => if spec.alternate2 then (chars body).take p |>.flatten else body.take p
      | none => body
    let doubled := body.flatMap (fun b => if b = q then [b, b] else [b])
    let text := if enclose ∧ t.isSome then q :: doubled ++ [q] else doubled
    some (padField spec spec.alternate2 text, args)
  | .character =>
    let (t, args) := nextText args
    let ch := firstCharBytes t
    let p := spec.precision.getD 0
    if p > 1 then
      let width : Int := (spec.width : Int) - (p - 1 : Nat)
      let (before, width) : List UInt8 × Int :=
        if width > 1 ∧ !spec.leftJustify then (List.replicate (width - 1).toNat 32, 0) else ([], width)
      let copies := (List.replicate (p - 1) ch).flatten
      some (before ++ copies ++ padField { spec with width := width.toNat } true ch, args)
    else some (padField spec true ch, args)
  | .stop => none

/-- Read the flags, width and precision of a conversion, after its `%`: the spec, the
conversion letter (none at the end of the format), the rest of the format and the arguments
left. -/
def readSpec : Nat → Spec → List UInt8 → Arguments → Spec × Option UInt8 × List UInt8 × Arguments
  | 0, spec, fmt, args => (spec, none, fmt, args)
  | fuel + 1, spec, fmt, args =>
    match fmt with
    | [] => (spec, none, [], args)
    | c :: rest =>
      match c.toNat with
      | 45 => readSpec fuel { spec with leftJustify := true } rest args
      | 43 => readSpec fuel { spec with signChar := some 43 } rest args
      | 32 => readSpec fuel { spec with signChar := some 32 } rest args
      | 35 => readSpec fuel { spec with alternate := true } rest args
      | 33 => readSpec fuel { spec with alternate2 := true } rest args
      | 48 => readSpec fuel { spec with zeroPad := true } rest args
      | 44 => readSpec fuel { spec with thousands := true } rest args
      | 108 =>
        let rest := match rest with
          | 108 :: r => r
          | r => r
        (spec, rest.head?, rest.drop 1, args)
      | 42 =>
        let (w, args) := nextInt args
        let w := toInt32 w
        let spec := if w < 0 then
            { spec with leftJustify := true, width := if w ≥ -2147483647 then (-w).toNat else 0 }
          else { spec with width := w.toNat }
        match rest with
        | 46 :: _ | 108 :: _ => readSpec fuel spec rest args
        | d :: r => (spec, some d, r, args)
        | [] => (spec, none, [], args)
      | 46 =>
        match rest with
        | 42 :: r =>
          let (p, args) := nextInt args
          let p := toInt32 p
          let prec : Option Nat :=
            if p < 0 then (if p ≥ -2147483647 then some (-p).toNat else none) else some p.toNat
          let spec := { spec with precision := prec }
          match r with
          | 108 :: _ => readSpec fuel spec r args
          | d :: r' => (spec, some d, r', args)
          | [] => (spec, none, [], args)
        | r =>
          let ds := r.takeWhile isDigitByte
          let px := ds.foldl (fun acc d => (acc * 10 + digitValue d) % Nat.pow 2 32) 0
          let spec := { spec with precision := some (px % Nat.pow 2 31) }
          match r.drop ds.length with
          | 108 :: _ => readSpec fuel spec (r.drop ds.length) args
          | d :: r' => (spec, some d, r', args)
          | [] => (spec, none, [], args)
      | _ =>
        if isDigitByte c then
          let ds := fmt.takeWhile isDigitByte
          let wx := ds.foldl (fun acc d => (acc * 10 + digitValue d) % Nat.pow 2 32) 0
          let spec := { spec with width := wx % Nat.pow 2 31 }
          match fmt.drop ds.length with
          | 46 :: _ | 108 :: _ => readSpec fuel spec (fmt.drop ds.length) args
          | d :: r' => (spec, some d, r', args)
          | [] => (spec, none, [], args)
        else (spec, some c, rest, args)

/-- Format a text with arguments: the literal text is copied, each conversion replaced by its
output, until the format ends or a conversion stops it. `none` when nothing at all was written:
an empty format, or one that a conversion stops before any text or conversion output. -/
def formatWith : Nat → List UInt8 → Arguments → Option (List UInt8)
  | 0, _, _ => none
  | fuel + 1, fmt, args =>
    match fmt with
    | [] => none
    | 37 :: rest =>
      match rest with
      | [] => some [37]
      | _ =>
        let (spec, letter, rest, args) := readSpec (rest.length + 1) {} rest args
        match letter with
        | none => none
        | some c =>
          match convert (Conversion.ofByte c) spec args with
          | some (out, args) => some (out ++ (formatWith fuel rest args).getD [])
          | none => none
    | _ =>
      let lit := fmt.takeWhile (· ≠ 37)
      some (lit ++ (formatWith fuel (fmt.drop lit.length) args).getD [])

/-- The text a format writes with arguments; empty when it writes nothing. -/
def formatText (fuel : Nat) (fmt : List UInt8) (args : Arguments) : List UInt8 :=
  (formatWith fuel fmt args).getD []

/-- `printf(format, ...)`: the format text (up to its first NUL) with its conversions replaced
by the arguments; NULL when the format is NULL or missing, or when nothing was written. -/
def format (args : List SqlValue) : SqlValue :=
  match args with
  | [] => .null
  | f :: rest =>
    match textBytes f with
    | none => .null
    | some fmt =>
      let fmt := textView fmt
      match formatWith (fmt.length + 1) fmt rest with
      | some out => .text out
      | none => .null

end Sql

end DocStore
