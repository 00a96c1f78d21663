import DocStore.Json.Value
import DocStore.Numeric.Shortest
import DocStore.Text.Printable
/-!
# Writing JSON text

The compact form has no blanks; the pretty form puts each element and member on a line of its
own, indented by two spaces per level, with `": "` after a member name. Empty arrays and
objects are `[]` and `{}` in both.

Strings escape the quote, the backslash and the control characters: `\b \f \n \r \t` by name
and the others as `\u00xx` with lowercase hex digits. Everything else, non-ASCII included, is
written as it is.

A binary64 number is written with the fewest digits that read back (`Binary64.shortestDecimal`),
placed by `decimalText`: positional while the decimal point falls within the first sixteen
digits (integral values then keep `.0`), and otherwise one digit, the rest after a point, and
`e` with the exponent. JSON text signs every exponent (`1e+16`, `1e-7`); YAML text signs only
negative ones (`1e16`).
-/

namespace DocStore

namespace Json

/-- The hex digit of a number below 16, lowercase. -/
def hexDigit (n : Nat) : Char :=
  if n < 10 then Char.ofNat (48 + n) else Char.ofNat (87 + n)

/-- The escaped form of one character inside a string literal. -/
def escapeChar (c : Char) : String :=
  if c = '"' then "\\\""
  else if c = '\\' then "\\\\"
  else if c = '\n' then "\\n"
  else if c = '\r' then "\\r"
  else if c = '\t' then "\\t"
  else if c.toNat = 8 then "\\b"
  else if c.toNat = 12 then "\\f"
  else if c.toNat < 32 then
    "\\u00" ++ String.singleton (hexDigit (c.toNat / 16)) ++ String.singleton (hexDigit (c.toNat % 16))
  else String.singleton c

/-- A string literal with its quotes. -/
def quote (s : String) : String :=
  "\"" ++ String.join (s.toList.map escapeChar) ++ "\""

/-- The text of a decimal `digits · 10 ^ exp10` (digits without trailing zeros) in the
positional or exponent form described in the module header; `plus` writes `+` before a
positive exponent. -/
def decimalText (plus : Bool) (digits : Nat) (exp10 : Int) : String :=
  let ds := toString digits
  let len : Int := ds.length
  let kk := len + exp10
  let zeros (n : Int) : String := String.ofList (List.replicate n.toNat '0')
  if 0 ≤ exp10 ∧ kk ≤ 16 then ds ++ zeros exp10 ++ ".0"
  else if 0 < kk ∧ kk ≤ 16 then
    String.ofList (ds.toList.take kk.toNat) ++ "." ++ String.ofList (ds.toList.drop kk.toNat)
  else if -5 < kk ∧ kk ≤ 0 then "0." ++ zeros (-kk) ++ ds
  else
    let e := (if plus ∧ kk > 0 then "+" else "") ++ toString (kk - 1)
    if len = 1 then ds ++ "e" ++ e
    else String.ofList (ds.toList.take 1) ++ "." ++ String.ofList (ds.toList.drop 1) ++ "e" ++ e

/-- The text of a binary64 number, with `plus` as in `decimalText`. -/
def floatTextWith (plus : Bool) (x : Binary64) : String :=
  let sign := if x.neg then "-" else ""
  if x.isZero then sign ++ "0.0"
  else
    let (d, k) := x.shortestDecimal
    sign ++ decimalText plus d k

/-- The text of a binary64 number in JSON. -/
def floatText (x : Binary64) : String := floatTextWith true x

/-- The text of a binary64 number in positional notation only, with `.0` when integral: the
form used when a number is quoted inside a message. -/
def plainFloatText (x : Binary64) : String :=
  let sign := if x.neg then "-" else ""
  if x.isZero then sign ++ "0.0"
  else
    let (d, k) := x.shortestDecimal
    let ds := toString d
    let len : Int := ds.length
    let kk := len + k
    let zeros (n : Int) : String := String.ofList (List.replicate n.toNat '0')
    let body :=
      if 0 ≤ k then ds ++ zeros k ++ ".0"
      else if 0 < kk then
        String.ofList (ds.toList.take kk.toNat) ++ "." ++ String.ofList (ds.toList.drop kk.toNat)
      else "0." ++ zeros (-kk) ++ ds
    sign ++ body

/-- The hex digits of a number, lowercase, without padding. -/
def hexText (n : Nat) : String :=
  String.ofList (Nat.toDigits 16 n)

/-- A string quoted the way messages quote it: quotes and backslashes escaped, `\n \r \t \0`
by name, and characters that are not printable or that extend the grapheme before them as
`\u{hex}`. -/
def messageQuote (s : String) : String :=
  let esc (c : Char) : String :=
    if c = '"' then "\\\"" else if c = '\\' then "\\\\"
    else if c = '\n' then "\\n" else if c = '\r' then "\\r" else if c = '\t' then "\\t"
    else if c.toNat = 0 then "\\0"
    else if Text.isGraphemeExtend c || !Text.isPrintable c then
      "\\u" ++ "\x7b" ++ hexText c.toNat ++ "\x7d"
    else String.singleton c
  "\"" ++ String.join (s.toList.map esc) ++ "\""

/-- The text of a number in JSON. -/
def numberText : Number → String
  | .int i => toString i
  | .float f => floatText f

/-- The text of a number in YAML. -/
def yamlNumberText : Number → String
  | .int i => toString i
  | .float f => floatTextWith false f

end Json

namespace Value

mutual
/-- The compact JSON text of a value. -/
def compact : Value → String
  | .null => "null"
  | .bool b => if b then "true" else "false"
  | .num n => Json.numberText n
  | .str s => Json.quote s
  | .arr items => "[" ++ compactItems items ++ "]"
  | .obj fields => "\x7b" ++ compactFields fields ++ "\x7d"

/-- Compact elements separated by commas. -/
def compactItems : List Value → String
  | [] => ""
  | [v] => compact v
  | v :: rest => compact v ++ "," ++ compactItems rest

/-- Compact members separated by commas. -/
def compactFields : List (String × Value) → String
  | [] => ""
  | [(k, v)] => Json.quote k ++ ":" ++ compact v
  | (k, v) :: rest => Json.quote k ++ ":" ++ compact v ++ "," ++ compactFields rest
end

/-- Two spaces per level. -/
def indentText (level : Nat) : String := String.ofList (List.replicate (2 * level) ' ')

mutual
/-- The pretty JSON text of a value whose first line is already indented to `level`. -/
def pretty (level : Nat) : Value → String
  | .arr [] => "[]"
  | .obj [] => "\x7b\x7d"
  | .arr items => "[\n" ++ prettyItems (level + 1) items ++ "\n" ++ indentText level ++ "]"
  | .obj fields => "\x7b\n" ++ prettyFields (level + 1) fields ++ "\n" ++ indentText level ++ "\x7d"
  | v => compact v

/-- Pretty elements, one per line. -/
def prettyItems (level : Nat) : List Value → String
  | [] => ""
  | [v] => indentText level ++ pretty level v
  | v :: rest => indentText level ++ pretty level v ++ ",\n" ++ prettyItems level rest

/-- Pretty members, one per line. -/
def prettyFields (level : Nat) : List (String × Value) → String
  | [] => ""
  | [(k, v)] => indentText level ++ Json.quote k ++ ": " ++ pretty level v
  | (k, v) :: rest =>
    indentText level ++ Json.quote k ++ ": " ++ pretty level v ++ ",\n" ++ prettyFields level rest
end

end Value

end DocStore
