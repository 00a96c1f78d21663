import DocStore.Json.Value
import DocStore.Text.Utf8
/-!
# Reading JSON text

A strict JSON reader with the reading rules the store relies on.

* Numbers: an integer without fraction or exponent stays an integer when it lies in
  `[-2 ^ 63, 2 ^ 64)`; `-0` and every other number become binary64. The significand is
  accumulated while it fits in 64 bits (further digits only move the exponent), converted to the
  nearest binary64, and then scaled by one multiplication or division by the nearest binary64 of
  a power of ten (`Binary64.fromDecimalParts`). A result beyond the finite range is an error.
* Objects keep their members in order; a repeated name keeps its first place and takes the last
  value.
* Strings may not hold raw control characters or lone surrogates.
* Containers nest at most 127 deep.

An error names its cause and the position where reading stopped: the line and the column in
bytes, counted either up to the last character read or up to the next one, as each cause
dictates.
-/

namespace DocStore

namespace Binary64

/-- Scale `f` by `10 ^ exp` the way the reader does: one correctly rounded multiplication or
division by `pow10 |exp|` when `|exp| ≤ 308`; beyond that, divisions by `10 ^ 308` until the
exponent is in range or the value is zero. A positive exponent out of range, or a product that
overflows, is `none`. Three divisions by `10 ^ 308` bring any start value to zero, so the fuel is
never exhausted. -/
def scaleByPow10 : Nat → Binary64 → Int → Option Binary64
  | 0, f, _ => some f
  | fuel + 1, f, exp =>
    if exp.natAbs ≤ 308 then
      if 0 ≤ exp then mul f (pow10 exp.toNat)
      else div f (pow10 (-exp).toNat)
    else if f.isZero then some f
    else if 0 ≤ exp then none
    else match div f (pow10 308) with
      | some g => scaleByPow10 fuel g (exp + 308)
      | none => none

/-- The binary64 that the reader makes of `significand · 10 ^ exp`, negated when `negative`;
`none` when it is out of range. -/
def fromDecimalParts (negative : Bool) (significand : Nat) (exp : Int) : Option Binary64 :=
  match scaleByPow10 8 (ofNat significand) exp with
  | some f => some (if negative then f.negate else f)
  | none => none

end Binary64

namespace Json

/-- Why reading stopped. -/
inductive ReadErrorCode where
  | eofInList
  | eofInObject
  | eofInString
  | eofInValue
  | expectedColon
  | expectedListCommaOrEnd
  | expectedObjectCommaOrEnd
  | expectedIdent
  | expectedValue
  | invalidEscape
  | invalidNumber
  | numberOutOfRange
  | controlCharacter
  | keyMustBeString
  | loneSurrogate
  | trailingComma
  | trailingCharacters
  | unexpectedEndOfHexEscape
  | recursionLimit
  | invalidUnicode
deriving DecidableEq, Repr

/-- The description of a cause. -/
def ReadErrorCode.text : ReadErrorCode → String
  | .eofInList => "EOF while parsing a list"
  | .eofInObject => "EOF while parsing an object"
  | .eofInString => "EOF while parsing a string"
  | .eofInValue => "EOF while parsing a value"
  | .expectedColon => "expected `:`"
  | .expectedListCommaOrEnd => "expected `,` or `]`"
  | .expectedObjectCommaOrEnd => "expected `,` or `\x7d`"
  | .expectedIdent => "expected ident"
  | .expectedValue => "expected value"
  | .invalidEscape => "invalid escape"
  | .invalidNumber => "invalid number"
  | .numberOutOfRange => "number out of range"
  | .controlCharacter => "control character (\\u0000-\\u001F) found while parsing a string"
  | .keyMustBeString => "key must be a string"
  | .loneSurrogate => "lone leading surrogate in hex escape"
  | .trailingComma => "trailing comma"
  | .trailingCharacters => "trailing characters"
  | .unexpectedEndOfHexEscape => "unexpected end of hex escape"
  | .recursionLimit => "recursion limit exceeded"
  | .invalidUnicode => "invalid unicode code point"

/-- A reading error with its position (line from 1, column in bytes). -/
structure ReadError where
  code : ReadErrorCode
  line : Nat
  column : Nat
deriving DecidableEq, Repr

/-- `cause at line L column C`. -/
def ReadError.message (e : ReadError) : String :=
  e.code.text ++ " at line " ++ toString e.line ++ " column " ++ toString e.column

/-- The unread input with the position of its first character. -/
structure Cursor where
  rest : List Char
  line : Nat
  column : Nat

namespace Cursor

/-- A cursor at the start of a text. -/
def ofString (s : String) : Cursor := ⟨s.toList, 1, 0⟩

/-- Step over one character. -/
def advance (c : Cursor) : Cursor :=
  match c.rest with
  | [] => c
  | ch :: r => if ch = '\n' then ⟨r, c.line + 1, 0⟩ else ⟨r, c.line, c.column + ch.utf8Size⟩

/-- The position counted one byte further, as far as the end of the input. -/
def nextPosition (c : Cursor) : Nat × Nat :=
  match c.rest with
  | [] => (c.line, c.column)
  | ch :: _ => if ch = '\n' then (c.line + 1, 0) else (c.line, c.column + 1)

/-- The position `n` bytes into `rest` from line `line`, column `col`, as far as the end of the
input; a character the count cuts adds only its bytes before the cut. -/
def positionAfterBytes : List Char → Nat → Nat → Nat → Nat × Nat
  | [], _, line, col => (line, col)
  | ch :: r, n, line, col =>
    if n = 0 then (line, col)
    else if ch.utf8Size ≤ n then
      if ch = '\n' then positionAfterBytes r (n - 1) (line + 1) 0
      else positionAfterBytes r (n - ch.utf8Size) line (col + ch.utf8Size)
    else (line, col + n)

/-- Skip blanks: space, tab, line feed and carriage return. -/
def skipBlanks (c : Cursor) : Cursor :=
  match c with
  | ⟨ch :: r, line, col⟩ =>
    if ch = ' ' ∨ ch = '\t' ∨ ch = '\r' then skipBlanks ⟨r, line, col + 1⟩
    else if ch = '\n' then skipBlanks ⟨r, line + 1, 0⟩
    else c
  | ⟨[], _, _⟩ => c
termination_by c.rest.length

end Cursor

/-- The reading monad: a cursor and failure. -/
abbrev Reader := StateT Cursor (Except ReadError)

/-- Fail at the position of the last character read. -/
def failHere (code : ReadErrorCode) : Reader α := do
  let c ← get
  throw ⟨code, c.line, c.column⟩

/-- Fail at the position one byte past the last character read. -/
def failNext (code : ReadErrorCode) : Reader α := do
  let c ← get
  let (l, col) := c.nextPosition
  throw ⟨code, l, col⟩

/-- The next character, if any, without reading it. -/
def peek : Reader (Option Char) := do
  return (← get).rest.head?

/-- Read one character. -/
def next : Reader (Option Char) := do
  let c ← get
  match c.rest with
  | [] => return none
  | ch :: _ => set c.advance; return some ch

/-- Step over the next character. -/
def skip : Reader Unit := modify Cursor.advance

/-- Skip blanks and look at the next character. -/
def peekAfterBlanks : Reader (Option Char) := do
  modify Cursor.skipBlanks
  peek

/-- The value of a hex digit. -/
def hexValue (c : Char) : Option Nat :=
  if '0' ≤ c ∧ c ≤ '9' then some (c.toNat - 48)
  else if 'a' ≤ c ∧ c ≤ 'f' then some (c.toNat - 87)
  else if 'A' ≤ c ∧ c ≤ 'F' then some (c.toNat - 55)
  else none

/-- Read the four hex digits of a `\u` escape, taken as four bytes. Fewer than four bytes left
is the end of the input inside a string; a byte that is no hex digit is an invalid escape,
reported after the four bytes. -/
def readHex4 : Reader Nat := do
  let c ← get
  let digits := match c.rest with
    | a :: b :: d :: e :: _ =>
      match hexValue a, hexValue b, hexValue d, hexValue e with
      | some x, some y, some z, some w => some (((x * 16 + y) * 16 + z) * 16 + w)
      | _, _, _, _ => none
    | _ => none
  match digits with
  | some n =>
    set (c.advance.advance.advance.advance)
    return n
  | none =>
    if (c.rest.take 4).foldl (fun n ch => n + ch.utf8Size) 0 < 4 then
      let mut c' := c
      for _ in c.rest do c' := c'.advance
      set c'
      failHere .eofInString
    else
      let (l, col) := Cursor.positionAfterBytes c.rest 4 c.line c.column
      throw ⟨.invalidEscape, l, col⟩

/-- Read the rest of a `\u` escape (after the `u`): a code point outside the surrogates, or a
leading surrogate followed by an escaped trailing one. -/
def readUnicodeEscape : Reader Char := do
  let n ← readHex4
  if 0xDC00 ≤ n ∧ n ≤ 0xDFFF then failHere .loneSurrogate
  else if n < 0xD800 ∨ 0xDBFF < n then return Char.ofNat n
  else
    match ← peek with
    | none => failHere .eofInString
    | some '\\' =>
      skip
      match ← peek with
      | none => failHere .eofInString
      | some 'u' =>
        skip
        let n2 ← readHex4
        if n2 < 0xDC00 ∨ 0xDFFF < n2 then failHere .loneSurrogate
        else return Char.ofNat ((((n - 0xD800) * 1024) + (n2 - 0xDC00)) + 0x10000)
      | some _ => failNext .unexpectedEndOfHexEscape
    | some _ => failNext .unexpectedEndOfHexEscape

/-- Read one escape after its backslash. A character that starts no escape is reported one
byte into it, where a byte-wise reader stops. -/
def readEscape : Reader Char := do
  match ← peek with
  | none => failHere .eofInString
  | some '"' => skip; return '"'
  | some '\\' => skip; return '\\'
  | some '/' => skip; return '/'
  | some 'b' => skip; return Char.ofNat 8
  | some 'f' => skip; return Char.ofNat 12
  | some 'n' => skip; return '\n'
  | some 'r' => skip; return '\r'
  | some 't' => skip; return '\t'
  | some 'u' => skip; readUnicodeEscape
  | some _ => failNext .invalidEscape

/-- Read the characters of a string after its opening quote, up to and including the closing
quote. Each step reads at least one character, so the input length bounds the steps. -/
def readStringChars : Nat → List Char → Reader String
  | 0, acc => return String.ofList acc.reverse
  | fuel + 1, acc => do
    match ← next with
    | none => failHere .eofInString
    | some '"' => return String.ofList acc.reverse
    | some '\\' =>
      let ch ← readEscape
      readStringChars fuel (ch :: acc)
    | some ch =>
      if ch.toNat < 32 then failHere .controlCharacter
      else readStringChars fuel (ch :: acc)

/-- Read a string after its opening quote. -/
def readString : Reader String := do
  let n := (← get).rest.length
  readStringChars (n + 1) []

/-- Read the rest of a literal such as `rue` after `t`. A wrong character is reported one byte
into it, where a byte-wise reader stops. -/
def readIdent : List Char → Reader Unit
  | [] => return ()
  | ch :: rest => do
    match ← peek with
    | none => failHere .eofInValue
    | some c => if c = ch then (do skip; readIdent rest) else failNext .expectedIdent

/-- Does `s · 10 + d` exceed `2 ^ 64 - 1`? -/
def overflows64 (s d : Nat) : Bool := s * 10 + d > Nat.pow 2 64 - 1

/-- Does `e · 10 + d` exceed `2 ^ 31 - 1`? -/
def overflows32 (e d : Nat) : Bool := e * 10 + d > Nat.pow 2 31 - 1

/-- The digit value of a character. -/
def digitValue? (c : Char) : Option Nat :=
  if '0' ≤ c ∧ c ≤ '9' then some (c.toNat - 48) else none

/-- Skip further digits. -/
def skipDigits : Nat → Reader Unit
  | 0 => return ()
  | fuel + 1 => do
    match ← peek with
    | some c => if (digitValue? c).isSome then (do skip; skipDigits fuel) else return ()
    | none => return ()

/-- The binary64 result of a significand and exponent, or the out-of-range error. -/
def finishFloat (positive : Bool) (significand : Nat) (exp : Int) : Reader Binary64 :=
  match Binary64.fromDecimalParts (!positive) significand exp with
  | some f => return f
  | none => failHere .numberOutOfRange

/-- Clamp to the 32-bit exponent range, as the exponent arithmetic saturates. -/
def saturate32 (e : Int) : Int := max (min e (Nat.pow 2 31 - 1)) (-(Nat.pow 2 31))

/-- Read an exponent after `e` or `E`. -/
def readExponent (fuel : Nat) (positive : Bool) (significand : Nat) (start : Int) :
    Reader Binary64 := do
  skip
  let positiveExp ← do
    match ← peek with
    | some '+' => skip; pure true
    | some '-' => skip; pure false
    | _ => pure true
  match ← peek with
  | none => failHere .eofInValue
  | some c =>
    match digitValue? c with
    | none => failNext .invalidNumber
    | some d0 =>
      skip
      let rec loop : Nat → Nat → Reader (Option Nat)
        | 0, e => return some e
        | fuel + 1, e => do
          match ← peek with
          | some c =>
            match digitValue? c with
            | some d =>
              skip
              if overflows32 e d then return none else loop fuel (e * 10 + d)
            | none => return some e
          | none => return some e
      match ← loop fuel d0 with
      | some e =>
        let final := if positiveExp then saturate32 (start + e) else saturate32 (start - e)
        finishFloat positive significand final
      | none =>
        if significand ≠ 0 ∧ positiveExp then failHere .numberOutOfRange
        else
          skipDigits fuel
          return (if positive then Binary64.zero else Binary64.zero.negate)

/-- Read the digits after a decimal point. -/
def readFraction (fuel : Nat) (positive : Bool) (significand : Nat) (start : Int) :
    Reader Binary64 := do
  skip
  let rec loop : Nat → Nat → Int → Reader (Nat × Int × Bool)
    | 0, s, e => return (s, e, false)
    | fuel + 1, s, e => do
      match ← peek with
      | some c =>
        match digitValue? c with
        | some d =>
          if overflows64 s d then return (s, e, true)
          else skip; loop fuel (s * 10 + d) (e - 1)
        | none => return (s, e, false)
      | none => return (s, e, false)
  let (s, afterPoint, overflowed) ← loop fuel significand 0
  if overflowed then
    skipDigits fuel
    match ← peek with
    | some 'e' => readExponent fuel positive s (start + afterPoint)
    | some 'E' => readExponent fuel positive s (start + afterPoint)
    | _ => finishFloat positive s (start + afterPoint)
  else if afterPoint = 0 then
    match ← peek with
    | some _ => failNext .invalidNumber
    | none => failNext .eofInValue
  else
    match ← peek with
    | some 'e' => readExponent fuel positive s (start + afterPoint)
    | some 'E' => readExponent fuel positive s (start + afterPoint)
    | _ => finishFloat positive s (start + afterPoint)

/-- Continue a number after its integer digits. -/
def readNumberTail (fuel : Nat) (positive : Bool) (significand : Nat) : Reader Number := do
  match ← peek with
  | some '.' => return .float (← readFraction fuel positive significand 0)
  | some 'e' => return .float (← readExponent fuel positive significand 0)
  | some 'E' => return .float (← readExponent fuel positive significand 0)
  | _ =>
    if positive then return .int significand
    else if significand = 0 ∨ Nat.pow 2 63 < significand then
      return .float (Binary64.ofNat significand).negate
    else return .int (-(significand : Int))

/-- Read an integer too long for 64 bits: further digits only raise the exponent. -/
def readLongInteger (fuel : Nat) (positive : Bool) (significand : Nat) : Reader Number := do
  let rec loop : Nat → Int → Reader Binary64
    | 0, e => finishFloat positive significand e
    | fuel' + 1, e => do
      match ← peek with
      | some '.' => readFraction fuel positive significand e
      | some 'e' => readExponent fuel positive significand e
      | some 'E' => readExponent fuel positive significand e
      | some c =>
        if (digitValue? c).isSome then (do skip; loop fuel' (e + 1))
        else finishFloat positive significand e
      | none => finishFloat positive significand e
  return .float (← loop fuel 0)

/-- Read a number whose sign has been read. A first character that is no digit is reported one
byte into it. -/
def readNumber (fuel : Nat) (positive : Bool) : Reader Number := do
  match ← peek with
  | none => failHere .eofInValue
  | some '0' =>
    skip
    match ← peek with
    | some c => if (digitValue? c).isSome then failNext .invalidNumber
                else readNumberTail fuel positive 0
    | none => readNumberTail fuel positive 0
  | some c =>
    match digitValue? c with
    | none => failNext .invalidNumber
    | some d =>
      skip
      let rec loop : Nat → Nat → Reader Number
        | 0, s => readNumberTail fuel positive s
        | fuel' + 1, s => do
          match ← peek with
          | some c =>
            match digitValue? c with
            | some d =>
              if overflows64 s d then readLongInteger fuel positive s
              else skip; loop fuel' (s * 10 + d)
            | none => readNumberTail fuel positive s
          | none => readNumberTail fuel positive s
      loop fuel d

mutual
/-- Read one value. `depth` is the nesting still allowed. `fuel` bounds the steps: every second
step reads a character, so twice the input length suffices. -/
def readValue : Nat → Nat → Reader Value
  | 0, _ => failNext .recursionLimit
  | fuel + 1, depth => do
    match ← peekAfterBlanks with
    | none => failNext .eofInValue
    | some 'n' => skip; readIdent ['u', 'l', 'l']; return .null
    | some 't' => skip; readIdent ['r', 'u', 'e']; return .bool true
    | some 'f' => skip; readIdent ['a', 'l', 's', 'e']; return .bool false
    | some '-' => skip; return .num (← readNumber fuel false)
    | some '"' => skip; return .str (← readString)
    | some '[' =>
      if depth ≤ 1 then failNext .recursionLimit
      else
        skip
        return .arr (← readItems fuel (depth - 1) true [])
    | some '{' =>
      if depth ≤ 1 then failNext .recursionLimit
      else
        skip
        return .obj (← readMembers fuel (depth - 1) true [])
    | some c =>
      if (digitValue? c).isSome then return .num (← readNumber fuel true)
      else failNext .expectedValue

/-- Read the elements of an array after `[`, through the closing `]`. -/
def readItems : Nat → Nat → Bool → List Value → Reader (List Value)
  | 0, _, _, _ => failNext .recursionLimit
  | fuel + 1, depth, first, acc => do
    let c? ← peekAfterBlanks
    let start ← (match c? with
      | some ']' => do skip; pure none
      | some ',' =>
        if first then pure (some (some ','))
        else do skip; pure (some (← peekAfterBlanks))
      | some c => if first then pure (some (some c)) else failNext .expectedListCommaOrEnd
      | none => failNext .eofInList : Reader (Option (Option Char)))
    match start with
    | none => return acc.reverse
    | some (some ']') => failNext .trailingComma
    | some (some _) =>
      let v ← readValue fuel depth
      readItems fuel depth false (v :: acc)
    | some none => failNext .eofInValue

/-- Read the members of an object after `{`, through the closing `}`. -/
def readMembers : Nat → Nat → Bool → List (String × Value) → Reader (List (String × Value))
  | 0, _, _, _ => failNext .recursionLimit
  | fuel + 1, depth, first, acc => do
    let c? ← peekAfterBlanks
    let start ← (match c? with
      | some '}' => do skip; pure none
      | some ',' =>
        if first then pure (some (some ','))
        else do skip; pure (some (← peekAfterBlanks))
      | some c => if first then pure (some (some c)) else failNext .expectedObjectCommaOrEnd
      | none => failNext .eofInObject : Reader (Option (Option Char)))
    match start with
    | none => return acc
    | some (some '"') =>
      skip
      let key ← readString
      match ← peekAfterBlanks with
      | some ':' => skip
      | some _ => failNext .expectedColon
      | none => failNext .eofInObject
      let v ← readValue fuel depth
      readMembers fuel depth false (Value.setField acc key v)
    | some (some '}') => failNext .trailingComma
    | some (some _) => failNext .keyMustBeString
    | some none => failNext .eofInValue
end

/-- Read a whole text as one JSON value; only blanks may follow it. -/
def parse (s : String) : Except ReadError Value :=
  let fuel := 2 * s.length + 4
  let run : Reader Value := do
    let v ← readValue fuel 128
    match ← peekAfterBlanks with
    | some _ => failNext .trailingCharacters
    | none => return v
  (run.run' (Cursor.ofString s))

/-- The line (from 1) and the byte column (from 0) of a byte position in a text. -/
def bytePosition (bs : List UInt8) (i : Nat) : Nat × Nat :=
  (bs.take i).foldl (fun (acc : Nat × Nat) (b : UInt8) => if b = 10 then (acc.1 + 1, 0) else (acc.1, acc.2 + 1)) (1, 0)

/-- Read bytes as one JSON value. Bytes that are not well-formed UTF-8 can only stand inside a
string, so reading fails with `invalid unicode code point` just past the first byte of the
first ill-formed sequence, unless it fails before reaching it. -/
def parseBytes (bs : List UInt8) : Except ReadError Value :=
  let text := Text.decodeLossy bs
  match Text.firstInvalid bs 0 with
  | none => parse text
  | some i =>
    let (line, col) := bytePosition bs i
    let bad : ReadError := ⟨.invalidUnicode, line, col + 1⟩
    match parse text with
    | .error e => if e.line < line ∨ (e.line = line ∧ e.column ≤ col + 1) then .error e else .error bad
    | .ok _ => .error bad

end Json

end DocStore
