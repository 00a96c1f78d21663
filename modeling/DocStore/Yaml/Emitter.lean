import DocStore.Yaml.Load
/-!
# Writing YAML

Values are written in block style: a mapping puts each key on its own line, `key: value`, with
nested collections on the following lines two columns deeper; a sequence puts each item on its
own line after `- `, and a sequence under a mapping key is not indented further. Empty
collections are written inline as `[]` and `{}`.

A string is written plain when that reads back as the same string, single-quoted when plain
text would read as something else (`null`, `true`, a number, a leading zero) or is not allowed
(leading or trailing space, indicator characters), double-quoted with escapes when it holds
characters that single quotes cannot carry, and as a literal block (`|`) when it spans lines.
Numbers are written the way the JSON writer writes them, except that a positive exponent has
no sign. Lines are never folded.
-/

namespace DocStore

namespace Yaml

/-- Characters that may appear unescaped in any scalar. -/
def isPrintable (c : Char) : Bool :=
  let n := c.toNat
  n = 0x0A ∨ (0x20 ≤ n ∧ n ≤ 0x7E) ∨ (0xA0 ≤ n ∧ n ≤ 0xD7FF) ∨ (0xE000 ≤ n ∧ n ≤ 0xFFFD ∧ n ≠ 0xFEFF) ∨
    0x10000 ≤ n

/-- What a scalar's characters allow. -/
structure ScalarAnalysis where
  multiline : Bool
  flowPlain : Bool
  blockPlain : Bool
  singleQuoted : Bool
  block : Bool
deriving Repr

/-- Analyse a scalar for the styles it allows. -/
def analyze (s : String) : ScalarAnalysis := Id.run do
  let cs := s.toList
  if cs.isEmpty then
    return { multiline := false, flowPlain := false, blockPlain := true, singleQuoted := true, block := false }
  let mut blockIndicators := false
  let mut flowIndicators := false
  let mut lineBreaks := false
  let mut special := false
  let mut leadingSpace := false
  let mut leadingBreak := false
  let mut trailingSpace := false
  let mut trailingBreak := false
  let mut breakSpace := false
  let mut spaceBreak := false
  let mut precededByWhitespace := true
  let mut previousSpace := false
  let mut previousBreak := false
  if cs.take 3 = ['-', '-', '-'] ∨ cs.take 3 = ['.', '.', '.'] then
    blockIndicators := true
    flowIndicators := true
  let n := cs.length
  for i in [0:n] do
    let c := cs.getD i ' '
    let next := cs.getD (i + 1) '\x00'
    let followedByWhitespace := i + 1 ≥ n ∨ isBlankZ next
    if i = 0 then
      if "#,[]\x7b\x7d&*!|>'\"%@`".toList.contains c then
        flowIndicators := true
        blockIndicators := true
      if c = '?' ∨ c = ':' then
        flowIndicators := true
        if followedByWhitespace then blockIndicators := true
      if c = '-' ∧ followedByWhitespace then
        flowIndicators := true
        blockIndicators := true
    else
      if ",?[]\x7b\x7d".toList.contains c then flowIndicators := true
      if c = ':' then
        flowIndicators := true
        if followedByWhitespace then blockIndicators := true
      if c = '#' ∧ precededByWhitespace then
        flowIndicators := true
        blockIndicators := true
    if !isPrintable c then special := true
    if isBreak c then lineBreaks := true
    if c = ' ' then
      if i = 0 then leadingSpace := true
      if i + 1 = n then trailingSpace := true
      if previousBreak then breakSpace := true
      previousSpace := true
      previousBreak := false
    else if isBreak c then
      if i = 0 then leadingBreak := true
      if i + 1 = n then trailingBreak := true
      if previousSpace then spaceBreak := true
      previousSpace := false
      previousBreak := true
    else
      previousSpace := false
      previousBreak := false
    precededByWhitespace := isBlankZ c
  let mut flowPlain := true
  let mut blockPlain := true
  let mut singleQuoted := true
  let mut block := true
  if leadingSpace ∨ leadingBreak ∨ trailingSpace ∨ trailingBreak then
    flowPlain := false
    blockPlain := false
  if trailingSpace then block := false
  if breakSpace then
    flowPlain := false
    blockPlain := false
    singleQuoted := false
  if spaceBreak ∨ special then
    flowPlain := false
    blockPlain := false
    singleQuoted := false
    block := false
  if lineBreaks then
    flowPlain := false
    blockPlain := false
  if flowIndicators then flowPlain := false
  if blockIndicators then blockPlain := false
  return { multiline := lineBreaks, flowPlain := flowPlain, blockPlain := blockPlain,
           singleQuoted := singleQuoted, block := block }

/-- The style asked for a string: a literal block when it has a line feed, single quotes when
plain text would read back as something else, otherwise whatever fits. -/
def requestedStyle (s : String) : Option ScalarStyle :=
  if s.toList.contains '\n' then some .literal
  else match resolvePlain s with
    | .text t => if digitsButNotNumber t then some .singleQuoted else none
    | _ => some .singleQuoted

/-- The style a string is written in, as a mapping key (`simpleKey`) or elsewhere. -/
def chooseStyle (s : String) (simpleKey : Bool) : ScalarStyle :=
  let a := analyze s
  let style := (requestedStyle s).getD .plain
  let style := if simpleKey ∧ a.multiline then .doubleQuoted else style
  let style :=
    if style = .plain then
      if !a.blockPlain then .singleQuoted
      else if s.isEmpty ∧ simpleKey then .singleQuoted
      else .plain
    else style
  let style := if style = .singleQuoted ∧ !a.singleQuoted then .doubleQuoted else style
  if (style = .literal ∨ style = .folded) ∧ (!a.block ∨ simpleKey) then .doubleQuoted else style

/-- Two uppercase hexadecimal digits per byte of a code, `width` digits in all. -/
def upperHex (width n : Nat) : String :=
  String.ofList ((List.range width).reverse.map (fun i =>
    "0123456789ABCDEF".toList.getD (n / Nat.pow 16 i % 16) '0'))

/-- The escape of a character in a double-quoted scalar, when it needs one. -/
def escapeDouble (c : Char) : Option String :=
  let n := c.toNat
  if isPrintable c ∧ !isBreak c ∧ c ≠ '"' ∧ c ≠ '\\' ∧ n ≠ 0xFEFF then none
  else some ("\\" ++ match n with
    | 0x00 => "0"
    | 0x07 => "a"
    | 0x08 => "b"
    | 0x09 => "t"
    | 0x0A => "n"
    | 0x0B => "v"
    | 0x0C => "f"
    | 0x0D => "r"
    | 0x1B => "e"
    | 0x22 => "\""
    | 0x5C => "\\"
    | 0x85 => "N"
    | 0xA0 => "_"
    | 0x2028 => "L"
    | 0x2029 => "P"
    | _ => if n ≤ 0xFF then "x" ++ upperHex 2 n else if n ≤ 0xFFFF then "u" ++ upperHex 4 n
      else "U" ++ upperHex 8 n)

/-- A double-quoted scalar. -/
def doubleQuoted (s : String) : String :=
  "\"" ++ String.join (s.toList.map (fun c => (escapeDouble c).getD (String.singleton c))) ++ "\""

/-- A single-quoted scalar at scalar indentation `indent`. A quote is doubled. Line breaks are
written as they stand, the first line feed of a run of breaks doubled, and what follows a run
(the closing quote included) starts `indent` columns into the new line. -/
def singleQuoted (s : String) (indent : Nat) : String :=
  let pad := String.ofList (List.replicate indent ' ')
  let (body, inBreaks) := s.toList.foldl (fun (acc : String × Bool) c =>
    let (out, breaks) := acc
    if isBreak c then
      (out ++ (if !breaks ∧ c = '\n' then "\n" else "") ++ String.singleton c, true)
    else
      (out ++ (if breaks then pad else "") ++ (if c = '\'' then "''" else String.singleton c), false))
    ("", false)
  "'" ++ body ++ (if inBreaks then pad else "") ++ "'"

/-- A literal block scalar whose lines are indented by `indent` columns, ending with a line
break. The header gives an indentation hint when the text starts with a space or a break, and
the chomping: `-` without a final break, `+` with more than one. -/
def literalBlock (s : String) (indent : Nat) : String :=
  let cs := s.toList
  let hint := match cs.head? with
    | some c => if c = ' ' ∨ isBreak c then "2" else ""
    | none => ""
  let chomp :=
    match cs.reverse with
    | [] => "-"
    | c :: rest =>
      if !isBreak c then "-"
      else match rest with
        | [] => "+"
        | d :: _ => if isBreak d then "+" else ""
  let pad := String.ofList (List.replicate indent ' ')
  let (body, _) := cs.foldl (fun (acc : String × Bool) c =>
    let (out, atLineStart) := acc
    if isBreak c then (out ++ (if c = '\n' then "\n" else String.singleton c), true)
    else (out ++ (if atLineStart then pad else "") ++ String.singleton c, false)) ("", true)
  let body := if cs.getLast?.map isBreak = some true then body else body ++ "\n"
  "|" ++ hint ++ chomp ++ "\n" ++ body

/-- A string scalar as a key or a value; block scalars are indented by `indent`. -/
def scalarText (s : String) (simpleKey : Bool) (indent : Nat) : String :=
  match chooseStyle s simpleKey with
  | .plain => s
  | .singleQuoted => singleQuoted s indent
  | .literal | .folded => literalBlock s indent
  | .doubleQuoted => doubleQuoted s

/-- The text of a scalar value. -/
def scalarValue (v : Value) (indent : Nat) : String :=
  match v with
  | .null => "null"
  | .bool b => if b then "true" else "false"
  | .num n => Json.yamlNumberText n
  | .str s => scalarText s false indent
  | _ => ""

/-- Whether a value is written on the line of its key or dash. -/
def isInline : Value → Bool
  | .arr [] | .obj [] => true
  | .arr _ | .obj _ => false
  | _ => true

/-- The text of an inline value, ending with a line break. -/
def inlineText (v : Value) (indent : Nat) : String :=
  match v with
  | .arr [] => "[]\n"
  | .obj [] => "\x7b\x7d\n"
  | v =>
    let t := scalarValue v indent
    if t.endsWith "\n" then t else t ++ "\n"

/-- Whether a key can be written as a simple key: single-line and at most 128 bytes. -/
def isSimpleKey (k : String) : Bool := !(analyze k).multiline ∧ k.utf8ByteSize ≤ 128

mutual

/-- The lines of a mapping at a column. When `inline`, the first key continues the current
line. A key that cannot be simple is written after `? `, and its value after a `:` on the next
line; that `:` counts as indentation, so a nested block starts on its line as after a `-`. -/
def mappingLines : List (String × Value) → Nat → Bool → String
  | [], _, _ => ""
  | (k, v) :: rest, indent, inline =>
    let pad := if inline then "" else String.ofList (List.replicate indent ' ')
    let entry :=
      if isSimpleKey k then
        pad ++ scalarText k true (indent + 2) ++ ":" ++ valueAfterKey v indent
      else
        let keyText := inlineText (.str k) (indent + 2)
        pad ++ "? " ++ keyText ++ String.ofList (List.replicate indent ' ') ++ ":" ++ itemAfterDash v indent
    entry ++ mappingLines rest indent false

/-- The rest of a mapping entry after `key:`. -/
def valueAfterKey : Value → Nat → String
  | .obj ((k, v) :: rest), indent => "\n" ++ mappingLines ((k, v) :: rest) (indent + 2) false
  | .arr (x :: xs), indent => "\n" ++ sequenceLines (x :: xs) indent false
  | v, indent => " " ++ inlineText v (indent + 2)

/-- The lines of a sequence at a column. When `inline`, the first item continues the current
line. -/
def sequenceLines : List Value → Nat → Bool → String
  | [], _, _ => ""
  | x :: rest, indent, inline =>
    let pad := if inline then "" else String.ofList (List.replicate indent ' ')
    pad ++ "-" ++ itemAfterDash x indent ++ sequenceLines rest indent false

/-- The rest of a sequence item after `-`. -/
def itemAfterDash : Value → Nat → String
  | .obj ((k, v) :: rest), indent => " " ++ mappingLines ((k, v) :: rest) (indent + 2) true
  | .arr (x :: xs), indent => " " ++ sequenceLines (x :: xs) (indent + 2) true
  | v, indent => " " ++ inlineText v (indent + 2)

end

/-- A value as a YAML document. -/
def emit (v : Value) : String :=
  match v with
  | .obj ((k, x) :: rest) => mappingLines ((k, x) :: rest) 0 false
  | .arr (x :: xs) => sequenceLines (x :: xs) 0 false
  | v => inlineText v 2

end Yaml

end DocStore
