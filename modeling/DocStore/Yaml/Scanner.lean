/-!
# Reading YAML: tokens

The first stage of reading a YAML text turns characters into tokens, the way the reference
reader of the language does it, so that a text is accepted, and an error is reported, exactly
where that reader would.

The block structure is made of indentation, so the scanner keeps a stack of indentation columns
and emits `blockSequenceStart`, `blockMappingStart` and `blockEnd` tokens as columns open and
close. A plain or quoted scalar followed by `:` on the same line is a key; since the `:` comes
after the scalar, the scanner remembers where each possible key started (`SimpleKey`) and inserts
the `key` token (and the start of a mapping) there once the `:` shows up.

Every scan step consumes at least one character, so the loops are bounded by the length of the
input.
-/

namespace DocStore

namespace Yaml

/-- A position in a YAML text: the character index, the line and the column, from zero. -/
structure Mark where
  index : Nat := 0
  line : Nat := 0
  column : Nat := 0
deriving DecidableEq, Repr, Inhabited

/-- The text of a position: one-based line and column, or the index at the very start. -/
def Mark.text (m : Mark) : String :=
  if m.line ≠ 0 ∨ m.column ≠ 0 then
    "line " ++ toString (m.line + 1) ++ " column " ++ toString (m.column + 1)
  else "position " ++ toString m.index

/-- Whether a position is past the start of the text. -/
def Mark.isStart (m : Mark) : Bool := m.line = 0 ∧ m.column = 0

/-- How a scalar is written. -/
inductive ScalarStyle where
  | plain
  | singleQuoted
  | doubleQuoted
  | literal
  | folded
deriving DecidableEq, Repr, Inhabited

/-- The kinds of token. -/
inductive TokenKind where
  | streamStart
  | streamEnd
  | versionDirective (major minor : Nat)
  | tagDirective (handle uri : String)
  | documentStart
  | documentEnd
  | blockSequenceStart
  | blockMappingStart
  | blockEnd
  | flowSequenceStart
  | flowSequenceEnd
  | flowMappingStart
  | flowMappingEnd
  | blockEntry
  | flowEntry
  | key
  | value
  | aliasOf (name : String)
  | anchor (name : String)
  | tag (handle suffix : String)
  | scalar (text : String) (style : ScalarStyle)
deriving DecidableEq, Repr, Inhabited

/-- A token and where it starts and ends. -/
structure Token where
  kind : TokenKind
  start : Mark
  stop : Mark
deriving Repr, Inhabited

/-- A syntax error: what went wrong where, and what was being read from where. -/
structure SyntaxError where
  problem : String
  problemMark : Mark
  context : Option (String × Mark) := none
deriving DecidableEq, Repr, Inhabited

/-- The text of a syntax error. The position of the context is given only when it differs
from the position of the problem. -/
def SyntaxError.text (e : SyntaxError) : String :=
  let base := e.problem ++ (if e.problemMark.isStart then "" else " at " ++ e.problemMark.text)
  match e.context with
  | none => base
  | some (c, m) =>
    base ++ ", " ++ c ++
      (if !m.isStart ∧ (m.line ≠ e.problemMark.line ∨ m.column ≠ e.problemMark.column) then
        " at " ++ m.text else "")

/-! ## Characters -/

/-- Line breaks. -/
def isBreak (c : Char) : Bool :=
  c = '\r' ∨ c = '\n' ∨ c = '\x85' ∨ c = '\u2028' ∨ c = '\u2029'

/-- Line breaks and the end of the text (read as a NUL character). -/
def isBreakZ (c : Char) : Bool := isBreak c ∨ c = '\x00'

/-- Spaces and tabs. -/
def isBlank (c : Char) : Bool := c = ' ' ∨ c = '\t'

/-- Blanks, line breaks and the end of the text. -/
def isBlankZ (c : Char) : Bool := isBlank c ∨ isBreakZ c

/-- Characters of anchor names and tag handles. -/
def isWordChar (c : Char) : Bool :=
  ('0' ≤ c ∧ c ≤ '9') ∨ ('a' ≤ c ∧ c ≤ 'z') ∨ ('A' ≤ c ∧ c ≤ 'Z') ∨ c = '_' ∨ c = '-'

/-- Hexadecimal digits and their values. -/
def hexDigitValue (c : Char) : Option Nat :=
  if '0' ≤ c ∧ c ≤ '9' then some (c.toNat - '0'.toNat)
  else if 'a' ≤ c ∧ c ≤ 'f' then some (c.toNat - 'a'.toNat + 10)
  else if 'A' ≤ c ∧ c ≤ 'F' then some (c.toNat - 'A'.toNat + 10)
  else none

/-- Characters allowed in tag text anywhere (a verbatim tag also allows commas and square
brackets). -/
def isUriChar (c : Char) : Bool :=
  isWordChar c ∨ ";/?:@&=+$.!~*'()%".toList.contains c

/-! ## The scanner -/

/-- A place where a simple key may start. -/
structure SimpleKey where
  possible : Bool := false
  required : Bool := false
  tokenNumber : Nat := 0
  mark : Mark := {}
deriving Repr, Inhabited

/-- The state of the scanner. -/
structure Scanner where
  input : Array Char
  mark : Mark := {}
  tokens : Array Token := #[]
  flowLevel : Nat := 0
  indent : Int := -1
  indents : List Int := []
  simpleKeyAllowed : Bool := false
  /-- One entry per flow level, innermost first. -/
  simpleKeys : List SimpleKey := []
  finished : Bool := false
deriving Repr, Inhabited

/-- Scanning: it may stop with a syntax error; the tokens made so far are kept. -/
abbrev ScanM := ExceptT SyntaxError (StateM Scanner)

namespace Scanner

/-- The character `k` places ahead, or NUL past the end. -/
def peek (k : Nat) : ScanM Char := do
  let s ← get
  return s.input.getD (s.mark.index + k) '\x00'

/-- The current position. -/
def here : ScanM Mark := do return (← get).mark

/-- An upper bound on the steps left: every step consumes a character. -/
def fuel : ScanM Nat := do
  let s ← get
  return s.input.size - s.mark.index + 2

/-- Move past one character of the current line. -/
def skip : ScanM Unit := modify fun s =>
  { s with mark := { s.mark with index := s.mark.index + 1, column := s.mark.column + 1 } }

/-- Move past a line break (a carriage return and line feed count as one). -/
def skipLine : ScanM Unit := do
  let c0 ← peek 0
  let c1 ← peek 1
  if c0 = '\r' ∧ c1 = '\n' then
    modify fun s => { s with mark := { index := s.mark.index + 2, line := s.mark.line + 1, column := 0 } }
  else if isBreak c0 then
    modify fun s => { s with mark := { index := s.mark.index + 1, line := s.mark.line + 1, column := 0 } }

/-- Read a line break: line feed for the ASCII breaks and the next-line character, the
character itself for the line and paragraph separators, nothing when there is no break. -/
def readLine : ScanM String := do
  let c0 ← peek 0
  if c0 = '\u2028' ∨ c0 = '\u2029' then
    skipLine
    return String.singleton c0
  else if isBreak c0 then
    skipLine
    return "\n"
  else return ""

/-- Stop with an error at the current position. -/
def fail {α : Type} (context : Option (String × Mark)) (problem : String) : ScanM α := do
  throw { problem := problem, problemMark := (← here), context := context }

/-- Append a token. -/
def push (kind : TokenKind) (start stop : Mark) : ScanM Unit :=
  modify fun s => { s with tokens := s.tokens.push { kind := kind, start := start, stop := stop } }

/-- Insert a token at a position of the token sequence. -/
def insertAt (n : Nat) (kind : TokenKind) (start stop : Mark) : ScanM Unit :=
  modify fun s =>
    let l := s.tokens.toList
    { s with tokens := (l.take n ++ [({ kind := kind, start := start, stop := stop } : Token)] ++ l.drop n).toArray }

/-- Set the innermost simple key. -/
def setTopKey (k : SimpleKey) : ScanM Unit :=
  modify fun s => { s with simpleKeys := match s.simpleKeys with
    | _ :: rest => k :: rest
    | [] => [k] }

/-- Drop the innermost possible simple key; a required one is an error. -/
def removeSimpleKey : ScanM Unit := do
  let s ← get
  match s.simpleKeys with
  | k :: _ =>
    if k.possible ∧ k.required then
      fail (some ("while scanning a simple key", k.mark)) "could not find expected ':'"
    setTopKey { k with possible := false }
  | [] => pure ()

/-- Remember that a simple key may start here. -/
def saveSimpleKey : ScanM Unit := do
  let s ← get
  let required := s.flowLevel = 0 ∧ s.indent = (s.mark.column : Int)
  if s.simpleKeyAllowed then
    removeSimpleKey
    setTopKey { possible := true, required := required, tokenNumber := s.tokens.size, mark := s.mark }

/-- Forget simple keys that can no longer be keys: a key stays on one line and is shorter
than 1024 characters. -/
def staleSimpleKeys : ScanM Unit := do
  let s ← get
  let mut keys : List SimpleKey := []
  for k in s.simpleKeys.reverse do
    if k.possible ∧ (k.mark.line < s.mark.line ∨ k.mark.index + 1024 < s.mark.index) then
      if k.required then
        fail (some ("while scanning a simple key", k.mark)) "could not find expected ':'"
      keys := { k with possible := false } :: keys
    else keys := k :: keys
  modify fun s => { s with simpleKeys := keys }

/-- Enter a flow collection. -/
def increaseFlowLevel : ScanM Unit :=
  modify fun s => { s with simpleKeys := {} :: s.simpleKeys, flowLevel := s.flowLevel + 1 }

/-- Leave a flow collection. -/
def decreaseFlowLevel : ScanM Unit :=
  modify fun s =>
    if s.flowLevel = 0 then s
    else { s with flowLevel := s.flowLevel - 1, simpleKeys := s.simpleKeys.drop 1 }

/-- Open a block collection at a column deeper than the current one; its start token goes at
position `number` of the token sequence, or at the end. -/
def rollIndent (column : Nat) (number : Option Nat) (kind : TokenKind) (mark : Mark) : ScanM Unit := do
  let s ← get
  if s.flowLevel > 0 then return
  if s.indent < (column : Int) then
    set { s with indents := s.indent :: s.indents, indent := column }
    match number with
    | none => push kind mark mark
    | some n => insertAt n kind mark mark

/-- Close every block collection deeper than a column. -/
def unrollIndent (column : Int) : ScanM Unit := do
  if (← get).flowLevel > 0 then return
  for _ in [0:(← get).indents.length + 1] do
    let s ← get
    if s.indent > column then
      set { s with indent := s.indents.headD (-1), indents := s.indents.drop 1 }
      push .blockEnd s.mark s.mark

/-- Skip white space, comments and line breaks up to the next token. -/
def scanToNextToken : ScanM Unit := do
  for _ in [0:(← fuel)] do
    if (← here).column = 0 ∧ (← peek 0) = '\uFEFF' then skip
    for _ in [0:(← fuel)] do
      let s ← get
      let c ← peek 0
      if c = ' ' ∨ ((s.flowLevel > 0 ∨ !s.simpleKeyAllowed) ∧ c = '\t') then skip else break
    if (← peek 0) = '#' then
      for _ in [0:(← fuel)] do
        if isBreakZ (← peek 0) then break
        skip
    if isBreak (← peek 0) then
      skipLine
      if (← get).flowLevel = 0 then modify fun s => { s with simpleKeyAllowed := true }
    else break

/-! ### Scalars -/

/-- Whether the text at the current position is a document marker (`---` or `...` at the
start of a line, followed by a blank). -/
def atDocumentMarker : ScanM Bool := do
  let m ← here
  let c0 ← peek 0
  let c1 ← peek 1
  let c2 ← peek 2
  let c3 ← peek 3
  return m.column = 0 ∧ ((c0 = '-' ∧ c1 = '-' ∧ c2 = '-') ∨ (c0 = '.' ∧ c1 = '.' ∧ c2 = '.')) ∧ isBlankZ c3

/-- Scan a plain scalar. -/
def scanPlainScalar : ScanM Unit := do
  let s0 ← get
  let indent : Int := s0.indent + 1
  let start := s0.mark
  let mut stop := start
  let mut text := ""
  let mut leadingBreak := ""
  let mut trailingBreaks := ""
  let mut whitespaces := ""
  let mut leadingBlanks := false
  for _ in [0:(← fuel)] do
    if ← atDocumentMarker then break
    if (← peek 0) = '#' then break
    for _ in [0:(← fuel)] do
      let c ← peek 0
      if isBlankZ c then break
      let c1 ← peek 1
      let flow := (← get).flowLevel > 0
      if flow ∧ c = ':' ∧ ",?[]\x7b\x7d".toList.contains c1 then
        fail (some ("while scanning a plain scalar", start)) "found unexpected ':'"
      if (c = ':' ∧ isBlankZ c1) ∨ (flow ∧ ",[]\x7b\x7d".toList.contains c) then break
      if leadingBlanks ∨ whitespaces ≠ "" then
        if leadingBlanks then
          if leadingBreak.startsWith "\n" then
            if trailingBreaks.isEmpty then text := text.push ' '
            else
              text := text ++ trailingBreaks
              trailingBreaks := ""
            leadingBreak := ""
          else
            text := text ++ leadingBreak ++ trailingBreaks
            leadingBreak := ""
            trailingBreaks := ""
          leadingBlanks := false
        else
          text := text ++ whitespaces
          whitespaces := ""
      text := text.push c
      skip
      stop ← here
    let c ← peek 0
    if !(isBlank c ∨ isBreak c) then break
    for _ in [0:(← fuel)] do
      let c ← peek 0
      if isBlank c then
        if leadingBlanks ∧ ((← here).column : Int) < indent ∧ c = '\t' then
          fail (some ("while scanning a plain scalar", start)) "found a tab character that violates indentation"
        if !leadingBlanks then whitespaces := whitespaces.push c
        skip
      else if isBreak c then
        if !leadingBlanks then
          whitespaces := ""
          leadingBreak ← readLine
          leadingBlanks := true
        else
          trailingBreaks := trailingBreaks ++ (← readLine)
      else break
    if (← get).flowLevel = 0 ∧ ((← here).column : Int) < indent then break
  push (.scalar text .plain) start stop
  if leadingBlanks then modify fun s => { s with simpleKeyAllowed := true }

/-- The character of a one-letter escape in a double-quoted scalar. -/
def simpleEscape (c : Char) : Option String :=
  match c with
  | '0' => some "\x00"
  | 'a' => some "\x07"
  | 'b' => some "\x08"
  | 't' => some "\t"
  | '\t' => some "\t"
  | 'n' => some "\n"
  | 'v' => some "\x0b"
  | 'f' => some "\x0c"
  | 'r' => some "\r"
  | 'e' => some "\x1b"
  | ' ' => some " "
  | '"' => some "\""
  | '/' => some "/"
  | '\'' => some "'"
  | '\\' => some "\\"
  | 'N' => some "\x85"
  | '_' => some "\xa0"
  | 'L' => some "\u2028"
  | 'P' => some "\u2029"
  | _ => none

/-- Scan a single- or double-quoted scalar. -/
def scanQuotedScalar (single : Bool) : ScanM Unit := do
  let start ← here
  let ctx := some ("while scanning a quoted scalar", start)
  let quote := if single then '\'' else '"'
  skip
  let mut text := ""
  let mut leadingBreak := ""
  let mut trailingBreaks := ""
  let mut whitespaces := ""
  for _ in [0:(← fuel)] do
    if ← atDocumentMarker then fail ctx "found unexpected document indicator"
    if (← peek 0) = '\x00' ∧ (← get).mark.index ≥ (← get).input.size then
      fail ctx "found unexpected end of stream"
    let mut leadingBlanks := false
    for _ in [0:(← fuel)] do
      let c ← peek 0
      if isBlankZ c then break
      let c1 ← peek 1
      if single ∧ c = '\'' ∧ c1 = '\'' then
        text := text.push '\''
        skip
        skip
      else if c = quote then break
      else if !single ∧ c = '\\' ∧ isBreak c1 then
        skip
        skipLine
        leadingBlanks := true
        break
      else if !single ∧ c = '\\' then
        let codeLength : Nat := if c1 = 'x' then 2 else if c1 = 'u' then 4 else if c1 = 'U' then 8 else 0
        if codeLength = 0 then
          match simpleEscape c1 with
          | some e =>
            text := text ++ e
            skip
            skip
          | none => fail (some ("while parsing a quoted scalar", start)) "found unknown escape character"
        else
          skip
          skip
          let mut code := 0
          for k in [0:codeLength] do
            match hexDigitValue (← peek k) with
            | some d => code := code * 16 + d
            | none => fail (some ("while parsing a quoted scalar", start)) "did not find expected hexdecimal number"
          if (0xD800 ≤ code ∧ code ≤ 0xDFFF) ∨ code > 0x10FFFF then
            fail (some ("while parsing a quoted scalar", start)) "found invalid Unicode character escape code"
          text := text.push (Char.ofNat code)
          for _ in [0:codeLength] do skip
      else
        text := text.push c
        skip
    if (← peek 0) = quote then break
    for _ in [0:(← fuel)] do
      let c ← peek 0
      if isBlank c then
        if !leadingBlanks then whitespaces := whitespaces.push c
        skip
      else if isBreak c then
        if !leadingBlanks then
          whitespaces := ""
          leadingBreak ← readLine
          leadingBlanks := true
        else trailingBreaks := trailingBreaks ++ (← readLine)
      else break
    if leadingBlanks then
      if leadingBreak.startsWith "\n" then
        if trailingBreaks.isEmpty then text := text.push ' '
        else
          text := text ++ trailingBreaks
          trailingBreaks := ""
        leadingBreak := ""
      else
        text := text ++ leadingBreak ++ trailingBreaks
        leadingBreak := ""
        trailingBreaks := ""
    else
      text := text ++ whitespaces
      whitespaces := ""
  skip
  let stop ← here
  push (.scalar text (if single then .singleQuoted else .doubleQuoted)) start stop

/-- Skip the indentation and empty lines before a line of a block scalar, collecting the line
breaks, and fix the indentation from the deepest of those lines when it is not known yet. -/
def blockScalarBreaks (indent : Nat) (start : Mark) : ScanM (Nat × String × Mark) := do
  let mut maxIndent := 0
  let mut breaks := ""
  let mut stop ← here
  for _ in [0:(← fuel)] do
    for _ in [0:(← fuel)] do
      if (indent = 0 ∨ (← here).column < indent) ∧ (← peek 0) = ' ' then skip else break
    if (← here).column > maxIndent then maxIndent := (← here).column
    if (indent = 0 ∨ (← here).column < indent) ∧ (← peek 0) = '\t' then
      fail (some ("while scanning a block scalar", start))
        "found a tab character where an indentation space is expected"
    if !isBreak (← peek 0) then break
    breaks := breaks ++ (← readLine)
    stop ← here
  if indent ≠ 0 then return (indent, breaks, stop)
  let outer := (← get).indent
  let fixed : Int := max (max (maxIndent : Int) (outer + 1)) 1
  return (fixed.toNat, breaks, stop)

/-- Scan a literal (`|`) or folded (`>`) block scalar. -/
def scanBlockScalar (literal : Bool) : ScanM Unit := do
  let start ← here
  let ctx := some ("while scanning a block scalar", start)
  skip
  let mut chomping : Int := 0
  let mut increment := 0
  let c ← peek 0
  if c = '+' ∨ c = '-' then
    chomping := if c = '+' then 1 else -1
    skip
    let d ← peek 0
    if '0' ≤ d ∧ d ≤ '9' then
      if d = '0' then fail ctx "found an indentation indicator equal to 0"
      increment := d.toNat - '0'.toNat
      skip
  else if '0' ≤ c ∧ c ≤ '9' then
    if c = '0' then fail ctx "found an indentation indicator equal to 0"
    increment := c.toNat - '0'.toNat
    skip
    let e ← peek 0
    if e = '+' ∨ e = '-' then
      chomping := if e = '+' then 1 else -1
      skip
  for _ in [0:(← fuel)] do
    if isBlank (← peek 0) then skip else break
  if (← peek 0) = '#' then
    for _ in [0:(← fuel)] do
      if isBreakZ (← peek 0) then break
      skip
  if !isBreakZ (← peek 0) then fail ctx "did not find expected comment or line break"
  if isBreak (← peek 0) then skipLine
  let outer := (← get).indent
  let mut indent : Nat := 0
  if increment ≠ 0 then
    indent := if outer ≥ 0 then (outer + increment).toNat else increment
  let (ind, tb, stop0) ← blockScalarBreaks indent start
  indent := ind
  let mut trailingBreaks := tb
  let mut stop := stop0
  let mut text := ""
  let mut leadingBreak := ""
  let mut leadingBlank := false
  for _ in [0:(← fuel)] do
    let atEnd := (← get).mark.index ≥ (← get).input.size
    if !((← here).column = indent ∧ !atEnd) then break
    let trailingBlank := isBlank (← peek 0)
    if !literal ∧ leadingBreak.startsWith "\n" ∧ !leadingBlank ∧ !trailingBlank then
      if trailingBreaks.isEmpty then text := text.push ' '
      leadingBreak := ""
    else
      text := text ++ leadingBreak
      leadingBreak := ""
    text := text ++ trailingBreaks
    trailingBreaks := ""
    leadingBlank := isBlank (← peek 0)
    for _ in [0:(← fuel)] do
      let c ← peek 0
      if isBreakZ c ∧ ((← get).mark.index ≥ (← get).input.size ∨ isBreak c) then break
      text := text.push c
      skip
    leadingBreak ← readLine
    let (_, tb', stop') ← blockScalarBreaks indent start
    trailingBreaks := tb'
    stop := stop'
  if chomping ≠ -1 then text := text ++ leadingBreak
  if chomping = 1 then text := text ++ trailingBreaks
  push (.scalar text (if literal then .literal else .folded)) start stop

/-! ### Anchors, aliases, tags and directives -/

/-- Scan an anchor (`&name`) or an alias (`*name`). -/
def scanAnchor (isAlias : Bool) : ScanM Unit := do
  let start ← here
  skip
  let mut name := ""
  for _ in [0:(← fuel)] do
    let c ← peek 0
    if isWordChar c then
      name := name.push c
      skip
    else break
  let stop ← here
  let c ← peek 0
  if name.isEmpty ∨ !(isBlankZ c ∨ "?:,]\x7d%@`".toList.contains c) then
    fail (some (if isAlias then "while scanning an alias" else "while scanning an anchor", start))
      "did not find expected alphabetic or numeric character"
  push (if isAlias then .aliasOf name else .anchor name) start stop

/-- The character that the octets of one `%`-escape sequence spell in UTF-8; a sequence that
spells no character reads as the replacement character. -/
def escapedChar (octets : List Nat) : Char :=
  let width := octets.length
  let value := match octets with
    | [] => 0xFFFD
    | lead :: rest => rest.foldl (fun v b => v * 64 + b % 64) (if width = 1 then lead else lead % Nat.pow 2 (7 - width))
  let least := if width ≤ 1 then 0 else if width = 2 then 0x80 else if width = 3 then 0x800 else 0x10000
  if value < least ∨ (0xD800 ≤ value ∧ value ≤ 0xDFFF) ∨ value > 0x10FFFF then '\uFFFD'
  else Char.ofNat value

/-- Read one escaped character of tag text: `%` and two hexadecimal digits per octet, as many
octets as the leading one announces. -/
def scanUriEscape (ctx : Option (String × Mark)) : ScanM Char := do
  let mut octets : List Nat := []
  let mut width := 1
  for _ in [0:4] do
    let octet ← match (← peek 0), hexDigitValue (← peek 1), hexDigitValue (← peek 2) with
      | '%', some a, some b => pure (a * 16 + b)
      | _, _, _ => fail ctx "did not find URI escaped octet"
    if octets.isEmpty then
      width := if octet < 0x80 then 1 else if octet / 32 = 6 then 2
        else if octet / 16 = 14 then 3 else if octet / 8 = 30 then 4 else 0
      if width = 0 then fail ctx "found an incorrect leading UTF-8 octet"
    else if octet / 64 ≠ 2 then fail ctx "found an incorrect trailing UTF-8 octet"
    octets := octets ++ [octet]
    skip
    skip
    skip
    if octets.length = width then break
  return escapedChar octets

/-- Read tag text, continuing `head` (a handle that turned out to be the start of the text,
whose leading `!` is not part of it). Commas and square brackets belong to the text only in a
verbatim tag and in the prefix of a `%TAG` directive (`flowChars`). Some text, or a head, must be
there. -/
def scanUri (flowChars : Bool) (ctx : Option (String × Mark)) (head : String) : ScanM String := do
  let mut text := head.drop 1 |>.toString
  let mut length := head.length
  for _ in [0:(← fuel)] do
    let c ← peek 0
    if c = '%' then
      text := text.push (← scanUriEscape ctx)
    else if isUriChar c ∨ (flowChars ∧ (c = ',' ∨ c = '[' ∨ c = ']')) then
      text := text.push c
      skip
    else break
    length := length + 1
  if length = 0 then fail ctx "did not find expected tag URI"
  return text

/-- Read the alphanumeric characters of a handle or a name. -/
def scanWord : ScanM String := do
  let mut word := ""
  for _ in [0:(← fuel)] do
    let c ← peek 0
    if isWordChar c then
      word := word.push c
      skip
    else break
  return word

/-- Scan a tag: `!<uri>`, `!handle!suffix`, `!suffix` or `!`. -/
def scanTag : ScanM Unit := do
  let start ← here
  let ctx := some ("while scanning a tag", start)
  let uriCtx := some ("while parsing a tag", start)
  let mut handle := ""
  let mut suffix := ""
  if (← peek 1) = '<' then
    skip
    skip
    suffix ← scanUri true uriCtx ""
    if (← peek 0) ≠ '>' then fail ctx "did not find the expected '>'"
    skip
  else
    skip
    let word := "!" ++ (← scanWord)
    if (← peek 0) = '!' then
      skip
      handle := word ++ "!"
      suffix ← scanUri false uriCtx ""
    else
      suffix ← scanUri false uriCtx word
      handle := "!"
      if suffix.isEmpty then
        handle := ""
        suffix := "!"
  let c ← peek 0
  if !isBlankZ c ∧ !((← get).flowLevel > 0 ∧ c = ',') then
    fail ctx "did not find expected whitespace or line break"
  push (.tag handle suffix) start (← here)

/-- Skip spaces and tabs. -/
def skipBlanks : ScanM Unit := do
  for _ in [0:(← fuel)] do
    if isBlank (← peek 0) then skip else break

/-- Read one number of a version: up to nine digits. -/
def scanVersionNumber (ctx : Option (String × Mark)) : ScanM Nat := do
  let mut value := 0
  let mut length := 0
  for _ in [0:(← fuel)] do
    let c ← peek 0
    if '0' ≤ c ∧ c ≤ '9' then
      length := length + 1
      if length > 9 then fail ctx "found extremely long version number"
      value := value * 10 + (c.toNat - '0'.toNat)
      skip
    else break
  if length = 0 then fail ctx "did not find expected version number"
  return value

/-- The value of a `%YAML` directive: a major and a minor number with a dot between them. -/
def scanVersion (start : Mark) : ScanM TokenKind := do
  let ctx := some ("while scanning a %YAML directive", start)
  skipBlanks
  let major ← scanVersionNumber ctx
  if (← peek 0) ≠ '.' then fail ctx "did not find expected digit or '.' character"
  skip
  let minor ← scanVersionNumber ctx
  return .versionDirective major minor

/-- The value of a `%TAG` directive: a handle (`!`, `!!` or `!name!`), blanks, and the text the
handle stands for. -/
def scanTagDirective (start : Mark) : ScanM TokenKind := do
  let ctx := some ("while scanning a %TAG directive", start)
  skipBlanks
  if (← peek 0) ≠ '!' then fail (some ("while scanning a tag directive", start)) "did not find expected '!'"
  skip
  let mut handle := "!" ++ (← scanWord)
  if (← peek 0) = '!' then
    skip
    handle := handle.push '!'
  else if handle ≠ "!" then fail (some ("while parsing a tag directive", start)) "did not find expected '!'"
  if !isBlank (← peek 0) then fail ctx "did not find expected whitespace"
  skipBlanks
  let uri ← scanUri true (some ("while parsing a %TAG directive", start)) ""
  if !isBlankZ (← peek 0) then fail ctx "did not find expected whitespace or line break"
  return .tagDirective handle uri

/-- Scan a directive line (`%YAML` or `%TAG`), up to and including its line break. -/
def scanDirective : ScanM Unit := do
  let start ← here
  let ctx := some ("while scanning a directive", start)
  skip
  let name ← scanWord
  if name.isEmpty then fail ctx "could not find expected directive name"
  if !isBlankZ (← peek 0) then fail ctx "found unexpected non-alphabetical character"
  let kind ← if name = "YAML" then scanVersion start
    else if name = "TAG" then scanTagDirective start
    else fail ctx "found unknown directive name"
  let stop ← here
  skipBlanks
  if (← peek 0) = '#' then
    for _ in [0:(← fuel)] do
      if isBreakZ (← peek 0) then break
      skip
  if !isBreakZ (← peek 0) then fail ctx "did not find expected comment or line break"
  push kind start stop
  if isBreak (← peek 0) then skipLine

/-! ### Tokens -/

/-- The end of the text. -/
def fetchStreamEnd : ScanM Unit := do
  if (← here).column ≠ 0 then
    modify fun s => { s with mark := { s.mark with column := 0, line := s.mark.line + 1 } }
  unrollIndent (-1)
  removeSimpleKey
  modify fun s => { s with simpleKeyAllowed := false, finished := true }
  let m ← here
  push .streamEnd m m

/-- A document marker, `---` or `...`. -/
def fetchDocumentIndicator (kind : TokenKind) : ScanM Unit := do
  unrollIndent (-1)
  removeSimpleKey
  modify fun s => { s with simpleKeyAllowed := false }
  let start ← here
  skip
  skip
  skip
  push kind start (← here)

/-- `[` or `{`. -/
def fetchFlowCollectionStart (kind : TokenKind) : ScanM Unit := do
  saveSimpleKey
  increaseFlowLevel
  modify fun s => { s with simpleKeyAllowed := true }
  let start ← here
  skip
  push kind start (← here)

/-- `]` or `}`. -/
def fetchFlowCollectionEnd (kind : TokenKind) : ScanM Unit := do
  removeSimpleKey
  decreaseFlowLevel
  modify fun s => { s with simpleKeyAllowed := false }
  let start ← here
  skip
  push kind start (← here)

/-- `,` in a flow collection. -/
def fetchFlowEntry : ScanM Unit := do
  removeSimpleKey
  modify fun s => { s with simpleKeyAllowed := true }
  let start ← here
  skip
  push .flowEntry start (← here)

/-- `-` starting a sequence entry. -/
def fetchBlockEntry : ScanM Unit := do
  let s ← get
  if s.flowLevel = 0 then
    if !s.simpleKeyAllowed then fail none "block sequence entries are not allowed in this context"
    rollIndent s.mark.column none .blockSequenceStart s.mark
  removeSimpleKey
  modify fun s => { s with simpleKeyAllowed := true }
  let start ← here
  skip
  push .blockEntry start (← here)

/-- `?` starting a complex key. -/
def fetchKey : ScanM Unit := do
  let s ← get
  if s.flowLevel = 0 then
    if !s.simpleKeyAllowed then fail none "mapping keys are not allowed in this context"
    rollIndent s.mark.column none .blockMappingStart s.mark
  removeSimpleKey
  modify fun s => { s with simpleKeyAllowed := s.flowLevel = 0 }
  let start ← here
  skip
  push .key start (← here)

/-- `:` after a key. -/
def fetchValue : ScanM Unit := do
  let s ← get
  match s.simpleKeys with
  | k :: _ =>
    if k.possible then
      insertAt k.tokenNumber .key k.mark k.mark
      rollIndent k.mark.column (some k.tokenNumber) .blockMappingStart k.mark
      setTopKey { k with possible := false }
      modify fun s => { s with simpleKeyAllowed := false }
    else
      if s.flowLevel = 0 then
        if !s.simpleKeyAllowed then fail none "mapping values are not allowed in this context"
        rollIndent s.mark.column none .blockMappingStart s.mark
      modify fun s => { s with simpleKeyAllowed := s.flowLevel = 0 }
  | [] => pure ()
  let start ← here
  skip
  push .value start (← here)

/-- A scalar, anchor, alias or tag: it may be a simple key. -/
def beforeNode : ScanM Unit := do
  saveSimpleKey
  modify fun s => { s with simpleKeyAllowed := false }

/-- Scan the next token. -/
def fetchNextToken : ScanM Unit := do
  scanToNextToken
  staleSimpleKeys
  unrollIndent (← here).column
  let s ← get
  let c ← peek 0
  let c1 ← peek 1
  let c2 ← peek 2
  let c3 ← peek 3
  let atEnd := s.mark.index ≥ s.input.size
  let flow := s.flowLevel > 0
  if atEnd then fetchStreamEnd
  else if s.mark.column = 0 ∧ c = '%' then
    unrollIndent (-1)
    removeSimpleKey
    modify fun s => { s with simpleKeyAllowed := false }
    scanDirective
  else if s.mark.column = 0 ∧ c = '-' ∧ c1 = '-' ∧ c2 = '-' ∧ isBlankZ c3 then
    fetchDocumentIndicator .documentStart
  else if s.mark.column = 0 ∧ c = '.' ∧ c1 = '.' ∧ c2 = '.' ∧ isBlankZ c3 then
    fetchDocumentIndicator .documentEnd
  else if c = '[' then fetchFlowCollectionStart .flowSequenceStart
  else if c = '{' then fetchFlowCollectionStart .flowMappingStart
  else if c = ']' then fetchFlowCollectionEnd .flowSequenceEnd
  else if c = '}' then fetchFlowCollectionEnd .flowMappingEnd
  else if c = ',' then fetchFlowEntry
  else if c = '-' ∧ isBlankZ c1 then fetchBlockEntry
  else if c = '?' ∧ (flow ∨ isBlankZ c1) then fetchKey
  else if c = ':' ∧ (flow ∨ isBlankZ c1) then fetchValue
  else if c = '*' then
    beforeNode
    scanAnchor true
  else if c = '&' then
    beforeNode
    scanAnchor false
  else if c = '!' then
    beforeNode
    scanTag
  else if c = '|' ∧ !flow then
    removeSimpleKey
    modify fun s => { s with simpleKeyAllowed := true }
    scanBlockScalar true
  else if c = '>' ∧ !flow then
    removeSimpleKey
    modify fun s => { s with simpleKeyAllowed := true }
    scanBlockScalar false
  else if c = '\'' then
    beforeNode
    scanQuotedScalar true
  else if c = '"' then
    beforeNode
    scanQuotedScalar false
  else if !(isBlankZ c ∨ "-?:,[]\x7b\x7d#&*!|>'\"%@`".toList.contains c) ∨ (c = '-' ∧ !isBlank c1) ∨
      (!flow ∧ (c = '?' ∨ c = ':') ∧ !isBlankZ c1) then
    beforeNode
    scanPlainScalar
  else
    fail (some ("while scanning for the next token", s.mark)) "found character that cannot start any token"

/-- Scan tokens up to the end of the text. -/
def scanAll : ScanM Unit := do
  let m ← here
  push .streamStart m m
  modify fun s => { s with simpleKeyAllowed := true, simpleKeys := [{}] }
  for _ in [0:(← fuel) + 1] do
    if (← get).finished then break
    fetchNextToken

end Scanner

/-- Characters a YAML text may hold: tab, line feed, carriage return, printable ASCII, next
line, and everything from no-break space up except surrogates, `U+FFFE` and `U+FFFF`. -/
def isAllowedChar (c : Char) : Bool :=
  let n := c.toNat
  n = 0x09 ∨ n = 0x0A ∨ n = 0x0D ∨ (0x20 ≤ n ∧ n ≤ 0x7E) ∨ n = 0x85 ∨ (0xA0 ≤ n ∧ n ≤ 0xD7FF) ∨
    (0xE000 ≤ n ∧ n ≤ 0xFFFD) ∨ 0x10000 ≤ n

/-- The error for the first character a text may not hold, placed by its byte offset. -/
def readerError (text : String) : Option SyntaxError :=
  let cs := text.toList
  match cs.findIdx? (fun c => !isAllowedChar c) with
  | none => none
  | some i =>
    let offset := (String.ofList (cs.take i)).utf8ByteSize
    let place := if offset = 0 then "" else " at position " ++ toString offset
    some { problem := "control characters are not allowed" ++ place, problemMark := {} }

/-- The tokens of a text that the parser gets to read, and the syntax error that stopped the
scan, if any. The reader refuses a text with a character it may not hold before any token.
The scanner hands a token on only once it knows whether a key starts there, so when the scan
stops, the tokens from the first possible simple key on were never handed on. -/
def tokenize (text : String) : Array Token × Option SyntaxError :=
  match readerError text with
  | some e => (#[], some e)
  | none =>
    let (r, s) := Scanner.scanAll.run.run { input := text.toList.toArray }
    match r with
    | .ok () => (s.tokens, none)
    | .error e =>
      let held := (s.simpleKeys.filter (·.possible)).map (·.tokenNumber)
      let handed := match held.min? with
        | some n => s.tokens.extract 0 n
        | none => s.tokens
      (handed, some e)

end Yaml

end DocStore
