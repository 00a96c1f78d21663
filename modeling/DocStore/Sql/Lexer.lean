import DocStore.Sql.Ddl
/-!
# Tokens of SQL

`tokenize` splits SQL text into tokens the way the engine's tokenizer does: blanks and
comments (`-- ...` to the end of the line, `/* ... */` to its close or to the end) separate
tokens and are dropped; words are identifiers or keywords; `"..."`, `` `...` `` and `[...]`
are quoted identifiers; `'...'` is a string (a doubled quote stands for one); `x'..'` is a
blob; numbers are decimal with an optional fraction and exponent, or `0x` hexadecimal; `?`,
`?NNN`, `:name`, `@name`, `$name` and `#name` are parameters. Anything else is an
unrecognized token, as is an unterminated quote or a number run into letters.

Each token keeps the text it was written with and where it starts and stops, so that errors
can quote it and a `CHECK` constraint can be named by its own text.
-/

namespace DocStore

namespace Sql

/-- The kind of a token. -/
inductive TokenKind where
  /-- A bare word: an identifier or a keyword. -/
  | word
  /-- A quoted identifier. -/
  | quoted
  | string
  | integer
  | float
  | blob
  | variable
  /-- An operator or punctuation. -/
  | op
  /-- Text the tokenizer does not recognize. -/
  | illegal
deriving DecidableEq, Repr, Inhabited

/-- A token: its kind, its text as written, its value (the name or string without quotes, or
the digits of a blob), and the positions of its first character and after its last. -/
structure Token where
  kind : TokenKind
  text : String
  value : String
  start : Nat
  stop : Nat
deriving Repr, Inhabited

/-- A character that may continue an identifier. -/
def isIdChar (c : Char) : Bool := c.isAlphanum || c = '_' || c = '$' || c.toNat ≥ 0x80

/-- A character that may start an identifier. -/
def isIdStart (c : Char) : Bool := c.isAlpha || c = '_' || c.toNat ≥ 0x80

/-- A hexadecimal digit. -/
def isHexDigit (c : Char) : Bool := c.isDigit || ('a' ≤ c ∧ c ≤ 'f') || ('A' ≤ c ∧ c ≤ 'F')

/-- A blank between tokens. -/
def isBlank (c : Char) : Bool := c = ' ' || c = '\t' || c = '\n' || c = '\r' || c.toNat = 12

/-- The characters of a source text. -/
structure SourceText where
  chars : Array Char

namespace SourceText

/-- The character at a position; NUL past the end, which ends the text. -/
def get (s : SourceText) (i : Nat) : Char := s.chars.getD i (Char.ofNat 0)

/-- The text between two positions. -/
def span (s : SourceText) (a b : Nat) : String := String.ofList ((s.chars.extract a b).toList)

/-- The first position at or after `i` whose character fails `p`. -/
def skipWhile (s : SourceText) (p : Char → Bool) (i : Nat) : Nat :=
  let rec go : Nat → Nat → Nat
    | 0, j => j
    | fuel + 1, j => if j < s.chars.size ∧ p (s.get j) then go fuel (j + 1) else j
  go (s.chars.size + 1) i

/-- The end of a quoted run that opened at `i` with `delim`: the position after the closing
quote and the unquoted value, or `none` when the text ends first. A doubled delimiter stands
for one. -/
def quotedEnd (s : SourceText) (delim : Char) (i : Nat) : Option (Nat × String) :=
  let rec go : Nat → Nat → List Char → Option (Nat × String)
    | 0, _, _ => none
    | fuel + 1, j, acc =>
      if j ≥ s.chars.size ∨ (s.get j).toNat = 0 then none
      else if s.get j = delim then
        if s.get (j + 1) = delim then go fuel (j + 2) (delim :: acc)
        else some (j + 1, String.ofList acc.reverse)
      else go fuel (j + 1) (s.get j :: acc)
  go (s.chars.size + 1) (i + 1) []

/-- The end of a comment that opened with `/*` at `i`: after its close, or the end of the text. -/
def commentEnd (s : SourceText) (i : Nat) : Nat :=
  let rec go : Nat → Nat → Nat
    | 0, j => j
    | fuel + 1, j =>
      if j ≥ s.chars.size then s.chars.size
      else if s.get j = '*' ∧ s.get (j + 1) = '/' then j + 2
      else go fuel (j + 1)
  go (s.chars.size + 1) (i + 2)

/-- The end of a number that starts at `i`, and whether it is a real. -/
def numberEnd (s : SourceText) (i : Nat) : Nat × TokenKind :=
  if s.get i = '0' ∧ (s.get (i + 1) = 'x' ∨ s.get (i + 1) = 'X') ∧ isHexDigit (s.get (i + 2)) then
    let j := s.skipWhile isHexDigit (i + 2)
    let k := s.skipWhile isIdChar j
    (k, if k = j then .integer else .illegal)
  else
    let j := s.skipWhile Char.isDigit i
    let (j, real) := if s.get j = '.' then (s.skipWhile Char.isDigit (j + 1), true) else (j, false)
    let (j, real) :=
      if (s.get j = 'e' ∨ s.get j = 'E') ∧ ((s.get (j + 1)).isDigit ∨
          ((s.get (j + 1) = '+' ∨ s.get (j + 1) = '-') ∧ (s.get (j + 2)).isDigit)) then
        (s.skipWhile Char.isDigit (j + 2), true)
      else (j, real)
    let k := s.skipWhile isIdChar j
    (k, if k ≠ j then .illegal else if real then .float else .integer)

/-- The token that starts at `i` (not a blank or comment): its kind, end and value. -/
def tokenAt (s : SourceText) (i : Nat) : TokenKind × Nat × String :=
  let c := s.get i
  let c1 := s.get (i + 1)
  let op (n : Nat) : TokenKind × Nat × String := (.op, i + n, s.span i (i + n))
  if c = '\'' ∨ c = '"' ∨ c = '`' then
    match s.quotedEnd c i with
    | some (j, v) => (if c = '\'' then .string else .quoted, j, v)
    | none =>
      -- an unclosed quote runs to the text's end, which a NUL marks
      let j := s.skipWhile (fun d => d.toNat ≠ 0) (i + 1)
      (.illegal, j, s.span i j)
  else if c = '[' then
    let j := s.skipWhile (fun d => d ≠ ']' ∧ d.toNat ≠ 0) (i + 1)
    if s.get j = ']' then (.quoted, j + 1, s.span (i + 1) j) else (.illegal, j, s.span i j)
  else if c.isDigit ∨ (c = '.' ∧ c1.isDigit) then
    let (j, k) := s.numberEnd i
    (k, j, s.span i j)
  else if (c = 'x' ∨ c = 'X') ∧ c1 = '\'' then
    let j := s.skipWhile isHexDigit (i + 2)
    if s.get j = '\'' ∧ (j - i) % 2 = 0 then (.blob, j + 1, s.span (i + 2) j)
    else
      let k := s.skipWhile (fun d => d ≠ '\'' ∧ d.toNat ≠ 0) j
      let k := if s.get k = '\'' then k + 1 else k
      (.illegal, k, s.span i k)
  else if isIdStart c then
    let j := s.skipWhile isIdChar i
    (.word, j, s.span i j)
  else if c = '?' then
    let j := s.skipWhile Char.isDigit (i + 1)
    (.variable, j, s.span i j)
  else if c = '$' ∨ c = '@' ∨ c = ':' ∨ c = '#' then
    let j := s.skipWhile isIdChar (i + 1)
    (if j = i + 1 then .illegal else .variable, j, s.span i j)
  else if c = '-' then if c1 = '>' then op (if s.get (i + 2) = '>' then 3 else 2) else op 1
  else if c = '=' then op (if c1 = '=' then 2 else 1)
  else if c = '<' then op (if c1 = '=' ∨ c1 = '>' ∨ c1 = '<' then 2 else 1)
  else if c = '>' then op (if c1 = '=' ∨ c1 = '>' then 2 else 1)
  else if c = '!' then if c1 = '=' then op 2 else (.illegal, i + 1, s.span i (i + 1))
  else if c = '|' then op (if c1 = '|' then 2 else 1)
  else if "(),;+*/%&~.".toList.contains c then op 1
  else (.illegal, i + 1, s.span i (i + 1))

end SourceText

/-- The tokens of a text, up to its end or its first NUL character. -/
def tokenize (text : String) : Array Token :=
  let s : SourceText := ⟨text.toList.toArray⟩
  let rec go : Nat → Nat → Array Token → Array Token
    | 0, _, acc => acc
    | fuel + 1, i, acc =>
      let c := s.get i
      if i ≥ s.chars.size ∨ c.toNat = 0 then acc
      else if isBlank c then go fuel (i + 1) acc
      else if c = '-' ∧ s.get (i + 1) = '-' then
        go fuel (s.skipWhile (fun d => d ≠ '\n' ∧ d.toNat ≠ 0) i) acc
      else if c = '/' ∧ s.get (i + 1) = '*' then go fuel (s.commentEnd i) acc
      else
        let (kind, j, value) := s.tokenAt i
        let tok : Token := ⟨kind, s.span i j, value, i, j⟩
        if kind = .illegal then acc.push tok
        else go fuel (max j (i + 1)) (acc.push tok)
  go (s.chars.size + 1) 0 #[]

/-- The words that are never identifiers. -/
def reservedWords : List String :=
  ["ADD", "ALL", "ALTER", "AND", "AS", "AUTOINCREMENT", "BETWEEN", "CASE", "CHECK", "COLLATE",
   "COMMIT", "CONSTRAINT", "CREATE", "DEFAULT", "DEFERRABLE", "DELETE", "DISTINCT", "DROP",
   "ELSE", "ESCAPE", "EXCEPT", "EXISTS", "FOREIGN", "FROM", "GROUP", "HAVING", "IN", "INDEX",
   "INDEXED", "INSERT", "INTERSECT", "INTO", "IS", "ISNULL", "JOIN", "LIMIT", "NOT", "NOTNULL",
   "NULL", "ON", "OR", "ORDER", "PRIMARY", "REFERENCES", "RETURNING", "ROLLBACK", "SELECT",
   "SET", "TABLE", "THEN", "TO", "TRANSACTION", "UNION", "UNIQUE", "UPDATE", "USING", "VALUES",
   "WHEN", "WHERE", "NOTHING", "CROSS", "FULL", "INNER", "LEFT",
   "NATURAL", "OUTER", "RIGHT"]

/-- ASCII upper case, the case keywords are compared in. -/
def upperAscii (s : String) : String :=
  String.ofList (s.toList.map (fun c => if 'a' ≤ c ∧ c ≤ 'z' then Char.ofNat (c.toNat - 32) else c))

/-- Whether a token is the given keyword. -/
def Token.isWord (t : Token) (w : String) : Bool := t.kind = .word && upperAscii t.text == w

/-- Whether a token is the given operator or punctuation. -/
def Token.isOp (t : Token) (o : String) : Bool := t.kind = .op && t.text == o

/-- Whether a token can name something: a quoted identifier or a word that is not reserved. -/
def Token.isName (t : Token) : Bool :=
  t.kind = .quoted || (t.kind = .word && !reservedWords.contains (upperAscii t.text))

end Sql

end DocStore
