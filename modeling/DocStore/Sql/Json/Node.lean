import DocStore.Json.Writer
/-!
# Documents as the engine reads them

The engine reads a document's text into a tree of nodes that remembers how each number and
string was written, so that writing the tree back keeps standard JSON text as it was. It reads
JSON and the JSON5 extensions:

* white space also includes vertical tab, form feed, the Unicode spaces and line separators,
  and comments (`/* ... */` and `// ...` to the end of the line);
* strings may be single-quoted and may hold the escapes `\'`, `\0`, `\v`, `\xHH` and a
  backslash before a line break (a line continuation), but no control character as it is;
* object keys may be bare identifiers;
* numbers may start with `+` (which is dropped) or a point, end with a point, be hexadecimal,
  or be `Infinity` (read as `9e999`); `NaN` is read as null;
* arrays and objects may end with a comma.

The text ends at its first NUL character. Nesting deeper than 1000 levels is refused.

`Node.render` writes a tree back as compact JSON: numbers and strings in standard JSON are
written as they were read, the JSON5 forms are brought to standard JSON (hexadecimal integers in
decimal, `.5` as `0.5`, JSON5 escapes as `\u` escapes).
-/

namespace DocStore

namespace SqlJson

/-- How a number was written. -/
inductive NumberForm where
  /-- A decimal integer. -/
  | integer
  /-- A hexadecimal integer, `0x1F`. -/
  | hexInteger
  /-- A real in standard JSON. -/
  | real
  /-- A real with a bare point, `.5` or `5.`. -/
  | looseReal
deriving DecidableEq, Repr

/-- How a string was written between its quotes. -/
inductive TextForm where
  /-- Without escapes: the body is the text itself. -/
  | plain
  /-- With JSON escapes only. -/
  | escaped
  /-- With JSON5 escapes or an inner double quote. -/
  | extended
  /-- Text that was never JSON: written with escapes where JSON needs them. -/
  | raw
deriving DecidableEq, Repr

/-- An object key: its form and the text between its quotes (or the bare identifier). -/
structure Label where
  form : TextForm
  body : String
deriving DecidableEq, Repr

/-- A document as the engine holds it. -/
inductive Node where
  | null
  | bool (b : Bool)
  | number (form : NumberForm) (text : String)
  | text (form : TextForm) (body : String)
  | array (items : List Node)
  | object (members : List (Label × Node))
deriving Repr, Inhabited

namespace Reader

/-- An ASCII digit. -/
def isDigit (c : Char) : Bool := '0' ≤ c && c ≤ '9'

/-- An ASCII hex digit. -/
def isHex (c : Char) : Bool := isDigit c || ('a' ≤ c && c ≤ 'f') || ('A' ≤ c && c ≤ 'F')

/-- An ASCII letter. -/
def isLetter (c : Char) : Bool := ('a' ≤ c && c ≤ 'z') || ('A' ≤ c && c ≤ 'Z')

/-- An ASCII letter or digit. -/
def isAlnum (c : Char) : Bool := isLetter c || isDigit c

/-- The white space of standard JSON. -/
def isSpace (c : Char) : Bool := c = ' ' || c = '\t' || c = '\n' || c = '\r'

/-- The spaces beyond ASCII that JSON5 counts as white space. -/
def isWideSpace (c : Char) : Bool :=
  [0xA0, 0x1680, 0x2028, 0x2029, 0x202F, 0x205F, 0x3000, 0xFEFF].contains c.toNat ||
    (0x2000 ≤ c.toNat && c.toNat ≤ 0x200A)

/-- A character that can start a bare key: a letter, `_`, `$` or any character beyond ASCII. -/
def isKeyStart (c : Char) : Bool := isLetter c || c = '_' || c = '$' || c.toNat ≥ 0x80

/-- A character that can continue a bare key. -/
def isKeyPart (c : Char) : Bool := isKeyStart c || isDigit c

/-- The characters of a text, NUL past the end. -/
structure Source where
  chars : Array Char

namespace Source

/-- The character at a position; NUL past the end. -/
def char (s : Source) (i : Nat) : Char := s.chars.getD i '\x00'

/-- The text between two positions. -/
def slice (s : Source) (i j : Nat) : String := String.ofList (s.chars.extract i j).toList

/-- Does the text at `i` spell `word`, ignoring ASCII case? -/
def spellsFold (s : Source) (i : Nat) (word : String) : Bool :=
  (word.toList.zipIdx).all (fun (c, k) => (s.char (i + k)).toLower = c.toLower)

/-- Does the text at `i` spell `word` exactly? -/
def spells (s : Source) (i : Nat) (word : String) : Bool :=
  (word.toList.zipIdx).all (fun (c, k) => s.char (i + k) = c)

/-- The position of the first character from `j` that `p` rejects. -/
def skipWhile (s : Source) (p : Char → Bool) : Nat → Nat → Nat
  | 0, j => j
  | fuel + 1, j => if s.char j ≠ '\x00' && p (s.char j) then s.skipWhile p fuel (j + 1) else j

/-- The position of the `/` that closes a block comment, searching from `j`. -/
def commentClose (s : Source) : Nat → Nat → Option Nat
  | 0, _ => none
  | fuel + 1, j =>
    if s.char j = '/' && j ≥ 1 && s.char (j - 1) = '*' then some j
    else if s.char j = '\x00' then none
    else s.commentClose fuel (j + 1)

/-- The position after the white space and comments of JSON5 from `i`; an unclosed block
comment is not white space. -/
def skipBlank (s : Source) : Nat → Nat → Nat
  | 0, i => i
  | fuel + 1, i =>
    let c := s.char i
    if c = '\t' || c = '\n' || c.toNat = 0x0B || c.toNat = 0x0C || c = '\r' || c = ' ' ||
        isWideSpace c then s.skipBlank fuel (i + 1)
    else if c = '/' && s.char (i + 1) = '*' && s.char (i + 2) ≠ '\x00' then
      match s.commentClose s.chars.size (i + 3) with
      | some j => s.skipBlank fuel (j + 1)
      | none => i
    else if c = '/' && s.char (i + 1) = '/' then
      let j := s.skipWhile (fun c => !(c = '\n' || c = '\r' || c.toNat = 0x2028 || c.toNat = 0x2029))
        s.chars.size (i + 2)
      s.skipBlank fuel (if s.char j ≠ '\x00' then j + 1 else j)
    else i

end Source

/-- What the reader notes on its way: the position of the last error or mark it met (the
position an error is reported at) and whether it met any JSON5 extension. -/
structure Notes where
  errorAt : Nat := 0
  extended : Bool := false
deriving Repr, Inhabited

/-- Reading that keeps notes. -/
abbrev ReadM := StateM Notes

/-- Note the position of an error or a mark. -/
def noteError (i : Nat) : ReadM Unit := modify fun n => { n with errorAt := i }

/-- Note a JSON5 extension. -/
def noteExtended : ReadM Unit := modify fun n => { n with extended := true }

/-- What reading at a position finds: a value and the position after it, one of the marks `}`,
`]`, `,` and `:` with its position, the end of the text, or malformed text. -/
inductive Found where
  | node (n : Node) (next : Nat)
  | mark (c : Char) (pos : Nat)
  | finished
  | malformed

/-- The form of a number from its flags: bit 1 for JSON5, bit 2 for a real. -/
def numberForm (t : Nat) : NumberForm :=
  match t with
  | 0 => .integer
  | 1 => .hexInteger
  | 2 => .real
  | _ => .looseReal

/-- The number whose text runs from `i` to `j`, a leading `+` dropped. -/
def numberNode (s : Source) (i j t : Nat) : Node :=
  let start := if s.char i = '+' then i + 1 else i
  .number (numberForm t) (s.slice start j)

/-- Read the digits, point and exponent of a number that starts at `i`, from `j`, with the
flags so far: the end of the number and its flags, or the position where it is malformed. -/
def numberTail (s : Source) (i : Nat) : Nat → Nat → Nat → Bool → Except Nat (Nat × Nat)
  | 0, j, _, _ => .error j
  | fuel + 1, j, t, seenE =>
    let c := s.char j
    let pointAfterDigit : Bool := s.char (j - 1) = '.' && j ≥ i + 2 && isDigit (s.char (j - 2))
    if isDigit c then numberTail s i fuel (j + 1) t seenE
    else if c = '.' then
      if t &&& 2 ≠ 0 then .error j else numberTail s i fuel (j + 1) (t ||| 2) seenE
    else if c = 'e' || c = 'E' then
      let bare := s.char (j - 1) < '0'
      if bare && !pointAfterDigit then .error j
      else if seenE then .error j
      else
        let t := (if bare then t ||| 1 else t) ||| 2
        let j' := if s.char (j + 1) = '+' || s.char (j + 1) = '-' then j + 1 else j
        if isDigit (s.char (j' + 1)) then numberTail s i fuel (j' + 1) t true else .error j'
    else if s.char (j - 1) < '0' then
      if pointAfterDigit then .ok (j, t ||| 1) else .error j
    else .ok (j, t)

/-- A number from `start` whose body is read from `j` with flags `t`. -/
def numberFrom (s : Source) (start j t : Nat) : Except Nat (Node × Nat) :=
  match numberTail s start (s.chars.size + 2) j t false with
  | .ok (e, t) => .ok (numberNode s start e t, e)
  | .error p => .error p

/-- A hexadecimal integer from `start` whose digits begin at `j`. -/
def hexFrom (s : Source) (start j : Nat) : Node × Nat :=
  let e := s.skipWhile isHex s.chars.size j
  (numberNode s start e 1, e)

/-- Read a number at `i`, which holds a digit, a sign or a point: the number and the position
after it, or the position where it is malformed. -/
def number (s : Source) (i : Nat) : Except Nat (Node × Nat) :=
  let c := s.char i
  let d := s.char (i + 1)
  if c = '.' then
    if isDigit d then numberFrom s i (i + 1) 3 else .error i
  else if c = '0' then
    if (d = 'x' || d = 'X') && isHex (s.char (i + 2)) then .ok (hexFrom s i (i + 3))
    else if isDigit d then .error (i + 1)
    else numberFrom s i (i + 1) 0
  else if c = '+' || c = '-' then
    if !isDigit d then
      if (d = 'I' || d = 'i') && s.spellsFold (i + 1) "inf" then
        let len := if s.spellsFold (i + 4) "inity" then 9 else 4
        .ok (.number .real (if c = '-' then "-9e999" else "9e999"), i + len)
      else if d = '.' then numberFrom s i (i + 1) 1
      else .error i
    else if d = '0' then
      if isDigit (s.char (i + 2)) then .error (i + 1)
      else if (s.char (i + 2) = 'x' || s.char (i + 2) = 'X') && isHex (s.char (i + 3)) then
        .ok (hexFrom s i (i + 4))
      else numberFrom s i (i + 1) 0
    else numberFrom s i (i + 1) 0
  else numberFrom s i (i + 1) 0

/-- Whether a number read from text uses JSON5: a leading `+`, a bare point, hexadecimal digits or
an infinity. -/
def extendedNumber (written : Char) : Node → Bool
  | .number .integer _ => written = '+'
  | .number .real text => written = '+' || text.endsWith "9e999"
  | _ => true

/-- Four hex digits from `j`. -/
def hex4At (s : Source) (j : Nat) : Bool := (List.range 4).all (fun k => isHex (s.char (j + k)))

/-- The rest of a string whose opening quote is `delim`, scanned from `j` with the form so far:
the position of the closing quote and the form, or the position where it is malformed. -/
def stringTail (s : Source) (delim : Char) : Nat → Nat → TextForm → Except Nat (Nat × TextForm)
  | 0, j, _ => .error j
  | fuel + 1, j, form =>
    let c := s.char j
    if c = delim then .ok (j, form)
    else if c = '\\' then
      let e := s.char (j + 1)
      if e = '"' || e = '\\' || e = '/' || e = 'b' || e = 'f' || e = 'n' || e = 'r' || e = 't' ||
          (e = 'u' && hex4At s (j + 2)) then
        stringTail s delim fuel (j + 2) (if form = .plain then .escaped else form)
      else if e = '\'' || e = '0' || e = 'v' || e = '\n' || e.toNat = 0x2028 || e.toNat = 0x2029 ||
          (e = 'x' && isHex (s.char (j + 2)) && isHex (s.char (j + 3))) then
        stringTail s delim fuel (j + 2) .extended
      else if e = '\r' then
        stringTail s delim fuel (if s.char (j + 2) = '\n' then j + 3 else j + 2) .extended
      else .error (j + 1)
    else if c.toNat ≤ 0x1F then .error j
    else if c = '"' then stringTail s delim fuel (j + 1) .extended
    else stringTail s delim fuel (j + 1) form

/-- Read a string whose opening quote is at `i`. -/
def string (s : Source) (i : Nat) : ReadM Found := do
  match stringTail s (s.char i) (s.chars.size + 2) (i + 1) .plain with
  | .ok (j, form) =>
    if form = .extended then noteExtended
    return .node (.text form (s.slice (i + 1) j)) (j + 1)
  | .error p =>
    noteError p
    return .malformed

/-- `NaN`, `QNaN`, `SNaN`, `Inf` and `Infinity` in any case, not followed by a letter or digit. -/
def specialWord (s : Source) (i : Nat) : ReadM Found := do
  let words : List (String × Node) :=
    [("inf", .number .real "9e999"), ("infinity", .number .real "9e999"), ("nan", .null),
     ("qnan", .null), ("snan", .null)]
  match words.find? (fun (w, _) => s.spellsFold i w && !isAlnum (s.char (i + w.length))) with
  | some (w, n) =>
    noteExtended
    return .node n (i + w.length)
  | none =>
    noteError i
    return .malformed

/-- A bare key from `j`: the position after it and whether it holds `\u` escapes. -/
def bareKeyEnd (s : Source) : Nat → Nat → Bool → Nat × Bool
  | 0, j, esc => (j, esc)
  | fuel + 1, j, esc =>
    let c := s.char j
    if isKeyPart c && !isWideSpace c then bareKeyEnd s fuel (j + 1) esc
    else if c = '\\' && s.char (j + 1) = 'u' && hex4At s (j + 2) then bareKeyEnd s fuel (j + 1) true
    else (j, esc)

/-- The position after the standard white space from `j`. -/
def skipSpace (s : Source) (j : Nat) : Nat := s.skipWhile isSpace s.chars.size j

mutual

/-- Read a value at `i`, `depth` levels deep. -/
def value (s : Source) : Nat → Nat → Nat → ReadM Found
  | 0, _, i => do
    noteError i
    return .malformed
  | fuel + 1, depth, i => do
    let c := s.char i
    if c = '{' then
      if depth + 1 > 1000 then
        noteError i
        return .malformed
      match ← members s fuel (depth + 1) (i + 1) [] with
      | some (ms, j) => return .node (.object ms) j
      | none => return .malformed
    else if c = '[' then
      if depth + 1 > 1000 then
        noteError i
        return .malformed
      match ← items s fuel (depth + 1) (i + 1) [] with
      | some (xs, j) => return .node (.array xs) j
      | none => return .malformed
    else if c = '"' then string s i
    else if c = '\'' then
      noteExtended
      string s i
    else if c = 't' then
      if s.spells i "true" && !isAlnum (s.char (i + 4)) then return .node (.bool true) (i + 4)
      noteError i
      return .malformed
    else if c = 'f' then
      if s.spells i "false" && !isAlnum (s.char (i + 5)) then return .node (.bool false) (i + 5)
      noteError i
      return .malformed
    else if c = '+' || c = '-' || c = '.' || isDigit c then
      match number s i with
      | .ok (n, j) =>
        if extendedNumber c n then noteExtended
        return .node n j
      | .error p =>
        noteError p
        return .malformed
    else if c = '}' || c = ']' || c = ',' || c = ':' then
      noteError i
      return .mark c i
    else if c = '\x00' then return .finished
    else if isSpace c then value s fuel depth (skipSpace s (i + 1))
    else if c.toNat = 0x0B || c.toNat = 0x0C || c = '/' || isWideSpace c then
      let j := s.skipBlank s.chars.size i
      if j > i then
        noteExtended
        value s fuel depth j
      else
        noteError i
        return .malformed
    else if c = 'n' && s.spells i "null" && !isAlnum (s.char (i + 4)) then return .node .null (i + 4)
    else specialWord s i

/-- The items of an array from `j`, after those read so far: the items and the position after
the closing bracket. -/
def items (s : Source) : Nat → Nat → Nat → List Node → ReadM (Option (List Node × Nat))
  | 0, _, j, _ => do
    noteError j
    return none
  | fuel + 1, depth, j, acc => do
    match ← value s fuel depth j with
    | .mark ']' p =>
      if !acc.isEmpty then noteExtended
      return some (acc, p + 1)
    | .node n next =>
      let acc := acc ++ [n]
      let c := s.char next
      if c = ',' then items s fuel depth (next + 1) acc
      else if c = ']' then return some (acc, next + 1)
      else
        let k := if isSpace c then skipSpace s (next + 1) else next
        if isSpace c && s.char k = ',' then items s fuel depth (k + 1) acc
        else if isSpace c && s.char k = ']' then return some (acc, k + 1)
        else match ← value s fuel depth k with
          | .mark ',' p => items s fuel depth (p + 1) acc
          | .mark ']' p => return some (acc, p + 1)
          | _ =>
            noteError k
            return none
    | .malformed => return none
    | _ =>
      noteError j
      return none

/-- The members of an object from `j`, after those read so far: the members and the position
after the closing brace. -/
def members (s : Source) : Nat → Nat → Nat → List (Label × Node) →
    ReadM (Option (List (Label × Node) × Nat))
  | 0, _, j, _ => do
    noteError j
    return none
  | fuel + 1, depth, j, acc => do
    let found ← value s fuel depth j
    let key : Option (Nat ⊕ (Label × Nat)) ← match found with
      | .mark '}' p => pure (some (.inl p))
      | .node (.text form body) next => pure (some (.inr (⟨form, body⟩, next)))
      | .node _ _ => do
        noteError j
        pure none
      | other => do
        let k := s.skipBlank s.chars.size j
        let c := s.char k
        if isKeyStart c || (c = '\\' && s.char (k + 1) = 'u' && hex4At s (k + 2)) then
          let (e, esc) := bareKeyEnd s s.chars.size (k + 1) (c = '\\')
          noteExtended
          pure (some (.inr (⟨if esc then .extended else .plain, s.slice k e⟩, e)))
        else
          match other with
          | .malformed => pure ()
          | _ => noteError k
          pure none
    match key with
    | none => return none
    | some (.inl p) =>
      if !acc.isEmpty then noteExtended
      return some (acc, p + 1)
    | some (.inr (label, next)) =>
      let afterColon : Option Nat ← do
        if s.char next = ':' then pure (some (next + 1))
        else
          let k := if isSpace (s.char next) then skipSpace s (next + 1) else next
          if isSpace (s.char next) && s.char k = ':' then pure (some (k + 1))
          else match ← value s fuel depth k with
            | .mark ':' p => pure (some (p + 1))
            | .malformed => pure none
            | _ => do
              noteError k
              pure none
      match afterColon with
      | none => return none
      | some vpos =>
        match ← value s fuel depth vpos with
        | .node v next =>
          let acc := acc ++ [(label, v)]
          let c := s.char next
          if c = ',' then members s fuel depth (next + 1) acc
          else if c = '}' then return some (acc, next + 1)
          else
            let k := if isSpace c then skipSpace s (next + 1) else next
            if isSpace c && s.char k = ',' then members s fuel depth (k + 1) acc
            else if isSpace c && s.char k = '}' then return some (acc, k + 1)
            else match ← value s fuel depth k with
              | .mark ',' p => members s fuel depth (p + 1) acc
              | .mark '}' p => return some (acc, p + 1)
              | _ =>
                noteError k
                return none
        | .malformed => return none
        | _ =>
          noteError vpos
          return none

end

end Reader

namespace Writer

/-- The value of a hex digit (any character reads as its low four bits after folding letters). -/
def hexValue (c : Char) : Nat :=
  let n := c.toNat % 256
  (n + 9 * (n / 64 % 2)) % 16

/-- A hexadecimal integer in decimal: `-0x1F` is `-31`; more than 64 bits is `9.0e999`. -/
def hexText (text : String) : String :=
  let cs := text.toList
  let (sign, digits) := match cs with
    | '-' :: rest => ("-", rest.drop 2)
    | '+' :: rest => ("", rest.drop 2)
    | rest => ("", rest.drop 2)
  let step (acc : Nat × Bool) (c : Char) : Nat × Bool :=
    if acc.1 / Nat.pow 2 60 ≠ 0 then (acc.1, true) else (acc.1 * 16 + hexValue c, acc.2)
  let (u, overflow) := (digits.takeWhile Reader.isHex).foldl step (0, false)
  sign ++ (if overflow then "9.0e999" else toString u)

/-- A real with a bare point in standard form: a zero before a leading point and after a
trailing one. -/
def looseText (text : String) : String :=
  let cs := text.toList
  let (sign, body) := match cs with
    | '-' :: rest => ("-", rest)
    | rest => ("", rest)
  let lead := if body.head? = some '.' then "0" else ""
  let rec go : List Char → List Char
    | [] => []
    | '.' :: rest =>
      match rest with
      | d :: _ => if Reader.isDigit d then '.' :: go rest else '.' :: '0' :: go rest
      | [] => ['.', '0']
    | c :: rest => c :: go rest
  sign ++ lead ++ String.ofList (go body)

/-- The body of a JSON5 string in standard JSON escapes; `fuel` bounds the steps (the length
of the body is enough). -/
def extendedBody : Nat → List Char → List Char
  | 0, _ => []
  | _, [] => []
  | fuel + 1, c :: rest =>
    if c = '"' then '\\' :: '"' :: extendedBody fuel rest
    else if c ≠ '\\' then c :: extendedBody fuel rest
    else match rest with
      | [] => []
      | e :: more =>
        if e = '\'' then '\'' :: extendedBody fuel more
        else if e = 'v' then "\\u0009".toList ++ extendedBody fuel more
        else if e = 'x' then
          match more with
          | a :: b :: after => "\\u00".toList ++ [a, b] ++ extendedBody fuel after
          | _ => []
        else if e = '0' then "\\u0000".toList ++ extendedBody fuel more
        else if e = '\r' then
          match more with
          | '\n' :: after => extendedBody fuel after
          | _ => extendedBody fuel more
        else if e = '\n' || e.toNat = 0x2028 || e.toNat = 0x2029 then extendedBody fuel more
        else '\\' :: e :: extendedBody fuel more

/-- Text that was never JSON as a string body: quote, backslash and control characters
escaped. -/
def rawBody (body : String) : String :=
  let esc (c : Char) : String :=
    if c = '"' then "\\\"" else if c = '\\' then "\\\\"
    else if c.toNat = 8 then "\\b" else if c = '\t' then "\\t" else if c = '\n' then "\\n"
    else if c.toNat = 12 then "\\f" else if c = '\r' then "\\r"
    else if c.toNat < 32 then
      "\\u00" ++ String.singleton (Json.hexDigit (c.toNat / 16)) ++ String.singleton (Json.hexDigit (c.toNat % 16))
    else String.singleton c
  String.join (body.toList.map esc)

/-- A string in quotes, in standard JSON. -/
def quoted (form : TextForm) (body : String) : String :=
  let inner := match form with
    | .plain | .escaped => body
    | .extended => String.ofList (extendedBody (body.length + 1) body.toList)
    | .raw => rawBody body
  "\"" ++ inner ++ "\""

/-- A number in standard JSON. -/
def numberText (form : NumberForm) (text : String) : String :=
  match form with
  | .integer | .real => text
  | .hexInteger => hexText text
  | .looseReal => looseText text

end Writer

mutual

/-- A tree as compact JSON text. -/
def Node.render : Node → String
  | .null => "null"
  | .bool b => if b then "true" else "false"
  | .number form text => Writer.numberText form text
  | .text form body => Writer.quoted form body
  | .array items => "[" ++ renderItems items ++ "]"
  | .object members => "\x7b" ++ renderMembers members ++ "\x7d"

/-- Array items separated by commas. -/
def renderItems : List Node → String
  | [] => ""
  | [n] => n.render
  | n :: rest => n.render ++ "," ++ renderItems rest

/-- Object members separated by commas. -/
def renderMembers : List (Label × Node) → String
  | [] => ""
  | [(l, n)] => Writer.quoted l.form l.body ++ ":" ++ n.render
  | (l, n) :: rest => Writer.quoted l.form l.body ++ ":" ++ n.render ++ "," ++ renderMembers rest

end

/-- The characters of a text up to its first NUL, which ends a document. -/
def Reader.Source.ofText (text : String) : Reader.Source :=
  ⟨(text.toList.takeWhile (· ≠ '\x00')).toArray⟩

open Reader in
/-- Read a document's text: the tree and whether it uses JSON5, or the position (in characters)
where reading failed. After the value only white space may follow. -/
def Node.read (text : String) : Except Nat (Node × Bool) :=
  let s := Source.ofText text
  let fuel := 4 * s.chars.size + 8
  let (found, notes) := (value s fuel 0 0).run {}
  match found with
  | .node n next =>
    let j := skipSpace s next
    if s.char j = '\x00' then .ok (n, notes.extended)
    else if s.char (s.skipBlank s.chars.size j) = '\x00' then .ok (n, true)
    else .error notes.errorAt
  | _ => .error notes.errorAt

/-- Read a document's text; `none` when it is malformed. -/
def Node.parse (text : String) : Option Node :=
  match Node.read text with
  | .ok (n, _) => some n
  | .error _ => none

end SqlJson

end DocStore
