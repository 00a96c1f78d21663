import DocStore.Sql.Numeral
/-!
# Text as the engine's functions see it

The engine's text functions work on the bytes of a text, whatever they are, and most of them
stop at the first NUL byte (`textView`). A character is a byte below `0xC0` on its own, or a
byte from `0xC0` up followed by every continuation byte (`0x80` to `0xBF`) after it
(`skipChar`); malformed sequences are thus still characters. Reading a character's code point
(`readChar`) turns overlong forms, surrogates and the two noncharacters `U+FFFE` and `U+FFFF`
into `U+FFFD`.

The module holds the byte-level operations of the text functions: counting and cutting by
characters, case folding of ASCII letters, searching and replacing bytes, trimming sets of
characters, the Soundex code, hexadecimal text, and the `LIKE` and `GLOB` pattern matcher
(`patternCompare`).
-/

namespace DocStore

namespace Sql

/-- The bytes of a text up to its first NUL, where the engine's text functions stop. -/
def textView (b : List UInt8) : List UInt8 := b.takeWhile (· ≠ 0)

/-- Whether a byte continues a multi-byte character. -/
def isContinuation (b : UInt8) : Bool := b.toNat / 64 = 2

theorem length_dropWhile_le {α : Type} (p : α → Bool) (l : List α) :
    (l.dropWhile p).length ≤ l.length := by
  have h := congrArg List.length (List.takeWhile_append_dropWhile (p := p) (l := l))
  simp only [List.length_append] at h
  omega

/-- The rest of the bytes after one character. -/
def skipChar : List UInt8 → List UInt8
  | [] => []
  | b :: rest => if b.toNat ≥ 0xC0 then rest.dropWhile isContinuation else rest

theorem skipChar_length_lt (b : UInt8) (rest : List UInt8) :
    (skipChar (b :: rest)).length < (b :: rest).length := by
  have := length_dropWhile_le isContinuation rest
  simp only [skipChar, List.length_cons]
  split <;> omega

/-- The characters of a list of bytes, each as its bytes. -/
def chars (bs : List UInt8) : List (List UInt8) :=
  match bs with
  | [] => []
  | b :: rest => ((b :: rest).take ((b :: rest).length - (skipChar (b :: rest)).length)) :: chars (skipChar (b :: rest))
termination_by bs.length
decreasing_by exact skipChar_length_lt b rest

/-- The number of characters of a text, up to its first NUL. -/
def charLength (b : List UInt8) : Nat := (chars (textView b)).length

/-- The value the first byte of a sequence contributes to its code point. -/
def leadBits (b : Nat) : Nat :=
  if b < 0xE0 then b - 0xC0
  else if b < 0xF0 then b - 0xE0
  else if b < 0xF8 then b - 0xF0
  else if b < 0xFC then b - 0xF8
  else if b < 0xFE then b - 0xFC
  else 0

/-- Read one character's code point: a byte below `0xC0` is itself; a longer sequence collects
six bits from each continuation byte, in 32 bits, and is `U+FFFD` when it is overlong, a
surrogate or one of `U+FFFE` and `U+FFFF`. The end of the bytes reads as 0. -/
def readChar : List UInt8 → Nat × List UInt8
  | [] => (0, [])
  | b :: rest =>
    if b.toNat < 0xC0 then (b.toNat, rest)
    else
      let conts := rest.takeWhile isContinuation
      let c := conts.foldl (fun acc x => (acc * 64 + x.toNat % 64) % Nat.pow 2 32) (leadBits b.toNat)
      let c := if c < 0x80 ∨ c / 2048 = 0xD800 / 2048 ∨ c / 2 = 0xFFFE / 2 then 0xFFFD else c
      (c, rest.dropWhile isContinuation)

theorem readChar_length_lt (b : UInt8) (rest : List UInt8) :
    (readChar (b :: rest)).2.length < (b :: rest).length := by
  have := length_dropWhile_le isContinuation rest
  simp only [readChar, List.length_cons]
  split <;> simp only <;> omega

/-- The bytes the engine writes for a code point below `2 ^ 21`: one to four bytes, surrogates
included. -/
def charBytes (c : Nat) : List UInt8 :=
  if c < 0x80 then [UInt8.ofNat c]
  else if c < 0x800 then [UInt8.ofNat (0xC0 + c / 64 % 32), UInt8.ofNat (0x80 + c % 64)]
  else if c < 0x10000 then
    [UInt8.ofNat (0xE0 + c / 4096 % 16), UInt8.ofNat (0x80 + c / 64 % 64), UInt8.ofNat (0x80 + c % 64)]
  else
    [UInt8.ofNat (0xF0 + c / 262144 % 8), UInt8.ofNat (0x80 + c / 4096 % 64),
     UInt8.ofNat (0x80 + c / 64 % 64), UInt8.ofNat (0x80 + c % 64)]

/-- An ASCII letter's upper-case form; other bytes stay. -/
def upperByte (b : UInt8) : UInt8 := if 97 ≤ b ∧ b ≤ 122 then b - 32 else b

/-- An ASCII letter's lower-case form; other bytes stay. -/
def lowerByte (b : UInt8) : UInt8 := if 65 ≤ b ∧ b ≤ 90 then b + 32 else b

/-- Whether a byte is an ASCII letter. -/
def isAlphaByte (b : UInt8) : Bool := (65 ≤ b && b ≤ 90) || (97 ≤ b && b ≤ 122)

/-- Whether a byte is an ASCII hexadecimal digit. -/
def isHexByte (b : UInt8) : Bool := isDigitByte b || (65 ≤ b && b ≤ 70) || (97 ≤ b && b ≤ 102)

/-- The value of a hexadecimal digit. -/
def hexByteValue (b : UInt8) : Nat :=
  if b ≤ 57 then b.toNat - 48 else if b ≤ 70 then b.toNat - 55 else b.toNat - 87

/-- The upper-case hexadecimal text of bytes, two digits a byte. -/
def hexText (bs : List UInt8) : List UInt8 :=
  let digit (d : Nat) : UInt8 := UInt8.ofNat (if d < 10 then 48 + d else 55 + d)
  bs.flatMap (fun b => [digit (b.toNat / 16), digit (b.toNat % 16)])

/-- The position, counted in characters from 1, of the first place the needle starts in the
haystack, or 0; an empty needle is found at 1. With `byChar` false every byte counts as a
position. -/
def findPosition (byChar : Bool) (hay needle : List UInt8) : Nat :=
  if needle.isEmpty then 1
  else
    let rec go : Nat → List UInt8 → Nat → Nat
      | 0, _, _ => 0
      | _ + 1, [], _ => 0
      | fuel + 1, h :: hs, n =>
        if needle.length ≤ (h :: hs).length ∧ (h :: hs).take needle.length = needle then n
        else go fuel (if byChar then hs.dropWhile isContinuation else hs) (n + 1)
    go (hay.length + 1) hay 1

/-- Every occurrence of a nonempty pattern replaced, left to right without overlaps; `fuel`
bounds the steps, each of which takes at least one byte. -/
def replaceBytes (pattern rep : List UInt8) : Nat → List UInt8 → List UInt8
  | 0, bs => bs
  | _ + 1, [] => []
  | fuel + 1, b :: rest =>
    if pattern ≠ [] ∧ pattern.length ≤ (b :: rest).length ∧ (b :: rest).take pattern.length = pattern then
      rep ++ replaceBytes pattern rep fuel ((b :: rest).drop pattern.length)
    else b :: replaceBytes pattern rep fuel rest

/-- Drop characters of a set from the front while one matches; `fuel` bounds the steps, each of
which takes at least one byte. -/
def trimFront (set : List (List UInt8)) : Nat → List UInt8 → List UInt8
  | 0, bs => bs
  | fuel + 1, bs =>
    match set.find? (fun c => !c.isEmpty && c.length ≤ bs.length && bs.take c.length == c) with
    | some c => trimFront set fuel (bs.drop c.length)
    | none => bs

/-- Trim a text: characters of the set from its front (`front`) and from its back (`back`). -/
def trimBytes (set : List (List UInt8)) (front back : Bool) (bs : List UInt8) : List UInt8 :=
  let bs := if front then trimFront set bs.length bs else bs
  if back then (trimFront (set.map List.reverse) bs.length bs.reverse).reverse else bs

/-- The Soundex digit of an ASCII letter (only the low seven bits of a byte count), 0 for
vowels and letters without one. -/
def soundexDigit (b : UInt8) : Nat :=
  let c := lowerByte (UInt8.ofNat (b.toNat % 128))
  if [98, 102, 112, 118].contains c.toNat then 1
  else if [99, 103, 106, 107, 113, 115, 120, 122].contains c.toNat then 2
  else if [100, 116].contains c.toNat then 3
  else if c.toNat = 108 then 4
  else if [109, 110].contains c.toNat then 5
  else if c.toNat = 114 then 6
  else 0

/-- The Soundex code of a text: its first ASCII letter in upper case, then the digits of the
following letters with runs of one digit written once, cut or padded with zeros to four
characters; `?000` when the text has no ASCII letter. -/
def soundex (bs : List UInt8) : List UInt8 :=
  match (textView bs).dropWhile (fun b => !isAlphaByte b) with
  | [] => "?000".toUTF8.toList
  | first :: rest =>
    let step (acc : List Nat × Nat) (b : UInt8) : List Nat × Nat :=
      let (ds, prev) := acc
      let code := soundexDigit b
      if code > 0 then
        if code ≠ prev ∧ ds.length < 3 then (ds ++ [code], code) else (ds, code)
      else (ds, 0)
    let (ds, _) := rest.foldl step ([], soundexDigit first)
    let ds := ds ++ List.replicate (3 - ds.length) 0
    upperByte first :: ds.map (fun d => UInt8.ofNat (48 + d))

/-! ## Patterns of `LIKE` and `GLOB` -/

/-- What the wildcards of a pattern are: the one that matches any run, the one that matches one
character (0 for none), the set opener of `GLOB` (0 for none), and whether ASCII letters match
without case. -/
structure PatternRules where
  matchAll : Nat
  matchOne : Nat
  matchSet : Nat
  noCase : Bool

/-- The rules of `LIKE`. -/
def likeRules : PatternRules := ⟨37, 95, 0, true⟩

/-- The rules of `GLOB`. -/
def globRules : PatternRules := ⟨42, 63, 91, false⟩

/-- How a pattern met a text: a match, no match here, or no match anywhere further on (which
stops the search of an enclosing wildcard). -/
inductive PatternResult where
  | matched
  | noMatch
  | noWildcardMatch
deriving DecidableEq, Repr

/-- An ASCII letter's lower-case code point; other code points stay. -/
def lowerCode (c : Nat) : Nat := if 65 ≤ c ∧ c ≤ 90 then c + 32 else c

/-- An ASCII letter's upper-case code point; other code points stay. -/
def upperCode (c : Nat) : Nat := if 97 ≤ c ∧ c ≤ 122 then c - 32 else c

/-- Skip the wildcards after a run wildcard: further run wildcards, and single-character
wildcards each taking one character of the text. The next pattern character, the rest of the
pattern and of the text, or `none` when the text runs out. -/
def skipWildcards (r : PatternRules) : Nat → List UInt8 → List UInt8 → Option (Nat × List UInt8 × List UInt8)
  | 0, pat, str => some (0, pat, str)
  | fuel + 1, pat, str =>
    let (c, pat') := readChar pat
    if c ≠ 0 ∧ c = r.matchAll then skipWildcards r fuel pat' str
    else if c ≠ 0 ∧ c = r.matchOne then
      let (d, str') := readChar str
      if d = 0 then none else skipWildcards r fuel pat' str'
    else some (c, pat', str)

/-- Whether a code point is in a `GLOB` set, and the pattern after the set's closing bracket;
`none` when the set does not close. The set is read after its opening bracket: a leading `^`
inverts it, a leading `]` is a member, and `a-z` is a range. -/
def globSet (c : Nat) : Nat → List UInt8 → Bool → Nat → Option (Bool × List UInt8)
  | 0, _, _, _ => none
  | fuel + 1, pat, seen, prior =>
    let (c2, pat') := readChar pat
    if c2 = 0 then none
    else if c2 = 93 then some (seen, pat')
    else if c2 = 45 ∧ pat'.head? ≠ some 93 ∧ pat'.head? ≠ none ∧ prior > 0 then
      let (hi, pat'') := readChar pat'
      globSet c fuel pat'' (seen || (c ≥ prior ∧ c ≤ hi)) 0
    else globSet c fuel pat' (seen || c = c2) c2

/-- Every suffix of a text that starts at a character, from the whole text on; the empty end
is not one. -/
def charStarts (s : List UInt8) : List (List UInt8) :=
  match s with
  | [] => []
  | b :: rest => (b :: rest) :: charStarts (skipChar (b :: rest))
termination_by s.length
decreasing_by exact skipChar_length_lt b rest

/-- The rest of a text after each character that matches a code point (ASCII letters without
case when `noCase`), in order; `fuel` bounds the characters read. -/
def afterMatches (c : Nat) (noCase : Bool) : Nat → List UInt8 → List (List UInt8)
  | 0, _ => []
  | fuel + 1, s =>
    let (c2, s') := readChar s
    if c2 = 0 then []
    else if c2 = c ∨ (noCase ∧ c < 0x80 ∧ c2 < 0x80 ∧ lowerCode c2 = lowerCode c) then
      s' :: afterMatches c noCase fuel s'
    else afterMatches c noCase fuel s'

/-- The first result of trying each candidate in turn that is not `noMatch`; `noWildcardMatch`
when every candidate gives `noMatch`. -/
def firstDecided {α : Type} (f : α → PatternResult) : List α → PatternResult
  | [] => .noWildcardMatch
  | x :: xs => match f x with
    | .noMatch => firstDecided f xs
    | res => res

/-- Compare a pattern with a text (both up to their first NUL), as `LIKE` and `GLOB` do.
`other` is the escape character of `LIKE` (0 for none) or the set opener of `GLOB`. Each call
consumes at least one pattern character, so the pattern's length bounds the recursion. -/
def patternCompare (r : PatternRules) (other : Nat) : Nat → List UInt8 → List UInt8 → PatternResult
  | 0, _, _ => .noMatch
  | fuel + 1, pat, str =>
    let (c, pat1) := readChar pat
    if c = 0 then (if str.isEmpty then .matched else .noMatch)
    else if c = r.matchAll then
      match skipWildcards r (pat1.length + 1) pat1 str with
      | none => .noWildcardMatch
      | some (c, pat2, str2) =>
        if c = 0 then .matched
        else if c = other ∧ r.matchSet ≠ 0 then
          -- A set right after the run wildcard: try it at every character of the text.
          firstDecided (fun s => patternCompare r other fuel (91 :: pat2) s) (charStarts str2)
        else
          -- The character to look for next: after an escape, the escaped one.
          let next : Option (Nat × List UInt8) :=
            if c = other then
              let (e, pat3) := readChar pat2
              if e = 0 then none else some (e, pat3)
            else some (c, pat2)
          match next with
          | none => .noWildcardMatch
          | some (c, pat3) =>
            firstDecided (fun s => patternCompare r other fuel pat3 s)
              (afterMatches c r.noCase (str2.length + 1) str2)
    else if c = other ∧ r.matchSet = 0 then
      -- An escaped character matches only itself.
      let (e, pat2) := readChar pat1
      if e = 0 then .noMatch
      else
        let (c2, str') := readChar str
        if e = c2 ∨ (r.noCase ∧ e < 0x80 ∧ c2 < 0x80 ∧ lowerCode e = lowerCode c2) then
          patternCompare r other fuel pat2 str'
        else .noMatch
    else if c = other then
      let (c2, str') := readChar str
      if c2 = 0 then .noMatch
      else
        let (invert, body) := match pat1 with
          | 94 :: rest => (true, rest)
          | rest => (false, rest)
        let (seen, body) := match body with
          | 93 :: rest => (c2 == 93, rest)
          | rest => (false, rest)
        match globSet c2 (body.length + 1) body seen 0 with
        | none => .noMatch
        | some (seen, pat2) =>
          if seen == invert then .noMatch else patternCompare r other fuel pat2 str'
    else
      let (c2, str') := readChar str
      if c = c2 ∨ (r.noCase ∧ c < 0x80 ∧ c2 < 0x80 ∧ lowerCode c = lowerCode c2) then
        patternCompare r other fuel pat1 str'
      else if c = r.matchOne ∧ c2 ≠ 0 then patternCompare r other fuel pat1 str'
      else .noMatch

/-- Whether a text matches a pattern under the rules, with an escape character for `LIKE`. -/
def patternMatches (r : PatternRules) (escape : Option Nat) (pattern text : List UInt8) : Bool :=
  let pat := textView pattern
  let str := textView text
  let (r, other) := match escape with
    | some e =>
      ({ r with matchAll := if e = r.matchAll then 0 else r.matchAll,
                matchOne := if e = r.matchOne then 0 else r.matchOne }, e)
    | none => (r, r.matchSet)
  patternCompare r other (pat.length + 1) pat str == .matched

end Sql

end DocStore
