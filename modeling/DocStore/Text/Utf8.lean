/-!
# UTF-8 and UTF-16 byte sequences

`decodeLossy` reads bytes as UTF-8 the forgiving way: every well-formed sequence becomes its
character, and every maximal prefix of a sequence that cannot be completed becomes one U+FFFD.
A lead byte fixes the ranges its continuation bytes must fall in (the ranges that exclude overlong
forms, surrogates and code points past U+10FFFF), so the decoder needs no other table.

`ofUtf16` turns UTF-16 code units into UTF-8 bytes the way a database engine that stores text
as UTF-16 hands it out: a trailing odd byte is dropped, a unit in the surrogate range takes the
next unit as its partner whatever that unit is, and a unit with nothing after it is written as
itself. The bytes it yields need not be valid UTF-8; `decodeLossy` reads them.

`utf16UnitsOfUtf8` goes the other way as the same engine does: its reader of UTF-8 is not
`decodeLossy`, since it takes every continuation byte after a lead byte and turns surrogates,
U+FFFE and U+FFFF into U+FFFD, while a stray continuation byte stands for the code point of the
same number.
-/

namespace DocStore

namespace Text

/-- The ranges the continuation bytes after a lead byte must fall in, or nothing when the byte
cannot start a sequence. -/
def continuationRanges (b : Nat) : Option (List (Nat × Nat)) :=
  if b < 0x80 then some []
  else if 0xC2 ≤ b ∧ b ≤ 0xDF then some [(0x80, 0xBF)]
  else if b = 0xE0 then some [(0xA0, 0xBF), (0x80, 0xBF)]
  else if b = 0xED then some [(0x80, 0x9F), (0x80, 0xBF)]
  else if 0xE1 ≤ b ∧ b ≤ 0xEF then some [(0x80, 0xBF), (0x80, 0xBF)]
  else if b = 0xF0 then some [(0x90, 0xBF), (0x80, 0xBF), (0x80, 0xBF)]
  else if 0xF1 ≤ b ∧ b ≤ 0xF3 then some [(0x80, 0xBF), (0x80, 0xBF), (0x80, 0xBF)]
  else if b = 0xF4 then some [(0x80, 0x8F), (0x80, 0xBF), (0x80, 0xBF)]
  else none

/-- How many leading bytes fall in the ranges, taken in order. -/
def matchingPrefix : List (Nat × Nat) → List UInt8 → Nat
  | (lo, hi) :: rs, b :: bs => if lo ≤ b.toNat ∧ b.toNat ≤ hi then matchingPrefix rs bs + 1 else 0
  | _, _ => 0

theorem matchingPrefix_le (rs : List (Nat × Nat)) (bs : List UInt8) :
    matchingPrefix rs bs ≤ bs.length := by
  induction rs generalizing bs with
  | nil => simp [matchingPrefix]
  | cons r rs ih =>
    cases bs with
    | nil => simp [matchingPrefix]
    | cons b bs =>
      have := ih bs
      simp only [matchingPrefix, List.length_cons]
      split <;> omega

/-- The code point of a lead byte followed by its continuation bytes. -/
def codePoint (lead : Nat) (rest : List UInt8) : Nat :=
  let first :=
    if lead < 0x80 then lead else if lead < 0xE0 then lead % 0x20
    else if lead < 0xF0 then lead % 0x10 else lead % 0x08
  rest.foldl (fun acc b => acc * 64 + b.toNat % 64) first

/-- Read UTF-8 bytes, replacing each maximal ill-formed prefix by U+FFFD. -/
def decodeChars (bytes : List UInt8) : List Char :=
  match bytes with
  | [] => []
  | b :: rest =>
    match continuationRanges b.toNat with
    | none => '\uFFFD' :: decodeChars rest
    | some rs =>
      let k := matchingPrefix rs rest
      if k = rs.length then Char.ofNat (codePoint b.toNat (rest.take k)) :: decodeChars (rest.drop k)
      else '\uFFFD' :: decodeChars (rest.drop k)
termination_by bytes.length
decreasing_by
  all_goals simp only [List.length_cons, List.length_drop]
  all_goals omega

/-- The position of the first byte of the first ill-formed sequence, counted from `start`; none
when the bytes are well-formed UTF-8 (every sequence complete, none overlong, no surrogate and
nothing past U+10FFFF). -/
def firstInvalid (bytes : List UInt8) (start : Nat) : Option Nat :=
  match bytes with
  | [] => none
  | b :: rest =>
    match continuationRanges b.toNat with
    | none => some start
    | some rs =>
      let k := matchingPrefix rs rest
      if k = rs.length then firstInvalid (rest.drop k) (start + 1 + k) else some start
termination_by bytes.length
decreasing_by
  all_goals simp only [List.length_cons, List.length_drop]
  all_goals omega

/-- Are the bytes well-formed UTF-8? -/
def isValid (bytes : List UInt8) : Bool := (firstInvalid bytes 0).isNone

/-- Read UTF-8 bytes as text, replacing each maximal ill-formed prefix by U+FFFD. -/
def decodeLossy (bytes : List UInt8) : String := String.ofList (decodeChars bytes)

/-- The UTF-8 bytes of a code point below `2 ^ 21`, surrogates included. -/
def utf8Bytes (c : Nat) : List UInt8 :=
  if c < 0x80 then [UInt8.ofNat c]
  else if c < 0x800 then [UInt8.ofNat (0xC0 + c / 64 % 32), UInt8.ofNat (0x80 + c % 64)]
  else if c < 0x10000 then
    [UInt8.ofNat (0xE0 + c / 4096 % 16), UInt8.ofNat (0x80 + c / 64 % 64), UInt8.ofNat (0x80 + c % 64)]
  else
    [UInt8.ofNat (0xF0 + c / 262144 % 8), UInt8.ofNat (0x80 + c / 4096 % 64),
     UInt8.ofNat (0x80 + c / 64 % 64), UInt8.ofNat (0x80 + c % 64)]

/-- The code units of UTF-16 bytes, little-endian or big-endian; a trailing odd byte is dropped. -/
def utf16Units (bigEndian : Bool) : List UInt8 → List Nat
  | a :: b :: rest =>
    (if bigEndian then a.toNat * 256 + b.toNat else b.toNat * 256 + a.toNat) :: utf16Units bigEndian rest
  | _ => []

/-- UTF-8 bytes of UTF-16 code units: a surrogate takes the next unit as its partner. -/
def unitsToUtf8 : List Nat → List UInt8
  | [] => []
  | [c] => utf8Bytes c
  | c :: d :: rest =>
    if 0xD800 ≤ c ∧ c < 0xE000 then
      utf8Bytes (d % 1024 + (c % 64) * 1024 + ((c % 1024 / 64 * 64 + 64) * 1024)) ++ unitsToUtf8 rest
    else utf8Bytes c ++ unitsToUtf8 (d :: rest)

/-- UTF-8 bytes of UTF-16 text. -/
def ofUtf16 (bigEndian : Bool) (bytes : List UInt8) : List UInt8 :=
  unitsToUtf8 (utf16Units bigEndian bytes)

/-- The bits a lead byte at or above `0xC0` gives the engine's UTF-8 reader: five, four or three
low bits for the lead bytes of two, three and four bytes, fewer for the bytes past them. -/
def leadBits (b : Nat) : Nat :=
  if b < 0xE0 then b % 0x20 else if b < 0xF0 then b % 0x10 else if b < 0xF8 then b % 0x08
  else if b < 0xFC then b % 0x04 else if b < 0xFE then b % 0x02 else 0

/-- The code points the engine reads from UTF-8 bytes when it turns them into UTF-16. A byte
below `0xC0` stands for itself; a lead byte takes every continuation byte after it, however
many, into a 32-bit value; and a value below U+0080, a surrogate, U+FFFE or U+FFFF read that way
becomes U+FFFD. -/
def engineCodePoints (bytes : List UInt8) : List Nat :=
  match bytes with
  | [] => []
  | b :: rest =>
    if b.toNat < 0xC0 then b.toNat :: engineCodePoints rest
    else
      let tail := rest.takeWhile (fun x => x.toNat / 64 = 2)
      let c := tail.foldl (fun acc x => (acc * 64 + x.toNat % 64) % Nat.pow 2 32) (leadBits b.toNat)
      let c := if c < 0x80 ∨ c / 2048 = 0x1B ∨ c / 2 = 0x7FFF then 0xFFFD else c
      c :: engineCodePoints (rest.drop tail.length)
termination_by bytes.length
decreasing_by
  all_goals simp only [List.length_cons, List.length_drop]
  all_goals omega

/-- The UTF-16 code units the engine writes for a code point: one up to U+FFFF, a surrogate pair
above. -/
def engineUnits (c : Nat) : List Nat :=
  if c ≤ 0xFFFF then [c] else [0xD800 + (c - 0x10000) / 1024 % 1024, 0xDC00 + c % 1024]

/-- The UTF-16 code units the engine makes of UTF-8 bytes. -/
def utf16UnitsOfUtf8 (bytes : List UInt8) : List Nat := (engineCodePoints bytes).flatMap engineUnits

/-- The bytes of UTF-16 code units, little-endian or big-endian. -/
def unitBytes (bigEndian : Bool) (units : List Nat) : List UInt8 :=
  units.flatMap (fun u =>
    if bigEndian then [UInt8.ofNat (u / 256), UInt8.ofNat (u % 256)]
    else [UInt8.ofNat (u % 256), UInt8.ofNat (u / 256)])

/-- UTF-8 bytes as they come back from the engine's round trip through UTF-16. -/
def throughUtf16 (bytes : List UInt8) : List UInt8 := unitsToUtf8 (utf16UnitsOfUtf8 bytes)

end Text

end DocStore
