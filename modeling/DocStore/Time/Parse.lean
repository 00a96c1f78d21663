import DocStore.Time.Instant
import DocStore.Text.Classes
/-!
# Reading timestamps

Three readings of date-time text, each to an `Instant`:

* `parseRfc3339`: RFC 3339 proper. `YYYY-MM-DD`, a `T`, `t` or space, `HH:MM:SS`, an optional
  fraction (digits past the ninth are dropped), and `Z`, `z` or an offset `±HH:MM` within 23:59.
  Nothing may follow.
* `parseLocal`: the same date and time with an optional fraction and no offset, read as UTC.
  Its numbers may have fewer digits than the pattern shows.
* `parseRelaxed`: RFC 3339 with blanks allowed between the parts, a year of any length with an
  optional sign, and `UTC` or an offset with `:` or blanks between hours and minutes (hours up to
  99, refused later when a day or more). Trailing blanks are allowed.

All three accept a leap second (`:60`). A text that reads as a date that does not exist, or a
field out of its range, is refused. Refusals carry a cause, which `parseRelaxed` reports.
-/

namespace DocStore

/-- Why a date-time text was refused. -/
inductive TimeError where
  | outOfRange
  | impossible
  | notEnough
  | invalid
  | tooShort
  | tooLong
deriving DecidableEq, Repr

/-- The text of a refusal. -/
def TimeError.text : TimeError → String
  | .outOfRange => "input is out of range"
  | .impossible => "no possible date and time matching input"
  | .notEnough => "input is not enough for a unique date and time"
  | .invalid => "input contains invalid characters"
  | .tooShort => "premature end of input"
  | .tooLong => "trailing input"

/-- The fields read from a date-time text. -/
structure TimeFields where
  year : Int := 0
  month : Nat := 0
  day : Nat := 0
  hour : Nat := 0
  minute : Nat := 0
  second : Nat := 0
  nanos : Nat := 0
  offset : Int := 0
deriving Repr

/-- The reading monad over the remaining characters. -/
abbrev TimeReader := StateT (List Char) (Except TimeError)

namespace TimeReader

/-- Is the character an ASCII digit? -/
def isAsciiDigit (c : Char) : Bool := '0' ≤ c && c ≤ '9'

/-- The length of characters in UTF-8 bytes: lengths are checked in bytes. -/
def byteLength (s : List Char) : Nat := s.foldl (fun n c => n + c.utf8Size) 0

/-- Read between `lo` and `hi` ASCII digits as a number. Fewer characters than `lo` is
`tooShort`; a non-digit before `lo` digits is `invalid`. -/
def number (lo hi : Nat) : TimeReader Nat := do
  let s ← get
  if byteLength s < lo then throw .tooShort
  let ds := (s.take hi).takeWhile isAsciiDigit
  if ds.length < lo then throw .invalid
  set (s.drop ds.length)
  return ds.foldl (fun n c => n * 10 + (c.toNat - 48)) 0

/-- Read a year: after a sign, any number of digits whose value stays below `2 ^ 63`; without a
sign, one to four digits. A year past 32 bits is out of range. -/
def year : TimeReader Int := do
  let long : TimeReader Nat := do
    let s ← get
    if s.isEmpty then throw .tooShort
    let ds := s.takeWhile isAsciiDigit
    if ds.isEmpty then throw .invalid
    let v : Nat := ds.foldl (fun n c => n * 10 + (c.toNat - 48)) 0
    if Nat.pow 2 63 ≤ v then throw .outOfRange
    set (s.drop ds.length)
    return v
  let y ← (match ← get with
    | '-' :: rest => do set rest; pure (-((← long) : Int))
    | '+' :: rest => do set rest; pure ((← long) : Int)
    | _ => do pure ((← number 1 4) : Int) : TimeReader Int)
  if y < -(Nat.pow 2 31 : Int) ∨ (Nat.pow 2 31 : Int) ≤ y then throw .outOfRange
  return y

/-- Read one exact character. -/
def expect (c : Char) : TimeReader Unit := do
  match ← get with
  | [] => throw .tooShort
  | d :: rest => if d = c then set rest else throw .invalid

/-- Read a literal text: too short when fewer characters remain. -/
def literal (t : List Char) : TimeReader Unit := do
  let s ← get
  if byteLength s < byteLength t then throw .tooShort
  if s.take t.length = t then set (s.drop t.length) else throw .invalid

/-- Skip white space. -/
def blanks : TimeReader Unit := modify Text.trimStart

/-- Read an optional fraction: a point and at least one digit; the first nine digits count. -/
def fraction : TimeReader Nat := do
  match ← get with
  | '.' :: rest =>
    set rest
    let ds := rest.takeWhile isAsciiDigit
    if rest.isEmpty then throw .tooShort
    if ds.isEmpty then throw .invalid
    set (rest.drop ds.length)
    let nine := ds.take 9
    let v := nine.foldl (fun n c => n * 10 + (c.toNat - 48)) 0
    return v * Nat.pow 10 (9 - nine.length)
  | _ => return 0

/-- Read the date-time separator: `T`, `t` or a space. -/
def separator : TimeReader Unit := do
  match ← get with
  | [] => throw .tooShort
  | c :: rest => if c = 'T' ∨ c = 't' ∨ c = ' ' then set rest else throw .invalid

/-- Read an offset: `Z`, `z`, or a sign (`+`, `-` or the minus sign U+2212), two hour digits,
what `sep` skips, and two minute digits (the first of them at most 5). -/
def offset (sep : TimeReader Unit) : TimeReader Int := do
  match ← get with
  | 'Z' :: rest => set rest; return 0
  | 'z' :: rest => set rest; return 0
  | c :: rest =>
    let negative ← (if c = '+' then pure false
      else if c = '-' ∨ c.toNat = 0x2212 then pure true
      else throw .invalid : TimeReader Bool)
    set rest
    if byteLength rest < 2 then throw .tooShort
    let hours ← (match rest with
      | h1 :: h2 :: more =>
        if isAsciiDigit h1 && isAsciiDigit h2 then do
          set more; pure ((h1.toNat - 48) * 10 + (h2.toNat - 48))
        else throw .invalid
      | _ => throw .invalid : TimeReader Nat)
    sep
    let afterSep ← get
    if byteLength afterSep < 2 then throw .tooShort
    let minutes ← (match afterSep with
      | m1 :: m2 :: more =>
        if '0' ≤ m1 && m1 ≤ '5' && isAsciiDigit m2 then do
          set more; pure ((m1.toNat - 48) * 10 + (m2.toNat - 48))
        else if '6' ≤ m1 && m1 ≤ '9' && isAsciiDigit m2 then throw .outOfRange
        else throw .invalid
      | _ => throw .invalid : TimeReader Nat)
    let secs : Int := (hours * 3600 + minutes * 60 : Nat)
    return (if negative then -secs else secs)
  | [] => throw .tooShort

/-- Check a field against its range. -/
def ranged (v lo hi : Nat) : TimeReader Nat :=
  if lo ≤ v ∧ v ≤ hi then pure v else throw .outOfRange

end TimeReader

namespace TimeFields

/-- The first day of the calendar's range. -/
def firstDay : CivilTime := ⟨-262143, 1, 1, 0, 0, 0⟩

/-- The last second of the calendar's range. -/
def lastSecond : CivilTime := ⟨262142, 12, 31, 23, 59, 59⟩

/-- The instant the fields denote. The date must exist and lie within the years -262143 to
262142; an instant that the offset moves out of that range is impossible. -/
def toInstant (f : TimeFields) : Except TimeError Instant :=
  if !Calendar.validDate f.year f.month f.day ∨ f.year < -262143 ∨ 262142 < f.year then
    .error .outOfRange
  else if 86400 ≤ f.offset.natAbs then .error .outOfRange
  else
    let (sec, leap) := if f.second = 60 then (59, 1000000000) else (f.second, 0)
    let t := Instant.ofCivil ⟨f.year, f.month, f.day, f.hour, f.minute, sec⟩ (leap + f.nanos)
    let utc := t.seconds - f.offset
    if utc < (Instant.ofCivil firstDay 0).seconds ∨ (Instant.ofCivil lastSecond 0).seconds < utc then
      .error .impossible
    else .ok { t with seconds := utc }

end TimeFields

open TimeReader in
/-- Read `YYYY-MM-DD`, the separator and `HH:MM:SS` with its fraction, strictly. -/
def readStrictDateTime : TimeReader TimeFields := do
  let y ← number 4 4
  expect '-'
  let mo ← number 2 2 >>= (ranged · 1 12)
  expect '-'
  let d ← number 2 2 >>= (ranged · 1 31)
  separator
  let h ← number 2 2 >>= (ranged · 0 23)
  expect ':'
  let mi ← number 2 2 >>= (ranged · 0 59)
  expect ':'
  let s ← number 2 2 >>= (ranged · 0 60)
  let n ← fraction
  return { year := y, month := mo, day := d, hour := h, minute := mi, second := s, nanos := n }

/-- RFC 3339 proper; nothing may follow. -/
def parseRfc3339 (s : String) : Except TimeError Instant := do
  let run : TimeReader TimeFields := do
    let f ← readStrictDateTime
    let off ← TimeReader.offset (TimeReader.expect ':')
    if 86340 < off.natAbs then throw .outOfRange
    if !(← get).isEmpty then throw .tooLong
    return { f with offset := off }
  let f ← run.run' s.toList
  f.toInstant

open TimeReader in
/-- The date and time without offset, read as UTC; numbers may be shorter than the pattern. -/
def parseLocal (s : String) : Except TimeError Instant := do
  let run : TimeReader TimeFields := do
    blanks
    let y ← year
    literal ['-']
    blanks
    let mo ← number 1 2 >>= (ranged · 1 12)
    literal ['-']
    blanks
    let d ← number 1 2 >>= (ranged · 1 31)
    literal ['T']
    blanks
    let h ← number 1 2 >>= (ranged · 0 23)
    literal [':']
    blanks
    let mi ← number 1 2 >>= (ranged · 0 59)
    literal [':']
    blanks
    let sec ← number 1 2 >>= (ranged · 0 60)
    let n ← fraction
    if !(← get).isEmpty then throw .tooLong
    return { year := y, month := mo, day := d, hour := h, minute := mi, second := sec, nanos := n }
  let f ← run.run' s.toList
  f.toInstant

open TimeReader in
/-- RFC 3339 with blanks between the parts, any year, `UTC` as an offset and trailing blanks. -/
def parseRelaxed (s : String) : Except TimeError Instant := do
  let run : TimeReader TimeFields := do
    blanks
    let y ← year
    blanks; literal ['-']; blanks
    let mo ← number 1 2 >>= (ranged · 1 12)
    blanks; literal ['-']; blanks
    let d ← number 1 2 >>= (ranged · 1 31)
    separator
    blanks
    let h ← number 1 2 >>= (ranged · 0 23)
    blanks; literal [':']; blanks
    let mi ← number 1 2 >>= (ranged · 0 59)
    blanks; literal [':']; blanks
    let sec ← number 1 2 >>= (ranged · 0 60)
    let n ← fraction
    blanks
    let rest ← get
    let off ← (match rest with
      | a :: b :: c :: more =>
        if [a, b, c].map (fun ch => if 'a' ≤ ch ∧ ch ≤ 'z' then Char.ofNat (ch.toNat - 32) else ch)
            = ['U', 'T', 'C'] then do set more; pure 0
        else TimeReader.offset (modify (List.dropWhile (fun ch => ch = ':' || Text.isWhiteSpace ch)))
      | _ => TimeReader.offset (modify (List.dropWhile (fun ch => ch = ':' || Text.isWhiteSpace ch)))
      : TimeReader Int)
    if !(Text.trimStart (← get)).isEmpty then throw .tooLong
    return { year := y, month := mo, day := d, hour := h, minute := mi, second := sec, nanos := n,
             offset := off }
  let f ← run.run' s.toList
  f.toInstant

/-- Does the text start with `dddd-dd-ddTdd:dd:dd`, where `d` is a decimal digit of any
script? -/
def looksLikeTimestamp (s : String) : Bool :=
  let pattern : List (Option Char) :=
    [none, none, none, none, some '-', none, none, some '-', none, none, some 'T', none, none,
     some ':', none, none, some ':', none, none]
  let cs := s.toList
  cs.length ≥ pattern.length &&
    (List.zip pattern cs).all (fun (p, c) => match p with
      | some lit => c == lit
      | none => Text.isDecimalDigit c)

/-- A revivable timestamp: a text that looks like one and reads as RFC 3339, or else as a date
and time in UTC. -/
def parseTimestamp (s : String) : Option Instant :=
  if !looksLikeTimestamp s then none
  else match parseRfc3339 s with
    | .ok t => some t
    | .error _ =>
      match parseLocal s with
      | .ok t => some t
      | .error _ => none

end DocStore
