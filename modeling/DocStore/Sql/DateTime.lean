import DocStore.Sql.Printf
import DocStore.Time.Instant
/-!
# Dates and times of the engine

The date and time functions (`date`, `time`, `datetime`, `julianday`, `unixepoch`,
`strftime`, `timediff`) read their first argument as a moment and then apply modifiers to it.
A moment (`DateTime`) is held the engine's way: as a Julian day number in milliseconds, as a
calendar date, as a time of day with a zone offset, or as a raw number still to be interpreted,
each part marked valid or not, and computed from the others when needed.

* Text moments: `YYYY-MM-DD` (a leading `-` for years before 1), optionally followed by blanks
  or `T` and a time; `HH:MM`, `HH:MM:SS` or `HH:MM:SS.FFF` alone; each optionally followed by a
  zone `Z` or `±HH:MM`; `now`. Numbers are Julian days (or, with a modifier, Unix times).
* Modifiers: `±N days|hours|minutes|seconds|months|years`, `±HH:MM[:SS[.FFF]]`,
  `±YYYY-MM-DD[ HH:MM[:SS]]`, `start of day|month|year`, `weekday N`, `unixepoch`,
  `julianday`, `auto`, `localtime`, `utc` (local time is universal time here), `subsec`.

Conversions between the Julian day and the calendar follow the engine's formulas, including
their binary64 arithmetic, so that rounding at the edges comes out as the engine's does.
-/

namespace DocStore

namespace Sql

/-- The binary64 nearest to `sig · 10 ^ e10`. -/
def decimalConst (sig : Nat) (e10 : Int) : Binary64 :=
  let r := if 0 ≤ e10 then Binary64.roundScaled false (sig * Nat.pow 10 e10.toNat) 0
    else Binary64.roundRatio false sig (Nat.pow 10 (-e10).toNat)
  r.getD Binary64.zero

/-- Whether one binary64 is below another. -/
def realLt (x y : Binary64) : Bool := Binary64.compareValue x y == .lt

/-- The difference of two binary64 numbers, rounded. -/
def subReals (x y : Binary64) : Binary64 := addReals x y.negate

/-- A moment as the date and time functions hold it. -/
structure DateTime where
  /-- The Julian day number times 86400000. -/
  jd : Int := 0
  year : Int := 0
  month : Int := 0
  day : Int := 0
  hour : Int := 0
  minute : Int := 0
  /-- The zone offset in minutes. -/
  tz : Int := 0
  seconds : Binary64 := Binary64.zero
  validJD : Bool := false
  /-- The seconds hold a number not yet interpreted. -/
  rawS : Bool := false
  validYMD : Bool := false
  validHMS : Bool := false
  validTZ : Bool := false
  tzSet : Bool := false
  isError : Bool := false
  useSubsec : Bool := false
deriving Repr, Inhabited

namespace DateTime

/-- A moment that failed: every part cleared. -/
def failed : DateTime := { isError := true }

/-- The largest Julian day (in milliseconds) the functions accept: 9999-12-31 23:59:59.999. -/
def maxJD : Int := 464269060799999

/-- Whether a Julian day in milliseconds is in the accepted range. -/
def validJulianDay (jd : Int) : Bool := 0 ≤ jd && jd ≤ maxJD

/-- Fill in the Julian day from the date (2000-01-01 when there is none), the time and the zone.
Years outside -4713 to 9999 and raw numbers fail. -/
def computeJD (p : DateTime) : DateTime :=
  if p.validJD then p else
  let (y, m, d) := if p.validYMD then (p.year, p.month, p.day) else (2000, 1, 1)
  if y < -4713 ∨ y > 9999 ∨ p.rawS then failed else
  let (y, m) := if m ≤ 2 then (y - 1, m + 12) else (y, m)
  let a := y.tdiv 100
  let b := 2 - a + a.tdiv 4
  let x1 := (36525 * (y + 4716)).tdiv 100
  let x2 := (306001 * (m + 1)).tdiv 10000
  let p := { p with jd := (x1 + x2 + d + b - 1524) * 86400000 - 43200000, validJD := true }
  if p.validHMS then
    let ms := (addReals (mulReals p.seconds (decimalConst 1000 0)) (decimalConst 5 (-1))).truncate
    let p := { p with jd := p.jd + p.hour * 3600000 + p.minute * 60000 + ms }
    if p.validTZ then
      { p with jd := p.jd - p.tz * 60000, validYMD := false, validHMS := false, validTZ := false }
    else p
  else p

/-- Fill in the date from the Julian day (2000-01-01 when there is none). -/
def computeYMD (p : DateTime) : DateTime :=
  if p.validYMD then p
  else if !p.validJD then { p with year := 2000, month := 1, day := 1, validYMD := true }
  else if !validJulianDay p.jd then failed
  else
    let z := (p.jd + 43200000).tdiv 86400000
    let a := (divReals (subReals (Binary64.ofInt z) (decimalConst 186721625 (-2)))
      (decimalConst 3652425 (-2))).truncate
    let a := z + 1 + a - a.tdiv 4
    let b := a + 1524
    let c := (divReals (subReals (Binary64.ofInt b) (decimalConst 1221 (-1))) (decimalConst 36525 (-2))).truncate
    let d := (36525 * (c % 32768)).tdiv 100
    let e := (divReals (Binary64.ofInt (b - d)) (decimalConst 306001 (-4))).truncate
    let x1 := (mulReals (decimalConst 306001 (-4)) (Binary64.ofInt e)).truncate
    let month := if e < 14 then e - 1 else e - 13
    { p with day := b - d - x1, month, year := if month > 2 then c - 4716 else c - 4715, validYMD := true }

/-- Fill in the time of day from the Julian day. -/
def computeHMS (p : DateTime) : DateTime :=
  if p.validHMS then p else
  let p := computeJD p
  let dayMs := (p.jd + 43200000).tmod 86400000
  let dayMin := dayMs.tdiv 60000
  { p with seconds := divReals (Binary64.ofInt (dayMs.tmod 60000)) (decimalConst 1000 0),
           minute := dayMin.tmod 60, hour := dayMin.tdiv 60, rawS := false, validHMS := true }

/-- Fill in both the date and the time of day. -/
def computeYMDHMS (p : DateTime) : DateTime := computeHMS (computeYMD p)

/-- Forget the date, the time and the zone, keeping the Julian day. -/
def clearYMDHMSTZ (p : DateTime) : DateTime :=
  { p with validYMD := false, validHMS := false, validTZ := false }

/-- A number taken as a moment: its value is kept raw, and read as a Julian day when it is one. -/
def ofRawNumber (p : DateTime) (r : Binary64) : DateTime :=
  let p := { p with seconds := r, rawS := true }
  if !realLt r Binary64.zero ∧ realLt r (decimalConst 53734845 (-1)) then
    { p with jd := (addReals (mulReals r (decimalConst 86400000 0)) (decimalConst 5 (-1))).truncate, validJD := true }
  else p

/-- Local time, which here is universal time: the date and time of day of the Julian day, as
the system's calendar breaks it down, years outside 1970 to 2037 moved into that range and
back by a multiple of four years. -/
def toLocaltime (p : DateTime) : DateTime :=
  let p := computeJD p
  let (t, yearDiff) : Int × Int :=
    if p.jd < 210866760000000 ∨ p.jd > 213014145600000 then
      let x := computeYMDHMS p
      let diff := (2000 + x.year.tmod 4) - x.year
      let x := computeJD { x with year := x.year + diff, validJD := false }
      (x.jd.tdiv 1000 - 210866760000, diff)
    else (p.jd.tdiv 1000 - 210866760000, 0)
  let days := t.fdiv 86400
  let secs := t.fmod 86400
  let (y, m, d) := Calendar.civilFromDays days
  { p with year := y - yearDiff, month := m, day := d, hour := secs / 3600, minute := secs % 3600 / 60,
           seconds := addReals (Binary64.ofInt (secs % 60))
             (mulReals (Binary64.ofInt (p.jd.tmod 1000)) (decimalConst 1 (-3))),
           validYMD := true, validHMS := true, validJD := false, rawS := false, validTZ := false,
           isError := false }

/-- Universal time from local time: the Julian day whose local time is this moment, found by
correcting a guess up to four times. -/
def toUtc (p : DateTime) : DateTime :=
  if p.tzSet then p else
  let p := computeJD p
  let orig := p.jd
  let rec refine : Nat → Int → Int → Int
    | 0, guess, _ => guess
    | n + 1, guess, err =>
      let guess := guess - err
      let back := computeJD (toLocaltime { jd := guess, validJD := true })
      let err := back.jd - orig
      if err = 0 then guess else refine n guess err
  { jd := refine 4 orig 0, validJD := true, tzSet := true }

end DateTime

/-! ## Reading moments -/

/-- One field of a fixed-width date or time: its digit count, its bounds, and the character
that must follow it (none for the last field). -/
structure DigitField where
  width : Nat
  lo : Nat
  hi : Nat
  sep : Option UInt8

/-- Read fixed-width fields in order; the values of those read before the first that fails. -/
def readFields : List DigitField → List UInt8 → List Nat
  | [], _ => []
  | f :: fs, s =>
    let ds := s.take f.width
    if ds.length < f.width ∨ !ds.all isDigitByte then []
    else
      let v := ds.foldl (fun acc d => acc * 10 + digitValue d) 0
      let rest := s.drop f.width
      if v < f.lo ∨ v > f.hi then []
      else match f.sep with
        | some c => if rest.head? = some c then v :: readFields fs (rest.drop 1) else []
        | none => [v]

/-- `HH:MM` of a zone offset. -/
def zoneFields : List DigitField := [⟨2, 0, 14, some 58⟩, ⟨2, 0, 59, none⟩]

/-- `HH:MM` of a time. -/
def clockFields : List DigitField := [⟨2, 0, 24, some 58⟩, ⟨2, 0, 59, none⟩]

/-- `YYYY-MM-DD` of a date. -/
def dateFields : List DigitField := [⟨4, 0, 14712, some 45⟩, ⟨2, 1, 12, some 45⟩, ⟨2, 1, 31, none⟩]

/-- Whether bytes spell a word, ASCII letters without case. -/
def spellsWord (s : List UInt8) (word : String) : Bool := s.map lowerByte == word.toUTF8.toList

/-- Whether bytes start with a word, ASCII letters without case. -/
def startsWithWord (s : List UInt8) (word : String) : Bool :=
  let w := word.toUTF8.toList
  (s.take w.length).map lowerByte == w

/-- Read a zone after a time: blanks, then `Z` or `±HH:MM`, then blanks and the end. True when
the text is not such a zone; an absent zone is fine. -/
def parseTimezone (s : List UInt8) (p : DateTime) : Bool × DateTime :=
  let s := s.dropWhile isSpaceByte
  let p := { p with tz := 0 }
  let finish (rest : List UInt8) (p : DateTime) : Bool × DateTime :=
    (!(rest.dropWhile isSpaceByte).isEmpty, { p with tzSet := true })
  match s with
  | [] => (false, p)
  | c :: rest =>
    if c = 45 ∨ c = 43 then
      match readFields zoneFields rest with
      | [h, m] => finish (rest.drop 5) { p with tz := (if c = 45 then -1 else 1) * ((m : Int) + h * 60) }
      | _ => (true, p)
    else if c = 90 ∨ c = 122 then finish rest p
    else (true, p)

/-- The fraction digits of seconds as the engine reads them: each digit scales the running value
by ten in binary64, and the result is divided by the scale. -/
def fractionValue (ds : List UInt8) : Binary64 :=
  let ten := decimalConst 10 0
  let (ms, scale) := ds.foldl (fun (acc : Binary64 × Binary64) d =>
    (addReals (addReals (mulReals acc.1 ten) (Binary64.ofNat d.toNat)) (Binary64.ofInt (-48)),
      mulReals acc.2 ten)) (Binary64.zero, decimalConst 1 0)
  divReals ms scale

/-- Read `HH:MM[:SS[.FFF]]` and a zone. True when the text is not such a time. -/
def parseHhMmSs (s : List UInt8) (p : DateTime) : Bool × DateTime :=
  match readFields clockFields s with
  | [h, m] =>
    let s := s.drop 5
    let parsed : Option (Nat × Binary64 × List UInt8) :=
      match s with
      | 58 :: r =>
        match readFields [⟨2, 0, 59, none⟩] r with
        | [sec] =>
          let r := r.drop 2
          match r with
          | 46 :: d :: more =>
            if isDigitByte d then
              let ds := (d :: more).takeWhile isDigitByte
              some (sec, fractionValue ds, (d :: more).drop ds.length)
            else some (sec, Binary64.zero, r)
          | _ => some (sec, Binary64.zero, r)
        | _ => none
      | _ => some (0, Binary64.zero, s)
    match parsed with
    | none => (true, p)
    | some (sec, frac, rest) =>
      let p := { p with validJD := false, rawS := false, validHMS := true, hour := h, minute := m,
                        seconds := addReals (Binary64.ofNat sec) frac }
      let (bad, p) := parseTimezone rest p
      if bad then (true, p) else (false, { p with validTZ := p.tz ≠ 0 })
  | _ => (true, p)

/-- Read `[-]YYYY-MM-DD`, optionally followed by blanks or `T` and a time. True when the text is
not such a date. -/
def parseYyyyMmDd (s : List UInt8) (p : DateTime) : Bool × DateTime :=
  let (neg, s) := match s with
    | 45 :: r => (true, r)
    | r => (false, r)
  match readFields dateFields s with
  | [y, m, d] =>
    let s := (s.drop 10).dropWhile (fun b => isSpaceByte b || b = 84)
    let (bad, p1) := parseHhMmSs s p
    let timed : Option DateTime :=
      if !bad then some p1 else if s.isEmpty then some { p1 with validHMS := false } else none
    match timed with
    | none => (true, p1)
    | some p =>
      let p := { p with validJD := false, validYMD := true, year := if neg then -(y : Int) else y,
                        month := m, day := d }
      (false, if p.validTZ then p.computeJD else p)
  | _ => (true, p)

/-- Read a moment's text: a date, a time, `now`, a number, or `subsec`. -/
def parseDateOrTime (now : Int) (s : List UInt8) (p : DateTime) : Option DateTime :=
  let (bad, p1) := parseYyyyMmDd s p
  if !bad then some p1 else
  let (bad, p2) := parseHhMmSs s p1
  if !bad then some p2 else
  if spellsWord s "now" then (if now > 0 then some { p2 with jd := now, validJD := true } else none)
  else match readReal s with
    | (r, .whole _) => some (p2.ofRawNumber r)
    | _ =>
      if spellsWord s "subsec" ∨ spellsWord s "subsecond" then
        (if now > 0 then some { p2 with useSubsec := true, jd := now, validJD := true } else none)
      else none

/-- The units of `±N unit` modifiers: name, the bound on `N` (as the engine's single-precision
constants hold it) and milliseconds per unit over a thousand. -/
def transforms : List (String × Nat × Nat) :=
  [("second", 464269992787968, 1), ("minute", 7737900007424, 60), ("hour", 128969998336, 3600),
   ("day", 5373485, 86400), ("month", 176546, 2592000), ("year", 14713, 31536000)]

/-- A month count moved into 1 to 12, the years carried. -/
def normalizeMonth (p : DateTime) : DateTime :=
  let x := if p.month > 0 then (p.month - 1).tdiv 12 else (p.month - 12).tdiv 12
  { p with year := p.year + x, month := p.month - x * 12 }

/-- Apply `±YYYY-MM-DD` (already read) to a moment. -/
def shiftDate (p : DateTime) (neg : Bool) (y m d : Nat) : DateTime :=
  let p := { p.computeYMDHMS with validJD := false }
  let p := if neg then { p with year := p.year - y, month := p.month - m }
    else { p with year := p.year + y, month := p.month + m }
  let p := (normalizeMonth p).computeJD
  let dd : Int := if neg then -(d : Int) else d
  { p with validHMS := false, validYMD := false, jd := p.jd + dd * 86400000 }

/-- Apply `±HH:MM[:SS[.FFF]]` to a moment: the time of day it names, within one day, added or
taken away. -/
def shiftTime (p : DateTime) (neg : Bool) (s : List UInt8) : Option DateTime :=
  let s := match s with
    | b :: r => if isDigitByte b then b :: r else r
    | [] => []
  let (bad, tx) := parseHhMmSs s {}
  if bad then none else
  let tx := tx.computeJD
  let t := tx.jd - 43200000
  let t := t - t.tdiv 86400000 * 86400000
  let t := if neg then -t else t
  let p := p.computeJD.clearYMDHMSTZ
  some { p with jd := p.jd + t }

/-- Apply `±N unit` to a moment. -/
def shiftUnits (p : DateTime) (r : Binary64) (unit : List UInt8) : Option DateTime :=
  let unit := unit.dropWhile isSpaceByte
  let n := unit.length
  if n > 10 ∨ n < 3 then none else
  let unit := if lowerByte (unit.getLastD 0) = 115 then unit.dropLast else unit
  let p := p.computeJD
  let rounder := if realLt r Binary64.zero then decimalConst 5 (-1) |>.negate else decimalConst 5 (-1)
  match transforms.find? (fun (name, limit, _) =>
      spellsWord unit name ∧ realLt (Binary64.ofNat limit).negate r ∧ realLt r (Binary64.ofNat limit)) with
  | none => none
  | some (name, _, perUnit) =>
    let whole := r.truncate
    let (p, r) :=
      if name = "month" then
        let p := normalizeMonth { p.computeYMDHMS with month := p.computeYMDHMS.month + whole }
        ({ p with validJD := false }, subReals r (Binary64.ofInt whole))
      else if name = "year" then
        let q := p.computeYMDHMS
        ({ q with year := q.year + whole, validJD := false }, subReals r (Binary64.ofInt whole))
      else (p, r)
    let p := p.computeJD
    let delta := (addReals (mulReals (mulReals r (decimalConst 1000 0)) (Binary64.ofNat perUnit)) rounder).truncate
    some { p with jd := p.jd + delta }.clearYMDHMSTZ

/-- Apply a modifier that starts with a sign or a digit. -/
def numericModifier (p : DateTime) (z : List UInt8) : Option DateTime :=
  let z0 := z.headD 0
  -- The number ends at a colon, a blank, or the dash after a four- or five-digit year.
  let ends (n : Nat) : Bool :=
    match z[n]? with
    | none => true
    | some c =>
      c = 58 || isSpaceByte c ||
        (c = 45 && ((n = 5 && (readFields [⟨4, 0, 14712, none⟩] (z.drop 1)).length == 1) ||
          (n = 6 && (readFields [⟨5, 0, 14712, none⟩] (z.drop 1)).length == 1)))
  let n := ((List.range z.length).drop 1).find? ends |>.getD z.length
  let (r, verdict) := readReal (z.take n)
  match verdict with
  | .whole _ =>
    match z[n]? with
    | some 45 =>
      if z0 ≠ 43 ∧ z0 ≠ 45 then none else
      let fields : List DigitField :=
        [⟨n - 1, 0, 14712, some 45⟩, ⟨2, 0, 12, some 45⟩, ⟨2, 0, 31, none⟩]
      match readFields fields (z.drop 1) with
      | [y, m, d] =>
        if m ≥ 12 ∨ d ≥ 31 then none else
        let p := shiftDate p (z0 = 45) y m d
        let after := z.drop (n + 6)
        match after with
        | [] => some p
        | c :: rest =>
          if isSpaceByte c ∧ (readFields clockFields rest).length = 2 then shiftTime p (z0 = 45) rest
          else none
      | _ => none
    | some 58 => shiftTime p (z0 = 45) z
    | _ => shiftUnits p r (z.drop n)
  | _ => none

/-- Apply one modifier (the `idx`-th argument) to a moment; `none` when it is not one. -/
def parseModifier (z : List UInt8) (p : DateTime) (idx : Nat) : Option DateTime :=
  match (z.headD 0 |> lowerByte).toNat with
  | 97 =>
    if !spellsWord z "auto" then none
    else if idx > 1 then none
    else if !p.rawS ∨ p.validJD then some { p with rawS := false }
    else if !realLt p.seconds (Binary64.ofInt (-210866760000)) ∧
        !realLt (Binary64.ofInt 253402300799) p.seconds then
      let r := addReals (mulReals p.seconds (decimalConst 1000 0)) (decimalConst 210866760000000 0)
      some { p.clearYMDHMSTZ with jd := (addReals r (decimalConst 5 (-1))).truncate, validJD := true,
                                  rawS := false }
    else none
  | 106 =>
    if spellsWord z "julianday" then
      if idx > 1 then none else if p.validJD ∧ p.rawS then some { p with rawS := false } else none
    else none
  | 108 => if spellsWord z "localtime" then some p.toLocaltime else none
  | 117 =>
    if spellsWord z "unixepoch" ∧ p.rawS then
      if idx > 1 then none else
      let r := addReals (mulReals p.seconds (decimalConst 1000 0)) (decimalConst 210866760000000 0)
      if !realLt r Binary64.zero ∧ realLt r (decimalConst 464269060800000 0) then
        some { p.clearYMDHMSTZ with jd := (addReals r (decimalConst 5 (-1))).truncate, validJD := true,
                                    rawS := false }
      else none
    else if spellsWord z "utc" then some p.toUtc
    else none
  | 119 =>
    if !startsWithWord z "weekday " then none else
    match readReal (z.drop 8) with
    | (r, .whole _) =>
      let n := r.truncate
      if !realLt r Binary64.zero ∧ realLt r (decimalConst 7 0) ∧ Binary64.compareInt n r == .eq then
        let p := { p.computeYMDHMS with validTZ := false, validJD := false }.computeJD
        let w := ((p.jd + 129600000).tdiv 86400000).tmod 7
        let w := if w > n then w - 7 else w
        some { p with jd := p.jd + (n - w) * 86400000 }.clearYMDHMSTZ
      else none
    | _ => none
  | 115 =>
    if !startsWithWord z "start of " then
      if spellsWord z "subsec" ∨ spellsWord z "subsecond" then some { p with useSubsec := true } else none
    else if !p.validJD ∧ !p.validYMD ∧ !p.validHMS then none
    else
      let rest := z.drop 9
      let p := { p.computeYMD with validHMS := true, hour := 0, minute := 0, seconds := Binary64.zero,
                                   rawS := false, validTZ := false, validJD := false }
      if spellsWord rest "month" then some { p with day := 1 }
      else if spellsWord rest "year" then some { p with month := 1, day := 1 }
      else if spellsWord rest "day" then some p
      else none
  | c => if c = 43 ∨ c = 45 ∨ (48 ≤ c ∧ c ≤ 57) then numericModifier p z else none

/-- The moment the arguments of a date function name, or `none` (which makes the function's
value NULL): the first argument read as a moment (none at all is now), then each modifier in
turn. A lone date past the 28th is read back from its Julian day, so that 2023-02-31 is
2023-03-03. -/
def readMoment (now : Int) (args : List SqlValue) : Option DateTime :=
  match args with
  | [] => if now > 0 then some { jd := now, validJD := true } else none
  | first :: mods => do
    let start ← match first with
      | .integer _ | .real _ => some (({} : DateTime).ofRawNumber (realValue first))
      | v => match textBytes v with
        | some s => parseDateOrTime now (textView s) {}
        | none => none
    let p ← mods.zipIdx.foldlM (fun p (m, i) => do
      let z ← textBytes m
      parseModifier (textView z) p (i + 1)) start
    let p := p.computeJD
    if p.isError ∨ !DateTime.validJulianDay p.jd then none
    else if args.length = 1 ∧ p.validYMD ∧ p.day > 28 then some { p with validYMD := false }
    else some p

/-! ## Writing moments -/

/-- Bytes of a string. -/
def bytesOf (s : String) : List UInt8 := s.toUTF8.toList

/-- A number written by a `printf` format. -/
def formatted (fmt : String) (args : List SqlValue) : List UInt8 :=
  let f := bytesOf fmt
  formatText (f.length + 1) f args

/-- A digit of a number: `'0' + (v / 10 ^ k) % 10`. -/
def digitAt (v : Int) (k : Nat) : UInt8 := UInt8.ofNat (48 + ((v.tdiv (Nat.pow 10 k)).tmod 10).toNat)

/-- `YYYY-MM-DD`, with a `-` before years below 1. -/
def dateText (p : DateTime) : List UInt8 :=
  let y := p.year.natAbs
  (if p.year < 0 then [45] else []) ++
    [digitAt y 3, digitAt y 2, digitAt y 1, digitAt y 0, 45, digitAt p.month 1, digitAt p.month 0, 45,
     digitAt p.day 1, digitAt p.day 0]

/-- `HH:MM:SS`, or `HH:MM:SS.SSS` with subsecond precision. -/
def timeText (p : DateTime) : List UInt8 :=
  let hm := [digitAt p.hour 1, digitAt p.hour 0, 58, digitAt p.minute 1, digitAt p.minute 0, 58]
  if p.useSubsec then
    let s := (addReals (mulReals (decimalConst 1000 0) p.seconds) (decimalConst 5 (-1))).truncate
    hm ++ [digitAt s 4, digitAt s 3, 46, digitAt s 2, digitAt s 1, digitAt s 0]
  else
    let s := p.seconds.truncate
    hm ++ [digitAt s 1, digitAt s 0]

/-- The Julian day in days, as a real. -/
def julianDays (p : DateTime) : Binary64 := divReals (Binary64.ofInt p.jd) (decimalConst 86400000 0)

/-- Seconds since 1970-01-01 with milliseconds, as a real. -/
def unixSeconds (p : DateTime) : Binary64 :=
  divReals (Binary64.ofInt (p.jd - 210866760000000)) (decimalConst 1000 0)

/-- `strftime(format, moment...)`: the format with each `%` conversion replaced; NULL for an
unknown conversion. -/
def strftimeText (fmt : List UInt8) (p : DateTime) : Option (List UInt8) :=
  let p := p.computeJD.computeYMDHMS
  let int (v : Int) : SqlValue := .integer v
  let conv (c : UInt8) : Option (List UInt8) :=
    match c.toNat with
    | 100 => some (formatted "%02d" [int p.day])
    | 101 => some (formatted "%2d" [int p.day])
    | 102 =>
      let s := if realLt (decimalConst 59999 (-3)) p.seconds then decimalConst 59999 (-3) else p.seconds
      some (formatted "%06.3f" [.real s])
    | 70 => some (formatted "%04d-%02d-%02d" [int p.year, int p.month, int p.day])
    | 72 => some (formatted "%02d" [int p.hour])
    | 107 => some (formatted "%2d" [int p.hour])
    | 73 | 108 =>
      let h := if p.hour > 12 then p.hour - 12 else p.hour
      let h := if h = 0 then 12 else h
      some (formatted (if c.toNat = 73 then "%02d" else "%2d") [int h])
    | 87 | 106 =>
      let y := { p with validJD := false, month := 1, day := 1 }.computeJD
      let nDay := (p.jd - y.jd + 43200000).tdiv 86400000
      if c.toNat = 87 then
        let wd := ((p.jd + 43200000).tdiv 86400000).tmod 7
        some (formatted "%02d" [int ((nDay + 7 - wd).tdiv 7)])
      else some (formatted "%03d" [int (nDay + 1)])
    | 74 => some (formatted "%.16g" [.real (julianDays p)])
    | 109 => some (formatted "%02d" [int p.month])
    | 77 => some (formatted "%02d" [int p.minute])
    | 112 => some (bytesOf (if p.hour ≥ 12 then "PM" else "AM"))
    | 80 => some (bytesOf (if p.hour ≥ 12 then "pm" else "am"))
    | 82 => some (formatted "%02d:%02d" [int p.hour, int p.minute])
    | 115 =>
      if p.useSubsec then some (formatted "%.3f" [.real (unixSeconds p)])
      else some (formatted "%lld" [int (p.jd.tdiv 1000 - 210866760000)])
    | 83 => some (formatted "%02d" [int p.seconds.truncate])
    | 84 => some (formatted "%02d:%02d:%02d" [int p.hour, int p.minute, int p.seconds.truncate])
    | 117 | 119 =>
      let w := ((p.jd + 129600000).tdiv 86400000).tmod 7
      let w := if w = 0 ∧ c.toNat = 117 then 7 else w
      some [UInt8.ofNat (48 + w.toNat)]
    | 89 => some (formatted "%04d" [int p.year])
    | 37 => some [37]
    | _ => none
  let rec go : Nat → List UInt8 → Option (List UInt8)
    | 0, _ => some []
    | _ + 1, [] => some []
    | fuel + 1, 37 :: rest =>
      match rest with
      | [] => none
      | c :: rest' => do
        let out ← conv c
        let tail ← go fuel rest'
        return out ++ tail
    | fuel + 1, b :: rest => do
      let tail ← go fuel rest
      return b :: tail
  go (fmt.length + 1) fmt

/-- `timediff(a, b)`: the time from `b` to `a` as `±YYYY-MM-DD HH:MM:SS.SSS`, in whole years
and months first and then days and time. -/
def timeDiffText (now : Int) (a b : SqlValue) : Option (List UInt8) := do
  let d1 ← readMoment now [a]
  let d2 ← readMoment now [b]
  let d1 := d1.computeYMDHMS
  let d2 := d2.computeYMDHMS
  let later := d1.jd ≥ d2.jd
  let y0 : Int := if later then d1.year - d2.year else d2.year - d1.year
  let d2 := if y0 ≠ 0 then { d2 with year := d1.year, validJD := false }.computeJD else d2
  let m0 : Int := if later then d1.month - d2.month else d2.month - d1.month
  let (y0, m0) := if m0 < 0 then (y0 - 1, m0 + 12) else (y0, m0)
  let d2 := if m0 ≠ 0 then { d2 with month := d1.month, validJD := false }.computeJD else d2
  -- Step the month of `d2` until it is no longer past `d1` (or before it, going the other way).
  let rec adjust : Nat → Int → Int → DateTime → Int × Int × DateTime
    | 0, y, m, d2 => (y, m, d2)
    | n + 1, y, m, d2 =>
      if (later ∧ d1.jd < d2.jd) ∨ (!later ∧ d1.jd > d2.jd) then
        let (m, y) := if m - 1 < 0 then (11, y - 1) else (m - 1, y)
        let d2 := if later then
            (if d2.month - 1 < 1 then { d2 with month := 12, year := d2.year - 1 } else { d2 with month := d2.month - 1 })
          else
            (if d2.month + 1 > 12 then { d2 with month := 1, year := d2.year + 1 } else { d2 with month := d2.month + 1 })
        adjust n y m { d2 with validJD := false }.computeJD
      else (y, m, d2)
  let (y, m, d2) := adjust 24 y0 m0 d2
  let span := (if later then d1.jd - d2.jd else d2.jd - d1.jd) + 148699540800000
  let d := ({ jd := span, validJD := true } : DateTime).computeYMDHMS
  let sign : SqlValue := .ofString (if later then "+" else "-")
  return formatted "%c%04d-%02d-%02d %02d:%02d:%06.3f"
    [sign, .integer y, .integer m, .integer (d.day - 1), .integer d.hour, .integer d.minute, .real d.seconds]

/-- The value of a date and time function given its upper-case name, or `none` when the name is
not one; `now` is the current moment as a Julian day in milliseconds. -/
def dateTimeFunction (now : Int) (name : String) (args : List SqlValue) : Option SqlValue :=
  let text (b : Option (List UInt8)) : SqlValue := match b with
    | some b => .text b
    | none => .null
  match name with
  | "DATE" => some (text ((readMoment now args).map (fun p => dateText p.computeYMD)))
  | "TIME" => some (text ((readMoment now args).map (fun p => timeText p.computeHMS)))
  | "DATETIME" => some (text ((readMoment now args).map (fun p =>
      let p := p.computeYMDHMS
      dateText p ++ [32] ++ timeText p)))
  | "JULIANDAY" => some (match readMoment now args with
      | some p => .real (julianDays p)
      | none => .null)
  | "UNIXEPOCH" => some (match readMoment now args with
      | some p =>
        let p := p.computeJD
        if p.useSubsec then .real (unixSeconds p) else .integer (p.jd.tdiv 1000 - 210866760000)
      | none => .null)
  | "STRFTIME" => some (match args with
      | f :: rest => match textBytes f, readMoment now rest with
        | some fmt, some p => text (strftimeText (textView fmt) p)
        | _, _ => .null
      | [] => .null)
  | "TIMEDIFF" => some (match args with
      | [a, b] => text (timeDiffText now a b)
      | _ => .null)
  | _ => none

end Sql

end DocStore
