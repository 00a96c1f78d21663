import DocStore.Sql.DateTime
/-!
# The engine's scalar functions

`scalarFunction` is the table of the engine's built-in scalar functions other than the JSON
ones: given a function's name (in upper case), the collation its arguments compare under and
the argument values, it gives the value, an error message, or `none` when no such function
exists. Each function reads its arguments the way the engine does:

* text functions read the bytes of a text (numbers by their text, blobs by their bytes read as
  text of the database's encoding, `TextEncoding.blobAsText`); some stop at the first NUL byte
  (`textView`), some read every byte, as noted on each;
* numeric arguments read as `intValue` and `realValue` say, by the numeric prefix of a text, a
  blob read as text first;
* functions that treat a blob as a blob (`length`, `octet_length`, `substr`, `hex`, `quote`,
  `instr` of two blobs, `sign`) and those that pass values on read the arguments as given;
* a function called with a number of arguments it does not take fails with
  `wrong number of arguments to function NAME()`, the name as written.

What a call can see of the connection (the last rowid, the count of changed rows, the clock) is
a `CallContext`.
-/

namespace DocStore

namespace Sql

/-- What a function call can see of the connection: the rowid of the last row inserted, the
rows changed by the last statement and by all statements, the time (a Julian day number in
milliseconds, 0 when the clock is not read) and the encoding of the database's text. -/
structure CallContext where
  lastRowid : Int := 0
  changes : Int := 0
  totalChanges : Int := 0
  now : Int := 0
  encoding : TextEncoding := .utf8
deriving Repr, Inhabited

/-- The options the engine was built with, as `sqlite_compileoption_get` lists them. -/
def buildOptions : List String :=
  ["ATOMIC_INTRINSICS=1", "COMPILER=gcc-11.4.0", "DEFAULT_AUTOVACUUM", "DEFAULT_CACHE_SIZE=-2000",
   "DEFAULT_FILE_FORMAT=4", "DEFAULT_FOREIGN_KEYS", "DEFAULT_JOURNAL_SIZE_LIMIT=-1",
   "DEFAULT_MMAP_SIZE=0", "DEFAULT_PAGE_SIZE=4096", "DEFAULT_PCACHE_INITSZ=20",
   "DEFAULT_RECURSIVE_TRIGGERS", "DEFAULT_SECTOR_SIZE=4096", "DEFAULT_SYNCHRONOUS=2",
   "DEFAULT_WAL_AUTOCHECKPOINT=1000", "DEFAULT_WAL_SYNCHRONOUS=2", "DEFAULT_WORKER_THREADS=0",
   "DIRECT_OVERFLOW_READ", "ENABLE_API_ARMOR", "ENABLE_COLUMN_METADATA", "ENABLE_DBSTAT_VTAB",
   "ENABLE_FTS3", "ENABLE_FTS3_PARENTHESIS", "ENABLE_FTS5", "ENABLE_LOAD_EXTENSION",
   "ENABLE_MEMORY_MANAGEMENT", "ENABLE_RTREE", "ENABLE_STAT4", "HAVE_ISNAN", "MALLOC_SOFT_LIMIT=1024",
   "MAX_ATTACHED=10", "MAX_COLUMN=2000", "MAX_COMPOUND_SELECT=500", "MAX_DEFAULT_PAGE_SIZE=8192",
   "MAX_EXPR_DEPTH=1000", "MAX_FUNCTION_ARG=127", "MAX_LENGTH=1000000000",
   "MAX_LIKE_PATTERN_LENGTH=50000", "MAX_MMAP_SIZE=0x7fff0000", "MAX_PAGE_COUNT=0xfffffffe",
   "MAX_PAGE_SIZE=65536", "MAX_SQL_LENGTH=1000000000", "MAX_TRIGGER_DEPTH=1000",
   "MAX_VARIABLE_NUMBER=32766", "MAX_VDBE_OP=250000000", "MAX_WORKER_THREADS=8", "MUTEX_PTHREADS",
   "SOUNDEX", "SYSTEM_MALLOC", "TEMP_STORE=1", "THREADSAFE=1", "USE_URI"]

/-- Whether the engine was built with an option: the name, with or without its `SQLITE_`, matches
the start of a listed option without ASCII case, up to a character that cannot continue a name. -/
def builtWith (name : String) : Bool :=
  let lower (s : String) : List Char := s.toList.map Char.toLower
  let n := lower name
  let n := if n.take 7 = "sqlite_".toList then n.drop 7 else n
  buildOptions.any (fun o =>
    let ol := lower o
    ol.take n.length == n && (match ol.drop n.length with
      | c :: _ => !(c.isAlphanum || c == '_' || c.toNat ≥ 128)
      | [] => true))

/-- The most bytes a text or blob may hold. -/
def maxLength : Int := 1000000000

/-- The text of `sqlite_source_id()`. -/
def sourceId : String :=
  "2024-01-15 17:01:13 1066602b2b1976fe58b5150777cced894af17c803e068f5918390d6915b46e1d"

/-- The kind name `typeof` gives. -/
def typeofName : SqlValue → String
  | .null => "null"
  | .integer _ => "integer"
  | .real _ => "real"
  | .text _ => "text"
  | .blob _ => "blob"

/-! ## Text functions -/

/-- `length(X)`: the characters of a text up to its first NUL, the bytes of a blob, the
characters of a number's text; NULL for NULL. -/
def lengthOf : SqlValue → SqlValue
  | .null => .null
  | .text s => .integer (charLength s)
  | v => .integer ((textBytes v).getD []).length

/-- `octet_length(X)`: the bytes of a blob, or of the value's text in the database's encoding. -/
def octetLength (enc : TextEncoding) : SqlValue → SqlValue
  | .null => .null
  | .blob b => .integer b.length
  | v => .integer (enc.encode ((textBytes v).getD [])).length

/-- `upper(X)` and `lower(X)`: every byte of the text with ASCII letters mapped. -/
def mapBytes (f : UInt8 → UInt8) : SqlValue → SqlValue
  | .null => .null
  | v => .text (((textBytes v).getD []).map f)

/-- `trim`, `ltrim` and `rtrim`: characters of the set (a space when no set is given) taken
from the front, the back or both of every byte of the text. -/
def trimValue (front back : Bool) (x : SqlValue) (set : Option SqlValue) : SqlValue :=
  match textBytes x with
  | none => .null
  | some bs =>
    match set with
    | none => .text (trimBytes [[32]] front back bs)
    | some s =>
      match textBytes s with
      | none => .null
      | some cs => .text (trimBytes (chars (textView cs)) front back bs)

/-- `replace(X, Y, Z)`: every occurrence of Y in X replaced by Z, over every byte; X unchanged
when Y is empty (or starts with NUL). -/
def replaceValue (x y z : SqlValue) : SqlValue :=
  match textBytes x with
  | none => .null
  | some s =>
    match textBytes y with
    | none => .null
    | some p =>
      if (textView p).isEmpty then .text s
      else match textBytes z with
        | none => .null
        | some r => .text (replaceBytes p r (s.length + 1) s)

/-- `instr(X, Y)`: the position of the first Y in X, counted in characters (in bytes when both
are blobs), 1 for an empty Y and 0 when not found. A blob beside a text is read as text of the
database's encoding. A needle that has bytes but reads as empty text (one odd byte in UTF-16)
is sought as the NUL that ends the text: the needle's first byte is then that NUL. -/
def instrValue (enc : TextEncoding) (x y : SqlValue) : SqlValue :=
  match x, y with
  | .null, _ => .null
  | _, .null => .null
  | .blob h, .blob n => .integer (findPosition false h n)
  | _, _ =>
    let h := (textBytes (enc.blobAsText x)).getD []
    let n := (textBytes (enc.blobAsText y)).getD []
    if n.isEmpty ∧ !((textBytes y).getD []).isEmpty then .integer (findPosition true (h ++ [0]) [0])
    else .integer (findPosition true h n)

/-- The bytes of a text or blob argument as a blob sees them: none for an empty blob. -/
def blobBytes? : SqlValue → Option (List UInt8)
  | .null => none
  | .blob [] => none
  | v => textBytes v

/-- `substr(X, Y, Z)`: Z characters (bytes of a blob) of X from position Y, counted from 1; a
negative Y counts from the end and a negative Z takes the characters before Y. Y and Z are read
as 32-bit integers. -/
def substrValue (x y : SqlValue) (z : Option SqlValue) : SqlValue :=
  if y == .null ∨ z == some .null then .null
  else
    let p1 : Int := toInt32 (intValue y)
    let (p2, negP2) : Int × Bool := match z with
      | some w =>
        let l := toInt32 (intValue w)
        if l < 0 then (-l, true) else (l, false)
      | none => (maxLength, false)
    let cut (len : Int) : Int × Int :=
      let (p1, p2) : Int × Int :=
        if p1 < 0 then
          let q := p1 + len
          if q < 0 then (0, max (p2 + q) 0) else (q, p2)
        else if p1 > 0 then (p1 - 1, p2)
        else if p2 > 0 then (0, p2 - 1) else (0, p2)
      if negP2 then
        let q := p1 - p2
        if q < 0 then (0, p2 + q) else (q, p2)
      else (p1, p2)
    match x with
    | .blob _ =>
      match blobBytes? x with
      | none => .null
      | some b =>
        let (p1, p2) := cut b.length
        .blob ((b.drop p1.toNat).take p2.toNat)
    | _ =>
      match textBytes x with
      | none => .null
      | some s =>
        let cs := chars (textView s)
        let (p1, p2) := cut cs.length
        .text ((cs.drop p1.toNat).take p2.toNat).flatten

/-- `hex(X)`: the upper-case hexadecimal text of every byte of the value: of a text, its bytes in
the database's encoding; of a number, its text in UTF-8; empty for NULL. -/
def hexValue (enc : TextEncoding) (x : SqlValue) : SqlValue :=
  match x with
  | .text s => .text (hexText (enc.encode s))
  | _ => .text (hexText ((textBytes x).getD []))

/-- Read hexadecimal digit pairs from a text up to its first NUL, skipping characters of the
allowed set between pairs: the bytes, or none when another character stands in the way or a
pair is cut short. `fuel` bounds the steps. -/
def unhexBytes (allowed : List Nat) : Nat → List UInt8 → Option (List UInt8)
  | 0, _ => some []
  | _, [] => some []
  | fuel + 1, c :: rest =>
    if c = 0 then some []
    else if isHexByte c then
      match rest with
      | d :: more =>
        if isHexByte d then
          (unhexBytes allowed fuel more).map (UInt8.ofNat (hexByteValue c * 16 + hexByteValue d) :: ·)
        else none
      | [] => none
    else
      let (code, after) := readChar (c :: rest)
      if allowed.contains code then unhexBytes allowed fuel after else none

/-- The code points of every character of a text, read the way the engine reads them. -/
def codePoints (bs : List UInt8) : List Nat := (chars bs).map (fun c => (readChar c).1)

/-- `unhex(X, Y)`: the blob that the hexadecimal digits of X spell, the characters of Y allowed
between digit pairs; NULL when anything else is in the way. -/
def unhexValue (x : SqlValue) (pass : Option SqlValue) : SqlValue :=
  match textBytes x, (match pass with
      | some p => textBytes p
      | none => some []) with
  | some h, some p =>
    match unhexBytes (codePoints p) (h.length + 1) h with
    | some b => .blob b
    | none => .null
  | _, _ => .null

/-- `unicode(X)`: the code point of the first character of the text; NULL for empty text. -/
def unicodeValue (x : SqlValue) : SqlValue :=
  match (textBytes x).map textView with
  | some (b :: rest) => .integer (readChar (b :: rest)).1
  | _ => .null

/-- `char(X, ...)`: the text of the characters with the given code points; a code point
beyond `U+10FFFF` (negative ones included) becomes `U+FFFD`. -/
def charValue (args : List SqlValue) : SqlValue :=
  .text (args.flatMap (fun v =>
    let x := intValue v
    let c := if x < 0 ∨ x > 0x10FFFF then 0xFFFD else x.toNat
    charBytes c))

/-- The bytes `concat` copies of a value: as many as the value has bytes, from its text. A
blob's text in UTF-16 can be shorter than the blob; the copy then runs on into the NUL that
ends the text, and past it into bytes taken here as NUL. -/
def copiedBytes (enc : TextEncoding) : SqlValue → Option (List UInt8)
  | .blob b => some ((enc.toUtf8 b ++ List.replicate b.length 0).take b.length)
  | v => textBytes v

/-- `concat` with a separator: the texts of the non-NULL, nonempty arguments, the separator
between each two, each copied as `copiedBytes` says. -/
def concatValue (enc : TextEncoding) (sep : List UInt8) (args : List SqlValue) : SqlValue :=
  let parts := args.filterMap (fun v => match copiedBytes enc v with
    | some b => if b.isEmpty then none else some b
    | none => none)
  .text (sep.intercalate parts)

/-- `soundex(X)`: the Soundex code of the text, `?000` for NULL. -/
def soundexValue (x : SqlValue) : SqlValue := .text (soundex ((textBytes x).getD []))

/-- Whether a text up to its first NUL is one character. -/
def isOneChar (bs : List UInt8) : Bool := (chars (textView bs)).length == 1

/-- `like(P, X, E)` and `glob(P, X)`: whether the text matches the pattern; NULL when either is
NULL. An escape must be one character. -/
def patternValue (rules : PatternRules) (pattern text : SqlValue) (escape : Option SqlValue) :
    Except String SqlValue :=
  let p := textBytes pattern
  if (p.getD []).length > 50000 then .error "LIKE or GLOB pattern too complex"
  else
    let esc : Except String (Option (Option Nat)) := match escape with
      | none => .ok (some none)
      | some e => match textBytes e with
        | none => .ok none
        | some b =>
          if isOneChar b then .ok (some (some (readChar (textView b)).1))
          else .error "ESCAPE expression must be a single character"
    match esc with
    | .error m => .error m
    | .ok none => .ok .null
    | .ok (some esc) =>
      match p, textBytes text with
      | some pat, some s =>
        .ok (.integer (if patternMatches rules esc (textView pat) (textView s) then 1 else 0))
      | _, _ => .ok .null

/-! ## Numeric functions -/

/-- `abs(X)`: an integer keeps its kind; anything else, text that reads as an integer among it,
is the real magnitude of its numeric value. The smallest integer has no magnitude. -/
def absValue (x : SqlValue) : Except String SqlValue :=
  let ofInt (i : Int) : Except String SqlValue :=
    if i = -(Nat.pow 2 63) then .error "integer overflow" else .ok (.integer i.natAbs)
  let ofReal (f : Binary64) : SqlValue := .real (if f.neg ∧ !f.isZero then f.negate else f)
  match x with
  | .null => .ok .null
  | .integer i => ofInt i
  | v => .ok (ofReal (realValue v))

/-- `sign(X)`: -1, 0 or 1 by the sign of a number (or of text that reads as one); NULL for
anything else. -/
def signValue (x : SqlValue) : SqlValue :=
  let ofReal (f : Binary64) : SqlValue :=
    if isNaN f ∨ f.isZero then .integer 0 else .integer (if f.neg then -1 else 1)
  match x with
  | .integer i => .integer (if i < 0 then -1 else if i > 0 then 1 else 0)
  | .real f => ofReal f
  | .text s => match numericAffinity false s with
    | some v => ofReal (realValue v)
    | none => .null
  | _ => .null

/-- Whether a real lies within `±2 ^ 52`, where rounding can change it. -/
def withinRounding (f : Binary64) : Bool :=
  let bound := Binary64.ofInt 4503599627370496
  !(realLt f bound.negate) && !(realLt bound f)

/-- `round(X, N)`: X rounded to N decimal places (0 to 30), always a real. With no places the
value moves half away from zero and is cut to an integer; otherwise it is written with N places
and read back. -/
def roundValue (x : SqlValue) (places : Option SqlValue) : SqlValue :=
  if places == some .null then .null
  else if x == .null then .null
  else
    let n : Int := match places with
      | some p => max 0 (min 30 (intValue p))
      | none => 0
    let r := realValue x
    if !withinRounding r then .real r
    else if n = 0 then
      let half : Binary64 := decimalConst 5 (-1)
      let moved := addReals r (if r.neg then half.negate else half)
      .real (Binary64.ofInt moved.truncate)
    else
      let text := formatText 8 "%!.*f".toUTF8.toList [.integer n, .real r]
      .real (readReal text).1

/-- `quote(X)`: the value as an SQL literal. A real is written with fifteen significant digits,
or twenty after the point in exponent form when fifteen do not read back as the same real; an
infinity is `Inf` or `-Inf`. -/
def quoteValue (x : SqlValue) : SqlValue :=
  match x with
  | .null => .ofString "NULL"
  | .integer i => .text (integerBytes i)
  | .real f =>
    let short := formatText 8 "%!.15g".toUTF8.toList [.real f]
    if Binary64.compareValue (readReal short).1 f == .eq then .text short
    else .text (formatText 8 "%!.20e".toUTF8.toList [.real f])
  | .blob b => .text ([88, 39] ++ hexText b ++ [39])
  | .text _ => .text (formatText 4 "%Q".toUTF8.toList [x])

/-- `zeroblob(N)`: a blob of N zero bytes (none for a negative N). -/
def zeroblobValue (x : SqlValue) : Except String SqlValue :=
  let n := intValue x
  if n > maxLength then .error "string or blob too big"
  else .ok (.blob (List.replicate n.toNat 0))

/-- The value of `min` or `max` over two or more values under a collation: NULL when any is
NULL; of equal values `min` takes the last and `max` the first. -/
def extremeValue (enc : TextEncoding) (largest : Bool) (coll : Collation) (args : List SqlValue) :
    SqlValue :=
  match args with
  | [] => .null
  | a :: rest =>
    if args.any (· == .null) then .null
    else rest.foldl (fun best v =>
      let o := SqlValue.compareIn enc coll best v
      if largest then (if o == .lt then v else best) else (if o != .lt then v else best)) a

/-! ## The table -/

/-- Whether a name is one of the date and time functions. -/
def isDateTimeName (name : String) : Bool :=
  ["DATE", "TIME", "DATETIME", "JULIANDAY", "UNIXEPOCH", "STRFTIME", "TIMEDIFF"].contains name

/-- The value of a scalar function other than the JSON ones and the aggregates, given its name
in upper case (`written` is the name as written, for messages), the collation of its arguments
and their values. `none` when there is no such function. The arguments `a0`, `a1`, `a2` are
as given; `read` and `r0`, `r1`, `r2` are the same with blobs read as text, for the functions
that read text or numbers. -/
def scalarFunction (ctx : CallContext) (written name : String) (coll : Collation)
    (args : List SqlValue) : Option (Except String SqlValue) :=
  let wrong : Except String SqlValue :=
    .error ("wrong number of arguments to function " ++ written ++ "()")
  let n := args.length
  let arity (ok : Bool) (v : Unit → Except String SqlValue) : Option (Except String SqlValue) :=
    some (if ok then v () else wrong)
  let a0 := args.getD 0 .null
  let a1 := args.getD 1 .null
  let a2 := args.getD 2 .null
  let read := args.map ctx.encoding.blobAsText
  let r0 := read.getD 0 .null
  let r1 := read.getD 1 .null
  let r2 := read.getD 2 .null
  match name with
  | "LENGTH" => arity (n = 1) (fun _ => .ok (lengthOf a0))
  | "OCTET_LENGTH" => arity (n = 1) (fun _ => .ok (octetLength ctx.encoding a0))
  | "LOWER" => arity (n = 1) (fun _ => .ok (mapBytes lowerByte r0))
  | "UPPER" => arity (n = 1) (fun _ => .ok (mapBytes upperByte r0))
  | "TYPEOF" => arity (n = 1) (fun _ => .ok (.ofString (typeofName a0)))
  | "SUBTYPE" => arity (n = 1) (fun _ => .ok (.integer 0))
  | "COALESCE" => arity (n ≥ 2) (fun _ => .ok ((args.find? (· != .null)).getD .null))
  | "IFNULL" => arity (n = 2) (fun _ => .ok (if a0 == .null then a1 else a0))
  | "NULLIF" => arity (n = 2) (fun _ =>
      .ok (if SqlValue.compareIn ctx.encoding coll a0 a1 == .eq then .null else a0))
  | "IIF" => arity (n = 3) (fun _ => .ok (if (realValue r0).isZero ∨ a0 == .null then a2 else a1))
  | "ABS" => arity (n = 1) (fun _ => absValue r0)
  | "SIGN" => arity (n = 1) (fun _ => .ok (signValue a0))
  | "ROUND" => arity (n = 1 ∨ n = 2) (fun _ => .ok (roundValue r0 (if n = 2 then some r1 else none)))
  | "SUBSTR" | "SUBSTRING" => arity (n = 2 ∨ n = 3) (fun _ =>
      .ok (substrValue a0 r1 (if n = 3 then some r2 else none)))
  | "TRIM" => arity (n = 1 ∨ n = 2) (fun _ => .ok (trimValue true true r0 (if n = 2 then some r1 else none)))
  | "LTRIM" => arity (n = 1 ∨ n = 2) (fun _ => .ok (trimValue true false r0 (if n = 2 then some r1 else none)))
  | "RTRIM" => arity (n = 1 ∨ n = 2) (fun _ => .ok (trimValue false true r0 (if n = 2 then some r1 else none)))
  | "REPLACE" => arity (n = 3) (fun _ => .ok (replaceValue r0 r1 r2))
  | "INSTR" => arity (n = 2) (fun _ => .ok (instrValue ctx.encoding a0 a1))
  | "HEX" => arity (n = 1) (fun _ => .ok (hexValue ctx.encoding a0))
  | "UNHEX" => arity (n = 1 ∨ n = 2) (fun _ => .ok (unhexValue r0 (if n = 2 then some r1 else none)))
  | "UNICODE" => arity (n = 1) (fun _ => .ok (unicodeValue r0))
  | "CHAR" => some (.ok (charValue read))
  | "CONCAT" => arity (n ≥ 1) (fun _ => .ok (concatValue ctx.encoding [] args))
  | "CONCAT_WS" => arity (n ≥ 2) (fun _ => match copiedBytes ctx.encoding a0 with
      | some sep => .ok (concatValue ctx.encoding sep args.tail)
      | none => .ok .null)
  | "SOUNDEX" => arity (n = 1) (fun _ => .ok (soundexValue r0))
  | "QUOTE" => arity (n = 1) (fun _ => .ok (quoteValue a0))
  | "PRINTF" | "FORMAT" => some (.ok (format read))
  | "LIKE" => arity (n = 2 ∨ n = 3) (fun _ => patternValue likeRules r0 r1 (if n = 3 then some r2 else none))
  | "GLOB" => arity (n = 2) (fun _ => patternValue globRules r0 r1 none)
  | "MAX" => arity (n ≥ 2) (fun _ => .ok (extremeValue ctx.encoding true coll args))
  | "MIN" => arity (n ≥ 2) (fun _ => .ok (extremeValue ctx.encoding false coll args))
  | "LIKELY" | "UNLIKELY" => arity (n = 1) (fun _ => .ok a0)
  | "LIKELIHOOD" => arity (n = 2) (fun _ => .ok a0)
  | "ZEROBLOB" => arity (n = 1) (fun _ => zeroblobValue r0)
  | "RANDOM" => arity (n = 0) (fun _ => .ok (.integer (-(Nat.pow 2 62) + ctx.now % 1000003)))
  | "RANDOMBLOB" => arity (n = 1) (fun _ =>
      let k := intValue r0
      if k > maxLength then .error "string or blob too big"
      else .ok (.blob ((List.range (max k 1).toNat).map (fun i => UInt8.ofNat (i * 151 + 7)))))
  | "LAST_INSERT_ROWID" => arity (n = 0) (fun _ => .ok (.integer ctx.lastRowid))
  | "CHANGES" => arity (n = 0) (fun _ => .ok (.integer ctx.changes))
  | "TOTAL_CHANGES" => arity (n = 0) (fun _ => .ok (.integer ctx.totalChanges))
  | "SQLITE_VERSION" => arity (n = 0) (fun _ => .ok (.ofString "3.45.0"))
  | "SQLITE_SOURCE_ID" => arity (n = 0) (fun _ => .ok (.ofString sourceId))
  | "TIMEDIFF" => arity (n = 2) (fun _ => .ok ((dateTimeFunction ctx.now name read).getD .null))
  | "FTS5_SOURCE_ID" => arity (n = 0) (fun _ => .ok (.ofString ("fts5: " ++ sourceId)))
  | "SQLITE_COMPILEOPTION_USED" => arity (n = 1) (fun _ =>
      match r0 with
      | .null => .ok .null
      | v => .ok (.integer (if builtWith (Text.decodeLossy ((textBytes v).getD [])) then 1 else 0)))
  | "SQLITE_COMPILEOPTION_GET" => arity (n = 1) (fun _ =>
      let i := intValue r0
      if i < 0 then .ok .null
      else .ok ((buildOptions[i.toNat]?.map SqlValue.ofString).getD .null))
  -- Functions that full-text search overloads, and which do nothing on their own.
  | "MATCH" => arity (n = 2) (fun _ => .error ("unable to use function MATCH in the requested context"))
  | "SNIPPET" => some (.error ("unable to use function snippet in the requested context"))
  | "OFFSETS" => arity (n = 1) (fun _ => .error ("unable to use function offsets in the requested context"))
  | "MATCHINFO" => arity (n = 1 ∨ n = 2) (fun _ =>
      .error ("unable to use function matchinfo in the requested context"))
  | "OPTIMIZE" => arity (n = 1) (fun _ => .error ("unable to use function optimize in the requested context"))
  | _ =>
    if isDateTimeName name then some (.ok ((dateTimeFunction ctx.now name read).getD .null))
    else none

end Sql

end DocStore
