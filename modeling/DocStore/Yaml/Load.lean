import DocStore.Yaml.Parser
import DocStore.Json.Writer
/-!
# Reading values out of YAML

The last stage reads typed values out of the events of a document, with the conventions of the
usual YAML binding for typed records:

* a text holds exactly one document; an empty stream reads as an empty document, a second
  document is an error;
* a plain scalar is resolved by its text: empty or `~`/`null` is the unit value, `true`/`false`
  are booleans, decimal, `0x`, `0o` and `0b` integers are integers (a leading zero followed by
  digits is text), decimal numbers and `.inf`/`.nan` are floating point, anything else is text;
  quoted scalars are text; a core `bool`, `int`, `float` or `null` tag forces its type;
* a field of text type takes the text of any scalar; a count takes only a plain scalar that
  reads as an unsigned integer;
* a unit variant of an enumeration is named either by an untagged scalar or by a local tag
  (`!wal`) on a null;
* a failure is reported with the path of the value (`key` or `.`) and the position where the
  value starts (omitted at the very start of the text).

An alias reads the node its anchor marks.
-/

namespace DocStore

namespace Yaml

/-- Where a value sits in a document, as messages name it. -/
inductive Path where
  | root
  | key (parent : Path) (name : String)
  | unknown (parent : Path)
deriving DecidableEq, Repr, Inhabited

/-- The text of a path: `.` for the root, dotted keys below it. -/
def Path.text : Path → String
  | .root => "."
  | .key .root k => k
  | .key p k => p.text ++ "." ++ k
  | .unknown .root => "?"
  | .unknown p => p.text ++ ".?"

/-- Why a value could not be read. -/
inductive LoadError where
  /-- The text is not well-formed YAML. -/
  | malformed (e : SyntaxError)
  /-- A value of the wrong kind, with where it is when that is known. -/
  | message (text : String) (pos : Option (Mark × Path))
  /-- The document ended where a value was expected. -/
  | endOfStream
  /-- The text holds more than one document. -/
  | moreThanOneDocument
  /-- An alias names no anchor seen before it. -/
  | unknownAnchor (m : Mark)
  /-- Aliases expand too far. -/
  | repetitionLimit
deriving DecidableEq, Repr, Inhabited

/-- The text of a failure. -/
def LoadError.text : LoadError → String
  | .malformed e => e.text
  | .message t none => t
  | .message t (some (m, p)) =>
    (if p = .root then "" else p.text ++ ": ") ++ t ++ (if m.isStart then "" else " at " ++ m.text)
  | .endOfStream => "EOF while parsing a value"
  | .moreThanOneDocument => "deserializing from YAML containing more than one document is not supported"
  | .unknownAnchor m => "unknown anchor" ++ (if m.isStart then "" else " at " ++ m.text)
  | .repetitionLimit => "repetition limit exceeded"

/-- Give a failure a position and path unless it has one. -/
def LoadError.locate (m : Mark) (p : Path) : LoadError → LoadError
  | .message t none => .message t (some (m, p))
  | e => e

/-- The first document of a text. -/
structure Document where
  events : Array Event
  /-- Set when the stream has no document at all. -/
  empty : Bool := false
  /-- What stops reading past the events. -/
  error : Option LoadError := none
  /-- The event each anchor marks. -/
  anchors : List (String × Nat) := []
deriving Inhabited

/-- The anchor an event declares. -/
def EventKind.anchor? : EventKind → Option String
  | .scalar a _ _ _ | .sequenceStart a _ _ | .mappingStart a _ _ => a
  | _ => none

/-- Split the events of a stream into the first document, and tell whether another document
follows it. -/
def firstDocument (events : Array Event) (err : Option SyntaxError) : Document × Bool := Id.run do
  let evs := events.toList
  let body := evs.dropWhile (fun e => match e.kind with
    | .streamStart | .documentStart _ => true
    | _ => false)
  match body with
  | [] =>
    return ({ events := #[], error := err.map LoadError.malformed }, false)
  | e :: _ =>
    if e.kind = .streamEnd then return ({ events := #[], empty := true }, false)
    let mut out : Array Event := #[]
    let mut anchors : List (String × Nat) := []
    let mut rest := body
    for ev in body do
      rest := rest.drop 1
      match ev.kind with
      | .documentEnd _ =>
        let after := rest.dropWhile (fun e => match e.kind with
          | .documentStart _ => true
          | _ => false)
        let more := match after with
          | [] => err.isSome
          | e :: _ => e.kind ≠ .streamEnd
        return ({ events := out, anchors := anchors }, more)
      | .aliasOf name =>
        if (anchors.lookup name).isNone then
          return ({ events := out, anchors := anchors, error := some (.unknownAnchor ev.start) }, false)
        out := out.push ev
      | k =>
        match k.anchor? with
        | some a => anchors := (a, out.size) :: anchors
        | none => pure ()
        out := out.push ev
    return ({ events := out, anchors := anchors, error := err.map LoadError.malformed }, false)

/-- Read a text's first document and whether more follow. -/
def loadDocument (text : String) : Document × Bool :=
  let (events, err) := parseEvents text
  firstDocument events err

namespace Document

/-- The event at a position; past the last one, the error that ended the document. -/
def eventAt (d : Document) (pos : Nat) : Except LoadError Event :=
  match d.events[pos]? with
  | some e => .ok e
  | none => .error (d.error.getD .endOfStream)

/-- The position of the node an alias stands for. -/
def target (d : Document) (name : String) : Nat := (d.anchors.lookup name).getD 0

/-- The position after the node at a position. -/
def skipNode (d : Document) (pos : Nat) : Nat := Id.run do
  let mut depth := 0
  let mut p := pos
  for _ in [0:d.events.size + 1] do
    match d.events[p]? with
    | none => break
    | some e =>
      p := p + 1
      match e.kind with
      | .sequenceStart _ _ _ | .mappingStart _ _ _ => depth := depth + 1
      | .sequenceEnd | .mappingEnd => depth := depth - 1
      | _ => pure ()
      if depth = 0 then break
  return p

end Document

/-! ## Plain scalars -/

/-- What a plain scalar resolves to. -/
inductive Resolved where
  | unit
  | bool (b : Bool)
  /-- An integer that fits 64 bits, unsigned or negative. -/
  | int (i : Int)
  /-- An integer that needs 128 bits. -/
  | wideInt (i : Int)
  /-- A floating-point number, by the text a message shows. -/
  | float (shown : String)
  | text (s : String)
deriving DecidableEq, Repr

/-- The digits of a number in a radix, with an optional sign: `+` always, `-` when `signed`.
`none` unless the whole text is digits of the radix. -/
def parseRadix (s : String) (radix : Nat) (signed : Bool) : Option Int :=
  let cs := s.toList
  let (neg, digits) := match cs with
    | '+' :: rest => (false, rest)
    | '-' :: rest => if signed then (true, rest) else (false, '-' :: rest)
    | _ => (false, cs)
  if digits.isEmpty then none
  else
    let value? := digits.foldl (fun acc c => acc.bind fun n =>
      match hexDigitValue c with
      | some d => if d < radix then some (n * radix + d) else none
      | none => none) (some 0)
    value?.map (fun n => if neg then -(n : Int) else n)

/-- Whether a text is a leading zero followed by digits (after an optional sign), which YAML
reads as text. -/
def digitsButNotNumber (s : String) : Bool :=
  let cs := match s.toList with
    | '+' :: rest | '-' :: rest => rest
    | cs => cs
  cs.length > 1 ∧ cs.head? = some '0' ∧ (cs.drop 1).all Char.isDigit

/-- Whether a text starts with a sign. -/
def startsWithSign (s : String) : Bool := s.startsWith "+" ∨ s.startsWith "-"

/-- An unsigned integer, in decimal or with a `0x`, `0o` or `0b` radix marker, below `bound`. -/
def parseUnsigned (s : String) (bound : Nat) : Option Nat :=
  let unpositive := if s.startsWith "+" then s.drop 1 |>.toString else s
  let inRange (i : Int) : Option Nat := if 0 ≤ i ∧ i.toNat < bound then some i.toNat else none
  let marked (m : String) (radix : Nat) : Option Nat :=
    if unpositive.startsWith m then
      let rest := (unpositive.drop 2).toString
      if startsWithSign rest then none
      else (parseRadix rest radix false).bind inRange
    else none
  match marked "0x" 16 with
  | some n => some n
  | none => match marked "0o" 8 with
    | some n => some n
    | none => match marked "0b" 2 with
      | some n => some n
      | none =>
        if startsWithSign unpositive ∨ digitsButNotNumber s then none
        else (parseRadix unpositive 10 false).bind inRange

/-- A signed integer within `[-bound, bound)`. -/
def parseSigned (s : String) (bound : Nat) : Option Int :=
  let inRange (i : Int) : Option Int := if -(bound : Int) ≤ i ∧ i < bound then some i else none
  let marked (m : String) (radix : Nat) : Option Int :=
    if s.startsWith m then (parseRadix ("-" ++ (s.drop 3).toString) radix true).bind inRange
    else none
  match marked "-0x" 16 with
  | some n => some n
  | none => match marked "-0o" 8 with
    | some n => some n
    | none => match marked "-0b" 2 with
      | some n => some n
      | none => if digitsButNotNumber s then none else (parseRadix s 10 true).bind inRange

/-- A decimal number in the usual floating-point syntax, correctly rounded; `none` when the
text is not one or the value is not finite. -/
def parseDecimal (s : String) : Option Binary64 := do
  let cs := s.toList
  let (neg, body) := match cs with
    | '+' :: rest => (false, rest)
    | '-' :: rest => (true, rest)
    | _ => (false, cs)
  let mantissa := body.takeWhile (fun c => c ≠ 'e' ∧ c ≠ 'E')
  let expPart := body.drop (mantissa.length)
  let intDigits := mantissa.takeWhile Char.isDigit
  let afterInt := mantissa.drop intDigits.length
  let fracDigits := match afterInt with
    | '.' :: rest => rest
    | _ => []
  if !(afterInt.isEmpty ∨ (afterInt.head? = some '.' ∧ fracDigits.all Char.isDigit)) then none
  if intDigits.isEmpty ∧ fracDigits.isEmpty then none
  let exp10 : Int ← match expPart with
    | [] => some 0
    | _ :: rest =>
      let (eneg, edigits) := match rest with
        | '+' :: r => (false, r)
        | '-' :: r => (true, r)
        | r => (false, r)
      if edigits.isEmpty ∨ !edigits.all Char.isDigit then none
      else
        let e := edigits.foldl (fun n c => n * 10 + (c.toNat - '0'.toNat)) 0
        some (if eneg then -(e : Int) else e)
  let digits := intDigits ++ fracDigits
  let sig := digits.foldl (fun n c => n * 10 + (c.toNat - '0'.toNat)) 0
  let e := exp10 - fracDigits.length
  if sig = 0 then return (if neg then Binary64.zero.negate else Binary64.zero)
  if e > 400 then none
  if e < -(800 + (digits.length : Int)) then
    return (if neg then Binary64.zero.negate else Binary64.zero)
  if 0 ≤ e then Binary64.roundRatio neg (sig * Nat.pow 10 e.toNat) 1
  else Binary64.roundRatio neg sig (Nat.pow 10 (-e).toNat)

/-- A floating-point scalar, by the text a message shows. -/
def parseFloat (s : String) : Option String :=
  let unpositive := if s.startsWith "+" then (s.drop 1).toString else s
  if s.startsWith "+" ∧ startsWithSign unpositive then none
  else if [".inf", ".Inf", ".INF"].contains unpositive then some "inf"
  else if ["-.inf", "-.Inf", "-.INF"].contains s then some "-inf"
  else if [".nan", ".NaN", ".NAN"].contains s then some "NaN"
  else (parseDecimal unpositive).map Json.plainFloatText

/-- Resolve the text of a plain scalar. -/
def resolvePlain (s : String) : Resolved :=
  if s.isEmpty ∨ ["null", "Null", "NULL", "~"].contains s then .unit
  else if ["true", "True", "TRUE"].contains s then .bool true
  else if ["false", "False", "FALSE"].contains s then .bool false
  else match parseUnsigned s (Nat.pow 2 64) with
    | some n => .int n
    | none => match parseSigned s (Nat.pow 2 63) with
      | some i => .int i
      | none => match parseUnsigned s (Nat.pow 2 128) with
        | some n => .wideInt n
        | none => match parseSigned s (Nat.pow 2 127) with
          | some i => .wideInt i
          | none =>
            match (if digitsButNotNumber s then none else parseFloat s) with
            | some f => .float f
            | none => .text s

/-- How a message names an unexpected resolved scalar. -/
def Resolved.unexpected : Resolved → String
  | .unit => "unit value"
  | .bool b => "boolean `" ++ (if b then "true" else "false") ++ "`"
  | .int i => "integer `" ++ toString i ++ "`"
  | .wideInt i => "integer `" ++ toString i ++ "` as " ++ (if i < 0 then "i128" else "u128")
  | .float f => "floating point `" ++ f ++ "`"
  | .text s => "string " ++ Json.messageQuote s

/-- The full tag of a core schema type. -/
def coreTag (name : String) : String := "tag:yaml.org,2002:" ++ name

/-- The spellings of null. -/
def isNullWord (s : String) : Bool := ["null", "Null", "NULL", "~"].contains s

/-- The spellings of a boolean. -/
def boolWord (s : String) : Option Bool :=
  if ["true", "True", "TRUE"].contains s then some true
  else if ["false", "False", "FALSE"].contains s then some false
  else none

/-- An integer of at most 128 bits, as plain-scalar resolution reads one. -/
def resolveInt (s : String) : Option Resolved :=
  match parseUnsigned s (Nat.pow 2 64) with
  | some n => some (.int n)
  | none => match parseSigned s (Nat.pow 2 63) with
    | some i => some (.int i)
    | none => match parseUnsigned s (Nat.pow 2 128) with
      | some n => some (.wideInt n)
      | none => (parseSigned s (Nat.pow 2 127)).map .wideInt

/-- Resolve a scalar event read as any value. A core `bool`, `int`, `float` or `null` tag
forces its type, and a text that does not fit is an invalid value; a plain scalar without a tag
or under a local `!` tag is resolved by its text; anything else is text. -/
def visitScalar (tag : Option String) (text : String) (style : ScalarStyle) :
    Except String Resolved :=
  let misfit (what : String) : Except String Resolved :=
    .error ("invalid value: string " ++ Json.messageQuote text ++ ", expected " ++ what)
  match tag with
  | some t =>
    if t = coreTag "bool" then
      match boolWord text with
      | some b => .ok (.bool b)
      | none => misfit "a boolean"
    else if t = coreTag "int" then
      match resolveInt text with
      | some r => .ok r
      | none => misfit "an integer"
    else if t = coreTag "float" then
      match parseFloat text with
      | some f => .ok (.float f)
      | none => misfit "a float"
    else if t = coreTag "null" then
      if isNullWord text then .ok .unit else misfit "null"
    else if t.startsWith "!" ∧ style = .plain then .ok (resolvePlain text)
    else .ok (.text text)
  | none => .ok (if style = .plain then resolvePlain text else .text text)

/-- The failure for an event that holds no value of the expected kind: an invalid type, or
the invalid value of a scalar whose tag its text does not fit. -/
def invalidType (kind : EventKind) (expected : String) : LoadError :=
  let what : Except String String := match kind with
    | .scalar _ tag text style => (visitScalar tag text style).map Resolved.unexpected
    | .sequenceStart _ _ _ => .ok "sequence"
    | .mappingStart _ _ _ => .ok "map"
    | _ => .ok "unit value"
  match what with
  | .ok w => .message ("invalid type: " ++ w ++ ", expected " ++ expected) none
  | .error msg => .message msg none

/-! ## Reading values -/

/-- A reader of one value: the document, the position of the value, and its path give the
value and the position after it. -/
abbrev ValueReader (α : Type) := Document → Nat → Path → Except LoadError (α × Nat)

/-- Read the node at a position, following an alias to the node it names (at most `fuel`
aliases deep). -/
def followAlias {α : Type} (fuel : Nat) (r : Nat → Path → Except LoadError (α × Nat)) :
    ValueReader α := fun d pos path => do
  let e ← d.eventAt pos
  match e.kind, fuel with
  | .aliasOf _, 0 => throw .repetitionLimit
  | .aliasOf name, _ + 1 =>
    let (a, _) ← r (d.target name) path
    return (a, pos + 1)
  | _, _ => r pos path

/-- Read text: any scalar gives its text. -/
def readText (expected : String) : ValueReader String := fun d pos path =>
  followAlias 64 (fun p path => do
    let e ← d.eventAt p
    match e.kind with
    | .scalar _ _ text _ => return (text, p + 1)
    | k => throw ((invalidType k expected).locate e.start path)) d pos path

/-- Read an unsigned integer below `2 ^ bits`, named `name` in messages. Only a plain scalar
that reads as an unsigned 64-bit integer is one, whatever its tag; it must also fit the field. -/
def readUnsigned (name : String) (bits : Nat) : ValueReader Nat := fun d pos path =>
  followAlias 64 (fun p path => do
    let e ← d.eventAt p
    let n? := match e.kind with
      | .scalar _ _ text .plain => parseUnsigned text (Nat.pow 2 64)
      | _ => none
    match n? with
    | some n =>
      if n < Nat.pow 2 bits then return (n, p + 1)
      else throw ((LoadError.message ("invalid value: integer `" ++ toString n ++ "`, expected " ++ name)
        none).locate e.start path)
    | none => throw ((invalidType e.kind name).locate e.start path)) d pos path

/-- Read the content of a variant named by a tag, which must be a null: an empty plain scalar
or a spelling of null. -/
def readUnitContent (e : Event) (path : Path) : Except LoadError Unit :=
  match e.kind with
  | .scalar _ _ text style =>
    if style = .plain ∧ (text.isEmpty ∨ isNullWord text) then .ok ()
    else .error ((LoadError.message ("invalid value: string " ++ Json.messageQuote text ++ ", expected null")
      none).locate e.start path)
  | .sequenceStart _ _ _ =>
    .error ((LoadError.message "invalid type: sequence, expected unit" none).locate e.start path)
  | .mappingStart _ _ _ =>
    .error ((LoadError.message "invalid type: map, expected unit" none).locate e.start path)
  | _ => .error .endOfStream

/-- The variant a local tag names: the tag without its `!`, or `!` itself. -/
def tagVariant (tag : Option String) : Option String :=
  match tag with
  | some t =>
    if t.startsWith "!" then some (if t.length = 1 then t else (t.drop 1).toString) else none
  | none => none

/-- Read a unit variant of an enumeration: a local tag names it and its content is null, or an
untagged scalar holds its name. A tag naming no variant is an error without a place of its own. -/
def readVariant {α : Type} (table : List (String × α)) : ValueReader α := fun d pos path =>
  followAlias 64 (fun p path => do
    let e ← d.eventAt p
    let names := ", ".intercalate (table.map (fun (n, _) => "`" ++ n ++ "`"))
    let unknown (name : String) : LoadError :=
      LoadError.message ("unknown variant `" ++ name ++ "`, expected one of " ++ names) none
    let lookup (name : String) : Except LoadError α :=
      match table.lookup name with
      | some v => .ok v
      | none => .error ((unknown name).locate e.start path)
    let tag := match e.kind with
      | .scalar _ t _ _ | .sequenceStart _ t _ | .mappingStart _ t _ => t
      | _ => none
    match tagVariant tag with
    | some name =>
      -- A variant named by a tag is looked up before the value has a place: an unknown one
      -- takes the place of the enclosing record.
      let v ← match table.lookup name with
        | some v => pure v
        | none => throw (unknown name)
      readUnitContent e path
      return (v, d.skipNode p)
    | none =>
      match e.kind with
      | .scalar _ _ text _ => return (← lookup text, p + 1)
      | .sequenceStart _ _ _ =>
        throw ((LoadError.message "invalid type: sequence, expected a YAML tag starting with '!'" none).locate
          e.start path)
      | .mappingStart _ _ _ =>
        throw ((LoadError.message "invalid type: map, expected a YAML tag starting with '!'" none).locate
          e.start path)
      | _ => throw .endOfStream) d pos path

/-- Read a record from a mapping: `field` handles one member (given its key, the value's
position and path, and what was read so far) and says where the value ends; members it does not
know are skipped. An empty document or an empty plain scalar is a record with no members. -/
def readRecord {α : Type} (expected : String) (init : α)
    (field : String → α → ValueReader (Option α)) : Document → Except LoadError α := fun d => do
  if d.empty then return init
  let e ← d.eventAt 0
  match e.kind with
  | .scalar none none "" .plain => return init
  | .mappingStart _ _ _ =>
    let mut acc := init
    let mut pos := 1
    for _ in [0:d.events.size + 1] do
      let k ← d.eventAt pos
      match k.kind with
      | .mappingEnd => break
      | _ => pure ()
      let (key, afterKey) ← (readText "field identifier" d pos .root).mapError (LoadError.locate e.start .root)
      match ← (field key acc d afterKey (.key .root key)).mapError (LoadError.locate e.start .root) with
      | (some acc', next) =>
        acc := acc'
        pos := next
      | (none, _) => pos := d.skipNode afterKey
    return acc
  | k => throw ((invalidType k expected).locate e.start .root)

end Yaml

end DocStore
