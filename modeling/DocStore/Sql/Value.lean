import DocStore.Json.Writer
import DocStore.Error
import DocStore.Text.Utf8
/-!
# Values and rows of the SQL engine

A cell of the engine holds one of five kinds of value. Text is held as the bytes of its UTF-8
form, which need not be well formed: the engine stores and compares whatever bytes it is given.
Values are ordered by kind first (NULL, then numbers, then text, then blobs); numbers by their
exact value, an integer and a real included; text and blobs by their bytes.
Comparison operators other than `IS` are three-valued: a NULL operand makes them unknown.

`Value.toSql` is how a JSON value appears in the engine, both when it is bound as a parameter
and when a JSON function extracts it from a document: null is NULL, booleans are 1 and 0,
integers within 64 bits are integers, other numbers are reals, strings are text, and arrays and
objects are their compact JSON text.
-/

namespace DocStore

/-- A value of the SQL engine. Integers are within 64 bits. -/
inductive SqlValue where
  | null
  | integer (i : Int)
  | real (f : Binary64)
  | text (bytes : List UInt8)
  | blob (bytes : List UInt8)
deriving DecidableEq, Repr, Inhabited

/-- Text from a string: its UTF-8 bytes. -/
def SqlValue.ofString (s : String) : SqlValue := .text s.toUTF8.toList

/-- How a database holds its text (header offset 56): as UTF-8, or as UTF-16 in either byte
order. The engine converts text to this encoding as it enters a statement, and `BINARY`
compares the bytes it holds. -/
inductive TextEncoding where
  | utf8
  | utf16le
  | utf16be
deriving DecidableEq, Repr, Inhabited

/-- The encoding a header number names: its two low bits, where 0 also means UTF-8. -/
def TextEncoding.ofNumber (n : Nat) : TextEncoding :=
  match n % 4 with
  | 2 => .utf16le
  | 3 => .utf16be
  | _ => .utf8

/-- The number a header gives an encoding. -/
def TextEncoding.headerNumber : TextEncoding → Nat
  | .utf8 => 1
  | .utf16le => 2
  | .utf16be => 3

/-- The bytes of a text, given as UTF-8 bytes, in an encoding: UTF-16 as the engine makes it. -/
def TextEncoding.encode (enc : TextEncoding) (s : List UInt8) : List UInt8 :=
  match enc with
  | .utf8 => s
  | .utf16le => Text.unitBytes false (Text.utf16UnitsOfUtf8 s)
  | .utf16be => Text.unitBytes true (Text.utf16UnitsOfUtf8 s)

/-- Bytes of text in an encoding, as UTF-8. -/
def TextEncoding.toUtf8 (enc : TextEncoding) (bytes : List UInt8) : List UInt8 :=
  match enc with
  | .utf8 => bytes
  | .utf16le => Text.ofUtf16 false bytes
  | .utf16be => Text.ofUtf16 true bytes

/-- A blob as the engine reads it where it wants text or a number, in a database of an
encoding: its bytes are text of that encoding, so UTF-16 decodes them and UTF-8 takes them as
they are. Every other value is as it is. -/
def TextEncoding.blobAsText (enc : TextEncoding) : SqlValue → SqlValue
  | .blob b => .text (enc.toUtf8 b)
  | v => v

/-- Text as a database of an encoding holds it, given as UTF-8 bytes: in UTF-16, what the
engine's conversion leaves of it. -/
def TextEncoding.conform (enc : TextEncoding) (s : List UInt8) : List UInt8 :=
  match enc with
  | .utf8 => s
  | _ => Text.throughUtf16 s

/-- A value as a database of an encoding holds it: text conformed to the encoding. -/
def TextEncoding.conformValue (enc : TextEncoding) : SqlValue → SqlValue
  | .text s => .text (enc.conform s)
  | v => v

/-- What `BINARY` compares of a text given as UTF-8 bytes: the bytes in UTF-8, the code units
in UTF-16 big-endian, and the code units with their bytes swapped in UTF-16 little-endian. In
each encoding that is the order of the bytes the database holds. -/
def TextEncoding.binaryKey (enc : TextEncoding) (s : List UInt8) : List Nat :=
  match enc with
  | .utf8 => s.map (·.toNat)
  | .utf16be => Text.utf16UnitsOfUtf8 s
  | .utf16le => (Text.utf16UnitsOfUtf8 s).map (fun u => u % 256 * 256 + u / 256)

/-- A collating sequence: how text compares. -/
inductive Collation where
  /-- Code point by code point. -/
  | binary
  /-- ASCII letters without their case. -/
  | nocase
  /-- Trailing spaces ignored. -/
  | rtrim
deriving DecidableEq, Repr, Inhabited

/-- The collation a name stands for (names ignore ASCII case). -/
def Collation.ofName (n : String) : Option Collation :=
  let u := String.ofList (n.toList.map (fun c => if 'a' ≤ c ∧ c ≤ 'z' then Char.ofNat (c.toNat - 32) else c))
  if u = "BINARY" then some .binary
  else if u = "NOCASE" then some .nocase
  else if u = "RTRIM" then some .rtrim
  else none

/-- The bytes a collation compares in place of a text's bytes. -/
def Collation.normalize : Collation → List UInt8 → List UInt8
  | .binary, s => s
  | .nocase, s => s.map (fun b => if 65 ≤ b ∧ b ≤ 90 then b + 32 else b)
  | .rtrim, s => (s.reverse.dropWhile (· = 32)).reverse

namespace SqlValue

/-- The name of the kind of a value. -/
def typeName : SqlValue → String
  | .null => "Null"
  | .integer _ => "Integer"
  | .real _ => "Real"
  | .text _ => "Text"
  | .blob _ => "Blob"

/-- The rank of a kind in the engine's order. -/
def rank : SqlValue → Nat
  | .null => 0
  | .integer _ => 1
  | .real _ => 1
  | .text _ => 2
  | .blob _ => 3

/-- Lexicographic order of two lists under an order of their elements. -/
def compareLex {α : Type} (cmp : α → α → Ordering) : List α → List α → Ordering
  | [], [] => .eq
  | [], _ :: _ => .lt
  | _ :: _, [] => .gt
  | a :: as, b :: bs =>
    match cmp a b with
    | .eq => compareLex cmp as bs
    | o => o

/-- Byte order, a prefix first: the order of text and of blobs. -/
def compareBytes (a b : List UInt8) : Ordering :=
  compareLex (fun x y => compare x.toNat y.toNat) a b

/-- The engine's order of values (the order of `ORDER BY` and of comparisons). -/
def compare : SqlValue → SqlValue → Ordering
  | .integer a, .integer b => Ord.compare a b
  | .integer a, .real b => Binary64.compareInt a b
  | .real a, .integer b => (Binary64.compareInt b a).swap
  | .real a, .real b => Binary64.compareValue a b
  | .text a, .text b => compareBytes a b
  | .blob a, .blob b => compareBytes a b
  | a, b => Ord.compare a.rank b.rank

/-- The engine's order of values with texts compared under a collation, in a database of an
encoding. `NOCASE` and `RTRIM` read text as UTF-8 whatever the encoding; `BINARY` compares the
bytes the database holds. -/
def compareIn (enc : TextEncoding) (coll : Collation) : SqlValue → SqlValue → Ordering
  | .text a, .text b =>
    match enc, coll with
    | .utf8, _ | _, .nocase | _, .rtrim => compareBytes (coll.normalize a) (coll.normalize b)
    | _, .binary => compareLex (fun x y => Ord.compare x y) (enc.binaryKey a) (enc.binaryKey b)
  | a, b => compare a b

/-- The engine's order of values with texts compared under a collation, in UTF-8. -/
def compareWith (coll : Collation) : SqlValue → SqlValue → Ordering := compareIn .utf8 coll

/-- The truth of `a = b`: unknown when either side is NULL. -/
def eq? (a b : SqlValue) : Option Bool :=
  match a, b with
  | .null, _ => none
  | _, .null => none
  | _, _ => some (compare a b == .eq)

end SqlValue

/-- How a JSON value appears in the engine. -/
def Value.toSql : Value → SqlValue
  | .null => .null
  | .bool b => .integer (if b then 1 else 0)
  | .num (.int i) => if i < Nat.pow 2 63 then .integer i else .real (Binary64.ofInt i)
  | .num (.float f) => .real f
  | .str s => .ofString s
  | v => .ofString v.compact

/-- A failure of the engine with its own message. -/
def engineError (code : EngineCode) (text : String) : EngineFailure := ⟨code, some text⟩

/-- The failure of a JSON function on text that is not JSON. -/
def malformedJson : EngineFailure := engineError .error "malformed JSON"

/-- A result row: named columns in select order. -/
structure Row where
  columns : List (String × SqlValue)
deriving DecidableEq, Repr, Inhabited

namespace Row

/-- The first column with the name. -/
def get? (r : Row) (name : String) : Option SqlValue :=
  match r.columns.find? (fun c => c.1 == name) with
  | some c => some c.2
  | none => none

/-- The failure for a column of another kind than asked. -/
def typeError (name expected : String) : Option SqlValue → StoreError
  | none => .columnMissing name
  | some v => .columnType name expected v.typeName

/-- A text column. -/
def text (r : Row) (name : String) : Outcome String :=
  match r.get? name with
  | some (.text s) => .ok (Text.decodeLossy s)
  | other => .error (typeError name "text" other)

/-- An integer column. -/
def integer (r : Row) (name : String) : Outcome Int :=
  match r.get? name with
  | some (.integer i) => .ok i
  | other => .error (typeError name "integer" other)

/-- A blob column; NULL reads as the empty blob. -/
def blob (r : Row) (name : String) : Outcome (List UInt8) :=
  match r.get? name with
  | some (.blob b) => .ok b
  | some .null => .ok []
  | other => .error (typeError name "blob" other)

end Row

end DocStore
