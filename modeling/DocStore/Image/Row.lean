import DocStore.Image.Entries
import DocStore.Image.Record
import DocStore.Text.Utf8
import DocStore.Json.Writer
/-!
# Reading the columns of a stored row

A row's payload is a record: a header that starts with its own length and lists one serial type
per column, then the column contents. Columns are read one at a time, and the header is parsed
only as far as the column asked for, so a damaged header shows only when a read reaches it:

* when the whole header is on the page it is parsed there, and the first read parses at least one
  type even if the header claims to be empty;
* otherwise the header is read through the payload, and a header longer than 98307 bytes or than
  the payload is corrupt;
* after each stretch of parsing, the header must not run past its declared length, a fully parsed
  header must account for exactly the payload, and the columns parsed so far must fit in the
  payload; a header that declares length 0 instead reads as a row of NULLs;
* a column past the end of the header reads as NULL.

Content on the page is read directly; content on overflow pages is read through the payload,
except when only its type matters or it is empty.
-/

namespace DocStore

namespace Image

/-- A value as a record stores it; text keeps the bytes of the image's encoding. -/
inductive Stored where
  | null
  | integer (i : Int)
  | real (f : Binary64)
  | text (bytes : List UInt8)
  | blob (bytes : List UInt8)
deriving DecidableEq, Repr

/-- The value of a serial type's content. A binary64 NaN reads as NULL. -/
def storedValue (t : Nat) (bytes : List UInt8) : Stored :=
  match t with
  | 0 | 10 | 11 => .null
  | 8 => .integer 0
  | 9 => .integer 1
  | 7 =>
    let n := numberOf bytes
    if n / Nat.pow 2 52 % 2048 = 2047 ∧ n % Nat.pow 2 52 ≠ 0 then .null
    else .real ⟨n ≥ Nat.pow 2 63, n / Nat.pow 2 52 % 2048, n % Nat.pow 2 52⟩
  | 1 | 2 | 3 | 4 | 5 | 6 => .integer (signedOf bytes)
  | t => if t % 2 = 0 then .blob bytes else .text bytes

/-- The storage class of a serial type as one bit: 1 integer, 2 real, 4 text, 8 blob, 16 NULL. -/
def classBit (t : Nat) : Nat :=
  if t ≥ 12 then (if t % 2 = 1 then 4 else 8)
  else [16, 1, 1, 1, 1, 1, 1, 2, 1, 1, 16, 16].getD t 16

namespace Stored

/-- The bytes of a value read as text, in UTF-8, up to its first NUL byte; nothing for NULL. -/
def textBytes (enc : TextEncoding) : Stored → Option (List UInt8)
  | .null => none
  | .integer i => some (toString i).toUTF8.toList
  | .real f => some (Json.floatText f).toUTF8.toList
  | .text b => some ((enc.toUtf8 b).takeWhile (· ≠ 0))
  | .blob b => some (b.takeWhile (· ≠ 0))

/-- A value as the store's tables hold it. -/
def toSql (enc : TextEncoding) : Stored → SqlValue
  | .null => .null
  | .integer i => .integer i
  | .real f => .real f
  | .text b => .text (enc.toUtf8 b)
  | .blob b => .blob b

end Stored

/-- What the reads of one row have learned so far. -/
structure RecordState where
  entry : Entry
  /-- The declared header length. -/
  headerSize : Nat
  /-- Whether the whole header is on the page. -/
  headerOnPage : Bool
  /-- The payload bytes readable on the page; 0 when the header is not on it. -/
  rowOnPage : Nat
  /-- The serial types parsed so far. -/
  types : List Nat
  /-- Where each parsed column starts, and where the last one ends. -/
  offsets : List Nat
  /-- Where header parsing resumes. -/
  parsedAt : Nat
  /-- Whether a column has been read. -/
  started : Bool

namespace Geometry

/-- Start reading a row. A payload that would start past the end of its page has no header
there: the engine reads what lies beyond the page's buffer, which is never a record, and the
row is corrupt. -/
def openRecord (g : Geometry) (e : Entry) : Except Fault RecordState :=
  let c := e.cell
  let rowOnPage := min c.onPage (g.pageSize - c.payloadAt)
  let read (i : Nat) : Nat := g.byte e.page.pgno (c.payloadAt + i)
  let (hs, n) := if read 0 < 128 then (read 0, 1) else serialTypeFrom read 0
  if c.payloadAt ≥ g.pageSize then .error .record
  else if rowOnPage < hs then
    if hs > 98307 ∨ hs > c.payload then .error .record
    else .ok { entry := e, headerSize := hs, headerOnPage := false, rowOnPage := 0, types := [],
               offsets := [hs], parsedAt := n, started := false }
  else
    .ok { entry := e, headerSize := hs, headerOnPage := true, rowOnPage, types := [], offsets := [hs],
          parsedAt := n, started := false }

/-- The bytes a row's header is parsed from. -/
def headerSource (g : Geometry) (st : RecordState) : Except Fault (Nat → Nat) :=
  if st.headerOnPage then .ok (fun i => g.byte st.entry.page.pgno (st.entry.cell.payloadAt + i))
  else if g.pageSize * g.pages < st.headerSize then .error .corrupt
  else (g.payloadBytes st.entry 0 st.headerSize).map (fun bytes =>
    let arr := bytes.toArray
    fun i => (arr.getD i 0).toNat)

/-- Parse serial types from `z` until column `upTo` is known or the header ends. The result
holds the types and offsets so far, where parsing stopped and the end of the last column. -/
def parseTypes (read : Nat → Nat) (hs upTo : Nat) :
    Nat → List Nat → List Nat → Nat → Nat → List Nat × List Nat × Nat × Nat
  | 0, ts, os, z, off => (ts, os, z, off)
  | fuel + 1, ts, os, z, off =>
    let (t, n) := if read z < 128 then (read z, 1) else serialTypeFrom read z
    let z := z + n
    let off := off + serialSize t
    let ts := ts ++ [t]
    let os := os ++ [off % Nat.pow 2 32]
    if ts.length ≤ upTo ∧ z < hs then parseTypes read hs upTo fuel ts os z off else (ts, os, z, off)

/-- Parse the header of a row further, so that column `k` is known if the row has it. -/
def parseFurther (g : Geometry) (st : RecordState) (k : Nat) : Except Fault RecordState := do
  let read ← g.headerSource st
  let start := st.offsets.getLastD 0
  let (ts, os, z, off) := parseTypes read st.headerSize k (k + 1) st.types st.offsets st.parsedAt start
  let payload := st.entry.cell.payload
  if (z ≥ st.headerSize ∧ (z > st.headerSize ∨ off ≠ payload)) ∨ off > payload then
    if st.headerSize = 0 then return { st with types := [], offsets := [0], parsedAt := 0 }
    else throw .record
  return { st with types := ts, offsets := os, parsedAt := z }

/-- Read column `k` of a row: the state after the read, the column's serial type (nothing past
the header) and its value. With `typeOnly`, content off the page is not read. -/
def column (g : Geometry) (st : RecordState) (k : Nat) (typeOnly : Bool) :
    Except Fault (RecordState × Option Nat × Stored) := do
  let needParse := st.types.length ≤ k ∧ (st.parsedAt < st.headerSize ∨ (!st.started ∧ st.headerOnPage))
  let st ← if needParse then g.parseFurther st k else pure st
  let st := { st with started := true }
  match st.types[k]? with
  | none => return (st, none, .null)
  | some t =>
    let start := st.offsets.getD k 0
    let stop := st.offsets.getD (k + 1) 0
    let len := serialSize t
    if st.rowOnPage ≥ stop then
      return (st, some t, storedValue t (g.slice st.entry.page.pgno (st.entry.cell.payloadAt + start) len))
    else if typeOnly ∨ len = 0 then return (st, some t, storedValue t (List.replicate len 0))
    else if len > 1000000000 then throw .tooBig
    else if len ≤ 4000 ∧ g.pageSize * g.pages < start + len then throw .corrupt
    else
      let bytes ← g.payloadBytes st.entry start len
      return (st, some t, storedValue t bytes)

/-- Read the first `n` columns of a row in order. -/
def columns (g : Geometry) (e : Entry) (n : Nat) : Except Fault (List Stored) := do
  let st ← g.openRecord e
  let (_, vals) ← (List.range n).foldlM (fun (acc : RecordState × List Stored) k => do
    let (st, _, v) ← g.column acc.1 k false
    return (st, acc.2 ++ [v])) (st, [])
  return vals

end Geometry

end Image

end DocStore
