import DocStore.Image
/-!
# The geometry of an image

Opening an image reads its 100-byte header and fixes how the rest of the file is cut into
pages. The header is accepted when

* it starts with the 16 magic bytes,
* the write version (offset 19) is at most 2,
* the payload fractions (offsets 21 to 23) are 64, 32 and 32,
* the page size (offsets 16 and 17, `256 * b16 + 65536 * b17`) is a power of two above 256 and
  at most 65536, and
* at least 480 bytes of each page stay usable after the reserved bytes (offset 20).

A failed check means the file is not a database, with one exception: a page count that the
header vouches for (the count at offset 28, when the stamp at offset 92 equals the change counter
at offset 24) larger than the file is corruption. An unvouched count is replaced by the number of
pages the file holds.

Bytes are read per page: offsets past a page or past the file read as zero, so every read is
total. Multi-byte numbers are big-endian.
-/

namespace DocStore

namespace Image

/-- Why reading an image stops. -/
inductive Fault where
  /-- The header is not one of a database. -/
  | notADatabase
  /-- The content contradicts itself. -/
  | corrupt
  /-- The header of a record contradicts its cell. A statement fails with it as with `corrupt`;
  the integrity check reports it as its last row instead. -/
  | record
  /-- A value is longer than any value may be. -/
  | tooBig
  /-- The schema cannot be read; the text says why. -/
  | schema (text : String)
deriving DecidableEq, Repr

/-- The message of a fault. -/
def Fault.message : Fault → String
  | .notADatabase => "file is not a database"
  | .corrupt => "database disk image is malformed"
  | .record => "database disk image is malformed"
  | .tooBig => "string or blob too big"
  | .schema text => text

/-- An opened image: its bytes and how they are cut into pages. -/
structure Geometry where
  bytes : Array UInt8
  pageSize : Nat
  usable : Nat
  pages : Nat
  autoVacuum : Bool
  encoding : TextEncoding

/-- A 64-bit variable-length integer read through `read` from `off`: seven bits from each of up
to eight bytes whose high bit is set, and all eight bits of a ninth. The value and the number of
bytes it took. -/
def varintFrom (read : Nat → Nat) (off : Nat) : Nat × Nat :=
  let rec go : Nat → Nat → Nat → Nat × Nat
    | 0, i, acc => (acc * 256 + read (off + i), i + 1)
    | fuel + 1, i, acc =>
      let b := read (off + i)
      if b < 128 then (acc * 128 + b, i + 1) else go fuel (i + 1) (acc * 128 + (b - 128))
  go 8 0 0

/-- A payload length read through `read` from `off`: up to nine bytes, seven bits from each,
kept to 32 bits. The value and the number of bytes it took. -/
def lengthFrom (read : Nat → Nat) (off : Nat) : Nat × Nat :=
  let rec go : Nat → Nat → Nat → Nat × Nat
    | 0, j, acc => (acc, j)
    | fuel + 1, j, acc =>
      let b := read (off + j)
      let acc := (acc * 128 + b % 128) % Nat.pow 2 32
      if b < 128 ∨ j = 8 then (acc, j + 1) else go fuel (j + 1) acc
  let b0 := read off
  if b0 < 128 then (b0, 1) else go 8 1 (b0 % 128)

/-- A serial type read through `read` from `off`: a 64-bit variable-length integer, where
values past 32 bits read as `2 ^ 32 - 1`. -/
def serialTypeFrom (read : Nat → Nat) (off : Nat) : Nat × Nat :=
  let (v, n) := varintFrom read off
  (min v (Nat.pow 2 32 - 1), n)

/-- A 64-bit two's complement number as an integer. -/
def signed64 (v : Nat) : Int := if v ≥ Nat.pow 2 63 then (v : Int) - Nat.pow 2 64 else v

/-- Is `n` a power of two (zero counts, as the engine's bit test counts it)? -/
def isPow2 (n : Nat) : Bool := n = 0 || (List.range 17).any (fun k => Nat.pow 2 k = n)

namespace Geometry

/-- The byte of the file at an absolute offset, zero past its end. -/
def fileByte (bytes : Array UInt8) (i : Nat) : Nat := (bytes.getD i 0).toNat

/-- Open an image: check its header and fix its geometry. An empty image is a database with no
pages. -/
def ofImage (image : List UInt8) : Except Fault Geometry :=
  let bytes := image.toArray
  let at4 (i : Nat) : Nat :=
    ((fileByte bytes i * 256 + fileByte bytes (i + 1)) * 256 + fileByte bytes (i + 2)) * 256 +
      fileByte bytes (i + 3)
  if bytes.size = 0 then
    .ok { bytes, pageSize := 4096, usable := 4096, pages := 0, autoVacuum := false, encoding := .utf8 }
  else
    let size := fileByte bytes 16 * 256 + fileByte bytes 17 * 65536
    let usable := size - fileByte bytes 20
    if (List.range 16).any (fun i => fileByte bytes i ≠ (magic.getD i 0).toNat) then .error .notADatabase
    else if fileByte bytes 19 > 2 then .error .notADatabase
    else if fileByte bytes 21 ≠ 64 ∨ fileByte bytes 22 ≠ 32 ∨ fileByte bytes 23 ≠ 32 then
      .error .notADatabase
    else if !isPow2 size ∨ size > 65536 ∨ size ≤ 256 then .error .notADatabase
    else
      let filePages := (bytes.size + size - 1) / size
      let counted := at4 28
      let stamped := (List.range 4).all (fun i => fileByte bytes (24 + i) = fileByte bytes (92 + i))
      let pages := if counted = 0 ∨ !stamped then filePages else counted
      if pages > filePages then .error .corrupt
      else if usable < 480 then .error .notADatabase
      else .ok { bytes, pageSize := size, usable, pages, autoVacuum := at4 52 ≠ 0,
                 encoding := TextEncoding.ofNumber (at4 56) }

/-- The byte at an offset of a page (pages count from 1). -/
def byte (g : Geometry) (pgno off : Nat) : Nat :=
  if off < g.pageSize then fileByte g.bytes ((pgno - 1) * g.pageSize + off) else 0

/-- The big-endian two-byte number at an offset of a page. -/
def get2 (g : Geometry) (pgno off : Nat) : Nat := g.byte pgno off * 256 + g.byte pgno (off + 1)

/-- The big-endian four-byte number at an offset of a page. -/
def get4 (g : Geometry) (pgno off : Nat) : Nat := g.get2 pgno off * 65536 + g.get2 pgno (off + 2)

/-- `len` bytes of a page from an offset. -/
def slice (g : Geometry) (pgno off len : Nat) : List UInt8 :=
  (List.range len).map (fun i => UInt8.ofNat (g.byte pgno (off + i)))

/-- A number of the database header. -/
def headerNumber (g : Geometry) (off : Nat) : Nat := g.get4 1 off

/-- The most cells a page can hold. -/
def maxCells (g : Geometry) : Nat := (g.pageSize - 8) / 6

/-- Where the b-tree header of a page starts: after the database header on page 1. -/
def headerOffset (pgno : Nat) : Nat := if pgno = 1 then 100 else 0

/-- The page that holds the lock bytes at one gibibyte; it belongs to no tree. -/
def lockPage (g : Geometry) : Nat := 1073741824 / g.pageSize + 1

/-- The pointer-map page that describes a page, in an image that keeps pointer maps: every
`usable / 5 + 1` pages starting at page 2 are led by one, the lock page skipped. -/
def pointerMapPage (g : Geometry) (pgno : Nat) : Nat :=
  if pgno < 2 then 0
  else
    let span := g.usable / 5 + 1
    let p := (pgno - 2) / span * span + 2
    if p = g.lockPage then p + 1 else p

end Geometry

end Image

end DocStore
