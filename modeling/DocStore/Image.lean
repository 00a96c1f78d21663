import DocStore.Sql.Value
/-!
# Database images

The raw bytes of a backing file. An image starts with the 100-byte database header: the text
`SQLite format 3` and a NUL, the page size (big-endian at offset 16; `1` stands for 65536),
the change counter (offset 24), the page count (offset 28) and the version-valid-for number
(offset 92). The page count is trusted only when the version-valid-for number equals the change
counter.

`checkHeader` is the check made before an image replaces a store: a header, a page size that
is a power of two between 512 and 65536, a whole number of pages, and no fewer bytes than the
trusted page count asks for.
-/

namespace DocStore

namespace Image

/-- The 16 bytes every image starts with. -/
def magic : List UInt8 := "SQLite format 3".toList.map (fun c => UInt8.ofNat c.toNat) ++ [0]

/-- A big-endian number from bytes. -/
def bigEndian (bytes : List UInt8) : Nat := bytes.foldl (fun n b => n * 256 + b.toNat) 0

/-- A number as `width` big-endian bytes. -/
def toBigEndian (width n : Nat) : List UInt8 :=
  (List.range width).reverse.map (fun i => UInt8.ofNat (n / Nat.pow 256 i % 256))

/-- The bytes from `start`, `len` of them. -/
def slice (image : List UInt8) (start len : Nat) : List UInt8 := (image.drop start).take len

/-- The page size a header declares. -/
def pageSize (image : List UInt8) : Nat :=
  match bigEndian (slice image 16 2) with
  | 1 => 65536
  | n => n

/-- Is `n` a power of two? -/
def isPowerOfTwo (n : Nat) : Bool := n ≠ 0 && (List.range 17).any (fun k => Nat.pow 2 k = n)

/-- Why an image is not one of a database, if it is not. -/
def headerProblem (image : List UInt8) : Option String :=
  if image.length < 100 ∨ image.take 16 ≠ magic then some "missing header"
  else
    let size := pageSize image
    if !(512 ≤ size ∧ size ≤ 65536) ∨ !isPowerOfTwo size then some "invalid page size"
    else if image.length % size ≠ 0 then some "image is not a whole number of pages"
    else
      let pages := bigEndian (slice image 28 4)
      let stamped := slice image 24 4 == slice image 92 4
      if stamped ∧ pages * size > image.length then some "image is truncated"
      else none

/-- The check made before an image replaces a store. -/
def checkHeader (image : List UInt8) : Outcome Unit :=
  match headerProblem image with
  | some reason => .error (.backup ("Binary import is not a SQLite database image: " ++ reason))
  | none => .ok ()

end Image

end DocStore
