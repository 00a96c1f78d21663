import DocStore.Sql.Value
import DocStore.Image.Geometry
import DocStore.Text.Utf8
/-!
# Records of the database file format

Values in the file are stored as records: a header that starts with its own length and lists one
serial type per column, followed by the column contents. Serial types: 0 for NULL, 1 to 6 for
integers of 1, 2, 3, 4, 6 and 8 bytes, 7 for a binary64 number, 8 and 9 for the integers 0 and 1,
`2n + 12` for a blob of `n` bytes and `2n + 13` for text of `n` bytes in the file's encoding.
Integers are big-endian two's complement.

Lengths and keys are written as variable-length integers: big-endian groups of seven bits, the
high bit set on every byte but the last, and a ninth byte, when needed, that carries eight bits.
-/

namespace DocStore

namespace Image

/-- A number as `width` big-endian bytes. -/
def bytesOf (width n : Nat) : List UInt8 :=
  (List.range width).reverse.map (fun i => UInt8.ofNat (n / Nat.pow 256 i % 256))

/-- A big-endian number. -/
def numberOf (bytes : List UInt8) : Nat := bytes.foldl (fun n b => n * 256 + b.toNat) 0

/-- The seven-bit groups of a number, most significant first. -/
def groups7 (n : Nat) : List Nat :=
  let rec go (n fuel : Nat) (acc : List Nat) : List Nat :=
    match fuel with
    | 0 => acc
    | fuel + 1 => if n < 128 then n :: acc else go (n / 128) fuel (n % 128 :: acc)
  go n 64 []

/-- A variable-length integer (below `2 ^ 64`). -/
def varint (n : Nat) : List UInt8 :=
  if n < Nat.pow 2 56 then
    let gs := groups7 n
    (gs.dropLast.map (fun g => UInt8.ofNat (g + 128))) ++ [UInt8.ofNat (gs.getLastD 0)]
  else
    let high := n / 256
    let gs := groups7 high
    let padded := List.replicate (8 - gs.length) 0 ++ gs
    padded.map (fun g => UInt8.ofNat (g + 128)) ++ [UInt8.ofNat (n % 256)]

/-- Read a variable-length integer: its value and the number of bytes it took. -/
def readVarint (bytes : List UInt8) : Nat × Nat :=
  let rec go : List UInt8 → Nat → Nat → Nat × Nat
    | [], acc, i => (acc, i)
    | b :: rest, acc, i =>
      if 8 ≤ i then (acc * 256 + b.toNat, 9)
      else if b.toNat < 128 then (acc * 128 + b.toNat, i + 1)
      else go rest (acc * 128 + (b.toNat - 128)) (i + 1)
  go bytes 0 0

/-- Two's complement of an integer in `width` bytes. -/
def twosComplement (width : Nat) (i : Int) : Nat :=
  if 0 ≤ i then i.toNat else (Nat.pow 2 (8 * width) : Int) + i |>.toNat

/-- The integer of `width` big-endian two's complement bytes. -/
def signedOf (bytes : List UInt8) : Int :=
  let n := numberOf bytes
  let w := 8 * bytes.length
  if bytes.length = 0 then 0
  else if n ≥ Nat.pow 2 (w - 1) then (n : Int) - (Nat.pow 2 w : Int) else n

/-- The serial type and content bytes of an integer. -/
def integerParts (i : Int) : Nat × List UInt8 :=
  if i = 0 then (8, []) else if i = 1 then (9, [])
  else
    let u : Nat := if i < 0 then (-i - 1).toNat else i.toNat
    let (t, w) :=
      if u ≤ 127 then (1, 1) else if u ≤ 32767 then (2, 2) else if u ≤ 8388607 then (3, 3)
      else if u ≤ 2147483647 then (4, 4) else if u ≤ 0x7fffffffffff then (5, 6) else (6, 8)
    (t, bytesOf w (twosComplement w i))

/-- The bits of a binary64 number. -/
def Binary64.bits (f : Binary64) : Nat :=
  (if f.neg then Nat.pow 2 63 else 0) + f.exponent * Nat.pow 2 52 + f.fraction

/-- The serial type and content bytes of a value, text in an encoding. -/
def serialParts (enc : TextEncoding) : SqlValue → Nat × List UInt8
  | .null => (0, [])
  | .integer i => integerParts i
  | .real f => (7, bytesOf 8 (Binary64.bits f))
  | .text s =>
    let bytes := enc.encode s
    (2 * bytes.length + 13, bytes)
  | .blob b => (2 * b.length + 12, b)

/-- The length of the header-length varint of a record whose serial types take `n` bytes. -/
def headerLength (n : Nat) : Nat :=
  if n + 1 < 128 then n + 1 else n + (varint (n + 2)).length

/-- A record of values, text in an encoding. -/
def record (enc : TextEncoding) (vals : List SqlValue) : List UInt8 :=
  let parts := vals.map (serialParts enc)
  let types := (parts.map (fun p => varint p.1)).flatten
  let hlen := headerLength types.length
  varint hlen ++ types ++ (parts.map Prod.snd).flatten

/-- The content size of a serial type. -/
def serialSize (t : Nat) : Nat :=
  match t with
  | 0 | 8 | 9 | 10 | 11 => 0
  | 1 => 1
  | 2 => 2
  | 3 => 3
  | 4 => 4
  | 5 => 6
  | 6 | 7 => 8
  | t => (t - 12) / 2

/-- The value of a serial type's content, text in an encoding. -/
def serialValue (enc : TextEncoding) (t : Nat) (bytes : List UInt8) : SqlValue :=
  match t with
  | 0 => .null
  | 8 => .integer 0
  | 9 => .integer 1
  | 7 =>
    let n := numberOf bytes
    .real ⟨n ≥ Nat.pow 2 63, n / Nat.pow 2 52 % 2048, n % Nat.pow 2 52⟩
  | 1 | 2 | 3 | 4 | 5 | 6 => .integer (signedOf bytes)
  | t =>
    if t ≥ 12 ∧ t % 2 = 0 then .blob bytes
    else if t ≥ 13 then .text (enc.toUtf8 bytes)
    else .null

/-- The serial types listed in a record header. -/
def serialTypes (header : List UInt8) : List Nat :=
  let rec go (bs : List UInt8) (fuel : Nat) : List Nat :=
    match fuel with
    | 0 => []
    | fuel + 1 =>
      if bs.isEmpty then []
      else
        let (t, k) := readVarint bs
        t :: go (bs.drop (max k 1)) fuel
  go header header.length

/-- The values of a record, text in an encoding, or nothing when it is malformed. -/
def readRecord (enc : TextEncoding) (bytes : List UInt8) : Option (List SqlValue) :=
  let (hlen, k) := readVarint bytes
  if hlen < k ∨ hlen > bytes.length then none
  else
    let types := serialTypes ((bytes.take hlen).drop k)
    let rec values (ts : List Nat) (body : List UInt8) : Option (List SqlValue) :=
      match ts with
      | [] => some []
      | t :: rest =>
        let n := serialSize t
        if body.length < n then none
        else (values rest (body.drop n)).map (serialValue enc t (body.take n) :: ·)
    values types (bytes.drop hlen)

end Image

end DocStore
