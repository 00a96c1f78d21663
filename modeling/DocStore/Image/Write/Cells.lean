import DocStore.Image.Page
/-!
# Editing the cells of a page

A b-tree page keeps its cells at the end of its usable area, growing down towards the array of
cell offsets that follows the page header. Space a removed cell leaves behind becomes a free
block (a chain in ascending order, each block holding the offset of the next one and its own
size) or, when it borders the cell content area, joins the gap above the offsets. Gaps of fewer
than four bytes cannot hold a free block and are counted as fragments in the header.

Placing a cell takes, in order of preference:

1. the first free block that is large enough: an exact fit (or one that leaves fewer than four
   bytes, counted as fragments) is taken whole, otherwise the cell takes the block's upper end;
2. the gap, after packing the cells together when the gap alone is too small.

Removing a cell frees its bytes, merging them with a free block that touches them (fragments
between them included), and removes its offset from the array; a page left without cells is
reset to an empty gap. Bytes that are freed keep their old content, except the four bytes a free
block header takes: images record what their pages held before.

Every edit checks the structures it relies on and fails with `Fault.corrupt` when they are
inconsistent.
-/

namespace DocStore

namespace Image

/-- A b-tree page being edited: its bytes, where its header starts and how many bytes are usable. -/
structure PageBuffer where
  bytes : Array UInt8
  hdr : Nat
  usable : Nat
deriving DecidableEq, Repr, Inhabited

namespace PageBuffer

/-- The byte at an offset. -/
def read (p : PageBuffer) (i : Nat) : Nat := (p.bytes.getD i 0).toNat

/-- The big-endian two-byte number at an offset. -/
def get2 (p : PageBuffer) (i : Nat) : Nat := p.read i * 256 + p.read (i + 1)

/-- The big-endian four-byte number at an offset. -/
def get4 (p : PageBuffer) (i : Nat) : Nat := p.get2 i * 65536 + p.get2 (i + 2)

/-- Set one byte. -/
def set1 (p : PageBuffer) (i v : Nat) : PageBuffer :=
  { p with bytes := p.bytes.setIfInBounds i (UInt8.ofNat v) }

/-- Set a two-byte number. -/
def set2 (p : PageBuffer) (i v : Nat) : PageBuffer := (p.set1 i (v / 256 % 256)).set1 (i + 1) (v % 256)

/-- Set a four-byte number. -/
def set4 (p : PageBuffer) (i v : Nat) : PageBuffer := (p.set2 i (v / 65536 % 65536)).set2 (i + 2) (v % 65536)

/-- `len` bytes from an offset. -/
def slice (p : PageBuffer) (i len : Nat) : List UInt8 := (List.range len).map (fun k => UInt8.ofNat (p.read (i + k)))

/-- Write bytes from an offset. -/
def write (p : PageBuffer) (i : Nat) (src : List UInt8) : PageBuffer :=
  { p with bytes := src.zipIdx.foldl (fun a (b, k) => a.setIfInBounds (i + k) b) p.bytes }

/-- Move `len` bytes from `src` to `dst`; the ranges may overlap. -/
def move (p : PageBuffer) (dst src len : Nat) : PageBuffer := p.write dst (p.slice src len)

/-- Set `len` bytes from an offset to zero. -/
def zero (p : PageBuffer) (i len : Nat) : PageBuffer := p.write i (List.replicate len 0)

/-- The kind of the page, from its flag byte. -/
def kind? (p : PageBuffer) : Option PageKind := PageKind.ofFlag (p.read p.hdr)

/-- The number of cells. -/
def cells (p : PageBuffer) : Nat := p.get2 (p.hdr + 3)

/-- Where the cell offsets start on a page of a kind. -/
def cellIndex (p : PageBuffer) (k : PageKind) : Nat := p.hdr + 8 + k.childSize

/-- The offset of cell `i`. -/
def cellPointer (p : PageBuffer) (k : PageKind) (i : Nat) : Nat := p.get2 (p.cellIndex k + 2 * i)

/-- Parse the cell at an offset. -/
def cellAt (p : PageBuffer) (k : PageKind) (pc : Nat) : Cell := parseCell p.usable k p.read pc

/-- The free bytes of the page. -/
def freeBytes (p : PageBuffer) (k : PageKind) : Option Nat := freeBytesOf p.usable p.hdr k p.cells p.read

/-- Reset a page to an empty one of a kind: only the header changes. -/
def reset (p : PageBuffer) (flag : Nat) : PageBuffer :=
  let h := p.hdr
  (((p.set1 h flag).zero (h + 1) 4).set1 (h + 7) 0).set2 (h + 5) p.usable

/-- Find a free block for `nByte` bytes and take it: the page with the block taken and where
the bytes go, or nothing when no block fits. -/
def findSlot (p : PageBuffer) (nByte : Nat) : Except Fault (Option (PageBuffer × Nat)) :=
  let maxPC : Int := (p.usable : Int) - nByte
  let rec go : Nat → Nat → Nat → Except Fault (Option (PageBuffer × Nat))
    | 0, _, _ => .ok none
    | fuel + 1, iAddr, pc =>
      if (pc : Int) ≤ maxPC then
        let size := p.get2 (pc + 2)
        if size ≥ nByte then
          let x := size - nByte
          if x < 4 then
            if p.read (p.hdr + 7) > 57 then .ok none
            else
              let q := (p.set1 iAddr (p.read pc)).set1 (iAddr + 1) (p.read (pc + 1))
              .ok (some (q.set1 (p.hdr + 7) ((p.read (p.hdr + 7) + x) % 256), pc))
          else if ((x + pc : Nat) : Int) > maxPC then .error .corrupt
          else .ok (some (p.set2 (pc + 2) x, pc + x))
        else
          let next := p.get2 pc
          if next ≤ pc then (if next ≠ 0 then .error .corrupt else .ok none)
          else go fuel pc next
      else if (pc : Int) > maxPC + nByte - 4 then .error .corrupt
      else .ok none
  go (p.usable + 1) (p.hdr + 1) (p.get2 (p.hdr + 1))

/-- The cell offsets after the cells below `iFree` moved up by `sz` and those between the two free
blocks by `sz2`. -/
def shiftPointers (p : PageBuffer) (k : PageKind) (iFree iFree2 sz sz2 : Nat) : PageBuffer :=
  (List.range p.cells).foldl (fun q i =>
    let at_ := p.cellIndex k + 2 * i
    let pc := q.get2 at_
    if pc < iFree then q.set2 at_ (pc + sz)
    else if pc < iFree2 then q.set2 at_ (pc + sz2)
    else q) p

/-- Pack the cells of a page together at the end of its usable area, keeping their order of
offsets: the content area then starts right after the gap, with no free blocks or fragments.
Pages with at most `maxFrag` fragments (never, when it is negative) and at most two free
blocks, the second one last, only slide the cells between them. `free` is the page's free byte count. -/
def defragment (p : PageBuffer) (k : PageKind) (free : Nat) (maxFrag : Int) : Except Fault PageBuffer := do
  let hdr := p.hdr
  let cellOffset := p.cellIndex k
  let nCell := p.cells
  let firstCell := cellOffset + 2 * nCell
  let usable := p.usable
  let quick : Option (Except Fault (PageBuffer × Nat)) :=
    if (p.read (hdr + 7) : Int) ≤ maxFrag then
      let iFree := p.get2 (hdr + 1)
      if iFree > usable - 4 then some (.error .corrupt)
      else if iFree = 0 then none
      else
        let iFree2 := p.get2 iFree
        if iFree2 > usable - 4 then some (.error .corrupt)
        else if iFree2 = 0 ∨ (p.read iFree2 = 0 ∧ p.read (iFree2 + 1) = 0) then
          let sz := p.get2 (iFree + 2)
          let top := p.get2 (hdr + 5)
          if top ≥ iFree then some (.error .corrupt)
          else
            let second : Except Fault (PageBuffer × Nat × Nat) :=
              if iFree2 ≠ 0 then
                if iFree + sz > iFree2 then .error .corrupt
                else
                  let sz2 := p.get2 (iFree2 + 2)
                  if iFree2 + sz2 > usable then .error .corrupt
                  else .ok (p.move (iFree + sz + sz2) (iFree + sz) (iFree2 - (iFree + sz)), sz + sz2, sz2)
              else if iFree + sz > usable then .error .corrupt
              else .ok (p, sz, 0)
            some (second.map fun (q, sz, sz2) =>
              let cbrk := top + sz
              let q := q.move cbrk top (iFree - top)
              (q.shiftPointers k iFree iFree2 sz sz2, cbrk))
        else none
    else none
  let (q, cbrk) ← match quick with
    | some r => r
    | none => do
      let start := p.get2 (hdr + 5)
      let rec pack : List Nat → PageBuffer → Nat → Except Fault (PageBuffer × Nat)
        | [], q, cbrk => .ok (q, cbrk)
        | i :: rest, q, cbrk => do
          let at_ := cellOffset + 2 * i
          let pc := q.get2 at_
          if pc > usable - 4 then throw .corrupt
          let size := (p.cellAt k pc).size
          if size > cbrk then throw .corrupt
          let cbrk := cbrk - size
          if cbrk < start ∨ pc + size > usable then throw .corrupt
          pack rest ((q.set2 at_ cbrk).write cbrk (p.slice pc size)) cbrk
      let (q, cbrk) ← pack (List.range nCell) p usable
      pure (q.set1 (hdr + 7) 0, cbrk)
  if q.read (hdr + 7) + cbrk < firstCell ∨ q.read (hdr + 7) + cbrk - firstCell ≠ free then throw .corrupt
  return (((q.set2 (hdr + 5) cbrk).set1 (hdr + 1) 0).set1 (hdr + 2) 0).zero firstCell (cbrk - firstCell)

/-- Take `nByte` bytes for a new cell: the page and where the cell goes. `free` is the page's
free byte count, at least `nByte + 2`. -/
def allocate (p : PageBuffer) (k : PageKind) (free nByte : Nat) : Except Fault (PageBuffer × Nat) := do
  let hdr := p.hdr
  let gap := p.cellIndex k + 2 * p.cells
  let stored := p.get2 (hdr + 5)
  let top ← if gap > stored then
      if stored = 0 ∧ p.usable = 65536 then pure 65536 else throw .corrupt
    else if stored > p.usable then throw .corrupt
    else pure stored
  let found ← if (p.read (hdr + 2) ≠ 0 ∨ p.read (hdr + 1) ≠ 0) ∧ gap + 2 ≤ top then p.findSlot nByte
    else pure none
  match found with
  | some (q, at_) => if at_ ≤ gap then throw .corrupt else return (q, at_)
  | none =>
    let (q, top) ← if gap + 2 + nByte > top then do
        let q ← p.defragment k free (min 4 (free - (2 + nByte)) : Nat)
        pure (q, match q.get2 (hdr + 5) with
          | 0 => 65536
          | n => n)
      else pure (p, top)
    let top := top - nByte
    return (q.set2 (hdr + 5) top, top)

/-- Free `size` bytes at `start`, merging them with the free blocks and fragments they touch. -/
def release (p : PageBuffer) (start size : Nat) : Except Fault PageBuffer := do
  let hdr := p.hdr
  let mut iPtr := hdr + 1
  let mut iStart := start
  let mut iSize := size
  let mut iEnd := start + size
  let mut iFreeBlk := 0
  let mut q := p
  if !(p.read (iPtr + 1) = 0 ∧ p.read iPtr = 0) then
    -- find the free blocks around the freed bytes
    let rec seek : Nat → Nat → Except Fault (Nat × Nat)
      | 0, _ => .error .corrupt
      | fuel + 1, at_ =>
        let blk := p.get2 at_
        if blk < start then
          if blk ≤ at_ then (if blk = 0 then .ok (at_, 0) else .error .corrupt)
          else seek fuel blk
        else .ok (at_, blk)
    let (ptr, blk) ← seek (p.usable + 1) iPtr
    iPtr := ptr
    iFreeBlk := blk
    if iFreeBlk > p.usable - 4 then throw .corrupt
    let mut nFrag := 0
    if iFreeBlk ≠ 0 ∧ iEnd + 3 ≥ iFreeBlk then
      if iEnd > iFreeBlk then throw .corrupt
      nFrag := iFreeBlk - iEnd
      iEnd := iFreeBlk + p.get2 (iFreeBlk + 2)
      if iEnd > p.usable then throw .corrupt
      iSize := iEnd - iStart
      iFreeBlk := p.get2 iFreeBlk
    if iPtr > hdr + 1 then
      let ptrEnd := iPtr + p.get2 (iPtr + 2)
      if ptrEnd + 3 ≥ iStart then
        if ptrEnd > iStart then throw .corrupt
        nFrag := nFrag + (iStart - ptrEnd)
        iSize := iEnd - iPtr
        iStart := iPtr
    if nFrag > p.read (hdr + 7) then throw .corrupt
    q := q.set1 (hdr + 7) (p.read (hdr + 7) - nFrag)
  let x := q.get2 (hdr + 5)
  if iStart ≤ x then
    if iStart < x then throw .corrupt
    if iPtr ≠ hdr + 1 then throw .corrupt
    return (q.set2 (hdr + 1) iFreeBlk).set2 (hdr + 5) iEnd
  else
    return ((q.set2 iPtr iStart).set2 iStart iFreeBlk).set2 (iStart + 2) iSize

/-- Put a cell that fits (its size plus two is at most `free`) at position `i` of the offsets. -/
def insertCell (p : PageBuffer) (k : PageKind) (free i : Nat) (cell : List UInt8) :
    Except Fault PageBuffer := do
  let (q, at_) ← p.allocate k free cell.length
  let q := q.write at_ cell
  let ci := q.cellIndex k
  let n := q.cells
  let q := q.move (ci + 2 * i + 2) (ci + 2 * i) (2 * (n - i))
  return (q.set2 (ci + 2 * i) at_).set2 (p.hdr + 3) (n + 1)

/-- Lay cells out afresh: the first one at the end of the usable area and each next one below it,
their offsets in order after the header, with no free blocks or fragments. -/
def fill (p : PageBuffer) (k : PageKind) (cells : List (List UInt8)) : PageBuffer :=
  let ci := p.cellIndex k
  let (q, top) := cells.zipIdx.foldl (fun (acc : PageBuffer × Nat) (c, i) =>
    let top := acc.2 - c.length
    ((acc.1.write top c).set2 (ci + 2 * i) top, top)) (p, p.usable)
  (((q.set2 (p.hdr + 1) 0).set2 (p.hdr + 3) cells.length).set2 (p.hdr + 5) top).set1 (p.hdr + 7) 0

/-- Remove cell `i`, which takes `size` bytes. -/
def dropCell (p : PageBuffer) (k : PageKind) (i size : Nat) : Except Fault PageBuffer := do
  let ci := p.cellIndex k
  let pc := p.get2 (ci + 2 * i)
  if pc + size > p.usable then throw .corrupt
  let q ← p.release pc size
  let n := p.cells - 1
  if n = 0 then
    return ((q.zero (p.hdr + 1) 4).set1 (p.hdr + 7) 0).set2 (p.hdr + 5) p.usable
  else
    return (q.move (ci + 2 * i) (ci + 2 * i + 2) (2 * (n - i))).set2 (p.hdr + 3) n

end PageBuffer

end Image

end DocStore
