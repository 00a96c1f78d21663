import DocStore.Image.Geometry
/-!
# B-tree pages and their cells

Every page of a tree starts with a header: a flag byte that names the kind of page (13 for a
table leaf, 5 for a table interior page, 10 for an index leaf, 2 for an index interior page), the
first free block (offset 1), the number of cells (offset 3), the start of the cell content area
(offset 5, where 0 stands for 65536) and the count of fragmented bytes (offset 7). Interior pages
add their right-most child (offset 8). The array of two-byte cell offsets follows the header.

A cell of a table leaf holds the payload length, the rowid and the payload; a table interior cell
holds a child page and a rowid; an index cell holds the payload length and the payload, after a
child page on interior pages. A payload longer than the page may keep spills onto a chain of
overflow pages; the part kept on the page then ends with the number of the first overflow page.
How much stays on the page follows from the usable size alone, so a cell's extent is known from
its first bytes.
-/

namespace DocStore

namespace Image

/-- The kind of a b-tree page. -/
inductive PageKind where
  | tableLeaf
  | tableInterior
  | indexLeaf
  | indexInterior
deriving DecidableEq, Repr

namespace PageKind

/-- The kind a flag byte names. -/
def ofFlag : Nat → Option PageKind
  | 13 => some .tableLeaf
  | 5 => some .tableInterior
  | 10 => some .indexLeaf
  | 2 => some .indexInterior
  | _ => none

/-- Leaves have no children. -/
def isLeaf : PageKind → Bool
  | .tableLeaf | .indexLeaf => true
  | _ => false

/-- Table pages are keyed by rowid. -/
def isTable : PageKind → Bool
  | .tableLeaf | .tableInterior => true
  | _ => false

/-- The bytes of the child pointer in front of each cell of an interior page. -/
def childSize (k : PageKind) : Nat := if k.isLeaf then 0 else 4

end PageKind

/-- The header of a b-tree page. -/
structure PageHead where
  pgno : Nat
  kind : PageKind
  cells : Nat
deriving DecidableEq, Repr

namespace PageHead

/-- Where the page's header starts. -/
def hdr (p : PageHead) : Nat := Geometry.headerOffset p.pgno

/-- Where the page's cell offsets start. -/
def cellIndex (p : PageHead) : Nat := p.hdr + 8 + p.kind.childSize

end PageHead

/-- A cell as its first bytes describe it. -/
structure Cell where
  /-- Where the cell starts in its page. -/
  start : Nat
  /-- The rowid of a table cell; the payload length of an index cell. -/
  key : Int
  /-- The payload length. -/
  payload : Nat
  /-- Where the payload starts in the page. -/
  payloadAt : Nat
  /-- How many payload bytes the page keeps. -/
  onPage : Nat
  /-- How many bytes the cell takes in its page. -/
  size : Nat
deriving DecidableEq, Repr

/-- The most payload an index cell keeps on a page with `usable` usable bytes. -/
def maxLocalFor (usable : Nat) : Nat := (usable - 12) * 64 / 255 - 23

/-- The payload an index cell keeps on its page at least once it spills. -/
def minLocalFor (usable : Nat) : Nat := (usable - 12) * 32 / 255 - 23

/-- The most and the least payload a cell of a page kind keeps on its page once it spills. -/
def localLimitsFor (usable : Nat) (k : PageKind) : Nat × Nat :=
  if k.isTable then (usable - 35, minLocalFor usable) else (maxLocalFor usable, minLocalFor usable)

/-- How much of a payload too long for its page stays on the page. -/
def spillLocalFor (usable : Nat) (k : PageKind) (payload : Nat) : Nat :=
  let (maxL, minL) := localLimitsFor usable k
  let surplus := minL + (payload - minL) % (usable - 4)
  if surplus ≤ maxL then surplus else minL

/-- Parse the cell that starts at offset `pc` of a page of kind `kind`, reading the page through
`read`. -/
def parseCell (usable : Nat) (kind : PageKind) (read : Nat → Nat) (pc : Nat) : Cell :=
  match kind with
  | .tableInterior =>
    let (k, n) := varintFrom read (pc + 4)
    { start := pc, key := signed64 k, payload := 0, payloadAt := pc + 4, onPage := 0, size := 4 + n }
  | kind =>
    let from_ := pc + kind.childSize
    let (len, n1) := lengthFrom read from_
    let (key, n2) : Int × Nat :=
      if kind.isTable then
        let (k, n) := varintFrom read (from_ + n1)
        (signed64 k, n)
      else (len, 0)
    let payloadAt := from_ + n1 + n2
    if len ≤ (localLimitsFor usable kind).1 then
      { start := pc, key, payload := len, payloadAt, onPage := len, size := max 4 (payloadAt - pc + len) }
    else
      let onPage := spillLocalFor usable kind len
      { start := pc, key, payload := len, payloadAt, onPage, size := payloadAt - pc + onPage + 4 }

/-- The free bytes of a page, read through `read`: the gap between the cell offsets and the cell
content area, the free blocks and the fragments. Nothing when a free block lies before the cell
content area, past the usable area or out of order, or when the total does not fit between the
cell offsets and the end of the usable area. -/
def freeBytesOf (usable hdr : Nat) (kind : PageKind) (cells : Nat) (read : Nat → Nat) : Option Nat :=
  let get2 (i : Nat) : Nat := read i * 256 + read (i + 1)
  let top := match get2 (hdr + 5) with
    | 0 => 65536
    | n => n
  let firstCell := hdr + 8 + kind.childSize + 2 * cells
  let lastCell := usable - 4
  let base := read (hdr + 7) + top
  let rec blocks (fuel pc free : Nat) : Option Nat :=
    match fuel with
    | 0 => none
    | fuel + 1 =>
      if pc > lastCell then none
      else
        let next := get2 pc
        let size := get2 (pc + 2)
        let free := free + size
        if next ≤ pc + size + 3 then
          if next > 0 then none
          else if pc + size > usable then none
          else some free
        else blocks fuel next free
  let first := get2 (hdr + 1)
  let free :=
    if first = 0 then some base
    else if first < top then none
    else blocks (usable + 1) first base
  match free with
  | none => none
  | some free => if free ≤ usable ∧ free ≥ firstCell then some (free - firstCell) else none

namespace Geometry

/-- Read a page's header, or nothing when its flag byte names no kind or it claims more cells
than fit. -/
def pageHead? (g : Geometry) (pgno : Nat) : Option PageHead :=
  let hdr := headerOffset pgno
  match PageKind.ofFlag (g.byte pgno hdr) with
  | none => none
  | some kind =>
    let cells := g.get2 pgno (hdr + 3)
    if cells > g.maxCells then none else some { pgno, kind, cells }

/-- The offset stored for cell `i` of a page. -/
def cellOffset (g : Geometry) (p : PageHead) (i : Nat) : Nat := g.get2 p.pgno (p.cellIndex + 2 * i)

/-- The right-most child of an interior page. -/
def rightChild (g : Geometry) (p : PageHead) : Nat := g.get4 p.pgno (p.hdr + 8)

/-- The most and the least payload a cell of this kind keeps on its page once it spills. -/
def localLimits (g : Geometry) (k : PageKind) : Nat × Nat := localLimitsFor g.usable k

/-- Parse the cell that starts at an offset of a page. -/
def cellAt (g : Geometry) (p : PageHead) (pc : Nat) : Cell := parseCell g.usable p.kind (g.byte p.pgno) pc

/-- The first overflow page of a cell that spills. -/
def overflowHead (g : Geometry) (p : PageHead) (c : Cell) : Nat := g.get4 p.pgno (c.payloadAt + c.onPage)

/-- Check the free blocks of a page against its cell area (`freeBytesOf`). -/
def freeSpaceFits (g : Geometry) (p : PageHead) : Bool :=
  (freeBytesOf g.usable p.hdr p.kind p.cells (g.byte p.pgno)).isSome

end Geometry

end Image

end DocStore
