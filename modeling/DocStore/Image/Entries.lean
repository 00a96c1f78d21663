import DocStore.Image.Page
/-!
# The entries of a tree

A scan of a tree visits its entries in key order: the cells of the leaves, and on an index tree
also the cells of the interior pages, each between the subtree on its left and the next child.
Table interior cells only separate keys and are not entries.

A scan checks what it walks through: a page it enters must exist and parse, a child page must
hold at least one cell and be of the same family (table or index) as the root, and a scan goes at
most 19 levels below the root. A root with no cells is an empty tree, except that page 1 may be an
interior page with no cells whose right-most child holds the tree. The first failed check ends
the scan; the entries before it have been seen.

Reading a payload checks that the part kept on the page ends inside the usable area, and follows
the overflow chain: every page of the chain must exist, and the chain must not end before the
bytes asked for.
-/

namespace DocStore

namespace Image

/-- A cell reached by a scan, with the page it sits on. -/
structure Entry where
  page : PageHead
  cell : Cell
deriving DecidableEq, Repr

/-- The entries seen by a scan and, when it stopped early, why. -/
abbrev Scan := List Entry × Option Fault

namespace Geometry

/-- Load a page for a cursor: it must exist and parse. -/
def loadPage (g : Geometry) (pgno : Nat) : Except Fault PageHead :=
  if pgno = 0 ∨ pgno > g.pages then .error .corrupt
  else match g.pageHead? pgno with
    | some p => .ok p
    | none => .error .corrupt

/-- Cell `i` of a page as a cursor finds it: the stored offset is taken modulo the page size. -/
def entryAt (g : Geometry) (p : PageHead) (i : Nat) : Entry :=
  ⟨p, g.cellAt p (g.cellOffset p i % g.pageSize)⟩

/-- Load a child page for a cursor in a tree of the given family. -/
def childPage (g : Geometry) (table : Bool) (pgno : Nat) : Except Fault PageHead := do
  let c ← g.loadPage pgno
  if c.cells < 1 ∨ c.kind.isTable ≠ table then throw .corrupt
  return c

/-- Append a scan to the entries seen so far, unless a fault already ended it. -/
def Scan.andThen (s : Scan) (next : Unit → Scan) : Scan :=
  match s with
  | (es, some f) => (es, some f)
  | (es, none) =>
    let (more, f) := next ()
    (es ++ more, f)

/-- The entries of the subtree under a page, in key order; `depth` more levels may be entered. -/
def walk (g : Geometry) (table : Bool) (depth : Nat) (p : PageHead) : Scan :=
  if p.kind.isLeaf then ((List.range p.cells).map (g.entryAt p), none)
  else
    match depth with
    | 0 => ([], some .corrupt)
    | depth + 1 =>
      let down (pgno : Nat) : Scan :=
        match g.childPage table pgno with
        | .error f => ([], some f)
        | .ok c => g.walk table depth c
      let cellsPart := (List.range p.cells).foldl (fun (s : Scan) i =>
        let e := g.entryAt p i
        let child := g.get4 p.pgno e.cell.start
        Scan.andThen s (fun _ =>
          Scan.andThen (down child) (fun _ => (if table then [] else [e], none)))) ([], none)
      Scan.andThen cellsPart (fun _ => down (g.rightChild p))

/-- Scan the tree with the given root, a table tree or an index tree. -/
def scan (g : Geometry) (table : Bool) (root : Nat) : Scan :=
  if root = 1 ∧ g.pages = 0 then ([], none)
  else
    match g.loadPage root with
    | .error f => ([], some f)
    | .ok p =>
      if p.kind.isTable ≠ table then ([], some .corrupt)
      else if p.cells > 0 ∨ p.kind.isLeaf then g.walk table 19 p
      else if p.pgno ≠ 1 then ([], some .corrupt)
      else g.walk table 19 p

/-- Bytes of an overflow chain from page `next`: skip `offset` bytes, then read `amount`. -/
def chainBytes (g : Geometry) : Nat → Nat → Nat → Nat → Except Fault (List UInt8)
  | 0, _, _, _ => .error .corrupt
  | fuel + 1, next, offset, amount =>
    let room := g.usable - 4
    if next = 0 ∨ next > g.pages then .error .corrupt
    else if offset ≥ room then g.chainBytes fuel (g.get4 next 0) (offset - room) amount
    else
      let a := min amount (room - offset)
      let here := g.slice next (4 + offset) a
      if amount - a = 0 then .ok here
      else (g.chainBytes fuel (g.get4 next 0) 0 (amount - a)).map (here ++ ·)

/-- Read `amount` bytes of an entry's payload from `offset`. -/
def payloadBytes (g : Geometry) (e : Entry) (offset amount : Nat) : Except Fault (List UInt8) :=
  let c := e.cell
  if c.payloadAt > g.usable - c.onPage then .error .corrupt
  else
    let (here, offset, amount) :=
      if offset < c.onPage then
        let a := min amount (c.onPage - offset)
        (g.slice e.page.pgno (c.payloadAt + offset) a, 0, amount - a)
      else ([], offset - c.onPage, amount)
    if amount = 0 then .ok here
    else
      let fuel := (offset + amount) / (g.usable - 4) + 2
      (g.chainBytes fuel (g.overflowHead e.page c) offset amount).map (here ++ ·)

end Geometry

end Image

end DocStore
