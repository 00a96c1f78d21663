import DocStore.Image.Row
/-!
# The integrity of an image's trees

`Geometry.audit` walks every tree of an image from its root, the free-page list and, in an image
that keeps pointer maps, the map entries of every page it meets, and reports each problem as a
line of text. At most 100 problems are reported; the walk stops once that many are found.

A tree page is checked once: a second reference to it, or a reference past the last page, is a
problem of its own. On a page that parses, each cell (last to first) must lie between the start
of the cell content area and the end of the usable area, table rowids must ascend, overflow
chains must have the length the payload asks for, and every child subtree must have the same
depth. On a page whose cells all lie in range, the cells, the free blocks and the header area
must cover the page without overlap, and the bytes they leave over must be the fragment count
the header records. Finally every page must be used by something, and no tree may use a
pointer-map page.

Problems are prefixed with where they were found: `Tree r page p: ` for a page of the tree with
root `r`, `Tree r page p cell i: ` for its cells and the pages they lead to, `Freelist: ` for
the free-page list.

The walk also counts the entries of each tree (the leaf cells of a table, every cell of an
index), so that index sizes can be compared with their tables.
-/

namespace DocStore

namespace Image

/-- Where a problem is reported: a template filled with the tree, page and cell being checked. -/
inductive Prefix where
  | none
  | freelist
  | page
  | cell
  | rightChild
deriving DecidableEq, Repr

/-- The state of an audit. -/
structure Audit where
  referenced : Array Bool
  problems : List String
  /-- How many more problems may be reported. -/
  budget : Nat
  /-- How many problems were reported. -/
  reported : Nat
  /-- Entries counted in the tree being checked. -/
  entries : Nat
  pfx : Prefix
  tree : Nat
  pageNo : Nat
  cellNo : Nat

/-- Audits run as state transformations. -/
abbrev AuditM := StateM Audit

namespace Audit

/-- The prefix of the next problem. -/
def prefixText (a : Audit) : String :=
  match a.pfx with
  | .none => ""
  | .freelist => "Freelist: "
  | .page => "Tree " ++ toString a.tree ++ " page " ++ toString a.pageNo ++ ": "
  | .cell => "Tree " ++ toString a.tree ++ " page " ++ toString a.pageNo ++ " cell " ++ toString a.cellNo ++ ": "
  | .rightChild => "Tree " ++ toString a.tree ++ " page " ++ toString a.pageNo ++ " right child: "

end Audit

/-- Report a problem, while the budget lasts. -/
def report (msg : String) : AuditM Unit :=
  modify fun a =>
    if a.budget = 0 then a
    else { a with budget := a.budget - 1, reported := a.reported + 1,
                  problems := a.problems ++ [a.prefixText ++ msg] }

/-- Is the budget spent? -/
def spent : AuditM Bool := do return (← get).budget = 0

/-- Set the prefix. -/
def setPrefix (p : Prefix) : AuditM Unit := modify fun a => { a with pfx := p }

/-- Mark a page as used; true when it cannot be used again (out of range or used before),
which is reported. -/
def reference (pages pgno : Nat) : AuditM Bool := do
  if pgno > pages ∨ pgno = 0 then
    report ("invalid page number " ++ toString pgno)
    return true
  if (← get).referenced.getD pgno false then
    report ("2nd reference to page " ++ toString pgno)
    return true
  modify fun a => { a with referenced := a.referenced.setIfInBounds pgno true }
  return false

/-- Subtraction of 32-bit counters. -/
def sub32 (a b : Nat) : Nat := (a + 4294967296 - b % 4294967296) % 4294967296

namespace Geometry

/-- The pointer-map entry of a page: its type and parent, or nothing when the entry cannot be
read or names no type. -/
def pointerMapEntry (g : Geometry) (key : Nat) : Option (Nat × Nat) :=
  let map := g.pointerMapPage key
  if map = 0 ∨ key ≤ map then none
  else
    let off := 5 * (key - map - 1)
    let kind := g.byte map off
    if kind < 1 ∨ kind > 5 then none else some (kind, g.get4 map (off + 1))

/-- Check the pointer-map entry of a page. -/
def checkPointerMap (g : Geometry) (child kind parent : Nat) : AuditM Unit :=
  match g.pointerMapEntry child with
  | none => report ("Failed to read ptrmap key=" ++ toString child)
  | some (k, p) =>
    if k ≠ kind ∨ p ≠ parent then
      report ("Bad ptr map entry key=" ++ toString child ++ " expected=(" ++ toString kind ++ "," ++
        toString parent ++ ") got=(" ++ toString k ++ "," ++ toString p ++ ")")
    else pure ()

/-- Walk a chain of pages: the free-page list (trunk pages listing leaf pages) or an overflow
chain, expected to hold `expected` pages. -/
def checkChain (g : Geometry) (freelist : Bool) (first expected : Nat) : AuditM Unit := do
  let before := (← get).reported
  let rec go : Nat → Nat → Nat → AuditM Nat
    | 0, _, left => pure left
    | fuel + 1, pgno, left => do
      if pgno = 0 ∨ (← spent) then return left
      if ← reference g.pages pgno then return left
      let left := sub32 left 1
      let left ← if freelist then do
          let n := g.get4 pgno 4
          if g.autoVacuum then g.checkPointerMap pgno 2 0
          if n > g.usable / 4 - 2 then
            report ("freelist leaf count too big on page " ++ toString pgno)
            pure (sub32 left 1)
          else
            for i in List.range n do
              let leaf := g.get4 pgno (8 + 4 * i)
              if g.autoVacuum then g.checkPointerMap leaf 2 0
              let _ ← reference g.pages leaf
            pure (sub32 left n)
        else do
          if g.autoVacuum ∧ left > 0 then g.checkPointerMap (g.get4 pgno 0) 4 pgno
          pure left
      go fuel (g.get4 pgno 0) left
  let left ← go (g.pages + 1) first expected
  if left ≠ 0 ∧ (← get).reported = before then
    report ((if freelist then "size" else "overflow list length") ++ " is " ++
      toString (sub32 expected left) ++ " but should be " ++ toString expected)

/-- The byte ranges a page's cells and free blocks take, for the coverage check. -/
def usedRanges (g : Geometry) (p : PageHead) (leafCells : List (Nat × Nat)) : List (Nat × Nat) :=
  let cells :=
    if p.kind.isLeaf then leafCells
    else (List.range p.cells).reverse.map (fun i =>
      let pc := g.cellOffset p i
      (pc, pc + (g.cellAt p pc).size - 1))
  let rec blocks : Nat → Nat → List (Nat × Nat)
    | 0, _ => []
    | fuel + 1, i =>
      if i = 0 then []
      else (i, i + g.get2 p.pgno (i + 2) - 1) :: blocks fuel (g.get2 p.pgno i)
  cells ++ blocks (g.usable + 1) (g.get2 p.pgno (p.hdr + 1))

/-- Check that cells, free blocks and the header area cover a page without overlap, and that
the bytes left over are the recorded fragment count. The ranges are taken in order of their
starts; the first overlap stops the sweep, and the fragment count is still checked when that
overlap was the last range, the count then taking the gap after the range before it. -/
def checkCoverage (g : Geometry) (p : PageHead) (contentStart : Nat) (ranges : List (Nat × Nat)) :
    AuditM Unit := do
  let sorted := ranges.mergeSort (fun a b => a.1 < b.1 ∨ (a.1 = b.1 ∧ a.2 ≤ b.2))
  let tail (prevEnd frag : Nat) : Nat := ((frag : Int) + g.usable - prevEnd - 1).toNat % Nat.pow 2 32
  let rec sweep : List (Nat × Nat) → Nat → Nat → Option (Nat × Bool) × Nat
    | [], prevEnd, frag => (none, tail prevEnd frag)
    | (s, e) :: rest, prevEnd, frag =>
      if prevEnd ≥ s then (some (s, rest.isEmpty), tail prevEnd frag)
      else sweep rest (e % 65536) (frag + (s - prevEnd - 1))
  let (overlap, frag) := sweep sorted ((contentStart - 1) % 65536) 0
  if let some (s, _) := overlap then
    report ("Multiple uses for byte " ++ toString s ++ " of page " ++ toString p.pgno)
  if overlap.all (·.2) then
    let recorded := g.byte p.pgno (p.hdr + 7)
    if frag ≠ recorded then
      report ("Fragmentation of " ++ toString frag ++ " bytes reported as " ++ toString recorded ++
        " on page " ++ toString p.pgno)

/-- Check the subtree under a page whose keys must stay below `maxKey`. The result is the
subtree's depth (0 when the page could not be checked) and the least rowid seen. -/
def checkTree (g : Geometry) : Nat → Nat → Int → AuditM (Int × Int)
  | 0, _, maxKey => pure (0, maxKey)
  | fuel + 1, pgno, maxKey => do
    if ← spent then return (0, maxKey)
    if pgno = 0 then return (0, maxKey)
    if ← reference g.pages pgno then return (0, maxKey)
    let saved ← get
    let restore : AuditM Unit :=
      modify fun a => { a with pfx := saved.pfx, pageNo := saved.pageNo, cellNo := saved.cellNo }
    modify fun a => { a with pfx := .page, pageNo := pgno }
    match g.pageHead? pgno with
    | none =>
      report "btreeInitPage() returns error code 11"
      restore
      return (0, maxKey)
    | some p =>
      if !g.freeSpaceFits p then
        report "free space corruption"
        restore
        return (0, maxKey)
      setPrefix .cell
      let contentStart := match g.get2 pgno (p.hdr + 5) with
        | 0 => 65536
        | n => n
      if p.kind.isLeaf ∨ !p.kind.isTable then
        modify fun a => { a with entries := a.entries + p.cells }
      let mut depth : Int := -1
      let mut maxKey := maxKey
      let mut keyCanBeEqual := true
      let mut coverage := true
      let mut leafRanges : List (Nat × Nat) := []
      if !p.kind.isLeaf then
        let right := g.rightChild p
        if g.autoVacuum then
          setPrefix .rightChild
          g.checkPointerMap right 5 pgno
        let (d, k) ← g.checkTree fuel right maxKey
        depth := d
        maxKey := k
        keyCanBeEqual := false
      for i in (List.range p.cells).reverse do
        if ← spent then break
        modify fun a => { a with cellNo := i }
        let pc := g.cellOffset p i
        if pc < contentStart ∨ pc > g.usable - 4 then
          report ("Offset " ++ toString pc ++ " out of range " ++ toString contentStart ++ ".." ++
            toString (g.usable - 4))
          coverage := false
          continue
        let c := g.cellAt p pc
        if pc + c.size > g.usable then
          report "Extends off end of page"
          coverage := false
          continue
        if p.kind.isTable then
          if (if keyCanBeEqual then c.key > maxKey else c.key ≥ maxKey) then
            report ("Rowid " ++ toString c.key ++ " out of order")
          maxKey := c.key
          keyCanBeEqual := false
        if c.payload > c.onPage then
          let chain := (c.payload - c.onPage + g.usable - 5) / (g.usable - 4)
          let head := g.get4 pgno (pc + c.size - 4)
          if g.autoVacuum then g.checkPointerMap head 3 pgno
          g.checkChain false head chain
        if !p.kind.isLeaf then
          let child := g.get4 pgno pc
          if g.autoVacuum then g.checkPointerMap child 5 pgno
          let (d, k) ← g.checkTree fuel child maxKey
          maxKey := k
          keyCanBeEqual := false
          if d ≠ depth then
            report "Child page depth differs"
            depth := d
        else
          leafRanges := leafRanges ++ [(pc, pc + c.size - 1)]
      setPrefix .none
      if coverage ∧ !(← spent) then
        g.checkCoverage p contentStart (g.usedRanges p leafRanges)
      restore
      return (depth + 1, maxKey)

/-- Audit the trees with the given roots. The problems found, and the entries counted in each
tree (for the trees checked before the budget ran out). -/
def audit (g : Geometry) (roots : List Nat) : List String × List Nat :=
  if g.pages = 0 then ([], roots.map (fun _ => 0))
  else
    let start : Audit :=
      { referenced := (Array.replicate (g.pages + 1) false).setIfInBounds g.lockPage true, problems := [],
        budget := 100, reported := 0, entries := 0, pfx := .none, tree := 0, pageNo := 0,
        cellNo := 0 }
    let run : AuditM (List Nat) := do
      setPrefix .freelist
      g.checkChain true (g.headerNumber 32) (g.headerNumber 36)
      setPrefix .none
      if g.autoVacuum then
        let top := roots.foldl max 0
        let declared := g.headerNumber 52
        if top ≠ declared then
          report ("max rootpage (" ++ toString top ++ ") disagrees with header (" ++ toString declared ++ ")")
      else if g.headerNumber 64 ≠ 0 then
        report "incremental_vacuum enabled with a max rootpage of zero"
      let mut counts : List Nat := []
      for root in roots do
        if ← spent then break
        modify fun a => { a with entries := 0 }
        if root ≠ 0 then
          if g.autoVacuum ∧ root > 1 then g.checkPointerMap root 1 0
          modify fun a => { a with tree := root }
          let _ ← g.checkTree (g.pages + 1) root (Nat.pow 2 63 - 1)
        counts := counts ++ [(← get).entries]
      for pgno in (List.range g.pages).map (· + 1) do
        if ← spent then break
        let used := (← get).referenced.getD pgno false
        let isMap := g.pointerMapPage pgno = pgno
        if !used ∧ (!isMap ∨ !g.autoVacuum) then report ("Page " ++ toString pgno ++ ": never used")
        if used ∧ isMap ∧ g.autoVacuum then
          report ("Page " ++ toString pgno ++ ": pointer map referenced")
      return counts
    let (counts, final) := run.run start
    (final.problems, counts)

end Geometry

end Image

end DocStore
