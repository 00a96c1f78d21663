import DocStore.Image.Write.File
/-!
# Balancing a tree

An edit of a tree page can leave cells that do not fit on it: they wait beside the page, each
with the position it goes to (`Waiting`). A removal can leave a page with more than two thirds
of its usable bytes free. The tree is then restored bottom up, one level at a time, until a page
needs nothing (`PageFile.balance`):

* a root with waiting cells moves its content into a new child taken near it (the waiting cells
  go along) and becomes an interior page over that child alone (`PageFile.deepen`);
* a table leaf whose one waiting cell is its new last cell, under a parent other than page 1 of
  which it is the right-most child, gets a new right sibling holding just that cell; the parent
  gains a divider for the leaf, keyed by its last rowid (`PageFile.splitLast`);
* any other page is balanced together with up to two siblings (`PageFile.balanceSiblings`).

Balancing siblings takes the child and its neighbours on both sides, or the three right-most or
left-most children at an edge (the last two when loading an index in order), and takes their
dividers out of the parent. The cells of the pages, with the dividers between them unless they
are table leaves, are spread again: each page is first filled from the left as far as it goes,
then cells move right from the fuller pages while that leaves the left page at least as full.
The pages are the old ones in order, then new ones, each taken near the one before; their
numbers are then sorted so that the pages follow the keys. The parent gets a divider for each
page but the last: the cell between them on index pages, or the last rowid of the left page on
table leaves; its dividers may wait in turn. A root left without cells over a single child takes
that child's content, and the child is freed. Old pages no longer needed are freed.

A page keeps the cells that stay on it where they are: cells that leave free their bytes, and
cells that arrive take a free block or the top of the gap (`editPage`). When the gap runs out,
the page is laid out afresh.

In a file with pointer maps every page that comes to hang under another one, and every overflow
chain whose cell moves, is recorded anew.
-/

namespace DocStore

namespace Image

/-- A step of a trail through a tree: a page and the position taken on it, a cell or, past the
last cell, the right-most child. -/
structure Step where
  pgno : Nat
  idx : Nat
deriving DecidableEq, Repr, Inhabited

/-- A cell waiting for room on a page: the position it goes to and its bytes. -/
structure Pending where
  idx : Nat
  cell : List UInt8
deriving DecidableEq, Repr, Inhabited

/-- The cells waiting for room, page by page. -/
abbrev Waiting := List (Nat × List Pending)

namespace Waiting

/-- The cells waiting for a page. -/
def on (w : Waiting) (pgno : Nat) : List Pending := (w.lookup pgno).getD []

/-- Set the cells waiting for a page. -/
def put (w : Waiting) (pgno : Nat) (ps : List Pending) : Waiting :=
  (pgno, ps) :: w.filter (fun e => e.1 != pgno)

end Waiting

/-- A cell taking part in a balance: its bytes, and the page and offset that hold it when it
sits on a page (a divider or a waiting cell sits on none). -/
structure Carried where
  bytes : List UInt8
  home : Option (Nat × Nat) := none
deriving Inhabited

/-- The size of a cell of a balance. -/
def Carried.size (e : Carried) : Nat := e.bytes.length

/-- The size of entry `i`, nothing past the ends. -/
def carriedSize (cells : Array Carried) (i : Int) : Int :=
  if i < 0 then 0 else ((cells.getD i.toNat default).size : Int)

/-- Free bytes on a page, leaving the page as it is when the free blocks do not allow it. -/
def PageBuffer.releaseQuiet (p : PageBuffer) (start size : Nat) : PageBuffer :=
  match p.release start size with
  | .ok q => q
  | .error _ => p

/-- Free the bytes of the entries `first ≤ i < first + n` that sit on page `home`. Up to ten
runs are gathered, a cell joining the first run it touches at either end, and they are freed in
the order they were started. The page and the number of cells freed; nothing is freed when a
cell runs past the usable area. -/
def freeRuns (p : PageBuffer) (cells : Array Carried) (home first n : Nat) : PageBuffer × Nat := Id.run do
  let mut q := p
  let mut runs : Array (Nat × Nat) := #[]
  let mut count := 0
  for i in [first:first + n] do
    let e := cells.getD i default
    match e.home with
    | some (h, ofs) =>
      if h = home then
        let after := ofs + e.size
        match runs.findIdx? (fun r => r.1 = after ∨ r.2 = ofs) with
        | some j =>
          let r := runs.getD j (0, 0)
          runs := runs.setIfInBounds j (if r.1 = after then (ofs, r.2) else (r.1, after))
        | none =>
          if runs.size ≥ 10 then
            for r in runs do
              q := q.releaseQuiet r.1 (r.2 - r.1)
            runs := #[]
          runs := runs.push (ofs, after)
          if after > p.usable then return (q, 0)
        count := count + 1
    | none => pure ()
  for r in runs do
    q := q.releaseQuiet r.1 (r.2 - r.1)
  return (q, count)

/-- Place the entries `first ≤ i < first + n` on a page, their offsets written from `ptr` on:
each takes the first free block that fits, or else the top of the gap, which may not come below
`floor`. The page and the new top of the gap, or the page as far as it got when the gap ran
out. -/
def insertRun (p : PageBuffer) (cells : Array Carried) (floor top ptr first n : Nat) :
    Except PageBuffer (PageBuffer × Nat) := Id.run do
  let mut q := p
  let mut top := top
  let mut ptr := ptr
  for i in [first:first + n] do
    let e := cells.getD i default
    let sz := e.size
    let slot : Option (PageBuffer × Nat) :=
      if q.read (q.hdr + 1) = 0 ∧ q.read (q.hdr + 2) = 0 then none
      else match q.findSlot sz with
        | .ok s => s
        | .error _ => none
    match slot with
    | some (r, pos) => q := (r.write pos e.bytes).set2 ptr pos
    | none =>
      if top < floor + sz then return .error q
      top := top - sz
      q := (q.write top e.bytes).set2 ptr top
    ptr := ptr + 2
  return .ok (q, top)

/-- Make a page hold the entries `iNew ≤ i < iNew + nNew`, given that it holds the entries from
`iOld` on (its cells, with the cells waiting for it among them): the cells that leave are freed
from either end, the cells that arrive are placed at the start, among the others where they
waited, and at the end. When the gap runs out, the page is laid out afresh. -/
def editPage (p : PageBuffer) (k : PageKind) (cells : Array Carried) (home : Nat) (waiting : List Pending)
    (iOld iNew nNew : Nat) : Except Fault PageBuffer := do
  let hdr := p.hdr
  let ci := p.cellIndex k
  let iOldEnd := iOld + p.cells + waiting.length
  let iNewEnd := iNew + nNew
  let attempt : Except PageBuffer PageBuffer := Id.run do
    let mut q := p
    let mut nCell := p.cells
    if iOld < iNew then
      let (r, nShift) := freeRuns q cells home iOld (iNew - iOld)
      if nShift > nCell then return .error r
      q := r.move ci (ci + 2 * nShift) (2 * nCell)
      nCell := nCell - nShift
    if iNewEnd < iOldEnd then
      let (r, nTail) := freeRuns q cells home iNewEnd (iOldEnd - iNewEnd)
      q := r
      nCell := nCell - nTail
    let floor := ci + 2 * nNew
    let mut top := match q.get2 (hdr + 5) with
      | 0 => 65536
      | t => t
    if top < floor ∨ top > p.usable then return .error q
    if iNew < iOld then
      let nAdd := min nNew (iOld - iNew)
      q := q.move (ci + 2 * nAdd) ci (2 * nCell)
      match insertRun q cells floor top ci iNew nAdd with
      | .ok (r, t) =>
        q := r
        top := t
      | .error r => return .error r
      nCell := nCell + nAdd
    for pd in waiting do
      if iOld + pd.idx ≥ iNew ∧ iOld + pd.idx < iNew + nNew then
        let iCell := iOld + pd.idx - iNew
        let ptr := ci + 2 * iCell
        if nCell > iCell then q := q.move (ptr + 2) ptr (2 * (nCell - iCell))
        nCell := nCell + 1
        match insertRun q cells floor top ptr (iCell + iNew) 1 with
        | .ok (r, t) =>
          q := r
          top := t
        | .error r => return .error r
    match insertRun q cells floor top (ci + 2 * nCell) (iNew + nCell) (nNew - nCell) with
    | .ok (r, t) => return .ok ((r.set2 (hdr + 3) nNew).set2 (hdr + 5) t)
    | .error r => return .error r
  match attempt with
  | .ok q => return q
  | .error q =>
    if nNew < 1 then throw .corrupt
    return q.fill k ((cells.extract iNew (iNew + nNew)).toList.map (·.bytes))

/-- The bytes of the rowid of a table leaf cell. -/
def rowidBytes (cell : List UInt8) : List UInt8 :=
  let read (i : Nat) : Nat := (cell.getD i 0).toNat
  let (_, n) := lengthFrom read 0
  let (_, m) := varintFrom read n
  (cell.drop n).take m

namespace PageFile

/-- The kind of a tree page; a page of no kind is corruption. -/
def kindAt (f : PageFile) (pgno : Nat) : Except Fault PageKind :=
  match (f.buffer pgno).kind? with
  | some k => .ok k
  | none => .error .corrupt

/-- The free bytes of a page; free blocks that do not add up are corruption. -/
def freeOf (p : PageBuffer) (k : PageKind) : Except Fault Nat :=
  match p.freeBytes k with
  | some n => .ok n
  | none => .error .corrupt

/-- Cell `i` of a page. -/
def cellOf (p : PageBuffer) (k : PageKind) (i : Nat) : Cell := p.cellAt k (p.cellPointer k i)

/-- The bytes of cell `i` of a page. -/
def cellBytes (p : PageBuffer) (k : PageKind) (i : Nat) : List UInt8 :=
  let c := cellOf p k i
  p.slice c.start c.size

/-- The child page left of cell `i` of an interior page, or its right-most child past the last
cell. -/
def childOf (p : PageBuffer) (k : PageKind) (i : Nat) : Nat :=
  if i < p.cells then p.get4 (p.cellPointer k i) else p.get4 (p.hdr + 8)

/-- Record the first page of a cell's overflow chain as hanging under the page `owner` that holds
the cell. -/
def mapOverflow (f : PageFile) (owner : Nat) (k : PageKind) (cell : List UInt8) : Except Fault PageFile :=
  let c := parseCell f.usable k (fun i => (cell.getD i 0).toNat) 0
  if c.onPage < c.payload then
    f.mapPut (numberOf ((cell.drop (c.size - 4)).take 4)) .firstOverflow owner
  else .ok f

/-- Record everything a tree page points at as hanging under it: the overflow chains of its cells
and its children. -/
def mapChildren (f : PageFile) (pgno : Nat) : Except Fault PageFile := do
  if !f.keepsMaps then return f
  let k ← f.kindAt pgno
  let p := f.buffer pgno
  let mut f := f
  for i in List.range p.cells do
    f ← f.mapOverflow pgno k (cellBytes p k i)
    if !k.isLeaf then f ← f.mapPut (p.get4 (p.cellPointer k i)) .child pgno
  if !k.isLeaf then f ← f.mapPut (p.get4 (p.hdr + 8)) .child pgno
  return f

/-- Put a cell at position `i` of a page, or leave it waiting when cells already wait for the page
or the page lacks room. The cells waiting afterwards. -/
def putCell (f : PageFile) (pgno : Nat) (k : PageKind) (waiting : List Pending) (i : Nat)
    (cell : List UInt8) : Except Fault (PageFile × List Pending) := do
  let p := f.buffer pgno
  let free ← freeOf p k
  if !waiting.isEmpty ∨ cell.length + 2 > free then return (f, waiting ++ [⟨i, cell⟩])
  let q ← p.insertCell k free i cell
  return (← (f.store pgno q).mapOverflow pgno k cell, waiting)

/-- Move a root's content into a new child taken near it; the root becomes an empty interior page
over that child. The cell offsets are copied with as many bytes as their end offset counts, so a
root on page 1 brings part of its gap along. -/
def deepen (f : PageFile) (root : Nat) (k : PageKind) : Except Fault (PageFile × Nat) := do
  let (f, child) ← f.allocate root
  let r := f.buffer root
  let top := r.get2 (r.hdr + 5)
  let c : PageBuffer := ⟨f.page child, 0, f.usable⟩
  let c := c.write top (r.slice top (f.usable - top))
  let c := c.write 0 (r.slice r.hdr (r.cellIndex k + 2 * r.cells))
  let f := f.store child c
  let f ← f.mapChildren child
  let f ← f.mapPut child .child root
  let r := (f.buffer root).reset (r.read r.hdr &&& 247)
  return (f.store root (r.set4 (r.hdr + 8) child), child)

/-- Give a table leaf's waiting last cell a new right sibling of its own, and the parent a divider
for the leaf keyed by its last rowid; the cells waiting for the parent afterwards. -/
def splitLast (f : PageFile) (parent leaf : Nat) (parentWaiting : List Pending) (cell : List UInt8) :
    Except Fault (PageFile × List Pending) := do
  let p := f.buffer leaf
  if p.cells = 0 then throw .corrupt
  let (f, sibling) ← f.allocate 0
  let s := (f.buffer sibling).reset 13
  let f := f.store sibling (s.fill .tableLeaf [cell])
  let f ← f.mapPut sibling .child parent
  let f ← f.mapOverflow sibling .tableLeaf cell
  let divider := bytesOf 4 leaf ++ rowidBytes (cellBytes p .tableLeaf (p.cells - 1))
  let (f, w) ← f.putCell parent .tableInterior parentWaiting (f.buffer parent).cells divider
  let q := f.buffer parent
  return (f.store parent (q.set4 (q.hdr + 8) sibling), w)

/-- Swap page numbers until they increase along the list, as a selection sort does. -/
def sortNumbers (xs : Array Nat) : Array Nat := Id.run do
  let mut a := xs
  for i in [0:a.size] do
    let mut best := i
    for j in [i + 1:a.size] do
      if a.getD j 0 < a.getD best 0 then best := j
    if best ≠ i then
      let x := a.getD i 0
      a := (a.setIfInBounds i (a.getD best 0)).setIfInBounds best x
  return a

/-- Balance child `idx` of a parent with up to two siblings (see the module documentation); `top`
says the parent is a root and `bulk` that an index is being loaded in order. The file and the
cells waiting for the parent afterwards. -/
def balanceSiblings (f : PageFile) (parent idx : Nat) (waiting : Waiting) (top bulk : Bool) :
    Except Fault (PageFile × List Pending) := do
  let pk ← f.kindAt parent
  let pw := waiting.on parent
  let pp := f.buffer parent
  let total := pw.length + pp.cells
  let b := if bulk then 1 else 0
  let (nxDiv, last) : Nat × Nat :=
    if total < 2 then (0, total)
    else ((if idx = 0 then 0 else if idx = total then total + b - 2 else idx - 1), 2 - b)
  let nOld := last + 1
  let rightIdx := last + nxDiv - pw.length
  let rightAt := if rightIdx = pp.cells then pp.hdr + 8 else pp.cellPointer pk rightIdx
  -- the siblings, and the dividers between them taken out of the parent, right to left
  let mut f := f
  let mut olds : Array Nat := Array.replicate nOld 0
  let mut divs : Array (List UInt8) := Array.replicate last []
  let mut nOvfl := pw.length
  olds := olds.setIfInBounds last (pp.get4 rightAt)
  for j in (List.range last).reverse do
    let logical := j + nxDiv
    match pw with
    | pd :: _ =>
      if nOvfl > 0 ∧ logical = pd.idx then
        divs := divs.setIfInBounds j pd.cell
        olds := olds.setIfInBounds j (numberOf (pd.cell.take 4))
        nOvfl := 0
        continue
    | [] => pure ()
    let q := f.buffer parent
    let phys := logical - nOvfl
    let c := cellOf q pk phys
    divs := divs.setIfInBounds j (q.slice c.start c.size)
    olds := olds.setIfInBounds j (q.get4 c.start)
    f := f.store parent (← q.dropCell pk phys c.size)
  let first := olds.getD 0 0
  for o in olds do
    if o < 2 ∨ o > f.count then throw .corrupt
  let k ← f.kindAt first
  let flag := (f.buffer first).read 0
  for o in olds do
    if (f.buffer o).read 0 ≠ flag then throw .corrupt
  let leafCorr := if k.isLeaf then 4 else 0
  let leafData := k == .tableLeaf
  let ld : Nat := if leafData then 0 else 1
  -- the cells of the siblings, with the dividers between them unless they are table leaves
  let mut cells : Array Carried := #[]
  let mut cntOld : Array Nat := #[]
  for j in [0:nOld] do
    let o := olds.getD j 0
    let p := f.buffer o
    let w := waiting.on o
    let own : List Carried := (List.range p.cells).map (fun i =>
      let c := cellOf p k i
      { bytes := p.slice c.start c.size, home := some (o, c.start) })
    let limit := match w with
      | [] => p.cells
      | pd :: _ => pd.idx
    if limit > p.cells then throw .corrupt
    cells := cells ++ (own.take limit).toArray ++ (w.map (fun pd => ({ bytes := pd.cell } : Carried))).toArray
      ++ (own.drop limit).toArray
    cntOld := cntOld.push cells.size
    if j < last ∧ !leafData then
      let body := (divs.getD j []).drop leafCorr
      let body := if !k.isLeaf then bytesOf 4 (p.get4 (p.hdr + 8)) ++ body.drop 4
        else body ++ List.replicate (4 - body.length) 0
      cells := cells.push { bytes := body }
  let nCell := cells.size
  let size := carriedSize cells
  -- how many pages, and which cells go on each
  let usableSpace : Int := (f.usable : Int) - 12 + leafCorr
  let mut szNew : Array Int := Array.replicate 6 0
  let mut cntNew : Array Int := Array.replicate 6 0
  for j in [0:nOld] do
    let o := olds.getD j 0
    let free ← freeOf (f.buffer o) k
    let extra := ((waiting.on o).map (fun pd => (pd.cell.length : Int) + 2)).foldl (· + ·) 0
    szNew := szNew.setIfInBounds j (usableSpace - free + extra)
    cntNew := cntNew.setIfInBounds j (cntOld.getD j 0)
  let mut kk := nOld
  for i in [0:5] do
    if i ≥ kk then break
    for _ in [0:nCell + 1] do
      if szNew.getD i 0 ≤ usableSpace then break
      if i + 1 ≥ kk then
        kk := i + 2
        if kk > 5 then throw .corrupt
        szNew := szNew.setIfInBounds (kk - 1) 0
        cntNew := cntNew.setIfInBounds (kk - 1) nCell
      let c := cntNew.getD i 0
      let sz := 2 + size (c - 1)
      szNew := szNew.modify i (· - sz)
      let moved := if leafData then sz else if c < nCell then 2 + size c else 0
      szNew := szNew.modify (i + 1) (· + moved)
      cntNew := cntNew.modify i (· - 1)
    for _ in [0:nCell + 1] do
      let c := cntNew.getD i 0
      if c ≥ nCell then break
      let sz := 2 + size c
      if szNew.getD i 0 + sz > usableSpace then break
      szNew := szNew.modify i (· + sz)
      cntNew := cntNew.modify i (· + 1)
      let moved := if leafData then sz else if c + 1 < nCell then 2 + size (c + 1) else 0
      szNew := szNew.modify (i + 1) (· - moved)
    let c := cntNew.getD i 0
    if c ≥ nCell then kk := i + 1
    else if c ≤ (if i > 0 then cntNew.getD (i - 1) 0 else 0) then throw .corrupt
  -- even the pages out from the right
  for step in [1:kk] do
    let i := kk - step
    let mut szRight := szNew.getD i 0
    let mut szLeft := szNew.getD (i - 1) 0
    let mut r : Int := cntNew.getD (i - 1) 0 - 1
    let mut d : Int := r + 1 - (if leafData then 1 else 0)
    for _ in [0:nCell + 1] do
      let szR := size r
      let szD := size d
      if szRight ≠ 0 ∧ (bulk ∨ szRight + szD + 2 > szLeft - (szR + (if i = kk - 1 then 0 else 2))) then break
      szRight := szRight + szD + 2
      szLeft := szLeft - (szR + 2)
      cntNew := cntNew.setIfInBounds (i - 1) r
      r := r - 1
      d := d - 1
      if r < 0 then break
    szNew := (szNew.setIfInBounds i szRight).setIfInBounds (i - 1) szLeft
    if cntNew.getD (i - 1) 0 ≤ (if i > 1 then cntNew.getD (i - 2) 0 else 0) then throw .corrupt
  -- the pages: the old ones, then new ones each taken near the one before
  let mut slots : Array Nat := #[]
  let mut near := first
  for i in [0:kk] do
    if i < nOld then slots := slots.push (olds.getD i 0)
    else
      let (g, pg) ← f.allocate (if bulk then 1 else near)
      near := pg
      f := g.store pg ((g.buffer pg).reset flag)
      f ← f.mapPut pg .child parent
      cntOld := cntOld.push nCell
      slots := slots.push pg
  let finals := sortNumbers slots
  let mut bufs : Array PageBuffer := slots.map f.buffer
  let q := f.buffer parent
  f := f.store parent (q.set4 rightAt (finals.getD (kk - 1) 0))
  if !k.isLeaf ∧ nOld ≠ kk then
    let right := (f.buffer (olds.getD (nOld - 1) 0)).get4 8
    bufs := bufs.modify (kk - 1) (·.set4 8 right)
  -- the pointer map of cells that change pages
  if f.keepsMaps then
    let counts (j : Nat) : Nat :=
      if j < nOld then (f.buffer (olds.getD j 0)).cells + (waiting.on (olds.getD j 0)).length else 0
    let mut iOld := 0
    let mut nextOld := counts 0
    let mut iNew := 0
    for i in [0:nCell] do
      for _ in [0:nOld + 1] do
        if i ≠ nextOld then break
        iOld := iOld + 1
        nextOld := nextOld + counts iOld + ld
      if (i : Int) = cntNew.getD iNew 0 then
        iNew := iNew + 1
        if !leafData then continue
      let e := cells.getD i default
      let dest := finals.getD iNew 0
      let stays := iOld < kk ∧ dest = slots.getD iOld 0 ∧ (e.home.map (·.1)) = some (olds.getD iOld 0)
      if !stays then
        if leafCorr = 0 then f ← f.mapPut (numberOf (e.bytes.take 4)) .child dest
        f ← f.mapOverflow dest k e.bytes
  -- the dividers go into the parent
  let mut pw' : List Pending := if nOvfl > 0 then pw else []
  for i in [0:kk - 1] do
    let j := (cntNew.getD i 0).toNat
    let e := cells.getD j default
    let body : List UInt8 :=
      if !k.isLeaf then e.bytes.drop 4
      else if leafData then rowidBytes (cells.getD (j - 1) default).bytes
      else e.bytes
    if !k.isLeaf then bufs := bufs.modify i (·.write 8 (e.bytes.take 4))
    let (g, w) ← f.putCell parent pk pw' (nxDiv + i) (bytesOf 4 (finals.getD i 0) ++ body)
    f := g
    pw' := w
  -- the sibling pages take their cells
  for iPg in [0:kk] do
    let (iOld, iNew, n) : Nat × Nat × Nat :=
      if iPg = 0 then (0, 0, (cntNew.getD 0 0).toNat)
      else
        let iNew := (cntNew.getD (iPg - 1) 0).toNat + ld
        (if iPg < nOld then cntOld.getD (iPg - 1) 0 + ld else nCell, iNew, (cntNew.getD iPg 0).toNat - iNew)
    let w := if iPg < nOld then waiting.on (olds.getD iPg 0) else []
    let edited ← editPage (bufs.getD iPg default) k cells (slots.getD iPg 0) w iOld iNew n
    bufs := bufs.setIfInBounds iPg edited
  for iPg in [0:kk] do
    f := f.setPage (finals.getD iPg 0) (bufs.getD iPg default).bytes
  -- a root left without cells takes the content of its only child
  let child := finals.getD 0 0
  let q := f.buffer parent
  let childFree := usableSpace - szNew.getD 0 0
  if top ∧ q.cells = 0 ∧ pw'.isEmpty ∧ (q.hdr : Int) ≤ childFree then
    let c ← (f.buffer child).defragment k childFree.toNat (-1)
    f := f.store child c
    let iData := c.get2 5
    let q := q.write iData (c.slice iData (f.usable - iData))
    let q := q.write q.hdr (c.slice 0 (c.cellIndex k + 2 * c.cells))
    f := f.store parent q
    f ← f.mapChildren parent
    f ← f.release child
  else if f.keepsMaps ∧ !k.isLeaf then
    for iPg in [0:kk] do
      let pg := finals.getD iPg 0
      f ← f.mapPut ((f.buffer pg).get4 8) .child pg
  for i in [kk:nOld] do
    f ← f.release (olds.getD i 0)
  return (f, pw')

/-- Restore a tree bottom up from the page at the head of a trail (see the module
documentation). The file, the trail from the page where it stopped, and the cells still
waiting. -/
def balance (f : PageFile) (trail : List Step) (waiting : Waiting) (bulk : Bool) :
    Except Fault (PageFile × List Step × Waiting) :=
  let rec go : Nat → PageFile → List Step → Waiting → Except Fault (PageFile × List Step × Waiting)
    | 0, _, _, _ => .error .corrupt
    | _ + 1, f, [], w => .ok (f, [], w)
    | fuel + 1, f, s :: rest, w => do
      let k ← f.kindAt s.pgno
      let here := w.on s.pgno
      let free ← freeOf (f.buffer s.pgno) k
      if here.isEmpty ∧ free * 3 ≤ f.usable * 2 then return (f, s :: rest, w)
      match rest with
      | [] =>
        if here.isEmpty then return (f, [s], w)
        let (f, child) ← f.deepen s.pgno k
        go fuel f [⟨child, 0⟩, ⟨s.pgno, 0⟩] ((w.put s.pgno []).put child here)
      | parent :: up =>
        let quick := match here with
          | [pd] => k == PageKind.tableLeaf && pd.idx == (f.buffer s.pgno).cells && parent.pgno != 1
              && (f.buffer parent.pgno).cells == parent.idx
          | _ => false
        if quick then
          let (f, pw) ← f.splitLast parent.pgno s.pgno (w.on parent.pgno) ((here.headD default).cell)
          go fuel f (parent :: up) ((w.put s.pgno []).put parent.pgno pw)
        else
          let (f, pw) ← f.balanceSiblings parent.pgno parent.idx w up.isEmpty bulk
          go fuel f (parent :: up) ((w.put s.pgno []).put parent.pgno pw)
  go 40 f trail waiting

end PageFile

end Image

end DocStore
