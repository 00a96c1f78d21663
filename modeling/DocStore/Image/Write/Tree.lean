import DocStore.Image.Write.Vacuum
import DocStore.Sql.Schema
/-!
# Editing the trees of a file

A tree is found from its root page. Table trees keep rows under rowids, in leaves only; their
interior cells hold the largest rowid of the subtree on their left. Index trees keep keys (records
that end with a rowid) in order, on interior pages as well as leaves.

A search walks from the root to the leaf position of a key, remembering the position taken on
every page (`Step`); the trail is kept leaf first. An entry goes into its leaf at that position,
and a cell too large for the free bytes of its page waits while the tree is balanced (see
`PageFile.balance`).

A removal frees the overflow pages of the cell and then its bytes on the page. An index entry on
an interior page is replaced by the entry before it, the last one of the subtree on its left,
which leaves its leaf. A leaf left with more than two thirds of its usable bytes free is
balanced, and so is the interior page when the balance stopped below it. Emptying a tree keeps
its root as an empty leaf and frees every other page of it, with their overflow pages, in the
order a left-to-right walk meets them.
-/

namespace DocStore

namespace Image

/-- A list cut into pieces of `size` elements, the last one possibly shorter. -/
def chunksOf {α : Type} (size : Nat) (xs : List α) : List (List α) :=
  let rec go : Nat → List α → List (List α)
    | 0, _ => []
    | fuel + 1, ys => if ys.isEmpty then [] else ys.take size :: go fuel (ys.drop size)
  go xs.length xs

namespace PageFile

/-- The pages of an overflow chain of `n` pages from `first`. -/
def chainPages (f : PageFile) (first n : Nat) : List Nat :=
  let rec go : Nat → Nat → List Nat
    | 0, _ => []
    | k + 1, pgno => pgno :: (if k = 0 then [] else go k ((PageBuffer.mk (f.page pgno) 0 f.usable).get4 0))
  go n first

/-- The overflow pages of a cell, in chain order. -/
def overflowPages (f : PageFile) (p : PageBuffer) (c : Cell) : List Nat :=
  if c.onPage ≥ c.payload then []
  else f.chainPages (p.get4 (c.payloadAt + c.onPage)) ((c.payload - c.onPage + f.usable - 5) / (f.usable - 4))

/-- The whole payload of a cell: what its page keeps, then its overflow chain. -/
def payloadOf (f : PageFile) (p : PageBuffer) (c : Cell) : List UInt8 :=
  let spilled := (f.overflowPages p c).zipIdx.map (fun (pgno, i) =>
    (PageBuffer.mk (f.page pgno) 0 f.usable).slice 4
      (min (f.usable - 4) (c.payload - c.onPage - i * (f.usable - 4))))
  p.slice c.payloadAt (min c.onPage c.payload) ++ spilled.flatten

/-- The key a cell of an index page holds. -/
def keyOf (f : PageFile) (p : PageBuffer) (c : Cell) : Except Fault (List SqlValue) :=
  match readRecord f.encoding (f.payloadOf p c) with
  | some vs => .ok vs
  | none => .error .corrupt

/-- Free the overflow pages of a cell, in chain order. -/
def freeOverflow (f : PageFile) (p : PageBuffer) (c : Cell) : Except Fault PageFile :=
  (f.overflowPages p c).foldlM (fun f pgno => f.release pgno) f

/-- The cell that stores a payload on a page of kind `k`, after its rowid on table leaves. A
payload within the kind's limit stays on the page; a longer one keeps the part `spillLocalFor`
allows and continues on overflow pages that start with the number of the next one. Each is taken
near the one before it or, in a file with pointer maps, near the page after it (the first one
near page 1), and the pointer map records it as the first page of a chain or as the page after
the one before. -/
def makeCell (f : PageFile) (k : PageKind) (rowid : Nat) (payload : List UInt8) :
    Except Fault (PageFile × List UInt8) := do
  let head := varint payload.length ++ (if k.isTable then varint rowid else [])
  if payload.length ≤ (localLimitsFor f.usable k).1 then return (f, head ++ payload)
  let n := spillLocalFor f.usable k payload.length
  let chunks := chunksOf (f.usable - 4) (payload.drop n)
  let (f, pages) ← chunks.foldlM (fun (acc : PageFile × List Nat) _ => do
    let prev := acc.2.getLastD 0
    let near := if acc.1.keepsMaps then acc.1.plainFrom (prev + 1) else prev
    let (f, pgno) ← acc.1.allocate near
    let f ← f.mapPut pgno (if prev = 0 then .firstOverflow else .laterOverflow) prev
    return (f, acc.2 ++ [pgno])) (f, [])
  let f := (pages.zip chunks).zipIdx.foldl (fun f ((pgno, chunk), i) =>
    let q : PageBuffer := ⟨f.page pgno, 0, f.usable⟩
    f.setPage pgno ((q.set4 0 (pages.getD (i + 1) 0)).write 4 chunk).bytes) f
  return (f, head ++ payload.take n ++ bytesOf 4 (pages.headD 0))

/-- The trail to a rowid in a table tree, leaf first, and whether the leaf holds it at the
position reached (else that is where it would go). -/
def seekRowid (f : PageFile) (root : Nat) (rowid : Int) : Except Fault (List Step × Bool) :=
  let rec go : Nat → Nat → List Step → Except Fault (List Step × Bool)
    | 0, _, _ => .error .corrupt
    | fuel + 1, pgno, trail => do
      let k ← f.kindAt pgno
      if !k.isTable then throw .corrupt
      let p := f.buffer pgno
      let keys := (List.range p.cells).map (fun i => (cellOf p k i).key)
      let i := (keys.findIdx? (fun key => key ≥ rowid)).getD keys.length
      if k.isLeaf then return (⟨pgno, i⟩ :: trail, keys[i]? == some rowid)
      go fuel (childOf p k i) (⟨pgno, i⟩ :: trail)
  go 20 root []

/-- The trail to a key in an index tree, leaf first unless the key sits on an interior page, and
whether the page reached holds it at the position reached. -/
def seekKey (f : PageFile) (root : Nat) (order : List (Collation × Bool)) (key : List SqlValue) :
    Except Fault (List Step × Bool) :=
  let rec go : Nat → Nat → List Step → Except Fault (List Step × Bool)
    | 0, _, _ => .error .corrupt
    | fuel + 1, pgno, trail => do
      let k ← f.kindAt pgno
      if k.isTable then throw .corrupt
      let p := f.buffer pgno
      let keys ← (List.range p.cells).mapM (fun i => f.keyOf p (cellOf p k i))
      let (i, found) := match Sql.searchCells (fun c => Sql.compareKeys f.encoding order c key) keys.toArray with
        | some (idx, c) => (if c == .lt then idx + 1 else idx, c == .eq)
        | none => (0, false)
      if k.isLeaf || found then return (⟨pgno, i⟩ :: trail, found)
      go fuel (childOf p k i) (⟨pgno, i⟩ :: trail)
  go 20 root []

/-- The largest rowid of a table tree, if it holds any row. -/
def lastRowid (f : PageFile) (root : Nat) : Except Fault (Option Int) :=
  let rec go : Nat → Nat → Except Fault (Option Int)
    | 0, _ => .error .corrupt
    | fuel + 1, pgno => do
      let k ← f.kindAt pgno
      let p := f.buffer pgno
      if k.isLeaf then
        return if p.cells = 0 then none else some (cellOf p k (p.cells - 1)).key
      go fuel (p.get4 (p.hdr + 8))
  go 20 root

/-- Put a cell at the end of a trail and balance the tree when it waits; `bulk` says that an
index is being loaded in order. -/
def insertAt (f : PageFile) (trail : List Step) (cell : List UInt8) (bulk : Bool) :
    Except Fault PageFile := do
  match trail with
  | [] => throw .corrupt
  | s :: _ =>
    let k ← f.kindAt s.pgno
    let (f, w) ← f.putCell s.pgno k [] s.idx cell
    if w.isEmpty then return f
    let (f, _, _) ← f.balance trail [(s.pgno, w)] bulk
    return f

/-- Add a row under a rowid the table does not hold. -/
def insertRow (f : PageFile) (root rowid : Nat) (payload : List UInt8) : Except Fault PageFile := do
  let (trail, _) ← f.seekRowid root rowid
  let (f, cell) ← f.makeCell .tableLeaf rowid payload
  f.insertAt trail cell false

/-- Add a key to an index where the search for it lands; `bulk` says that the index is being
loaded in order. -/
def addKey (f : PageFile) (root : Nat) (order : List (Collation × Bool)) (key : List SqlValue)
    (bulk : Bool) : Except Fault PageFile := do
  let (trail, _) ← f.seekKey root order key
  let (f, cell) ← f.makeCell .indexLeaf 0 (record f.encoding key)
  f.insertAt trail cell bulk

/-- The trail from a page down to the last entry of its subtree, leaf first: the right-most child
on every interior page and the last cell of the leaf. -/
def lastTrail (f : PageFile) (pgno : Nat) : Except Fault (List Step) :=
  let rec go : Nat → Nat → List Step → Except Fault (List Step)
    | 0, _, _ => .error .corrupt
    | fuel + 1, pgno, acc => do
      let k ← f.kindAt pgno
      let p := f.buffer pgno
      if k.isLeaf then
        if p.cells = 0 then throw .corrupt
        return ⟨pgno, p.cells - 1⟩ :: acc
      go fuel (p.get4 (p.hdr + 8)) (⟨pgno, p.cells⟩ :: acc)
  go 20 pgno []

/-- Remove the entry a trail ends at. On an interior page of an index, the entry before it takes
its place (it may wait there) and leaves its leaf. A leaf left mostly empty is balanced, and the
interior page as well when that balance stopped below it. -/
def removeAt (f : PageFile) (trail : List Step) : Except Fault PageFile := do
  match trail with
  | [] => throw .corrupt
  | s :: _ =>
    let k ← f.kindAt s.pgno
    let p := f.buffer s.pgno
    let c := cellOf p k s.idx
    if k.isLeaf then
      let f ← f.freeOverflow p c
      let q ← (f.buffer s.pgno).dropCell k s.idx c.size
      let f := f.store s.pgno q
      if (← freeOf q k) * 3 ≤ f.usable * 2 then return f
      let (f, _, _) ← f.balance trail [] false
      return f
    let child := childOf p k s.idx
    let below ← f.lastTrail child
    match below with
    | [] => throw .corrupt
    | leaf :: _ =>
      let f ← f.freeOverflow p c
      let f := f.store s.pgno (← (f.buffer s.pgno).dropCell k s.idx c.size)
      let lk ← f.kindAt leaf.pgno
      let lp := f.buffer leaf.pgno
      let last := cellOf lp lk leaf.idx
      let moved := lp.slice last.start last.size
      let (f, w) ← f.putCell s.pgno k [] s.idx (bytesOf 4 child ++ moved)
      let lq ← (f.buffer leaf.pgno).dropCell lk leaf.idx last.size
      let f := f.store leaf.pgno lq
      let full := below ++ trail
      let held : Waiting := [(s.pgno, w)]
      let (f, stop, held) ← if (← freeOf lq lk) * 3 ≤ f.usable * 2 then pure (f, full, held)
        else f.balance full held false
      if stop.length > trail.length then
        let (f, _, _) ← f.balance trail held false
        return f
      return f

/-- Remove the row under a rowid, if the table holds it. -/
def deleteRow (f : PageFile) (root : Nat) (rowid : Int) : Except Fault PageFile := do
  let (trail, found) ← f.seekRowid root rowid
  if !found then return f
  f.removeAt trail

/-- The trail to the first entry of an index tree, in order, that holds exactly the given
values, if there is one. -/
def findExact (f : PageFile) (root : Nat) (key : List SqlValue) : Except Fault (Option (List Step)) :=
  let rec go : Nat → Nat → List Step → Except Fault (Option (List Step))
    | 0, _, _ => .error .corrupt
    | fuel + 1, pgno, trail => do
      let k ← f.kindAt pgno
      if k.isTable then throw .corrupt
      let p := f.buffer pgno
      for i in List.range (p.cells + (if k.isLeaf then 0 else 1)) do
        if !k.isLeaf then
          if let some t ← go fuel (childOf p k i) (⟨pgno, i⟩ :: trail) then return some t
        if i < p.cells then
          if (← f.keyOf p (cellOf p k i)) == key then return some (⟨pgno, i⟩ :: trail)
      return none
  go 20 root []

/-- Remove a key from an index: the entry the search finds equal to it; a key the index lacks is
corruption. -/
def deleteKey (f : PageFile) (root : Nat) (order : List (Collation × Bool)) (key : List SqlValue) :
    Except Fault PageFile := do
  let (trail, found) ← f.seekKey root order key
  if !found then throw .corrupt
  f.removeAt trail

/-- Remove the entry a statement stands on: the first entry, in order, that holds exactly the
given values; an index without one is corrupt. -/
def dropEntry (f : PageFile) (root : Nat) (key : List SqlValue) : Except Fault PageFile := do
  match ← f.findExact root key with
  | some trail => f.removeAt trail
  | none => throw .corrupt

/-- Whether a new cell may be written over an old one of its size without overflow: always, but
in a file with pointer maps only a cell smaller than the least a spilling payload keeps, so that
a cell with an overflow chain is recorded in the map. -/
def inPlace (f : PageFile) (k : PageKind) (cell : List UInt8) : Bool :=
  !f.keepsMaps || cell.length < (localLimitsFor f.usable k).2

/-- Store a new payload under a rowid the table holds. When the statement has read the row
(`read`) and the payload keeps its length, the new bytes are written over the old ones, on the page
and along the overflow chain. Otherwise the new cell is built first; the old cell's overflow pages
are freed; a cell of the same size without overflow is written in place, and any other replaces
the old one at its position. -/
def overwriteRow (f : PageFile) (root rowid : Nat) (payload : List UInt8) (read : Bool) :
    Except Fault PageFile := do
  let (trail, found) ← f.seekRowid root rowid
  if !found then return (← f.insertRow root rowid payload)
  match trail with
  | [] => throw .corrupt
  | s :: _ =>
    let p := f.buffer s.pgno
    let c := cellOf p .tableLeaf s.idx
    if read ∧ c.payload = payload.length then
      let f := f.store s.pgno (p.write c.payloadAt (payload.take (min c.onPage c.payload)))
      let rest := chunksOf (f.usable - 4) (payload.drop c.onPage)
      return ((f.overflowPages p c).zip rest).foldl (fun f (pgno, chunk) =>
        f.setPage pgno ((PageBuffer.mk (f.page pgno) 0 f.usable).write 4 chunk).bytes) f
    let (f, cell) ← f.makeCell .tableLeaf rowid payload
    let f ← f.freeOverflow (f.buffer s.pgno) c
    let p := f.buffer s.pgno
    if c.size = cell.length ∧ c.onPage ≥ c.payload ∧ f.inPlace .tableLeaf cell then
      return f.store s.pgno (p.write c.start cell)
    let f := f.store s.pgno (← p.dropCell .tableLeaf s.idx c.size)
    f.insertAt trail cell false

/-- Store a new key over the entry of an index tree whose leading values equal `lead`, or add it
when there is none. A key of the old one's length is written over it, on the page and along the
overflow chain. Otherwise the new cell is built first, keeping the child pointer of a cell on an
interior page; the old cell's overflow pages are freed; a cell of the same size without
overflow is written in place, and any other replaces the old one at its position. -/
def overwriteKey (f : PageFile) (root : Nat) (order : List (Collation × Bool)) (lead key : List SqlValue) :
    Except Fault PageFile := do
  let (trail, found) ← f.seekKey root order lead
  if !found then return (← f.addKey root order key false)
  match trail with
  | [] => throw .corrupt
  | s :: _ =>
    let k ← f.kindAt s.pgno
    let p := f.buffer s.pgno
    let c := cellOf p k s.idx
    let payload := record f.encoding key
    if c.payload = payload.length then
      let f := f.store s.pgno (p.write c.payloadAt (payload.take (min c.onPage c.payload)))
      let rest := chunksOf (f.usable - 4) (payload.drop c.onPage)
      return ((f.overflowPages p c).zip rest).foldl (fun f (pgno, chunk) =>
        f.setPage pgno ((PageBuffer.mk (f.page pgno) 0 f.usable).write 4 chunk).bytes) f
    let (f, cell) ← f.makeCell .indexLeaf 0 payload
    let cell := if k.isLeaf then cell else p.slice c.start 4 ++ cell
    let f ← f.freeOverflow (f.buffer s.pgno) c
    let p := f.buffer s.pgno
    if c.size = cell.length ∧ c.onPage ≥ c.payload ∧ f.inPlace k cell then
      return f.store s.pgno (p.write c.start cell)
    let f := f.store s.pgno (← p.dropCell k s.idx c.size)
    f.insertAt trail cell false

/-- Add a key to an index; an entry the search finds equal to it is written over instead. -/
def insertKey (f : PageFile) (root : Nat) (order : List (Collation × Bool)) (key : List SqlValue) :
    Except Fault PageFile :=
  f.overwriteKey root order key key

/-- Add a key to an index being loaded in order, after the keys it holds. -/
def loadKey (f : PageFile) (root : Nat) (order : List (Collation × Bool)) (key : List SqlValue) :
    Except Fault PageFile :=
  f.addKey root order key true

/-- Empty a tree: its root becomes an empty leaf, and its other pages and all overflow pages are
freed, each page's cells (with their subtrees) before its right-most child and the page itself. -/
def clearTree (f : PageFile) (root : Nat) : Except Fault PageFile :=
  let rec go : Nat → PageFile → Nat → Bool → Except Fault PageFile
    | 0, _, _, _ => .error .corrupt
    | fuel + 1, f, pgno, freeIt => do
      let k ← f.kindAt pgno
      let n := (f.buffer pgno).cells
      let mut f := f
      for i in List.range n do
        let p := f.buffer pgno
        let c := cellOf p k i
        if !k.isLeaf then f ← go fuel f (p.get4 c.start) true
        f ← f.freeOverflow (f.buffer pgno) c
      if !k.isLeaf then
        let p := f.buffer pgno
        f ← go fuel f (p.get4 (p.hdr + 8)) true
      if freeIt then f.release pgno
      else
        let p := f.buffer pgno
        return f.store pgno (p.reset (p.read p.hdr ||| 8))
  go 20 f root false

/-- A new empty tree: the file and its root. The root is taken near the start of the file; in a
file with pointer maps it is the first page after the largest root that is neither a
pointer-map page nor the lock page, whose content first moves to a page taken for it (unless that
page is free and taken itself). The pointer map records the root, and the header its number as
the largest root (offset 52). -/
def createTree (f : PageFile) (flag : Nat) : Except Fault (PageFile × Nat) := do
  if !f.keepsMaps then
    let (f, pgno) ← f.allocate 1
    return (f.store pgno ((f.buffer pgno).reset flag), pgno)
  let largest := f.headerNumber 52
  if largest > f.count then throw .corrupt
  let root := f.plainFrom (largest + 1)
  let (f, moved) ← f.allocateExact root
  let f ← if moved = root then pure f else do
    let (role, parent) ← f.mapGet root
    if role = .root ∨ role = .free then throw .corrupt
    f.relocate root moved role parent
  let f ← f.mapPut root .root 0
  let f := f.setHeaderNumber 52 root
  return (f.store root ((f.buffer root).reset flag), root)

end PageFile

end Image

end DocStore
