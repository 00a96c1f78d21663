import DocStore.Image.Write.Balance
/-!
# Giving free pages back at commit

A file with pointer maps that does not keep its free pages until asked gives them back at every
commit that wrote something (`PageFile.commit`). The file is cut to the size it would have
without its free pages and without the pointer-map pages that only described them
(`PageFile.finalCount`). Walking down from the last page, each page beyond that size that is in
use moves into a free page within it, taken from the head of the free list (free pages beyond
the size taken on the way are dropped). The page that pointed at it is repointed, and the
pointer map records the move, along with what the moved page points at (`PageFile.relocate`).
The free list is then empty and the file shorter.
-/

namespace DocStore

namespace Image

namespace PageFile

/-- Repoint the pointer that page `pgno` holds to page `src`, as a page of the given role, at
page `dst`: the link of an overflow page, the overflow pointer of a cell, or a child pointer
(of a cell, or the right-most one). -/
def repoint (f : PageFile) (pgno src dst : Nat) (role : MapRole) : Except Fault PageFile := do
  if role = .laterOverflow then
    let q : PageBuffer := ⟨f.page pgno, 0, f.usable⟩
    if q.get4 0 ≠ src then throw .corrupt
    return f.setPage pgno (q.set4 0 dst).bytes
  let k ← f.kindAt pgno
  let p := f.buffer pgno
  let spot := (List.range p.cells).findSome? (fun i =>
    let c := cellOf p k i
    if role = .firstOverflow then
      if c.onPage < c.payload ∧ p.get4 (c.start + c.size - 4) = src then some (c.start + c.size - 4)
      else none
    else if p.get4 c.start = src then some c.start else none)
  match spot with
  | some pos => return f.store pgno (p.set4 pos dst)
  | none =>
    if role ≠ .child ∨ p.get4 (p.hdr + 8) ≠ src then throw .corrupt
    return f.store pgno (p.set4 (p.hdr + 8) dst)

/-- Move a page in use from `src` to the free page `dst`: its bytes move, the pointer map records
what it points at as hanging under its new number (for a tree page) or the next page of its
chain as following it (for an overflow page), and the page that pointed at it is repointed. -/
def relocate (f : PageFile) (src dst : Nat) (role : MapRole) (parent : Nat) : Except Fault PageFile := do
  if src < 3 then throw .corrupt
  let f := f.setPage dst (f.page src)
  let f ← match role with
    | .root | .child => f.mapChildren dst
    | _ =>
      let next := (PageBuffer.mk (f.page dst) 0 f.usable).get4 0
      if next ≠ 0 then f.mapPut next .laterOverflow dst else pure f
  if role = .root then return f
  let f ← f.repoint parent src dst role
  f.mapPut dst role parent

/-- The page count of a file of `count` pages once its `free` free pages are given back, with the
pointer-map pages that only described them, and never ending on a pointer-map page or the lock
page. -/
def finalCount (f : PageFile) (count free : Nat) : Nat :=
  let entries := f.usable / 5
  let maps := (free + f.mapPageOf count + entries - count) / entries
  let fin := count - free - maps
  let fin := if count > f.lockPage ∧ fin < f.lockPage then fin - 1 else fin
  let rec down : Nat → Nat → Nat
    | 0, n => n
    | fuel + 1, n => if f.isMapPage n || n == f.lockPage then down fuel (n - 1) else n
  down 3 fin

/-- Give the free pages of a file with pointer maps back (see the module documentation); a file
without pointer maps, or one that keeps its free pages until asked, stays as it is. -/
def vacuum (f : PageFile) : Except Fault PageFile := do
  if !f.keepsMaps || f.vacuumsOnRequest then return f
  let count := f.count
  if f.isMapPage count ∨ count = f.lockPage then throw .corrupt
  let free := f.headerNumber 36
  let fin := f.finalCount count free
  if fin > count then throw .corrupt
  let mut f := f
  for i in [0:count - fin] do
    let last := count - i
    if !f.isMapPage last ∧ last ≠ f.lockPage then
      if f.headerNumber 36 = 0 then break
      let (role, parent) ← f.mapGet last
      if role = .root then throw .corrupt
      if role ≠ .free then
        let mut dst := 0
        for _ in [0:free + 1] do
          let size := f.count
          let (g, pg) ← f.allocate 0
          f := g
          if pg > size then throw .corrupt
          dst := pg
          if pg ≤ fin then break
        f ← f.relocate last dst role parent
  if free > 0 then
    f := ((f.setHeaderNumber 32 0).setHeaderNumber 36 0).setHeaderNumber 28 fin
    f := { f with pages := f.pages.extract 0 fin, recycled := f.recycled.filter (· ≤ fin) }
  return f

/-- Commit, given the file as the transaction found it: a transaction that wrote gives its free
pages back first when the file asks for it, and then the transaction is closed. -/
def commit (f before : PageFile) : Except Fault PageFile := do
  let f ← if f.written then f.vacuum else pure f
  return f.closeTransaction before

end PageFile

end Image

end DocStore
