import DocStore.Image.Write.Cells
import DocStore.Image.Record
/-!
# The pages of a database file

`PageFile` holds a database file page by page, as the engine leaves it on disk. Page 1 starts
with the 100-byte file header, which also keeps the page count (offset 28), the first page of
the free-page list (offset 32) and its length (offset 36).

Pages leave the free-page list, or are appended when it is empty. The list is a chain of trunk
pages; each trunk lists leaf pages after its own link and count. A freed page becomes a leaf of
the first trunk while that trunk has room for it (up to `usable / 4 - 8` leaves), and otherwise
the new first trunk. A page taken from the list is the first trunk itself when it lists no
leaves, or else the listed leaf nearest to a page the caller names (the first one when it names
none); the last leaf moves into the place of the one taken.

Appended pages start out zeroed, and so do reused leaves, except those freed since the last
commit, which keep their bytes; a reused trunk keeps its bytes too. The page after the last one
is skipped when it holds the lock bytes at one gibibyte.

A file also remembers whether any page changed since the last commit: a commit that changed
something advances the change counter (offset 24), stamps it as the version the header is valid
for (offset 92) and records the engine version (offset 96). Leaves freed since the last commit
are not written at all, so the file keeps what they held before.

A file whose header names a largest root page (offset 52) keeps pointer maps: page 2 and every
`usable / 5 + 1`-th page after it (the lock page skipped) record, five bytes a page for the pages
that follow, what each page is and which page points at it (`MapRole`). Such a file never
appends a page where a pointer-map page belongs: the map page is appended first, zeroed. A freed
page is recorded as free.
-/

namespace DocStore

namespace Image

/-- The engine version recorded in the header of a committed file. -/
def engineVersion : Nat := 3045001

/-- A database file as pages. -/
structure PageFile where
  pageSize : Nat := 4096
  usable : Nat := 4096
  pages : Array (Array UInt8) := #[]
  /-- Whether a page was written since the last commit. -/
  written : Bool := false
  /-- The pages that became free-list leaves since the last commit. -/
  recycled : List Nat := []
deriving DecidableEq, Repr, Inhabited

namespace PageFile

/-- The page count the header records. -/
def count (f : PageFile) : Nat :=
  let h := f.pages.getD 0 #[]
  let b (i : Nat) : Nat := (h.getD i 0).toNat
  ((b 28 * 256 + b 29) * 256 + b 30) * 256 + b 31

/-- A page's bytes, zeros past the file's end. -/
def page (f : PageFile) (pgno : Nat) : Array UInt8 :=
  f.pages.getD (pgno - 1) (Array.replicate f.pageSize 0)

/-- Replace a page's bytes, growing the file with zero pages as needed. A page counts as written
only when its bytes change. -/
def setPage (f : PageFile) (pgno : Nat) (bytes : Array UInt8) : PageFile :=
  let grown := if pgno > f.pages.size then
      f.pages ++ Array.replicate (pgno - f.pages.size) (Array.replicate f.pageSize 0)
    else f.pages
  let changed := grown.getD (pgno - 1) #[] != bytes
  { f with pages := grown.setIfInBounds (pgno - 1) bytes, written := f.written || changed }

/-- A page for editing its b-tree content. -/
def buffer (f : PageFile) (pgno : Nat) : PageBuffer :=
  ⟨f.page pgno, Geometry.headerOffset pgno, f.usable⟩

/-- Store an edited page. -/
def store (f : PageFile) (pgno : Nat) (p : PageBuffer) : PageFile := f.setPage pgno p.bytes

/-- Edit the header on page 1. -/
def editHeader (f : PageFile) (edit : PageBuffer → PageBuffer) : PageFile :=
  f.store 1 (edit ⟨f.page 1, 0, f.usable⟩)

/-- A four-byte number of the header. -/
def headerNumber (f : PageFile) (off : Nat) : Nat := (PageBuffer.mk (f.page 1) 0 f.usable).get4 off

/-- Whether the file may only be read: its header's write version (offset 18) is one the
engine does not know. -/
def readOnly (f : PageFile) : Bool := !f.pages.isEmpty && (f.page 1).getD 18 0 > 2

/-- The text encoding the header names (offset 56). -/
def encoding (f : PageFile) : TextEncoding := TextEncoding.ofNumber (f.headerNumber 56)

/-- Set a four-byte number of the header. -/
def setHeaderNumber (f : PageFile) (off v : Nat) : PageFile := f.editHeader (·.set4 off v)

/-- The file of an image: its bytes cut into pages of the size its header declares. -/
def ofImage (image : List UInt8) : PageFile :=
  let bytes := image.toArray
  let b (i : Nat) : Nat := (bytes.getD i 0).toNat
  let size := match b 16 * 256 + b 17 * 65536 with
    | 0 => 4096
    | n => n
  let n := (bytes.size + size - 1) / size
  { pageSize := size, usable := size - b 20,
    pages := (Array.range n).map (fun k => (Array.range size).map (fun i => bytes.getD (k * size + i) 0)) }

/-- The bytes of the file. -/
def bytes (f : PageFile) : List UInt8 := (f.pages.toList.map Array.toList).flatten

/-- A fresh database of one empty table page (the schema table), with the given write and read
versions (1 for a rollback journal, 2 for a write-ahead log). -/
def fresh (version : Nat) : PageFile :=
  let size := 4096
  let p : PageBuffer := ⟨Array.replicate size 0, 0, size⟩
  let p := p.write 0 magic
  let p := ((p.set2 16 (size % 65536)).set1 18 version).set1 19 version
  let p := (((p.set1 20 0).set1 21 64).set1 22 32).set1 23 32
  let p := (p.set1 31 1)
  let p := { p with hdr := 100 }.reset 13
  { pageSize := size, usable := size, pages := #[p.bytes], written := true }

/-- Whether the file keeps pointer maps: its header names a largest root page (offset 52). -/
def keepsMaps (f : PageFile) : Bool := f.headerNumber 52 != 0

/-- Whether a file with pointer maps keeps its free pages until asked for them (offset 64);
otherwise every commit gives them back. -/
def vacuumsOnRequest (f : PageFile) : Bool := f.headerNumber 64 != 0

/-- The page that holds the lock bytes at one gibibyte; it belongs to nothing. -/
def lockPage (f : PageFile) : Nat := 1073741824 / f.pageSize + 1

/-- The pointer-map page that describes a page (0 for page 1): every `usable / 5 + 1` pages from
page 2 are led by one, the lock page skipped. -/
def mapPageOf (f : PageFile) (pgno : Nat) : Nat :=
  if pgno < 2 then 0
  else
    let span := f.usable / 5 + 1
    let p := (pgno - 2) / span * span + 2
    if p = f.lockPage then p + 1 else p

/-- Is a page a pointer-map page? -/
def isMapPage (f : PageFile) (pgno : Nat) : Bool := f.mapPageOf pgno == pgno

/-- The first page from `pgno` on that is neither a pointer-map page nor the lock page. -/
def plainFrom (f : PageFile) (pgno : Nat) : Nat :=
  let rec go : Nat → Nat → Nat
    | 0, n => n
    | fuel + 1, n => if f.isMapPage n || n == f.lockPage then go fuel (n + 1) else n
  go 3 pgno

end PageFile

/-- What a pointer-map entry records about a page, and which page its parent is: a tree's root
(none), a free page (none), the first page of an overflow chain (the page of the cell), a later
page of a chain (the page before it), or a tree page below a root (the page above it). -/
inductive MapRole where
  | root
  | free
  | firstOverflow
  | laterOverflow
  | child
deriving DecidableEq, Repr, Inhabited

namespace MapRole

/-- The code of a role in a pointer-map entry. -/
def code : MapRole → Nat
  | .root => 1
  | .free => 2
  | .firstOverflow => 3
  | .laterOverflow => 4
  | .child => 5

/-- The role a code names. -/
def ofCode : Nat → Option MapRole
  | 1 => some .root
  | 2 => some .free
  | 3 => some .firstOverflow
  | 4 => some .laterOverflow
  | 5 => some .child
  | _ => none

end MapRole

namespace PageFile

/-- Record a page's role and parent in a file that keeps pointer maps; an entry that already says
so is left as it is. -/
def mapPut (f : PageFile) (key : Nat) (role : MapRole) (parent : Nat) : Except Fault PageFile := do
  if !f.keepsMaps then return f
  if key = 0 then throw .corrupt
  let map := f.mapPageOf key
  if key ≤ map then throw .corrupt
  let off := 5 * (key - map - 1)
  let m : PageBuffer := ⟨f.page map, 0, f.usable⟩
  if m.read off = role.code ∧ m.get4 (off + 1) = parent then return f
  return f.setPage map ((m.set1 off role.code).set4 (off + 1) parent).bytes

/-- The role and parent the pointer map records for a page. -/
def mapGet (f : PageFile) (key : Nat) : Except Fault (MapRole × Nat) := do
  let map := f.mapPageOf key
  if key ≤ map then throw .corrupt
  let off := 5 * (key - map - 1)
  let m : PageBuffer := ⟨f.page map, 0, f.usable⟩
  match MapRole.ofCode (m.read off) with
  | some role => return (role, m.get4 (off + 1))
  | none => throw .corrupt

/-- Take a page for new content, preferring a listed leaf near `nearby`: the file and the page
number. A listed leaf starts out zeroed unless it was freed since the last commit. -/
def allocate (f : PageFile) (nearby : Nat) : Except Fault (PageFile × Nat) := do
  let free := f.headerNumber 36
  if free ≥ f.count then throw .corrupt
  if free > 0 then
    let trunk := f.headerNumber 32
    if trunk > f.count ∨ trunk < 1 then throw .corrupt
    let f := f.setHeaderNumber 36 (free - 1)
    let t : PageBuffer := ⟨f.page trunk, 0, f.usable⟩
    let k := t.get4 4
    if k = 0 then
      return (f.setHeaderNumber 32 (t.get4 0), trunk)
    if k > f.usable / 4 - 2 then throw .corrupt
    let leaves := (List.range k).map (fun i => t.get4 (8 + 4 * i))
    let dist (p : Nat) : Nat := if p ≥ nearby then p - nearby else nearby - p
    let closest := if nearby = 0 then 0
      else (List.range k).foldl (fun best i =>
        if dist (leaves.getD i 0) < dist (leaves.getD best 0) then i else best) 0
    let pgno := leaves.getD closest 0
    if pgno > f.count ∨ pgno < 2 then throw .corrupt
    let t := if closest + 1 < k then t.set4 (8 + 4 * closest) (t.get4 (4 + 4 * k)) else t
    let f := f.setPage trunk (t.set4 4 (k - 1)).bytes
    if f.recycled.contains pgno then
      return ({ f with recycled := f.recycled.erase pgno }, pgno)
    return (f.setPage pgno (Array.replicate f.pageSize 0), pgno)
  else
    let n := f.count + 1
    let n := if n = f.lockPage then n + 1 else n
    let (f, n) := if f.keepsMaps && f.isMapPage n then
        let m := n + 1
        (f.setPage n (Array.replicate f.pageSize 0), if m = f.lockPage then m + 1 else m)
      else (f, n)
    let f := f.setHeaderNumber 28 n
    return (f.setPage n (Array.replicate f.pageSize 0), n)

/-- Take the page `want` itself when the pointer map records it as free, searching the trunks of
the free list in order for it: a trunk is taken whole (its first leaf, if it lists any, becoming
the trunk in its place), a leaf leaves its trunk as `allocate` takes one. A page that is not
free is taken as `allocate want` takes one. -/
def allocateExact (f : PageFile) (want : Nat) : Except Fault (PageFile × Nat) := do
  let free := f.headerNumber 36
  if free ≥ f.count then throw .corrupt
  if free = 0 ∨ want > f.count then return ← f.allocate want
  let (role, _) ← f.mapGet want
  if role ≠ .free then return ← f.allocate want
  let f := f.setHeaderNumber 36 (free - 1)
  let count := f.count
  let relink (f : PageFile) (prev next : Nat) : PageFile :=
    if prev = 0 then f.setHeaderNumber 32 next
    else f.setPage prev ((PageBuffer.mk (f.page prev) 0 f.usable).set4 0 next).bytes
  let mut prev := 0
  let mut trunk := f.headerNumber 32
  for _ in [0:free + 1] do
    if trunk > count ∨ trunk < 1 then throw .corrupt
    let t : PageBuffer := ⟨f.page trunk, 0, f.usable⟩
    let k := t.get4 4
    if k > f.usable / 4 - 2 then throw .corrupt
    if want = trunk then
      if k = 0 then return (relink f prev (t.get4 0), trunk)
      let heir := t.get4 8
      if heir > count then throw .corrupt
      let h : PageBuffer := ⟨f.page heir, 0, f.usable⟩
      let h := ((h.set4 0 (t.get4 0)).set4 4 (k - 1)).write 8 (t.slice 12 (4 * (k - 1)))
      return (relink (f.setPage heir h.bytes) prev heir, trunk)
    if k > 0 then
      let leaves := (List.range k).map (fun i => t.get4 (8 + 4 * i))
      let dist (p : Nat) : Nat := if p ≥ want then p - want else want - p
      let closest := (List.range k).foldl (fun best i =>
        if dist (leaves.getD i 0) < dist (leaves.getD best 0) then i else best) 0
      let pgno := leaves.getD closest 0
      if pgno > count ∨ pgno < 2 then throw .corrupt
      if pgno = want then
        let t := if closest + 1 < k then t.set4 (8 + 4 * closest) (t.get4 (4 + 4 * k)) else t
        let f := f.setPage trunk (t.set4 4 (k - 1)).bytes
        if f.recycled.contains pgno then
          return ({ f with recycled := f.recycled.erase pgno }, pgno)
        return (f.setPage pgno (Array.replicate f.pageSize 0), pgno)
    prev := trunk
    trunk := t.get4 0
  throw .corrupt

/-- Put a page on the free-page list. -/
def release (f : PageFile) (pgno : Nat) : Except Fault PageFile := do
  if pgno < 2 ∨ pgno > f.count then throw .corrupt
  let free := f.headerNumber 36
  let f := f.setHeaderNumber 36 (free + 1)
  let f ← f.mapPut pgno .free 0
  let trunk := if free = 0 then 0 else f.headerNumber 32
  if free ≠ 0 then
    if trunk > f.count then throw .corrupt
    let t : PageBuffer := ⟨f.page trunk, 0, f.usable⟩
    let k := t.get4 4
    if k > f.usable / 4 - 2 then throw .corrupt
    if k < f.usable / 4 - 8 then
      let f := f.setPage trunk ((t.set4 4 (k + 1)).set4 (8 + 4 * k) pgno).bytes
      return { f with recycled := pgno :: f.recycled }
  let p : PageBuffer := ⟨f.page pgno, 0, f.usable⟩
  let f := f.setPage pgno ((p.set4 0 trunk).set4 4 0).bytes
  return f.setHeaderNumber 32 pgno

/-- Close a transaction, given the file as the transaction found it. Leaves freed by the
transaction are not written, so they keep their earlier bytes. When a page was written, the change
counter advances and the header is stamped. -/
def closeTransaction (f before : PageFile) : PageFile :=
  let f := f.recycled.foldl (fun f pgno =>
    { f with pages := f.pages.setIfInBounds (pgno - 1) (before.page pgno) }) f
  let f := { f with recycled := [] }
  if !f.written then f
  else
    let c := (f.headerNumber 24 + 1) % 4294967296
    let f := ((f.setHeaderNumber 24 c).setHeaderNumber 92 c).setHeaderNumber 96 engineVersion
    { f with written := false }

end PageFile

end Image

end DocStore
