import DocStore.Image.Write.Tree
import DocStore.Image.Catalog
/-!
# What changes write to the pages

Each change a statement makes (`Change`) writes the pages the same way every time, finding the
trees it touches by name in the file's own schema table:

* a row goes into or out of its table's tree, or is written over; a key goes into or out of its
  index's tree, in the index's key order;
* emptying a table or an index empties its tree;
* creating a table records the file format (4) and the text encoding (UTF-8) when they are still
  unset, text being written in the encoding the header names, takes the table's root, reserves its row in the schema table with a placeholder of five
  NULLs, takes the root of each index its constraints make and adds its row, then replaces the
  placeholder with the table's row and advances the schema cookie (header offset 40);
* creating an index takes its root, adds its row to the schema table, puts in its keys in key
  order and advances the schema cookie.

New rows of the schema table take the rowid after the largest one. Before its first change, a
writing statement corrects a page count in the header that the file's size contradicts. A
journal in write-ahead mode marks the header's read and write versions (offsets 18 and 19)
with 2.
-/

namespace DocStore

namespace Image

open Sql

namespace PageFile

/-- The schema of a file's schema table; an empty file has only the schema table. -/
def catalogOf (f : PageFile) : Except Fault Schema :=
  if f.pages.isEmpty then .ok emptySchema
  else do
    let g ← Geometry.ofImage f.bytes
    g.catalog

/-- The root of a table of the schema that a change relies on. -/
def tableRoot (s : Schema) (name : String) : Except Fault Nat :=
  match s.table? name with
  | some t => if t.root = 0 then .error .corrupt else .ok t.root
  | none => .error .corrupt

/-- A table of the schema that a change relies on. -/
def tableNamed (s : Schema) (name : String) : Except Fault Table :=
  match s.table? name with
  | some t => if t.root = 0 then .error .corrupt else .ok t
  | none => .error .corrupt

/-- An index of the schema that a change relies on. -/
def indexNamed (s : Schema) (name : String) : Except Fault Index :=
  match s.index? name with
  | some i => if i.root = 0 then .error .corrupt else .ok i
  | none => .error .corrupt

/-- The key an index tree holds for a key of the content: the content ends every key with the
rowid it finds the row by, which a table without rowids does not store. -/
def storedKey (t : Table) (key : List SqlValue) : List SqlValue := if t.withoutRowid then key.dropLast else key

/-- The rowid after the largest one of a table. -/
def nextRowid (f : PageFile) (root : Nat) : Except Fault Nat := do
  match ← f.lastRowid root with
  | some k => return k.toNat + 1
  | none => return 1

/-- Add a row to the schema table: the file and the row's rowid. -/
def addSchemaRow (f : PageFile) (vals : List SqlValue) : Except Fault (PageFile × Nat) := do
  let rowid ← f.nextRowid 1
  return (← f.insertRow 1 rowid (record f.encoding vals), rowid)

/-- Advance the schema cookie. -/
def bumpSchema (f : PageFile) : PageFile := f.setHeaderNumber 40 ((f.headerNumber 40 + 1) % 4294967296)

/-- Correct a header page count that the file contradicts: a count the header does not vouch for
(zero, or a stamp that differs from the change counter) gives way to the file's page count. -/
def beginWrite (f : PageFile) : PageFile :=
  if f.pages.isEmpty then f
  else
    let n := if f.count = 0 ∨ f.headerNumber 24 ≠ f.headerNumber 92 then f.pages.size else f.count
    if n ≠ f.count then f.setHeaderNumber 28 n else f

/-- Create a table with the indexes its constraints make. -/
def createTable (f : PageFile) (name sql : String) (d : Definition) : Except Fault PageFile := do
  let (keyed, made) ← match d with
    | .table c => match buildTable c 0 with
      | .ok (t, idx) => pure (t.withoutRowid, idx.filter (fun i => !(t.withoutRowid && i.primaryKey)))
      | .error _ => throw .corrupt
    | _ => throw .corrupt
  let f := if f.pages.isEmpty then fresh 1 else f
  let f := if f.headerNumber 44 = 0 then (f.setHeaderNumber 44 4).setHeaderNumber 56 1 else f
  let (f, root) ← f.createTree (if keyed then 10 else 13)
  let (f, rowid) ← f.addSchemaRow [.null, .null, .null, .null, .null]
  let f ← made.foldlM (fun f i => do
    let (f, keyRoot) ← f.createTree 10
    let (f, _) ← f.addSchemaRow [.ofString "index", .ofString i.name, .ofString name, .integer keyRoot, .null]
    return f) f
  let f ← f.overwriteRow 1 rowid (record f.encoding [.ofString "table", .ofString name, .ofString name, .integer root, .ofString sql]) false
  return f.bumpSchema

/-- Create an index on a table of the schema, holding the given keys. -/
def createIndex (f : PageFile) (s : Schema) (name sql : String) (d : Definition)
    (keys : List (List SqlValue)) : Except Fault PageFile := do
  let (table, order) ← match d with
    | .index c => match s.table? c.table with
      | some t => match buildIndex c t 0 with
        | .ok i => pure (t, i.order)
        | .error _ => throw .corrupt
      | none => throw .corrupt
    | _ => throw .corrupt
  let (f, root) ← f.createTree 10
  let (f, _) ← f.addSchemaRow [.ofString "index", .ofString name, .ofString table.name, .integer root, .ofString sql]
  let f ← keys.foldlM (fun f key => f.loadKey root order (storedKey table key)) f
  return f.bumpSchema

/-- Put a journal mode's versions into the header: write-ahead mode marks both with 2 (creating
the first page of an empty file); other modes leave the header as it is. -/
def setJournal (f : PageFile) (mode : JournalMode) : PageFile :=
  if mode ≠ .wal then f
  else if f.pages.isEmpty then fresh 2
  else
    let h : PageBuffer := ⟨f.page 1, 0, f.usable⟩
    if h.read 18 = 2 ∧ h.read 19 = 2 then f else f.editHeader (fun h => (h.set1 18 2).set1 19 2)

/-- The table an index belongs to, and whether the index is the primary key that holds the
table's rows (its tree is the table's own). -/
def indexTable (s : Schema) (i : Index) : Except Fault (Table × Bool) := do
  let t ← tableNamed s i.table
  return (t, t.withoutRowid && i.primaryKey)

/-- Write one change, given the file's schema. A table without rowids keeps its rows as the
entries of its primary key's tree, so its rows go in and out of that tree by primary key, and
the changes to that index itself are the changes to the rows. -/
def applyChange (f : PageFile) (s : Schema) : Change → Except Fault PageFile
  | .insertRow t rowid vals => do
    let tb ← tableNamed s t
    if tb.withoutRowid then f.insertKey tb.root tb.keyOrder (tb.keyedRecord vals)
    else f.insertRow tb.root rowid.toNat (record f.encoding vals)
  | .overwriteRow t rowid vals => do
    let tb ← tableNamed s t
    if tb.withoutRowid then f.overwriteKey tb.root tb.keyOrder (tb.keyValues vals) (tb.keyedRecord vals)
    else f.overwriteRow tb.root rowid.toNat (record f.encoding vals) true
  | .deleteRow t rowid vals => do
    let tb ← tableNamed s t
    if tb.withoutRowid then f.deleteKey tb.root tb.keyOrder (tb.keyValues vals)
    else f.deleteRow tb.root rowid
  | .insertKey n key => do
    let i ← indexNamed s n
    let (t, rows) ← indexTable s i
    if rows then return f
    f.insertKey i.root i.order (storedKey t key)
  | .deleteKey n key => do
    let i ← indexNamed s n
    let (t, rows) ← indexTable s i
    if rows then return f
    f.deleteKey i.root i.order (storedKey t key)
  | .dropKey n key => do
    let i ← indexNamed s n
    let (t, rows) ← indexTable s i
    if rows then return f
    f.dropEntry i.root (storedKey t key)
  | .clearTable t => do
    let tb ← tableNamed s t
    if tb.withoutRowid then return f
    f.clearTree tb.root
  | .clearIndex n => do f.clearTree (← indexNamed s n).root
  | .createTable name sql d => f.createTable name sql d
  | .createIndex name sql d keys => f.createIndex s name sql d keys

/-- Whether a change creates an object, so that the schema must be read again after it. -/
def Change.creates : Change → Bool
  | .createTable _ _ _ | .createIndex _ _ _ _ => true
  | _ => false

/-- Write changes in order. -/
def applyChanges (f : PageFile) (cs : List Change) : Except Fault PageFile := do
  if cs.isEmpty then return f
  let mut s ← f.catalogOf
  let mut f := f
  for c in cs do
    f ← f.applyChange s c
    if Change.creates c then s ← f.catalogOf
  return f

end PageFile

end Image

end DocStore
