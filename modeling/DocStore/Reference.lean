import DocStore.Error
/-!
# References to collections and documents

Paths are `/`-separated and empty segments are ignored. A collection lives at an odd number of
segments (`users`, `users/alice/posts`) and a document at an even number (`users/alice`): a
document's collection is its path without the last segment. A collection group names every
collection, at any depth, whose last segment is the group id.
-/

namespace DocStore

/-- The non-empty `/`-separated segments of a path. -/
def pathSegments (path : String) : List String :=
  ((path.toList.splitOn '/').map String.ofList).filter (fun s => s ≠ "")

/-- The segments of a path, refusing a path without any. -/
def splitPath (path : String) : Outcome (List String) :=
  match pathSegments path with
  | [] => .error (.invalid (.noSegments path))
  | segs => .ok segs

/-- Join segments with `/`. -/
def joinSegments (segs : List String) : String := "/".intercalate segs

/-- A collection, by its full path. -/
structure CollectionRef where
  id : String
deriving DecidableEq, Repr

/-- A document, by the path of its collection and its own id. -/
structure DocumentRef where
  collectionId : String
  id : String
deriving DecidableEq, Repr

/-- A collection group, by the last segment its collections share. -/
structure GroupRef where
  id : String
deriving DecidableEq, Repr

namespace CollectionRef

/-- The collection at a path with an odd number of segments. -/
def parse (path : String) : Outcome CollectionRef := do
  let segs ← splitPath path
  if segs.length % 2 = 0 then throw (.invalid (.collectionDepth path segs.length))
  return ⟨joinSegments segs⟩

end CollectionRef

namespace DocumentRef

/-- The document at a path with an even number of segments. -/
def parse (path : String) : Outcome DocumentRef := do
  let segs ← splitPath path
  if segs.length % 2 ≠ 0 then throw (.invalid (.documentDepth path segs.length))
  return ⟨joinSegments segs.dropLast, segs.getLast?.getD ""⟩

/-- The full path `collection/id`. -/
def path (r : DocumentRef) : String := r.collectionId ++ "/" ++ r.id

/-- The collection holding the document. -/
def parent (r : DocumentRef) : CollectionRef := ⟨r.collectionId⟩

end DocumentRef

/-- The document `docId` of a collection; `docId` is read as a path below the collection, so it
must have an odd number of segments. -/
def CollectionRef.doc (c : CollectionRef) (docId : String) : Outcome DocumentRef :=
  DocumentRef.parse (c.id ++ "/" ++ docId)

namespace GroupRef

/-- A group id must be one non-empty segment. -/
def parse (id : String) : Outcome GroupRef :=
  if id = "" ∨ id.toList.contains '/' then .error (.invalid (.groupId id))
  else .ok ⟨id⟩

/-- A collection belongs to the group when it is the group id or ends with `/` and the id. -/
def includes (g : GroupRef) (collectionId : String) : Bool :=
  let cs := collectionId.toList
  let gs := g.id.toList
  cs == gs ||
    (gs.isSuffixOf cs && (cs.take (cs.length - gs.length)).getLast? == some '/')

end GroupRef

end DocStore
