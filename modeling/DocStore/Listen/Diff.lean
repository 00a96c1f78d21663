import DocStore.Document
/-!
# Changes between two query results

Documents of a result are keyed by collection and id. The changes from a previous result to a
next one are, first, for each document of the next result in order: `added` when its key was
not in the previous result, `modified` when it was but its data differs as JSON data; and then,
for each document of the previous result in order, `removed` when its key is not in the next
result. A document that only moved is no change. When a key occurs more than once in the
previous result, its last position counts.

Change notifications are scoped to one collection or to the whole store (`Scope.wildcard`); a
listener must re-read when either side is the wildcard or both name the same collection.
-/

namespace DocStore

/-- The kind of a change. -/
inductive ChangeKind where
  | added
  | modified
  | removed
deriving DecidableEq, Repr

/-- The name of a kind of change. -/
def ChangeKind.name : ChangeKind → String
  | .added => "added"
  | .modified => "modified"
  | .removed => "removed"

/-- One change: the document (as in the next result, or as it was when removed) and its
positions before and after. -/
structure DocumentChange where
  kind : ChangeKind
  doc : QueryDocument
  oldIndex : Option Nat
  newIndex : Option Nat
deriving Repr

/-- The key of a result document. -/
def QueryDocument.key (d : QueryDocument) : String × String := (d.collectionId, d.id)

/-- The last position of a key in a result. -/
def lastIndexOfKey (docs : List QueryDocument) (k : String × String) : Option Nat :=
  (docs.zipIdx.filter (fun p => p.1.key == k)).getLast?.map Prod.snd

/-- The changes from `previous` to `next`. -/
def diffSnapshots (previous next : List QueryDocument) : List DocumentChange :=
  let forward := next.zipIdx.filterMap (fun (doc, i) =>
    match lastIndexOfKey previous doc.key with
    | none => some ⟨.added, doc, none, some i⟩
    | some j =>
      match previous[j]? with
      | some old => if old.data.equiv doc.data then none else some ⟨.modified, doc, some j, some i⟩
      | none => none)
  let removed := previous.zipIdx.filterMap (fun (doc, j) =>
    if next.any (fun d => d.key == doc.key) then none else some ⟨.removed, doc, some j, none⟩)
  forward ++ removed

/-- What a change notification is about. -/
inductive Scope where
  | collection (id : String)
  | wildcard
deriving DecidableEq, Repr

/-- Must a listener on `listener` re-read for `notification`? -/
def Scope.covers (listener notification : Scope) : Bool :=
  listener == .wildcard || notification == .wildcard || listener == notification

end DocStore
