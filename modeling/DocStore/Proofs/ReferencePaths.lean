import DocStore.Proofs.DocumentKeys
/-!
# References normalise their paths

A reference is built from a path by dropping its empty segments and counting the rest: a
collection needs an odd number of them, a document an even number, at least two. What the parser
keeps is canonical: the segments joined by `/`, with no empty segment and no `/` at either end.
So every reference the parser accepts reads back as itself, a document's collection is the
collection of its path without the last segment, and asking a collection for a document parses the
concatenation again.

* `DocumentRef.exists_parse_iff`, `CollectionRef.exists_parse_iff`: which paths the parsers accept;
* `DocumentRef.path_of_parse`, `DocumentRef.parse_parent`, `DocumentRef.parent_doc` and
  `CollectionRef.parse_id_self`: what they accept reads back as itself;
* `CollectionRef.exists_doc_iff`, `CollectionRef.doc_parent_iff`: the id given to a collection is
  itself a path, so it must have an odd number of segments, and the document lands in that
  collection only when the id is one segment;
* `references_round_trip`: all of it together.

Everything rests on one fact about splitting (`pathSegments_append_slash`): the segments of two
paths joined by `/` are the segments of the first followed by those of the second, whatever empty
segments either holds.
-/

namespace DocStore

/-! ## Segments of joined paths -/

/-- The segments of two paths joined by `/` are those of the first, then those of the second. -/
theorem pathSegments_append_slash (a b : String) :
    pathSegments (a ++ "/" ++ b) = pathSegments a ++ pathSegments b := by
  have hsplit : (a ++ "/" ++ b).toList.splitOn '/' =
      a.toList.splitOn '/' ++ b.toList.splitOn '/' := by
    have hsl : "/".toList = ['/'] := rfl
    rw [String.toList_append, String.toList_append, List.append_assoc, hsl]
    exact List.splitOnP_append_cons _ _ (by decide)
  rw [pathSegments, hsplit, List.map_append, List.filter_append]
  rfl

/-- The segments of a path are already canonical: joining and splitting them again changes
nothing. -/
theorem pathSegments_joinSegments_self (p : String) :
    pathSegments (joinSegments (pathSegments p)) = pathSegments p := by
  rcases hp : pathSegments p with _ | ⟨s, rest⟩
  · rfl
  · rw [← hp]
    exact pathSegments_joinSegments (by simp [hp]) fun _ hs => mem_pathSegments hs

/-- Joined segments of two paths are equal only when the segments are. -/
theorem joinSegments_inj {p q : String} {a b : List String}
    (ha : a <+: pathSegments p ++ pathSegments q) (hb : b <+: pathSegments p ++ pathSegments q)
    (hane : a ≠ []) (hbne : b ≠ [])
    (h : joinSegments a = joinSegments b) : a = b := by
  have hseg : ∀ l, l <+: pathSegments p ++ pathSegments q →
      ∀ s ∈ l, s ≠ "" ∧ '/' ∉ s.toList := by
    intro l hl s hs
    rcases List.mem_append.1 (hl.subset hs) with hs | hs <;> exact mem_pathSegments hs
  rw [← pathSegments_joinSegments hane (hseg a ha), h,
    pathSegments_joinSegments hbne (hseg b hb)]

/-! ## What the parsers accept -/

/-- `CollectionRef.parse` as a condition on the segments of the path. -/
theorem CollectionRef.parse_eq_ok {p : String} {c : CollectionRef} :
    CollectionRef.parse p = .ok c ↔
      (pathSegments p).length % 2 = 1 ∧ c = ⟨joinSegments (pathSegments p)⟩ := by
  unfold CollectionRef.parse splitPath
  split
  · rename_i h
    simp [h, bind, Except.bind]
  · rename_i hne
    by_cases hodd : (pathSegments p).length % 2 = 0
    · simp [hodd, bind, Except.bind, throw, throwThe, MonadExceptOf.throw]
    · have hodd' : (pathSegments p).length % 2 = 1 := by omega
      simp [hodd', bind, Except.bind, pure, Except.pure, eq_comm]

/-- A path names a document exactly when it has an even, positive number of segments. -/
theorem DocumentRef.exists_parse_iff (p : String) :
    (∃ r, DocumentRef.parse p = .ok r) ↔
      (pathSegments p).length % 2 = 0 ∧ 0 < (pathSegments p).length := by
  constructor
  · rintro ⟨r, hr⟩
    obtain ⟨hne, heven, -⟩ := DocumentRef.parse_eq_ok.1 hr
    exact ⟨heven, List.length_pos_iff.2 hne⟩
  · rintro ⟨heven, hpos⟩
    exact ⟨_, DocumentRef.parse_eq_ok.2 ⟨List.length_pos_iff.1 hpos, heven, rfl⟩⟩

/-- A path names a collection exactly when it has an odd number of segments. -/
theorem CollectionRef.exists_parse_iff (p : String) :
    (∃ c, CollectionRef.parse p = .ok c) ↔ (pathSegments p).length % 2 = 1 := by
  simp only [CollectionRef.parse_eq_ok, exists_eq_right]

/-! ## Documents read back as themselves -/

section Document

variable {p : String} {r : DocumentRef}

/-- The path of a parsed document is its segments joined, and its id is the last of them. -/
theorem DocumentRef.path_of_parse (h : DocumentRef.parse p = .ok r) :
    r.path = joinSegments (pathSegments p) ∧ (pathSegments p).getLast? = some r.id := by
  obtain ⟨hne, -, rfl⟩ := DocumentRef.parse_eq_ok.1 h
  have hlen : 2 ≤ (pathSegments p).length := by
    have := List.length_pos_iff.2 hne
    have := (DocumentRef.parse_eq_ok.1 h).2.1
    omega
  have hdrop : (pathSegments p).dropLast ≠ [] := by
    rw [← List.length_pos_iff, List.length_dropLast]
    omega
  have hlast : (pathSegments p).getLast? = some ((pathSegments p).getLast hne) :=
    List.getLast?_eq_some_getLast hne
  refine ⟨?_, by rw [hlast, Option.getD_some]⟩
  -- the segments are all but the last one, then the last one
  have hsplit : pathSegments p = (pathSegments p).dropLast ++ [(pathSegments p).getLast hne] :=
    (List.dropLast_concat_getLast hne).symm
  show joinSegments (pathSegments p).dropLast ++ "/" ++ (pathSegments p).getLast?.getD "" =
    joinSegments (pathSegments p)
  rw [hlast, Option.getD_some]
  conv => rhs; rw [hsplit]
  rw [joinSegments, joinSegments,
    String.intercalate_append_of_ne_nil hdrop (List.cons_ne_nil _ _), String.intercalate_singleton]

/-- The collection of a parsed document is the collection its own path names. -/
theorem DocumentRef.parse_parent (h : DocumentRef.parse p = .ok r) :
    CollectionRef.parse r.collectionId = .ok r.parent := by
  obtain ⟨hodd, hcanon, -, -⟩ := DocumentRef.isDocumentKey_of_parse h
  rw [CollectionRef.parse_eq_ok, hcanon]
  exact ⟨hodd, rfl⟩

/-- Asking the collection of a parsed document for its id gives the document back. -/
theorem DocumentRef.parent_doc (h : DocumentRef.parse p = .ok r) : r.parent.doc r.id = .ok r :=
  DocumentRef.parse_path h

end Document

/-! ## Collections read back as themselves -/

section Collection

variable {p : String} {c : CollectionRef}

/-- The segments of a parsed collection's path are those of the path it was parsed from. -/
theorem CollectionRef.pathSegments_id (h : CollectionRef.parse p = .ok c) :
    pathSegments c.id = pathSegments p := by
  obtain ⟨-, rfl⟩ := CollectionRef.parse_eq_ok.1 h
  exact pathSegments_joinSegments_self p

theorem CollectionRef.parse_id_self (h : CollectionRef.parse p = .ok c) :
    CollectionRef.parse c.id = .ok c := by
  obtain ⟨hodd, hc⟩ := CollectionRef.parse_eq_ok.1 h
  rw [CollectionRef.parse_eq_ok, CollectionRef.pathSegments_id h]
  exact ⟨hodd, hc⟩

/-- A collection takes an id with an odd number of segments: the id is read as a path below it. -/
theorem CollectionRef.exists_doc_iff (h : CollectionRef.parse p = .ok c) (s : String) :
    (∃ r, c.doc s = .ok r) ↔ (pathSegments s).length % 2 = 1 := by
  have hodd := (CollectionRef.parse_eq_ok.1 h).1
  rw [CollectionRef.doc, DocumentRef.exists_parse_iff, pathSegments_append_slash,
    CollectionRef.pathSegments_id h, List.length_append]
  omega

/-- The document a collection gives for an id lies in that collection exactly when the id is one
segment; a longer id reaches into a subcollection. -/
theorem CollectionRef.doc_parent_iff (h : CollectionRef.parse p = .ok c) {s : String}
    {r : DocumentRef} (hr : c.doc s = .ok r) : r.parent = c ↔ (pathSegments s).length = 1 := by
  obtain ⟨hodd, rfl⟩ := CollectionRef.parse_eq_ok.1 h
  obtain ⟨-, heven, rfl⟩ := DocumentRef.parse_eq_ok.1 hr
  rw [pathSegments_append_slash, pathSegments_joinSegments_self] at heven ⊢
  have hpne : pathSegments p ≠ [] := by
    rintro hp
    rw [hp] at hodd
    exact absurd hodd (by decide)
  have hsodd : (pathSegments s).length % 2 = 1 := by
    rw [List.length_append] at heven
    omega
  have hsne : pathSegments s ≠ [] := fun h0 => by
    rw [h0] at hsodd
    exact absurd hsodd (by decide)
  obtain ⟨x, rest, hs⟩ := List.exists_cons_of_ne_nil hsne
  simp only [DocumentRef.parent, CollectionRef.mk.injEq]
  rw [hs, List.length_cons]
  cases rest with
  | nil => simp
  | cons y ys =>
    -- the collection would take the segments of the id but its last as well
    refine iff_of_false (fun hj => ?_) (by simp)
    have hdrop : (pathSegments p ++ x :: y :: ys).dropLast =
        pathSegments p ++ (x :: y :: ys).dropLast :=
      List.dropLast_append_of_ne_nil (List.cons_ne_nil _ _)
    have hpre : (pathSegments p ++ x :: y :: ys).dropLast <+: pathSegments p ++ pathSegments s := by
      rw [hs]
      exact List.dropLast_prefix _
    have heq := joinSegments_inj (q := s) hpre (List.prefix_append _ _)
      (by rw [hdrop]; simp [hpne]) hpne hj
    rw [hdrop, List.dropLast_cons_cons] at heq
    simp at heq

end Collection

/-- Reference normalisation round-trips. A path with `n` non-empty segments names a document
exactly when `n` is even and positive, and then the document's path is the segments joined, its
id the last segment, its path and its collection's path parse back to it and to its collection,
and its collection gives it back for its id; a path names a collection exactly when `n` is odd,
and the collection's path parses back to it; and a collection takes an id exactly when the id has
an odd number of segments, the document landing in that collection exactly when the id is one
segment. -/
theorem references_round_trip :
    (∀ p : String, (∃ r, DocumentRef.parse p = .ok r) ↔
      (pathSegments p).length % 2 = 0 ∧ 0 < (pathSegments p).length) ∧
    (∀ (p : String) (r : DocumentRef), DocumentRef.parse p = .ok r →
      r.path = joinSegments (pathSegments p) ∧ DocumentRef.parse r.path = .ok r ∧
        (pathSegments p).getLast? = some r.id ∧
        CollectionRef.parse r.collectionId = .ok r.parent ∧ r.parent.doc r.id = .ok r) ∧
    (∀ p : String, (∃ c, CollectionRef.parse p = .ok c) ↔ (pathSegments p).length % 2 = 1) ∧
    (∀ (p : String) (c : CollectionRef), CollectionRef.parse p = .ok c →
      CollectionRef.parse c.id = .ok c ∧
        ∀ s : String, ((∃ r, c.doc s = .ok r) ↔ (pathSegments s).length % 2 = 1) ∧
          ∀ r, c.doc s = .ok r → (r.parent = c ↔ (pathSegments s).length = 1)) := by
  refine ⟨DocumentRef.exists_parse_iff, fun p r h => ?_, CollectionRef.exists_parse_iff,
    fun p c h => ⟨CollectionRef.parse_id_self h, fun s =>
      ⟨CollectionRef.exists_doc_iff h s, fun r hr => CollectionRef.doc_parent_iff h hr⟩⟩⟩
  obtain ⟨hpath, hlast⟩ := DocumentRef.path_of_parse h
  exact ⟨hpath, DocumentRef.parse_path h, hlast, DocumentRef.parse_parent h,
    DocumentRef.parent_doc h⟩

end DocStore
