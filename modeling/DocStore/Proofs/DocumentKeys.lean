import DocStore.Document
/-!
# Document keys read back as their references

A document is stored under two texts, the path of its collection and its own id, and a row read
back from the table is turned into a reference again by parsing `collection/id`
(`QueryDocument.reference`). `IsDocumentKey` says which pairs of texts survive that: the
collection path is written canonically (no empty segment, no `/` at either end) with an odd
number of segments, and the id is one non-empty segment.

* `DocumentRef.parse_key`: a document key parses back to its own reference;
* `DocumentRef.isDocumentKey_of_parse`: every reference the parser accepts has a document key, so
  its path parses back to it (`DocumentRef.parse_path`).

Everything rests on one fact about splitting: `/`-separated segments without a `/` in them split
back into themselves (`pathSegments_joinSegments`).
-/

namespace DocStore

/-! ## Splitting and joining segments -/

/-- No piece of a split holds the separator. -/
theorem not_mem_of_mem_splitOn {α : Type} [BEq α] [LawfulBEq α] {a : α} :
    ∀ {t w : List α}, w ∈ t.splitOn a → a ∉ w
  | [], w, hw => by
    rw [List.splitOn_nil, List.mem_singleton] at hw
    subst hw
    exact List.not_mem_nil
  | x :: xs, w, hw => by
    rw [List.splitOn_cons_eq_if_modifyHead] at hw
    split at hw
    · -- the separator closes a piece and opens an empty one
      rcases List.mem_cons.1 hw with rfl | hw
      · exact List.not_mem_nil
      · exact not_mem_of_mem_splitOn hw
    · -- any other element joins the first piece
      rename_i hx
      obtain ⟨r, rs, hr⟩ := List.exists_cons_of_ne_nil (List.splitOn_ne_nil a xs)
      rw [hr, List.modifyHead_cons] at hw
      have hr₀ : r ∈ xs.splitOn a := hr ▸ List.mem_cons_self
      rcases List.mem_cons.1 hw with rfl | hw
      · intro hmem
        rcases List.mem_cons.1 hmem with h | h
        · exact hx (by simp [h])
        · exact not_mem_of_mem_splitOn hr₀ h
      · exact not_mem_of_mem_splitOn (hr ▸ List.mem_cons_of_mem _ hw)

/-- A segment of a path is non-empty and holds no `/`. -/
theorem mem_pathSegments {p s : String} (h : s ∈ pathSegments p) : s ≠ "" ∧ '/' ∉ s.toList := by
  obtain ⟨hs, hne⟩ := List.mem_filter.1 h
  obtain ⟨w, hw, rfl⟩ := List.mem_map.1 hs
  exact ⟨by simpa using hne, by simpa using not_mem_of_mem_splitOn hw⟩

/-- Segments joined by `/` split back into themselves. -/
theorem pathSegments_joinSegments {segs : List String} (hne : segs ≠ [])
    (hs : ∀ s ∈ segs, s ≠ "" ∧ '/' ∉ s.toList) : pathSegments (joinSegments segs) = segs := by
  have hsplit : (joinSegments segs).toList.splitOn '/' = segs.map String.toList := by
    rw [joinSegments, String.toList_intercalate]
    exact List.splitOn_intercalate '/' (by simpa using fun s h => (hs s h).2) (by simpa using hne)
  rw [pathSegments, hsplit, List.map_map]
  simp only [Function.comp_def, String.ofList_toList, List.map_id']
  exact List.filter_eq_self.2 fun s h => by simpa using (hs s h).1

/-! ## Document keys -/

/-- The pair of texts a document is stored under, when it reads back as its reference: the
canonical path of a collection, with an odd number of segments, and one non-empty segment. -/
def IsDocumentKey (c d : String) : Prop :=
  (pathSegments c).length % 2 = 1 ∧ joinSegments (pathSegments c) = c ∧ d ≠ "" ∧ '/' ∉ d.toList

instance instDecidableIsDocumentKey (c d : String) : Decidable (IsDocumentKey c d) :=
  inferInstanceAs (Decidable (_ ∧ _ ∧ _ ∧ _))

example : IsDocumentKey "users/alice/posts" "p1" := by decide

example : ¬ IsDocumentKey "c" "x/y" := by decide

/-- `parse` as a condition on the segments of the path. -/
theorem DocumentRef.parse_eq_ok {p : String} {r : DocumentRef} :
    DocumentRef.parse p = .ok r ↔ pathSegments p ≠ [] ∧ (pathSegments p).length % 2 = 0 ∧
      r = ⟨joinSegments (pathSegments p).dropLast, (pathSegments p).getLast?.getD ""⟩ := by
  unfold DocumentRef.parse splitPath
  split
  · rename_i h
    simp [h, bind, Except.bind]
  · rename_i hne
    have hne' : pathSegments p ≠ [] := hne
    by_cases heven : (pathSegments p).length % 2 = 0
    · simp [hne', heven, bind, Except.bind, pure, Except.pure, eq_comm]
    · simp [heven, bind, Except.bind, throw, throwThe, MonadExceptOf.throw]

/-- Every reference the parser accepts has a document key: its collection is the path without its
last segment, and its id that segment. -/
theorem DocumentRef.isDocumentKey_of_parse {p : String} {r : DocumentRef}
    (h : DocumentRef.parse p = .ok r) : IsDocumentKey r.collectionId r.id := by
  obtain ⟨hne, heven, rfl⟩ := DocumentRef.parse_eq_ok.1 h
  have hseg : ∀ s ∈ pathSegments p, s ≠ "" ∧ '/' ∉ s.toList := fun _ hs => mem_pathSegments hs
  have hlen : 2 ≤ (pathSegments p).length := by
    have := List.length_pos_iff.2 hne
    omega
  have hdrop : (pathSegments p).dropLast ≠ [] := by
    rw [← List.length_pos_iff, List.length_dropLast]
    omega
  -- the collection's path splits into all but the last segment of the document's
  have hc : pathSegments (joinSegments (pathSegments p).dropLast) = (pathSegments p).dropLast :=
    pathSegments_joinSegments hdrop fun s hs => hseg s (List.dropLast_subset _ hs)
  have hlast : (pathSegments p).getLast?.getD "" ∈ pathSegments p := by
    rw [List.getLast?_eq_some_getLast hne, Option.getD_some]
    exact List.getLast_mem hne
  refine ⟨?_, by rw [hc], (hseg _ hlast).1, (hseg _ hlast).2⟩
  rw [hc, List.length_dropLast]
  omega

/-- A document key is read back as the reference it names. -/
theorem DocumentRef.parse_key {c d : String} (h : IsDocumentKey c d) :
    DocumentRef.parse (c ++ "/" ++ d) = .ok ⟨c, d⟩ := by
  obtain ⟨hodd, hcanon, hd, hslash⟩ := h
  have hne : pathSegments c ≠ [] := by
    intro h
    rw [h] at hodd
    exact absurd hodd (by decide)
  -- the document's path is the collection's segments and the id, joined
  have hjoin : c ++ "/" ++ d = joinSegments (pathSegments c ++ [d]) := by
    rw [joinSegments, String.intercalate_append_of_ne_nil hne (List.cons_ne_nil _ _),
      String.intercalate_singleton]
    exact congrArg (· ++ "/" ++ d) hcanon.symm
  have hpath : pathSegments (c ++ "/" ++ d) = pathSegments c ++ [d] := by
    rw [hjoin]
    refine pathSegments_joinSegments (by simp) fun s hs => ?_
    rcases List.mem_append.1 hs with hs | hs
    · exact mem_pathSegments hs
    · rw [List.mem_singleton.1 hs]
      exact ⟨hd, hslash⟩
  rw [DocumentRef.parse_eq_ok, hpath, List.dropLast_concat, List.getLast?_concat, hcanon]
  refine ⟨by simp, ?_, rfl⟩
  rw [List.length_append, List.length_singleton]
  omega

/-- The path of a reference the parser accepts parses back to it. -/
theorem DocumentRef.parse_path {p : String} {r : DocumentRef} (h : DocumentRef.parse p = .ok r) :
    DocumentRef.parse r.path = .ok r :=
  DocumentRef.parse_key (DocumentRef.isDocumentKey_of_parse h)

end DocStore
