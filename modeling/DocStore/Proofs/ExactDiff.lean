import DocStore.Proofs.QueryDiffs
/-!
# The changes between two results are exact

For two results whose keys are distinct, `diffSnapshots` reports exactly the changes `Reported`
lists (`mem_diffSnapshots_iff`). Each document of the next result whose key the previous result
lacks is `added` at its position. Each one whose key the previous result has at position `j`,
with other data as JSON data, is `modified` from `j`. Each document of the previous result whose
key the next result lacks is `removed` from its position. Nothing else is reported. The changes
come in the order `ChangeOrder`: those of the next result's documents by their new position,
then the removals by their old position (`pairwise_diffSnapshots`).

Since each key has one document on each side, no key is reported twice, a document that only
moved is not reported, and applying the changes to the previous result's data gives the next
result's data. The one exception is an unchanged document, which keeps its old data: the same
JSON data (`diffSnapshots_exact`).

The position map of the previous result keeps the last position of a key. With distinct keys
that is the key's only position (`lastIndexOfKey_of_getElem?`).
-/

namespace DocStore

/-! ## Positions of keys -/

/-- In a result whose keys are distinct, a key is at one position at most. -/
theorem DistinctKeys.index_unique {docs : List QueryDocument} (h : DistinctKeys docs)
    {j j' : Nat} {a b : QueryDocument} (ha : docs[j]? = some a) (hb : docs[j']? = some b)
    (hk : a.key = b.key) : j = j' := by
  have hlt : j < (docs.map QueryDocument.key).length := by
    simpa using (List.getElem?_eq_some_iff.1 ha).1
  refine (List.getElem?_inj hlt h).1 ?_
  simp [ha, hb, hk]

theorem lastIndexOfKey_eq_none {docs : List QueryDocument} {k : String × String} :
    lastIndexOfKey docs k = none ↔ ∀ d ∈ docs, d.key ≠ k := by
  unfold lastIndexOfKey
  rw [Option.map_eq_none_iff, List.getLast?_eq_none_iff, List.filter_eq_nil_iff]
  constructor
  · intro h d hd hk
    obtain ⟨j, hj⟩ := List.mem_iff_getElem?.1 hd
    exact h (d, j) (List.mem_zipIdx_iff_getElem?.2 hj) (by simp [hk])
  · intro h x hx hk
    exact h x.1 (List.fst_mem_of_mem_zipIdx hx) (by simpa using hk)

/-- With distinct keys the last position of a document's key is its own position. -/
theorem lastIndexOfKey_of_getElem? {docs : List QueryDocument} (h : DistinctKeys docs) {j : Nat}
    {d : QueryDocument} (hd : docs[j]? = some d) : lastIndexOfKey docs d.key = some j := by
  unfold lastIndexOfKey
  have hmem : (d, j) ∈ docs.zipIdx.filter (fun x => x.1.key == d.key) :=
    List.mem_filter.2 ⟨List.mem_zipIdx_iff_getElem?.2 hd, by simp⟩
  obtain ⟨x, hx⟩ := Option.isSome_iff_exists.1 (List.getLast?_isSome.2 (List.ne_nil_of_mem hmem))
  have hxmem := List.mem_of_getLast? hx
  rw [List.mem_filter, List.mem_zipIdx_iff_getElem?] at hxmem
  rw [hx, Option.map_some, h.index_unique hxmem.1 hd (by simpa using hxmem.2)]

/-! ## What a diff reports -/

/-- The changes a diff from the result `p` to the result `r` reports. -/
inductive Reported (p r : List QueryDocument) : DocumentChange → Prop
  /-- A document of the next result whose key the previous result lacks. -/
  | added {i : Nat} {doc : QueryDocument} : r[i]? = some doc → (∀ old ∈ p, old.key ≠ doc.key) →
      Reported p r ⟨.added, doc, none, some i⟩
  /-- A document of the next result whose key the previous result has, with other data. -/
  | modified {i j : Nat} {doc old : QueryDocument} : r[i]? = some doc → p[j]? = some old →
      old.key = doc.key → old.data.equiv doc.data = false →
      Reported p r ⟨.modified, doc, some j, some i⟩
  /-- A document of the previous result whose key the next result lacks. -/
  | removed {j : Nat} {old : QueryDocument} : p[j]? = some old → (∀ doc ∈ r, doc.key ≠ old.key) →
      Reported p r ⟨.removed, old, some j, none⟩

/-- The order of a diff: the changes of the next result's documents by their new position, and
after them the removals by their old position. -/
def ChangeOrder (a b : DocumentChange) : Prop :=
  if a.kind = .removed then b.kind = .removed ∧ a.oldIndex < b.oldIndex
  else b.kind = .removed ∨ a.newIndex < b.newIndex

/-- The changes between two results, the previous one with distinct keys, are exactly those
`Reported` lists. -/
theorem mem_diffSnapshots_iff {p r : List QueryDocument} (hp : DistinctKeys p)
    {c : DocumentChange} : c ∈ diffSnapshots p r ↔ Reported p r c := by
  constructor
  · intro h
    unfold diffSnapshots at h
    rcases List.mem_append.1 h with h | h
    · obtain ⟨⟨doc, i⟩, hmem, hc⟩ := List.mem_filterMap.1 h
      have hdoc : r[i]? = some doc := List.mem_zipIdx_iff_getElem?.1 hmem
      dsimp only at hc
      split at hc
      · rename_i hl
        cases hc
        exact .added hdoc (fun old hold hk => lastIndexOfKey_eq_none.1 hl old hold hk)
      · rename_i j hl
        split at hc
        · rename_i old hold
          split at hc
          · cases hc
          · rename_i hne
            cases hc
            obtain ⟨old', hold', hkey⟩ := lastIndexOfKey_some hl
            rw [hold] at hold'
            cases hold'
            exact .modified hdoc hold hkey (by simpa using hne)
        · cases hc
    · obtain ⟨⟨old, j⟩, hmem, hc⟩ := List.mem_filterMap.1 h
      have hold : p[j]? = some old := List.mem_zipIdx_iff_getElem?.1 hmem
      dsimp only at hc
      split at hc
      · cases hc
      · rename_i hany
        cases hc
        exact .removed hold fun d hd hk => hany (List.any_eq_true.2 ⟨d, hd, by simpa using hk⟩)
  · intro h
    unfold diffSnapshots
    cases h with
    | @added i doc hdoc hnone =>
      have hl := lastIndexOfKey_eq_none.2 fun old hold hk => hnone old hold hk
      exact List.mem_append_left _
        (List.mem_filterMap.2 ⟨(doc, i), List.mem_zipIdx_iff_getElem?.2 hdoc, by simp [hl]⟩)
    | @modified i j doc old hdoc hold hkey hne =>
      have hl := lastIndexOfKey_of_getElem? hp hold
      rw [hkey] at hl
      exact List.mem_append_left _
        (List.mem_filterMap.2 ⟨(doc, i), List.mem_zipIdx_iff_getElem?.2 hdoc, by simp [hl, hold, hne]⟩)
    | @removed j old hold hnot =>
      have hany : r.any (fun d => d.key == old.key) = false := by simpa using hnot
      exact List.mem_append_right _
        (List.mem_filterMap.2 ⟨(old, j), List.mem_zipIdx_iff_getElem?.2 hold, by simp [hany]⟩)

/-! ## The order of a diff -/

/-- What a selection over the positions of a list keeps is ordered by those positions. -/
theorem pairwise_filterMap_zipIdx {α β : Type} (l : List α) {f : α × Nat → Option β}
    {idx : β → Option Nat} (hf : ∀ x b, f x = some b → idx b = some x.2) :
    (l.zipIdx.filterMap f).Pairwise (fun b b' => idx b < idx b') := by
  have hlt : l.zipIdx.Pairwise (fun x y => x.2 < y.2) := by
    refine (List.pairwise_map (f := Prod.snd)).1 ?_
    rw [List.zipIdx_map_snd]
    exact List.pairwise_lt_range'
  rw [List.pairwise_filterMap]
  refine hlt.imp ?_
  intro x y hxy b hb b' hb'
  rw [hf x b hb, hf y b' hb', Option.some_lt_some]
  exact hxy

/-- Changes at the positions of the next result, none a removal, followed by removals at the
positions of the previous result, are in diff order. -/
theorem pairwise_changeOrder_append {r p : List QueryDocument}
    {F G : QueryDocument × Nat → Option DocumentChange}
    (hF : ∀ x c, F x = some c → c.kind ≠ .removed ∧ c.newIndex = some x.2)
    (hG : ∀ x c, G x = some c → c.kind = .removed ∧ c.oldIndex = some x.2) :
    (r.zipIdx.filterMap F ++ p.zipIdx.filterMap G).Pairwise ChangeOrder := by
  have kindF : ∀ c ∈ r.zipIdx.filterMap F, c.kind ≠ .removed := by
    intro c hc
    obtain ⟨x, -, hx⟩ := List.mem_filterMap.1 hc
    exact (hF x c hx).1
  have kindG : ∀ c ∈ p.zipIdx.filterMap G, c.kind = .removed := by
    intro c hc
    obtain ⟨x, -, hx⟩ := List.mem_filterMap.1 hc
    exact (hG x c hx).1
  refine List.pairwise_append.2 ⟨?_, ?_, ?_⟩
  · refine (pairwise_filterMap_zipIdx r (fun x c hc => (hF x c hc).2)).imp_of_mem ?_
    intro a b ha _ hab
    simp only [ChangeOrder, if_neg (kindF a ha)]
    exact .inr hab
  · refine (pairwise_filterMap_zipIdx p (fun x c hc => (hG x c hc).2)).imp_of_mem ?_
    intro a b ha hb hab
    simp only [ChangeOrder, if_pos (kindG a ha)]
    exact ⟨kindG b hb, hab⟩
  · intro a ha b hb
    simp only [ChangeOrder, if_neg (kindF a ha)]
    exact .inl (kindG b hb)

/-- The changes between any two results are in diff order. -/
theorem pairwise_diffSnapshots (p r : List QueryDocument) :
    (diffSnapshots p r).Pairwise ChangeOrder := by
  unfold diffSnapshots
  apply pairwise_changeOrder_append
  · -- a document of the next result gives a change at its position, or none
    rintro ⟨doc, i⟩ c hc
    dsimp only at hc
    split at hc
    · cases hc
      exact ⟨ChangeKind.noConfusion, rfl⟩
    · split at hc
      · split at hc
        · cases hc
        · cases hc
          exact ⟨ChangeKind.noConfusion, rfl⟩
      · cases hc
  · rintro ⟨old, j⟩ c hc
    dsimp only at hc
    split at hc
    · cases hc
    · cases hc
      exact ⟨rfl, rfl⟩

/-! ## Consequences -/

section Consequences

variable {p r : List QueryDocument}

/-- Two changes in diff order that a diff reports are of different keys. -/
theorem Reported.key_ne (hp : DistinctKeys p) (hr : DistinctKeys r) {a b : DocumentChange}
    (ha : Reported p r a) (hb : Reported p r b) (hab : ChangeOrder a b) :
    a.doc.key ≠ b.doc.key := by
  intro hk
  -- two changes of the next result's documents sit at two positions of one key, and so do two
  -- removals in the previous result; a change and a removal differ in whether `r` has the key
  cases ha with
  | added hi _ =>
    cases hb with
    | added hi' _ =>
      simp [ChangeOrder] at hab
      exact absurd (hr.index_unique hi hi' hk) (Nat.ne_of_lt hab)
    | modified hi' _ _ _ =>
      simp [ChangeOrder] at hab
      exact absurd (hr.index_unique hi hi' hk) (Nat.ne_of_lt hab)
    | removed _ hnot => exact hnot _ (List.mem_of_getElem? hi) hk
  | modified hi _ _ _ =>
    cases hb with
    | added hi' _ =>
      simp [ChangeOrder] at hab
      exact absurd (hr.index_unique hi hi' hk) (Nat.ne_of_lt hab)
    | modified hi' _ _ _ =>
      simp [ChangeOrder] at hab
      exact absurd (hr.index_unique hi hi' hk) (Nat.ne_of_lt hab)
    | removed _ hnot => exact hnot _ (List.mem_of_getElem? hi) hk
  | removed hj _ =>
    cases hb with
    | added => simp [ChangeOrder] at hab
    | modified => simp [ChangeOrder] at hab
    | removed hj' _ =>
      simp [ChangeOrder] at hab
      exact absurd (hp.index_unique hj hj' hk) (Nat.ne_of_lt hab)

/-- No key is reported twice. -/
theorem nodup_keys_diffSnapshots (hp : DistinctKeys p) (hr : DistinctKeys r) :
    ((diffSnapshots p r).map (·.doc.key)).Nodup := by
  refine List.pairwise_map.2 ((pairwise_diffSnapshots p r).imp_of_mem ?_)
  intro a b ha hb hab
  exact Reported.key_ne hp hr ((mem_diffSnapshots_iff hp).1 ha) ((mem_diffSnapshots_iff hp).1 hb) hab

/-- A document that only moved, keeping its data as JSON data, is not reported. -/
theorem moved_not_reported (hp : DistinctKeys p) (hr : DistinctKeys r) {doc old : QueryDocument}
    (hdoc : doc ∈ r) (hold : old ∈ p) (hkey : old.key = doc.key)
    (hsame : old.data.equiv doc.data = true) : ∀ c ∈ diffSnapshots p r, c.doc.key ≠ doc.key := by
  obtain ⟨j, hj⟩ := List.mem_iff_getElem?.1 hold
  have hl := lastIndexOfKey_of_getElem? hp hj
  rw [hkey] at hl
  exact no_change_of_unchanged hr hdoc ⟨j, old, hl, hj, hsame⟩

/-- Applying the changes to the previous result's data gives the next result's data, except
under the key of an unchanged document, which keeps its old data, the same JSON data. -/
theorem applyChanges_diffSnapshots (hp : DistinctKeys p) (hr : DistinctKeys r)
    (k : String × String) :
    applyChanges (resultData p) (diffSnapshots p r) k = resultData r k ∨
      ∃ doc ∈ r, ∃ old ∈ p, doc.key = k ∧ old.key = k ∧ old.data.equiv doc.data = true ∧
        applyChanges (resultData p) (diffSnapshots p r) k = some old.data := by
  by_cases hk : ∃ doc ∈ r, doc.key = k
  · obtain ⟨doc, hdoc, rfl⟩ := hk
    by_cases hsame : Unchanged p doc
    · -- the key keeps the old document's data
      right
      obtain ⟨j, old, hl, hold, hequiv⟩ := hsame
      obtain ⟨old', hold', hkey⟩ := lastIndexOfKey_some hl
      rw [hold] at hold'
      cases hold'
      have hmem := List.mem_of_getElem? hold
      refine ⟨doc, hdoc, old, hmem, rfl, hkey, hequiv, ?_⟩
      rw [applyChanges_diff_unchanged _ hr hdoc ⟨j, old, hl, hold, hequiv⟩, ← hkey]
      exact resultData_of_mem hp hmem
    · left
      rw [applyChanges_diff_changed _ hr hdoc hsame, resultData_of_mem hr hdoc]
  · left
    have hr' : ∀ d ∈ r, d.key ≠ k := fun d hd hdk => hk ⟨d, hd, hdk⟩
    rw [resultData_of_forall_ne hr']
    by_cases hp' : ∃ d ∈ p, d.key = k
    · obtain ⟨d, hd, rfl⟩ := hp'
      exact applyChanges_diff_removed _ hd hr'
    · have hp'' : ∀ d ∈ p, d.key ≠ k := fun d hd hdk => hp' ⟨d, hd, hdk⟩
      rw [applyChanges_diff_absent _ hp'' hr']
      exact resultData_of_forall_ne hp''

end Consequences

/-- What it means for `cs` to be exactly the changes from the result `p` to the result `r`. -/
structure ExactChanges (p r : List QueryDocument) (cs : List DocumentChange) : Prop where
  /-- The changes are those a diff reports. -/
  mem_iff : ∀ c, c ∈ cs ↔ Reported p r c
  /-- Changes of the next result's documents by new position, then removals by old position. -/
  ordered : cs.Pairwise ChangeOrder
  /-- No key is reported twice. -/
  keys_nodup : (cs.map (·.doc.key)).Nodup
  /-- A document that only moved is not reported. -/
  moved : ∀ doc ∈ r, ∀ old ∈ p, old.key = doc.key → old.data.equiv doc.data = true →
    ∀ c ∈ cs, c.doc.key ≠ doc.key
  /-- Applying the changes to the previous data gives the next data, an unchanged document
  keeping its old data. -/
  applied : ∀ k, applyChanges (resultData p) cs k = resultData r k ∨
    ∃ doc ∈ r, ∃ old ∈ p, doc.key = k ∧ old.key = k ∧ old.data.equiv doc.data = true ∧
      applyChanges (resultData p) cs k = some old.data

/-- The changes between two results with distinct keys are exact. -/
theorem diffSnapshots_exact {p r : List QueryDocument} (hp : DistinctKeys p) (hr : DistinctKeys r) :
    ExactChanges p r (diffSnapshots p r) where
  mem_iff _ := mem_diffSnapshots_iff hp
  ordered := pairwise_diffSnapshots p r
  keys_nodup := nodup_keys_diffSnapshots hp hr
  moved _ hdoc _ hold hkey hsame := moved_not_reported hp hr hdoc hold hkey hsame
  applied := applyChanges_diffSnapshots hp hr

/-- The previous result of the listener test: `a`, `b` and `x` of collection `c`. -/
def diffBefore : List QueryDocument :=
  [⟨"c", "a", .obj [("v", .num (.int 1))]⟩, ⟨"c", "b", .obj [("v", .num (.int 2))]⟩,
    ⟨"c", "x", .obj [("v", .num (.int 9))]⟩]

/-- The next result of the listener test: `b` moved up, `a` changed, `x` gone, `n` new. -/
def diffAfter : List QueryDocument :=
  [⟨"c", "b", .obj [("v", .num (.int 2))]⟩, ⟨"c", "a", .obj [("v", .num (.int 5))]⟩,
    ⟨"c", "n", .obj [("v", .num (.int 0))]⟩]

theorem diffSnapshots_exact_moved_and_changed :
    DistinctKeys diffBefore ∧ DistinctKeys diffAfter ∧
      ExactChanges diffBefore diffAfter (diffSnapshots diffBefore diffAfter) :=
  ⟨by decide, by decide, diffSnapshots_exact (by decide) (by decide)⟩

end DocStore
