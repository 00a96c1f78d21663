import DocStore.Listen.Registry
import DocStore.Proofs.FailedWrites
import Mathlib.Algebra.Order.Field.Basic
import Mathlib.Data.List.Nodup
import Mathlib.Data.Rat.Cast.Order
import Mathlib.Logic.Function.Basic
import Mathlib.Tactic.Linarith
/-!
# A query listener's deliveries form a chain of diffs

A query listener first hands out the result it read at registration, every document `added`
(`diffSnapshots_nil`). After that, for each re-read that succeeds, it hands out the new result
with its changes from the result it delivered last; a re-read that fails hands out nothing and
keeps the previous result (`Database.refresh_query`, `Database.refreshAll_query`).

A user applies the delivered changes in order, `added` and `modified` putting the document's
data under its key and `removed` taking the key out. At each key the changes of one re-read put
the data of a new or changed document, take out a key the new result lacks, and leave every
other key alone (`applyChanges_diff_changed`, `applyChanges_diff_removed`,
`applyChanges_diff_unchanged`, `applyChanges_diff_absent`). So a user who starts from an empty
map holds after every delivery the data of the result just delivered: the same keys, each with
the same JSON data (`agrees_applyChanges_diff`, `agrees_chain`, `Database.listenQuery_diff_chain`).
This needs results whose keys are distinct. It also needs `Value.equiv` to be transitive, since a
document whose data changed only in member order or in the form of a number is not handed out
again (`Value.equiv_trans`); for numbers that is equality of the rationals they stand for
(`Binary64.compareValue_eq_iff`). The data a map holds under a key is the document's own or data
equivalent to it (`SameData`): `Value.equiv` is reflexive only on objects whose member names are
distinct.
-/

namespace DocStore

/-! ## Numbers as rationals -/

namespace Binary64

/-- The rational number a binary64 number stands for: `± significand · 2 ^ scale`. -/
def value (x : Binary64) : ℚ := (if x.neg then -1 else 1) * x.significand * 2 ^ x.scale

theorem compareMagnitudes_eq_iff (a : Nat) (ea : Int) (b : Nat) (eb : Int) :
    compareMagnitudes a ea b eb = .eq ↔ (a : ℚ) * 2 ^ ea = (b : ℚ) * 2 ^ eb := by
  have scaled : ∀ (x : Nat) (ex : Int), min ea eb ≤ ex →
      (x : ℚ) * 2 ^ ex = ((x * 2 ^ (ex - min ea eb).toNat : Nat) : ℚ) * 2 ^ min ea eb := by
    intro x ex hx
    rw [Nat.cast_mul, Nat.cast_pow, Nat.cast_ofNat, mul_assoc, ← zpow_natCast,
      ← zpow_add₀ two_ne_zero]
    congr 2
    omega
  rw [scaled a ea (min_le_left ea eb), scaled b eb (min_le_right ea eb),
    mul_left_inj' (zpow_ne_zero _ two_ne_zero), Nat.cast_inj]
  simp [compareMagnitudes]

/-- The magnitude of a number with a nonzero significand is positive. -/
theorem magnitude_pos {x : Binary64} (h : x.significand ≠ 0) :
    (0 : ℚ) < x.significand * 2 ^ x.scale :=
  mul_pos (by exact_mod_cast Nat.pos_of_ne_zero h) (zpow_pos two_pos _)

theorem compareValue_eq_iff (x y : Binary64) : compareValue x y = .eq ↔ x.value = y.value := by
  unfold compareValue value
  by_cases hx : x.significand = 0 <;> by_cases hy : y.significand = 0
  · simp [hx, hy]
  · -- only `y` is nonzero: the comparison is strict and the values differ
    have hpos := magnitude_pos hy
    have hb : (y.significand == 0) = false := by simpa using hy
    simp only [hx, hb, beq_self_eq_true, Nat.cast_zero, mul_zero, zero_mul]
    cases y.neg <;> simp only [Bool.false_eq_true, if_true, if_false, one_mul, neg_one_mul] <;>
      exact iff_of_false (by simp) (fun h => by linarith)
  · have hpos := magnitude_pos hx
    have hb : (x.significand == 0) = false := by simpa using hx
    simp only [hy, hb, beq_self_eq_true, Nat.cast_zero, mul_zero, zero_mul]
    cases x.neg <;> simp only [Bool.false_eq_true, if_true, if_false, one_mul, neg_one_mul] <;>
      exact iff_of_false (by simp) (fun h => by linarith)
  · have hpx := magnitude_pos hx
    have hpy := magnitude_pos hy
    have hbx : (x.significand == 0) = false := by simpa using hx
    have hby : (y.significand == 0) = false := by simpa using hy
    simp only [hbx, hby]
    cases x.neg <;> cases y.neg <;>
      simp only [Bool.false_eq_true, if_true, if_false, one_mul, neg_one_mul]
    · rw [compareMagnitudes_eq_iff]
    · exact iff_of_false (by simp) (fun h => by linarith)
    · exact iff_of_false (by simp) (fun h => by linarith)
    · rw [compareMagnitudes_eq_iff]
      constructor <;> intro h <;> linarith

end Binary64

/-! ## Equality as JSON data is transitive -/

theorem Number.equiv_trans {a b c : Number} (h₁ : a.equiv b = true) (h₂ : b.equiv c = true) :
    a.equiv c = true := by
  cases a <;> cases b <;> cases c <;> simp only [Number.equiv, Bool.false_eq_true] at h₁ h₂ ⊢
  · simp_all
  · simp only [beq_iff_eq, Binary64.compareValue_eq_iff] at h₁ h₂ ⊢
    exact h₁.trans h₂

namespace Value

theorem lookup_cons (k k' : String) (v : Value) (rest : List (String × Value)) :
    lookup ((k', v) :: rest) k = if k' = k then some v else lookup rest k := by
  by_cases h : k' = k <;> simp [lookup, h]

/-- A member found in the first of two equivalent member lists has an equivalent member of the
same name in the second. -/
theorem equivFields_lookup {k : String} {b : Value} :
    ∀ {ys zs : List (String × Value)}, equivFields ys zs = true → lookup ys k = some b →
      ∃ c, lookup zs k = some c ∧ b.equiv c = true
  | [], _, _, h => by simp [lookup] at h
  | (k', v) :: rest, zs, hf, hb => by
    simp only [equivFields, Bool.and_eq_true] at hf
    rw [lookup_cons] at hb
    split at hb
    · rename_i hk
      subst hk
      cases hb
      revert hf
      cases lookup zs k' with
      | none => simp
      | some c => exact fun hf => ⟨c, rfl, hf.1⟩
    · exact equivFields_lookup hf.2 hb

mutual

/-- Equality as JSON data is transitive. -/
theorem equiv_trans : ∀ {a b c : Value}, a.equiv b = true → b.equiv c = true → a.equiv c = true
  | .null, b, c, h₁, h₂ => by cases b <;> cases c <;> simp_all [equiv]
  | .bool _, b, c, h₁, h₂ => by cases b <;> cases c <;> simp_all [equiv]
  | .str _, b, c, h₁, h₂ => by cases b <;> cases c <;> simp_all [equiv]
  | .num _, b, c, h₁, h₂ => by
    cases b <;> cases c <;> simp only [equiv, Bool.false_eq_true] at h₁ h₂ ⊢
    exact Number.equiv_trans h₁ h₂
  | .arr _, b, c, h₁, h₂ => by
    cases b <;> cases c <;> simp only [equiv, Bool.false_eq_true] at h₁ h₂ ⊢
    exact equivList_trans h₁ h₂
  | .obj _, b, c, h₁, h₂ => by
    cases b <;> cases c <;> simp only [equiv, Bool.false_eq_true, Bool.and_eq_true, beq_iff_eq] at h₁ h₂ ⊢
    exact ⟨h₁.1.trans h₂.1, equivFields_trans h₁.2 h₂.2⟩

theorem equivList_trans : ∀ {xs ys zs : List Value}, equivList xs ys = true →
    equivList ys zs = true → equivList xs zs = true
  | [], ys, zs, h₁, h₂ => by cases ys <;> cases zs <;> simp_all [equivList]
  | _ :: _, [], _, h₁, _ => by simp [equivList] at h₁
  | _ :: _, _ :: _, [], _, h₂ => by simp [equivList] at h₂
  | _ :: _, _ :: _, _ :: _, h₁, h₂ => by
    simp only [equivList, Bool.and_eq_true] at h₁ h₂ ⊢
    exact ⟨equiv_trans h₁.1 h₂.1, equivList_trans h₁.2 h₂.2⟩

theorem equivFields_trans : ∀ {xs ys zs : List (String × Value)}, equivFields xs ys = true →
    equivFields ys zs = true → equivFields xs zs = true
  | [], _, _, _, _ => rfl
  | (k, a) :: rest, ys, zs, h₁, h₂ => by
    simp only [equivFields, Bool.and_eq_true] at h₁ ⊢
    refine ⟨?_, equivFields_trans h₁.2 h₂⟩
    obtain ⟨hk, -⟩ := h₁
    revert hk
    cases hb : lookup ys k with
    | none => simp
    | some b =>
      obtain ⟨c, hc, hbc⟩ := equivFields_lookup h₂ hb
      rw [hc]
      exact fun hab => equiv_trans hab hbc

end

end Value

/-! ## Results by key -/

/-- The data of a result under a key: that of the first document with the key. -/
def resultData (docs : List QueryDocument) (k : String × String) : Option Value :=
  (docs.find? (·.key == k)).map (·.data)

/-- A result whose documents have distinct keys. -/
abbrev DistinctKeys (docs : List QueryDocument) : Prop := (docs.map QueryDocument.key).Nodup

theorem resultData_of_mem {docs : List QueryDocument} (h : DistinctKeys docs)
    {d : QueryDocument} (hd : d ∈ docs) : resultData docs d.key = some d.data := by
  unfold resultData
  rcases hf : docs.find? (·.key == d.key) with _ | d'
  · rw [List.find?_eq_none] at hf
    simpa using hf d hd
  · have hk : d'.key = d.key := by simpa using List.find?_some hf
    rw [hf, List.inj_on_of_nodup_map h (List.mem_of_find?_eq_some hf) hd hk]
    rfl

theorem resultData_of_forall_ne {docs : List QueryDocument} {k : String × String}
    (h : ∀ d ∈ docs, d.key ≠ k) : resultData docs k = none := by
  rw [resultData, List.find?_eq_none.2 (fun d hd => by simpa using h d hd)]
  rfl

/-- The last position of a key holds a document with that key. -/
theorem lastIndexOfKey_some {docs : List QueryDocument} {k : String × String} {j : Nat}
    (h : lastIndexOfKey docs k = some j) : ∃ d, docs[j]? = some d ∧ d.key = k := by
  unfold lastIndexOfKey at h
  obtain ⟨x, hx, rfl⟩ := Option.map_eq_some_iff.1 h
  have hmem := List.mem_of_getLast? hx
  rw [List.mem_filter, List.mem_zipIdx_iff_getElem?] at hmem
  exact ⟨x.1, hmem.1, by simpa using hmem.2⟩

/-! ## The changes between two results -/

/-- A document of the next result is unchanged when the document at the last position of its key
in the previous result has the same data, as JSON data. -/
def Unchanged (p : List QueryDocument) (doc : QueryDocument) : Prop :=
  ∃ j old, lastIndexOfKey p doc.key = some j ∧ p[j]? = some old ∧ old.data.equiv doc.data = true

/-- Every change is a document of the next result that is new or changed, or a document of the
previous result whose key the next result lacks. -/
theorem mem_diffSnapshots {p r : List QueryDocument} {c : DocumentChange}
    (h : c ∈ diffSnapshots p r) :
    (c.kind ≠ .removed ∧ c.doc ∈ r ∧ ¬Unchanged p c.doc) ∨
      (c.kind = .removed ∧ c.doc ∈ p ∧ ∀ d ∈ r, d.key ≠ c.doc.key) := by
  unfold diffSnapshots at h
  rcases List.mem_append.1 h with h | h
  · left
    obtain ⟨⟨doc, i⟩, hmem, hc⟩ := List.mem_filterMap.1 h
    have hdoc : doc ∈ r := List.mem_of_getElem? (List.mem_zipIdx_iff_getElem?.1 hmem)
    dsimp only at hc
    split at hc
    · -- a key the previous result lacks
      rename_i hl
      cases hc
      refine ⟨ChangeKind.noConfusion, hdoc, ?_⟩
      rintro ⟨_, _, hj, -⟩
      rw [hl] at hj
      cases hj
    · rename_i j hl
      split at hc
      · rename_i old hold
        split at hc
        · cases hc
        · -- data that changed
          rename_i hne
          cases hc
          refine ⟨ChangeKind.noConfusion, hdoc, ?_⟩
          rintro ⟨j', old', hj', hold', hsame⟩
          apply hne
          rw [hl] at hj'
          cases hj'
          rw [hold] at hold'
          cases hold'
          exact hsame
      · cases hc
  · right
    obtain ⟨⟨doc, j⟩, hmem, hc⟩ := List.mem_filterMap.1 h
    have hdoc : doc ∈ p := List.mem_of_getElem? (List.mem_zipIdx_iff_getElem?.1 hmem)
    dsimp only at hc
    split at hc
    · cases hc
    · rename_i hany
      cases hc
      exact ⟨rfl, hdoc, fun d hd hk => hany (List.any_eq_true.2 ⟨d, hd, by simpa using hk⟩)⟩

/-- A document of the next result that is not unchanged has a change. -/
theorem exists_change_of_mem {p r : List QueryDocument} {doc : QueryDocument} (hdoc : doc ∈ r)
    (hnew : ¬Unchanged p doc) : ∃ c ∈ diffSnapshots p r, c.doc = doc := by
  obtain ⟨i, hi⟩ := List.mem_iff_getElem?.1 hdoc
  have hz : (doc, i) ∈ r.zipIdx := List.mem_zipIdx_iff_getElem?.2 hi
  unfold diffSnapshots
  cases hl : lastIndexOfKey p doc.key with
  | none =>
    refine ⟨⟨.added, doc, none, some i⟩, List.mem_append_left _ ?_, rfl⟩
    exact List.mem_filterMap.2 ⟨(doc, i), hz, by simp [hl]⟩
  | some j =>
    obtain ⟨old, hold, -⟩ := lastIndexOfKey_some hl
    have hne : old.data.equiv doc.data = false := by
      simpa using fun h => hnew ⟨j, old, hl, hold, h⟩
    refine ⟨⟨.modified, doc, some j, some i⟩, List.mem_append_left _ ?_, rfl⟩
    exact List.mem_filterMap.2 ⟨(doc, i), hz, by simp [hl, hold, hne]⟩

/-- An unchanged document has no change, when the keys of the next result are distinct. -/
theorem no_change_of_unchanged {p r : List QueryDocument} (hr : DistinctKeys r)
    {doc : QueryDocument} (hdoc : doc ∈ r) (hsame : Unchanged p doc) :
    ∀ c ∈ diffSnapshots p r, c.doc.key ≠ doc.key := by
  intro c hc hck
  rcases mem_diffSnapshots hc with ⟨-, hcr, hnew⟩ | ⟨-, -, hnot⟩
  · rw [List.inj_on_of_nodup_map hr hcr hdoc hck] at hnew
    exact hnew hsame
  · exact hnot doc hdoc hck.symm

/-- A document of the previous result whose key the next result lacks is removed. -/
theorem exists_removal {p r : List QueryDocument} {d : QueryDocument} (hd : d ∈ p)
    (hk : ∀ d' ∈ r, d'.key ≠ d.key) : ∃ c ∈ diffSnapshots p r, c.doc = d := by
  obtain ⟨j, hj⟩ := List.mem_iff_getElem?.1 hd
  have hz : (d, j) ∈ p.zipIdx := List.mem_zipIdx_iff_getElem?.2 hj
  have hany : r.any (fun d' => d'.key == d.key) = false := by
    simpa using fun d' hd' => hk d' hd'
  refine ⟨⟨.removed, d, some j, none⟩, List.mem_append_right _ ?_, rfl⟩
  exact List.mem_filterMap.2 ⟨(d, j), hz, by simp [hany]⟩

/-- A new query listener's first delivery: every document of its result, added at its position. -/
theorem diffSnapshots_nil (r : List QueryDocument) :
    diffSnapshots [] r = r.zipIdx.map fun x => ⟨.added, x.1, none, some x.2⟩ := by
  simp only [diffSnapshots, List.zipIdx_nil, List.filterMap_nil, List.append_nil]
  rw [← List.filterMap_eq_map]
  rfl

/-! ## Applying changes -/

/-- What a listener's user keeps: the data of each document, by key. -/
abbrev DocMap := String × String → Option Value

namespace DocumentChange

/-- What a change puts under its key: the document's data, or nothing for a removal. -/
def effect (c : DocumentChange) : Option Value :=
  match c.kind with
  | .removed => none
  | _ => some c.doc.data

/-- Apply a change to a map. -/
def apply (m : DocMap) (c : DocumentChange) : DocMap := Function.update m c.doc.key c.effect

theorem effect_of_ne_removed {c : DocumentChange} (h : c.kind ≠ .removed) :
    c.effect = some c.doc.data := by
  unfold effect
  split
  · contradiction
  · rfl

end DocumentChange

/-- Apply changes in order. -/
def applyChanges (m : DocMap) (cs : List DocumentChange) : DocMap :=
  cs.foldl DocumentChange.apply m

theorem applyChanges_append (m : DocMap) (cs₁ cs₂ : List DocumentChange) :
    applyChanges m (cs₁ ++ cs₂) = applyChanges (applyChanges m cs₁) cs₂ :=
  List.foldl_append

/-- Changes of other keys leave a key as it was. -/
theorem applyChanges_of_forall_ne {k : String × String} :
    ∀ {cs : List DocumentChange} {m : DocMap}, (∀ c ∈ cs, c.doc.key ≠ k) →
      applyChanges m cs k = m k
  | [], _, _ => rfl
  | c :: cs, m, h => by
    rw [applyChanges, List.foldl_cons, ← applyChanges,
      applyChanges_of_forall_ne (fun c' hc' => h c' (.tail _ hc'))]
    exact Function.update_of_ne (h c (.head _)).symm _ _

/-- When every change of a key has the same effect and there is one, the key ends with it. -/
theorem applyChanges_of_mem {k : String × String} {e : Option Value} :
    ∀ {cs : List DocumentChange} {m : DocMap}, (∀ c ∈ cs, c.doc.key = k → c.effect = e) →
      (∃ c ∈ cs, c.doc.key = k) → applyChanges m cs k = e
  | [], _, _, ⟨_, hc, _⟩ => by cases hc
  | c :: cs, m, h, hex => by
    have hrest : ∀ c' ∈ cs, c'.doc.key = k → c'.effect = e := fun c' hc' => h c' (.tail _ hc')
    rw [applyChanges, List.foldl_cons, ← applyChanges]
    by_cases hlater : ∃ c' ∈ cs, c'.doc.key = k
    · exact applyChanges_of_mem hrest hlater
    · -- the head is the last change of the key
      have hk : c.doc.key = k := by
        obtain ⟨c', hc', hk'⟩ := hex
        rcases List.mem_cons.1 hc' with rfl | hc'
        · exact hk'
        · exact absurd ⟨c', hc', hk'⟩ hlater
      rw [applyChanges_of_forall_ne (fun c' hc' hk' => hlater ⟨c', hc', hk'⟩), DocumentChange.apply,
        ← hk, Function.update_self]
      exact h c (.head _) hk

/-! ## A map that agrees with a result -/

/-- Two contents are the same JSON data: equal, or equal as JSON data. -/
def SameData (a b : Value) : Prop := a = b ∨ a.equiv b = true

theorem SameData.trans_equiv {a b c : Value} (h : SameData a b) (hbc : b.equiv c = true) :
    SameData a c := by
  rcases h with rfl | hab
  · exact .inr hbc
  · exact .inr (Value.equiv_trans hab hbc)

/-- A map agrees with a result when it holds the result's keys and nothing else, each with the
same JSON data as the result's document. -/
def Agrees (m : DocMap) (docs : List QueryDocument) : Prop :=
  ∀ k, Option.Rel SameData (m k) (resultData docs k)

theorem agrees_empty : Agrees (fun _ => none) [] := fun _ => .none

/-! ### What the changes do at each key -/

section DiffAtKey

variable {p r : List QueryDocument} (m : DocMap)

/-- At the key of an unchanged document the changes leave the map as it was. -/
theorem applyChanges_diff_unchanged (hr : DistinctKeys r) {doc : QueryDocument} (hdoc : doc ∈ r)
    (hsame : Unchanged p doc) : applyChanges m (diffSnapshots p r) doc.key = m doc.key :=
  applyChanges_of_forall_ne (no_change_of_unchanged hr hdoc hsame)

/-- At the key of a new or changed document the changes put its data. -/
theorem applyChanges_diff_changed (hr : DistinctKeys r) {doc : QueryDocument} (hdoc : doc ∈ r)
    (hnew : ¬Unchanged p doc) : applyChanges m (diffSnapshots p r) doc.key = some doc.data := by
  obtain ⟨c, hc, rfl⟩ := exists_change_of_mem hdoc hnew
  -- every change of the key is the document's own: the removals are of keys `r` lacks
  have heff : ∀ c' ∈ diffSnapshots p r, c'.doc.key = c.doc.key → c'.effect = some c.doc.data := by
    intro c' hc' hck
    rcases mem_diffSnapshots hc' with ⟨hkind, hc'r, -⟩ | ⟨-, -, hnot⟩
    · rw [DocumentChange.effect_of_ne_removed hkind, List.inj_on_of_nodup_map hr hc'r hdoc hck]
    · exact absurd hck.symm (hnot c.doc hdoc)
  exact applyChanges_of_mem heff ⟨c, hc, rfl⟩

/-- At the key of a document that the next result lacks the changes remove it. -/
theorem applyChanges_diff_removed {d : QueryDocument} (hd : d ∈ p) (hk : ∀ d' ∈ r, d'.key ≠ d.key) :
    applyChanges m (diffSnapshots p r) d.key = none := by
  obtain ⟨c, hc, rfl⟩ := exists_removal hd hk
  have heff : ∀ c' ∈ diffSnapshots p r, c'.doc.key = c.doc.key → c'.effect = none := by
    intro c' hc' hck
    rcases mem_diffSnapshots hc' with ⟨-, hc'r, -⟩ | ⟨hkind, -, -⟩
    · exact absurd hck (hk c'.doc hc'r)
    · simp [DocumentChange.effect, hkind]
  exact applyChanges_of_mem heff ⟨c, hc, rfl⟩

/-- At a key neither result has the changes leave the map as it was. -/
theorem applyChanges_diff_absent {k : String × String} (hp : ∀ d ∈ p, d.key ≠ k)
    (hr : ∀ d ∈ r, d.key ≠ k) : applyChanges m (diffSnapshots p r) k = m k := by
  apply applyChanges_of_forall_ne
  intro c hc hck
  rcases mem_diffSnapshots hc with ⟨-, hcr, -⟩ | ⟨-, hcp, -⟩
  · exact hr c.doc hcr hck
  · exact hp c.doc hcp hck

end DiffAtKey

/-- Applying the changes from one result to the next to a map that agrees with the first gives a
map that agrees with the next. -/
theorem agrees_applyChanges_diff {p r : List QueryDocument} (hp : DistinctKeys p)
    (hr : DistinctKeys r) {m : DocMap} (hm : Agrees m p) :
    Agrees (applyChanges m (diffSnapshots p r)) r := by
  intro k
  -- split on where the key is: in the next result (unchanged or not), only in the previous
  -- one, or in neither
  by_cases hk : ∃ doc ∈ r, doc.key = k
  · obtain ⟨doc, hdoc, rfl⟩ := hk
    rw [resultData_of_mem hr hdoc]
    by_cases hsame : Unchanged p doc
    · -- no change: the map keeps data that agrees with the old document, which is the same
      rw [applyChanges_diff_unchanged m hr hdoc hsame]
      obtain ⟨j, old, hl, hold, hequiv⟩ := hsame
      obtain ⟨old', hold', hkey⟩ := lastIndexOfKey_some hl
      rw [hold] at hold'
      cases hold'
      have hmk := hm doc.key
      rw [← hkey, resultData_of_mem hp (List.mem_of_getElem? hold), hkey] at hmk
      revert hmk
      generalize m doc.key = v
      rintro (⟨hv⟩ | _)
      exact .some (hv.trans_equiv hequiv)
    · rw [applyChanges_diff_changed m hr hdoc hsame]
      exact .some (.inl rfl)
  · have hk' : ∀ d ∈ r, d.key ≠ k := fun d hd hdk => hk ⟨d, hd, hdk⟩
    rw [resultData_of_forall_ne hk']
    by_cases hp' : ∃ d ∈ p, d.key = k
    · obtain ⟨d, hd, rfl⟩ := hp'
      rw [applyChanges_diff_removed m hd hk']
      exact .none
    · have hp'' : ∀ d ∈ p, d.key ≠ k := fun d hd hdk => hp' ⟨d, hd, hdk⟩
      have hmk := hm k
      rw [resultData_of_forall_ne hp''] at hmk
      rwa [applyChanges_diff_absent m hp'' hk']

/-! ## A listener's run -/

/-- The changes a delivery carries. -/
def Delivery.changes : Delivery → List DocumentChange
  | .query _ cs => cs
  | .document _ => []

/-- The deliveries of a chain of results that follows the result `p`: each result with its
changes from the one before. -/
def chainDeliveries : List QueryDocument → List (List QueryDocument) → List Delivery
  | _, [] => []
  | p, r :: rs => .query r (diffSnapshots p r) :: chainDeliveries r rs

/-- Folding the changes of a chain over a map that agrees with the result it follows gives, after
every delivery, a map that agrees with the result just delivered. -/
theorem agrees_chain :
    ∀ (rs : List (List QueryDocument)) {p : List QueryDocument} {m : DocMap}, DistinctKeys p →
      (∀ r ∈ rs, DistinctKeys r) → Agrees m p → ∀ i (hi : i < rs.length),
        Agrees (applyChanges m (((chainDeliveries p rs).take (i + 1)).flatMap Delivery.changes))
          rs[i]
  | [], _, _, _, _, _, _, hi => absurd hi (Nat.not_lt_zero _)
  | r :: rs, p, m, hp, hrs, hm, i, hi => by
    have hr := hrs r (.head _)
    have hm' := agrees_applyChanges_diff hp hr hm
    cases i with
    | zero => simpa [chainDeliveries, Delivery.changes] using hm'
    | succ i =>
      have ih := agrees_chain rs hr (fun r' hr' => hrs r' (.tail _ hr')) hm' i
        (Nat.lt_of_succ_lt_succ hi)
      simpa [chainDeliveries, Delivery.changes, applyChanges_append] using ih

namespace Database

/-- The data of every listener is left to the store's operations: reading a query only reads. -/
theorem getDocs_listeners (q : Query) (db : Database) :
    ((getDocs q).run db).2.listeners = db.listeners := by
  unfold getDocs
  split
  · rfl
  · rw [stateRun_bind, onSession_run]
    rfl

/-- A query listener re-reads its query: when the read succeeds it delivers the new result with
the changes from its previous one and keeps the new result; otherwise it delivers nothing and
stays as it was. -/
theorem refresh_query {l : Listener} {q : Query} {p : List QueryDocument}
    (hl : l.watch = .query q p) (db : Database) :
    ((refresh l).run db).1 = match ((getDocs q).run db).1 with
      | .ok r => (some (.query r (diffSnapshots p r)), { l with watch := .query q r })
      | .error _ => (none, l) := by
  unfold refresh
  rw [hl]
  dsimp only
  rw [stateRun_bind]
  rcases ((getDocs q).run db).1 with _ | r <;> rfl

/-- A listener re-reading at each of the stores `dbs` in turn: what it delivers, in order, and
the listener at the end. -/
def refreshAll (l : Listener) : List Database → List Delivery × Listener
  | [] => ([], l)
  | db :: dbs =>
    let step := ((refresh l).run db).1
    let rest := refreshAll step.2 dbs
    (step.1.toList ++ rest.1, rest.2)

/-- The results a query reads successfully at the stores `dbs`, in order. -/
def readResults (q : Query) (dbs : List Database) : List (List QueryDocument) :=
  dbs.filterMap fun db => ((getDocs q).run db).1.toOption

/-- A query listener delivers exactly once per successful re-read, in order, each result with its
changes from the result delivered before. -/
theorem refreshAll_query (q : Query) :
    ∀ (dbs : List Database) {l : Listener} {p : List QueryDocument}, l.watch = .query q p →
      (refreshAll l dbs).1 = chainDeliveries p (readResults q dbs)
  | [], _, _, _ => rfl
  | db :: dbs, l, p, hl => by
    have hstep := refresh_query hl db
    simp only [refreshAll, readResults, List.filterMap_cons]
    rw [hstep]
    rcases ((getDocs q).run db).1 with _ | r
    · exact refreshAll_query q dbs hl
    · simp only [Except.toOption, Option.toList_some, List.singleton_append, chainDeliveries]
      exact congrArg _ (refreshAll_query q dbs rfl)

/-- Registering a listener: its first read runs with the listener subscribed; a failed read
leaves the listeners as they were, a successful one leaves the new listener after them with what
the read found. -/
theorem register_run {α β : Type} (l : Listener) (read : StoreM (Outcome α)) (found : α → Watch)
    (answer : α → β) (hread : ∀ db, (read.run db).2.listeners = db.listeners) (db₀ : Database) :
    (register l read found answer).run db₀ =
      match read.run { db₀ with listeners := db₀.listeners ++ [l] } with
      | (.error e, db) => (.error e, { db with listeners := db₀.listeners })
      | (.ok a, db) =>
        (.ok (answer a), { db with listeners := db₀.listeners ++ [{ l with watch := found a }] }) := by
  have hl := hread { db₀ with listeners := db₀.listeners ++ [l] }
  unfold register
  rw [stateRun_bind, stateRun_get]
  dsimp only
  rw [stateRun_bind]
  show (read >>= _).run { db₀ with listeners := db₀.listeners ++ [l] } = _
  rw [stateRun_bind]
  -- the read sees the listener subscribed and leaves the listeners alone
  rcases hr : read.run { db₀ with listeners := db₀.listeners ++ [l] } with ⟨_ | a, db⟩
  all_goals rw [hr] at hl; dsimp only at hl
  · simp [keepListeners, hl]
    rfl
  · simp [setListener, hl]
    rfl

/-- A query listener's deliveries form a chain of diffs. Registering it reads the query once: a
failed read registers nothing; otherwise the listener is registered with the result and hands it
out with every document added. Re-reading at any sequence of stores then hands out exactly one
delivery per successful read, the new result with its changes from the result delivered before;
and when the results have distinct keys, the delivered changes, applied in order from an empty
map, give after every delivery a map that agrees with the result just delivered. -/
theorem listenQuery_diff_chain (name : String) (q : Query) (db₀ : Database)
    (dbs : List Database) :
    match (listenQuery name q).run db₀ with
    | (.error _, db₁) => db₁.listeners = db₀.listeners
    | (.ok (r₀, c₀), db₁) =>
      let l : Listener := { name := name, watch := .query q r₀ }
      let rs := r₀ :: readResults q dbs
      let ds := .query r₀ c₀ :: (refreshAll l dbs).1
      db₁.listeners = db₀.listeners ++ [l] ∧
        c₀ = r₀.zipIdx.map (fun x => ⟨.added, x.1, none, some x.2⟩) ∧
        ds = chainDeliveries [] rs ∧
        ((∀ r ∈ rs, DistinctKeys r) → ∀ i (hi : i < rs.length),
          Agrees (applyChanges (fun _ => none) ((ds.take (i + 1)).flatMap Delivery.changes))
            rs[i]) := by
  unfold listenQuery
  rw [register_run _ _ _ _ (getDocs_listeners q)]
  rcases (getDocs q).run { db₀ with listeners := db₀.listeners ++ [{ name := name, watch := .query q [] }] }
    with ⟨_ | r₀, db'⟩
  · rfl
  · have hchain : Delivery.query r₀ (diffSnapshots [] r₀) ::
        (refreshAll { name := name, watch := .query q r₀ } dbs).1 =
          chainDeliveries [] (r₀ :: readResults q dbs) := by
      rw [refreshAll_query q dbs rfl]
      rfl
    refine ⟨rfl, diffSnapshots_nil r₀, hchain, fun hdk i hi => ?_⟩
    rw [hchain]
    exact @agrees_chain _ [] _ List.nodup_nil hdk agrees_empty i hi

end Database

end DocStore
