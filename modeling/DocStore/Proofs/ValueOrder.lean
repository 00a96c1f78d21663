import DocStore.Proofs.QueryDiffs
import DocStore.Proofs.WriteBatches
/-!
# The engine's orders of values and of sort keys

The engine sorts rows with `mergeSort` under `compareSortKeys`, which compares the sort values
of two rows term by term. This module shows that, on rows whose sort values carry the same
collations, that comparison is a total preorder, and that flipping every direction of the terms
swaps it. Three layers:

* Values. `SqlValue.compareIn` is a lexicographic order of three keys: the kind of the value,
  the number it stands for (an exact rational, `Binary64.value` for a real) and the bytes its
  collation compares (`SqlValue.compareIn_eq_keys`). So it is oriented and transitive
  (`transCmp_compareIn`). For numbers this needs the exact comparisons of
  `Binary64` to be those of rationals (`Binary64.compareValue_eq_compare`,
  `Binary64.compareInt_eq_compare`).
* Sort keys. Under a term that leaves the place of NULL to its direction, one sort value
  compares as its collation orders values, reversed for a descending term
  (`Sql.termOrder_eq_directed`); the keys of two rows compare lexicographically
  (`Sql.compareSortKeys_cons`), so rows with the same collations are ordered by a total
  preorder (`Sql.compareSortKeys_swap`, `Sql.compareSortKeys_isLE_trans`), and flipping the
  directions swaps the comparison (`Sql.compareSortKeys_reversed`).
* Sorting. A stable sort under the opposite of an order in which no two elements tie gives the
  reverse of the sort under the order (`mergeSort_opposite`).
-/

namespace DocStore

/-! ## Exact comparisons of numbers -/

namespace Binary64

theorem compare_mul_pos {a b c : ℚ} (hc : 0 < c) : compare (a * c) (b * c) = compare a b := by
  rw [← cmp_eq_compare, ← cmp_eq_compare]
  exact (strictMono_mul_right_of_pos hc).cmp_map_eq a b

theorem compare_natCast (a b : Nat) : compare (a : ℚ) (b : ℚ) = compare a b := by
  rw [← cmp_eq_compare, ← cmp_eq_compare]
  exact Nat.strictMono_cast.cmp_map_eq a b

theorem compare_intCast (a b : Int) : compare (a : ℚ) (b : ℚ) = compare a b := by
  rw [← cmp_eq_compare, ← cmp_eq_compare]
  exact Int.cast_strictMono.cmp_map_eq a b

theorem compare_neg_neg (a b : ℚ) : compare (-a) (-b) = compare b a := by
  rw [← cmp_eq_compare, ← cmp_eq_compare]
  exact StrictAnti.cmp_map_eq (f := fun x : ℚ => -x) (fun _ _ h => neg_lt_neg h) a b

/-- A magnitude scaled by a power of two is a natural scaled by any lower power. -/
theorem natCast_mul_zpow {e : Int} (x : Nat) {ex : Int} (hx : e ≤ ex) :
    (x : ℚ) * 2 ^ ex = ((x * 2 ^ (ex - e).toNat : Nat) : ℚ) * 2 ^ e := by
  rw [Nat.cast_mul, Nat.cast_pow, Nat.cast_ofNat, mul_assoc, ← zpow_natCast,
    ← zpow_add₀ two_ne_zero]
  congr 2
  omega

/-- Magnitudes compare as the rationals they stand for. -/
theorem compareMagnitudes_eq_compare (a : Nat) (ea : Int) (b : Nat) (eb : Int) :
    compareMagnitudes a ea b eb = compare ((a : ℚ) * 2 ^ ea) ((b : ℚ) * 2 ^ eb) := by
  rw [natCast_mul_zpow a (min_le_left ea eb), natCast_mul_zpow b (min_le_right ea eb),
    compare_mul_pos (zpow_pos two_pos _), compare_natCast]
  rfl

theorem value_of_significand_eq_zero {x : Binary64} (h : x.significand = 0) : x.value = 0 := by
  simp [value, h]

theorem value_of_neg {x : Binary64} (h : x.neg = true) :
    x.value = -((x.significand : ℚ) * 2 ^ x.scale) := by
  simp [value, h]

theorem value_of_not_neg {x : Binary64} (h : x.neg = false) :
    x.value = (x.significand : ℚ) * 2 ^ x.scale := by
  simp [value, h]

/-- The value of a number with a nonzero significand is on the side of zero its sign says. -/
theorem compare_value_zero {x : Binary64} (h : x.significand ≠ 0) :
    compare x.value 0 = if x.neg then .lt else .gt := by
  have hpos := magnitude_pos h
  cases hn : x.neg
  · rw [value_of_not_neg hn, if_neg (by simp)]
    exact compare_gt_iff_gt.2 hpos
  · rw [value_of_neg hn, if_pos rfl]
    exact compare_lt_iff_lt.2 (by linarith)

/-- Two numbers compare as the rationals they stand for. -/
theorem compareValue_eq_compare (x y : Binary64) : compareValue x y = compare x.value y.value := by
  unfold compareValue
  by_cases hx : x.significand = 0 <;> by_cases hy : y.significand = 0
  · simp [hx, hy, value_of_significand_eq_zero]
  · -- only `y` is nonzero: its sign decides
    have hb : (y.significand == 0) = false := by simpa using hy
    simp only [hx, hb, beq_self_eq_true, value_of_significand_eq_zero hx]
    rw [Std.OrientedOrd.eq_swap, compare_value_zero hy]
    cases y.neg <;> rfl
  · have hb : (x.significand == 0) = false := by simpa using hx
    simp only [hy, hb, beq_self_eq_true, value_of_significand_eq_zero hy]
    rw [compare_value_zero hx]
  · have hpx := magnitude_pos hx
    have hpy := magnitude_pos hy
    have hbx : (x.significand == 0) = false := by simpa using hx
    have hby : (y.significand == 0) = false := by simpa using hy
    simp only [hbx, hby]
    -- with both nonzero the signs decide, and then the magnitudes
    cases hnx : x.neg <;> cases hny : y.neg <;> dsimp only
    · rw [value_of_not_neg hnx, value_of_not_neg hny, compareMagnitudes_eq_compare]
    · rw [value_of_not_neg hnx, value_of_neg hny]
      exact (compare_gt_iff_gt.2 (by linarith)).symm
    · rw [value_of_neg hnx, value_of_not_neg hny]
      exact (compare_lt_iff_lt.2 (by linarith)).symm
    · rw [value_of_neg hnx, value_of_neg hny, compare_neg_neg, compareMagnitudes_eq_compare]

/-- An integer and a number compare as the rationals they stand for. -/
theorem compareInt_eq_compare (i : Int) (y : Binary64) : compareInt i y = compare (i : ℚ) y.value := by
  unfold compareInt
  by_cases hy : y.significand = 0
  · rw [if_pos hy, value_of_significand_eq_zero hy, ← compare_intCast]
    rfl
  rw [if_neg hy]
  have hpy := magnitude_pos hy
  by_cases hi : i = 0
  · subst hi
    rw [if_pos rfl, Int.cast_zero, Std.OrientedOrd.eq_swap, compare_value_zero hy]
    cases y.neg <;> rfl
  rw [if_neg hi]
  -- a nonzero integer is its magnitude scaled by `2 ^ 0`
  have hmag : ((i.natAbs : Nat) : ℚ) * 2 ^ (0 : Int) = |(i : ℚ)| := by
    simp [Nat.cast_natAbs]
  cases hneg : decide (i < 0) <;> cases hny : y.neg <;> dsimp only
  · have hi' : 0 < i := by simp at hneg; omega
    rw [compareMagnitudes_eq_compare, hmag, abs_of_pos (by exact_mod_cast hi'),
      value_of_not_neg hny]
  · have hi' : 0 < (i : ℚ) := by simp at hneg; exact_mod_cast (show 0 < i by omega)
    rw [value_of_neg hny]
    exact (compare_gt_iff_gt.2 (by linarith)).symm
  · have hi' : (i : ℚ) < 0 := by simp at hneg; exact_mod_cast hneg
    rw [value_of_not_neg hny]
    exact (compare_lt_iff_lt.2 (by linarith)).symm
  · have hi' : (i : ℚ) < 0 := by simp at hneg; exact_mod_cast hneg
    rw [compareMagnitudes_eq_compare, hmag, abs_of_neg hi', value_of_neg hny, ← compare_neg_neg,
      neg_neg]

end Binary64

/-! ## The order of values -/

namespace SqlValue

/-- The number a value stands for in the engine's order: a number's exact value, and zero for
the other kinds, which their rank alone orders against numbers. -/
def numberKey : SqlValue → ℚ
  | .integer i => i
  | .real f => f.value
  | _ => 0

/-- The bytes a value is ordered by under a collation, in a database of an encoding: for text
those `compareIn` compares, for a blob its own, and none for the other kinds. -/
def bytesKey (enc : TextEncoding) (coll : Collation) : SqlValue → List Nat
  | .text a =>
    match enc, coll with
    | .utf8, _ | _, .nocase | _, .rtrim => (coll.normalize a).map (·.toNat)
    | _, .binary => enc.binaryKey a
  | .blob b => b.map (·.toNat)
  | _ => []

/-- Bytes compare as the lists of their numbers. -/
theorem compareBytes_eq_compare (a b : List UInt8) :
    compareBytes a b = Ord.compare (a.map (·.toNat)) (b.map (·.toNat)) := by
  induction a generalizing b with
  | nil => cases b <;> rfl
  | cons x a ih =>
    cases b with
    | nil => rfl
    | cons y b =>
      rw [compareBytes, compareLex_eq_list, List.map_cons, List.map_cons, List.compare_cons_cons,
        List.compareLex_cons_cons, ← compareLex_eq_list, ← compareBytes, ih]

/-- The engine's order of values under a collation is the lexicographic order of their rank,
the number they stand for and the bytes the collation compares. -/
theorem compareIn_eq_keys (enc : TextEncoding) (coll : Collation) (a b : SqlValue) :
    compareIn enc coll a b = (Ord.compare a.rank b.rank).then
      ((Ord.compare a.numberKey b.numberKey).then
        (Ord.compare (a.bytesKey enc coll) (b.bytesKey enc coll))) := by
  cases a <;> cases b <;>
    simp only [compareIn, SqlValue.compare, rank, numberKey, bytesKey, compareBytes_eq_compare,
      Std.ReflOrd.compare_self, Ordering.eq_then, Ordering.then_eq]
  -- values of different ranks are ordered by their ranks alone
  all_goals first | rfl | skip
  case integer.integer => exact (Binary64.compare_intCast _ _).symm
  case integer.real => exact Binary64.compareInt_eq_compare _ _
  case real.integer => rw [Binary64.compareInt_eq_compare, ← Std.OrientedOrd.eq_swap]
  case real.real => exact Binary64.compareValue_eq_compare _ _
  case text.text => cases enc <;> cases coll <;> simp only [compareLex_eq_list] <;> rfl

end SqlValue

/-- The engine's order of values under a collation is oriented and transitive: it orders the
kind, the number and the bytes of values lexicographically. -/
instance transCmp_compareIn (enc : TextEncoding) (coll : Collation) :
    Std.TransCmp (SqlValue.compareIn enc coll) := by
  have h : SqlValue.compareIn enc coll = compareLex (compareOn SqlValue.rank)
      (compareLex (compareOn SqlValue.numberKey) (compareOn (SqlValue.bytesKey enc coll))) := by
    funext a b
    exact SqlValue.compareIn_eq_keys enc coll a b
  rw [h]
  infer_instance

/-- Swapping two values swaps their order. -/
theorem SqlValue.compareIn_swap (enc : TextEncoding) (coll : Collation) (a b : SqlValue) :
    SqlValue.compareIn enc coll a b = (SqlValue.compareIn enc coll b a).swap :=
  Std.OrientedCmp.eq_swap

/-! ## The order of sort keys -/

namespace Sql

/-- How two sort values compare under one ordering term: NULL first in ascending order and last
in descending order unless the term says otherwise, other values under the collation of the
first, reversed for a descending term. -/
def termOrder (enc : TextEncoding) (t : OrderTerm) (a b : Typed) : Ordering :=
  match a.value, b.value with
  | .null, .null => .eq
  | .null, _ => if t.nullsFirst.getD !t.desc then .lt else .gt
  | _, .null => if t.nullsFirst.getD !t.desc then .gt else .lt
  | x, y =>
    if t.desc then (SqlValue.compareIn enc (a.collation.getD .binary) x y).swap
    else SqlValue.compareIn enc (a.collation.getD .binary) x y

theorem ite_beq_eq_then (o r : Ordering) : (if (o == .eq) = true then r else o) = o.then r := by
  cases o <;> rfl

/-- Sort keys compare by their first values, and on a tie by the rest. -/
theorem compareSortKeys_cons (enc : TextEncoding) (t : OrderTerm) (ts : List OrderTerm)
    (a b : Typed) (as bs : List Typed) :
    compareSortKeys enc (t :: ts) (a :: as) (b :: bs) =
      (termOrder enc t a b).then (compareSortKeys enc ts as bs) := by
  rw [compareSortKeys, ite_beq_eq_then]
  rfl

theorem compareSortKeys_nil_left (enc : TextEncoding) (as bs : List Typed) :
    compareSortKeys enc [] as bs = .eq := by
  cases as <;> cases bs <;> rfl

/-- The term with the other direction. -/
def OrderTerm.reversed (t : OrderTerm) : OrderTerm := { t with desc := !t.desc }

/-- The collations the sort values of a row are compared under. -/
def collations (a : List Typed) : List Collation := a.map (·.collation.getD .binary)

/-- The order of values under a collation, or its opposite. -/
def directed (desc : Bool) (enc : TextEncoding) (coll : Collation) : SqlValue → SqlValue → Ordering :=
  if desc then fun x y => SqlValue.compareIn enc coll y x else SqlValue.compareIn enc coll

instance transCmp_directed (desc : Bool) (enc : TextEncoding) (coll : Collation) :
    Std.TransCmp (directed desc enc coll) := by
  cases desc
  · exact transCmp_compareIn enc coll
  · show Std.TransCmp fun x y => SqlValue.compareIn enc coll y x
    exact Std.TransCmp.opposite

section Terms

variable {enc : TextEncoding} {t : OrderTerm}

/-- Under a term that leaves the place of NULL to its direction, sort values compare as their
collation orders their values, reversed for a descending term: the order of values already puts
NULL first. -/
theorem termOrder_eq_directed (ht : t.nullsFirst = none) (a b : Typed) :
    termOrder enc t a b = directed t.desc enc (a.collation.getD .binary) a.value b.value := by
  unfold termOrder directed
  rw [ht]
  cases a.value <;> cases b.value <;> cases t.desc <;>
    first | rfl | exact (SqlValue.compareIn_swap enc _ _ _).symm

/-- Under either direction, two values tie exactly when their collation orders them as equal. -/
theorem directed_eq_eq_iff {desc : Bool} {coll : Collation} {x y : SqlValue} :
    directed desc enc coll x y = .eq ↔ SqlValue.compareIn enc coll x y = .eq := by
  cases desc
  · rfl
  · show SqlValue.compareIn enc coll y x = .eq ↔ _
    rw [SqlValue.compareIn_swap enc coll y x, Ordering.swap_eq_eq]

theorem termOrder_swap (ht : t.nullsFirst = none) {a b : Typed}
    (hc : a.collation.getD .binary = b.collation.getD .binary) :
    termOrder enc t b a = (termOrder enc t a b).swap := by
  rw [termOrder_eq_directed ht, termOrder_eq_directed ht, ← hc]
  exact Std.OrientedCmp.eq_swap

theorem termOrder_reversed (ht : t.nullsFirst = none) (a b : Typed) :
    termOrder enc t.reversed a b = (termOrder enc t a b).swap := by
  have hd : t.reversed.desc = !t.desc := rfl
  rw [termOrder_eq_directed ht, termOrder_eq_directed (t := t.reversed) ht, hd]
  cases t.desc <;> exact SqlValue.compareIn_swap enc _ _ _

end Terms

/-! Rows of sort values, under terms that leave the place of NULL to their direction. -/

section Rows

variable {enc : TextEncoding} {ts : List OrderTerm}

/-- Flipping the direction of every term swaps the order of rows. -/
theorem compareSortKeys_reversed (hts : ∀ t ∈ ts, t.nullsFirst = none) (a b : List Typed) :
    compareSortKeys enc (ts.map OrderTerm.reversed) a b = (compareSortKeys enc ts a b).swap := by
  induction ts generalizing a b with
  | nil => rw [List.map_nil, compareSortKeys_nil_left]; rfl
  | cons t ts ih =>
    cases a with
    | nil => cases b <;> rfl
    | cons x a =>
      cases b with
      | nil => rfl
      | cons y b =>
        have ht := hts t List.mem_cons_self
        rw [List.map_cons, compareSortKeys_cons, compareSortKeys_cons, Ordering.swap_then,
          termOrder_reversed ht, ih (fun t' h' => hts t' (List.mem_cons_of_mem _ h'))]

/-- Rows whose values carry the same collations are ordered by an oriented order. -/
theorem compareSortKeys_swap (hts : ∀ t ∈ ts, t.nullsFirst = none) {a b : List Typed}
    (h : collations a = collations b) :
    compareSortKeys enc ts b a = (compareSortKeys enc ts a b).swap := by
  induction ts generalizing a b with
  | nil => rw [compareSortKeys_nil_left, compareSortKeys_nil_left]; rfl
  | cons t ts ih =>
    cases a with
    | nil => cases b <;> rfl
    | cons x a =>
      cases b with
      | nil => rfl
      | cons y b =>
        simp only [collations, List.map_cons, List.cons.injEq] at h
        rw [compareSortKeys_cons, compareSortKeys_cons, Ordering.swap_then,
          termOrder_swap (hts t List.mem_cons_self) h.1,
          ih (fun t' h' => hts t' (List.mem_cons_of_mem _ h')) h.2]

/-- Rows whose values carry the same collations are ordered by a transitive order. -/
theorem compareSortKeys_isLE_trans (hts : ∀ t ∈ ts, t.nullsFirst = none) {a b c : List Typed}
    (hab : collations a = collations b) (hbc : collations b = collations c)
    (h₁ : (compareSortKeys enc ts a b).isLE) (h₂ : (compareSortKeys enc ts b c).isLE) :
    (compareSortKeys enc ts a c).isLE := by
  induction ts generalizing a b c with
  | nil => rw [compareSortKeys_nil_left]; rfl
  | cons t ts ih =>
    cases a with
    | nil => cases c <;> rfl
    | cons x a =>
      cases c with
      | nil => rfl
      | cons z c =>
        cases b with
        | nil => simp [collations] at hab
        | cons y b =>
          simp only [collations, List.map_cons, List.cons.injEq] at hab hbc
          have ht := hts t List.mem_cons_self
          rw [compareSortKeys_cons, termOrder_eq_directed ht] at h₁ h₂ ⊢
          rw [hab.1] at h₁ ⊢
          rw [hbc.1] at h₁ h₂ ⊢
          rw [Ordering.isLE_then_iff_and] at h₁ h₂ ⊢
          -- the first values are ordered transitively; a strict step decides, else the rest
          refine ⟨Std.TransCmp.isLE_trans h₁.1 h₂.1, ?_⟩
          rcases h₁.2 with hlt | hrest₁
          · exact .inl (Std.TransCmp.lt_of_lt_of_isLE hlt h₂.1)
          rcases h₂.2 with hlt | hrest₂
          · exact .inl (Std.TransCmp.lt_of_isLE_of_lt h₁.1 hlt)
          exact .inr (ih (fun t' h' => hts t' (List.mem_cons_of_mem _ h')) hab.2 hbc.2 hrest₁ hrest₂)

/-- Rows of equally long leading parts compare by those parts, and on a tie by the rest. -/
theorem compareSortKeys_append {ts' : List OrderTerm} {a a' b b' : List Typed}
    (ha : a.length = ts.length) (hb : b.length = ts.length) :
    compareSortKeys enc (ts ++ ts') (a ++ a') (b ++ b') =
      (compareSortKeys enc ts a b).then (compareSortKeys enc ts' a' b') := by
  induction ts generalizing a b with
  | nil =>
    rw [List.length_nil, List.length_eq_zero_iff] at ha hb
    subst ha hb
    rfl
  | cons t ts ih =>
    obtain ⟨x, a, rfl⟩ := List.exists_cons_of_length_eq_add_one ha
    obtain ⟨y, b, rfl⟩ := List.exists_cons_of_length_eq_add_one hb
    rw [List.cons_append, List.cons_append, List.cons_append, compareSortKeys_cons,
      compareSortKeys_cons, ih (Nat.succ_inj.1 ha) (Nat.succ_inj.1 hb), Ordering.then_assoc]

end Rows

end Sql

/-! ## Sorting by the opposite order -/

section Sorting

variable {α : Type}

/-- A stable sort under an order that is total and transitive on the elements sorts them. -/
theorem pairwise_mergeSort_of_mem {le : α → α → Bool} {l : List α}
    (trans : ∀ a ∈ l, ∀ b ∈ l, ∀ c ∈ l, le a b → le b c → le a c)
    (total : ∀ a ∈ l, ∀ b ∈ l, le a b || le b a) : (l.mergeSort le).Pairwise fun a b => le a b := by
  -- sort the elements as members of the list, where the order is total and transitive
  have hsorted : (l.attach.mergeSort fun x y => le x.1 y.1).Pairwise fun x y => le x.1 y.1 :=
    List.pairwise_mergeSort (fun x y z => trans x.1 x.2 y.1 y.2 z.1 z.2)
      (fun x y => total x.1 x.2 y.1 y.2) _
  have hmap := List.map_mergeSort (s := le) (f := Subtype.val) (l := l.attach)
    (r := fun x y => le x.1 y.1) fun _ _ _ _ => rfl
  rw [List.attach_map_subtype_val] at hmap
  rw [← hmap, List.pairwise_map]
  exact hsorted

theorem ne_gt_eq_isLE (o : Ordering) : (o != .gt) = o.isLE := by
  cases o <;> rfl

/-- Sorting by the opposite of an order gives the reverse of sorting by the order, when on the
elements sorted the order is oriented and transitive and no two of them tie. -/
theorem mergeSort_opposite {cmp : α → α → Ordering} {l : List α}
    (hswap : ∀ a ∈ l, ∀ b ∈ l, cmp b a = (cmp a b).swap)
    (htrans : ∀ a ∈ l, ∀ b ∈ l, ∀ c ∈ l, (cmp a b).isLE → (cmp b c).isLE → (cmp a c).isLE)
    (hapart : l.Pairwise fun a b => cmp a b ≠ .eq) :
    l.mergeSort (fun a b => (cmp a b).swap != .gt) = (l.mergeSort fun a b => cmp a b != .gt).reverse := by
  simp only [ne_gt_eq_isLE]
  -- the opposite order is the order with its arguments exchanged
  have hopp : ∀ a ∈ l, ∀ b ∈ l, (cmp a b).swap.isLE = (cmp b a).isLE := fun a ha b hb => by
    rw [hswap a ha b hb]
  have htotal : ∀ a ∈ l, ∀ b ∈ l, ((cmp a b).isLE || (cmp b a).isLE) = true := fun a ha b hb => by
    rw [hswap a ha b hb]
    cases cmp a b <;> rfl
  have hsorted := pairwise_mergeSort_of_mem htrans htotal
  have hsorted' : (l.mergeSort fun a b => (cmp a b).swap.isLE).Pairwise
      fun a b => (cmp a b).swap.isLE := pairwise_mergeSort_of_mem
    (fun a ha b hb c hc h₁ h₂ => by
      rw [hopp a ha b hb] at h₁
      rw [hopp b hb c hc] at h₂
      rw [hopp a ha c hc]
      exact htrans c hc b hb a ha h₂ h₁)
    (fun a ha b hb => by rw [hopp a ha b hb, hopp b hb a ha, Bool.or_comm]; exact htotal a ha b hb)
  -- on the elements, a tie in both directions is equality
  have hne : ∀ a ∈ l, ∀ b ∈ l, a ≠ b → cmp a b ≠ .eq := by
    have hpair : l.Pairwise fun a b => a ≠ b → cmp a b ≠ .eq :=
      hapart.imp (S := fun a b => a ≠ b → cmp a b ≠ .eq) fun h _ => h
    refine hpair.forall_of_forall_of_flip (fun _ _ h => absurd rfl h)
      (hapart.imp_of_mem fun ha hb h _ => ?_)
    rwa [hswap _ ha _ hb, Ne, Ordering.swap_eq_eq]
  have hanti : ∀ a ∈ l, ∀ b ∈ l, (cmp a b).isLE → (cmp b a).isLE → a = b := by
    intro a ha b hb h₁ h₂
    rw [hswap a ha b hb] at h₂
    by_contra hab
    exact hne a ha b hb hab (Ordering.eq_eq_of_isLE_of_isLE_swap h₁ h₂)
  -- the reverse of the opposite sort is sorted by the order, as is the sort: they are equal
  have hrev : ((l.mergeSort fun a b => (cmp a b).swap.isLE).reverse).Pairwise
      fun a b => (cmp a b).isLE := by
    refine List.pairwise_reverse.2 (hsorted'.imp_of_mem fun ha hb h => ?_)
    rwa [hopp _ (List.mem_mergeSort.1 ha) _ (List.mem_mergeSort.1 hb)] at h
  have heq := List.Perm.eq_of_pairwise (fun a b ha hb h₁ h₂ =>
      hanti a (List.mem_mergeSort.1 ha) b (List.mem_mergeSort.1 (List.mem_reverse.1 hb)) h₁ h₂)
    hsorted hrev
    ((List.mergeSort_perm _ _).trans ((List.mergeSort_perm _ _).symm.trans (List.reverse_perm _).symm))
  rw [heq, List.reverse_reverse]

end Sorting

end DocStore
