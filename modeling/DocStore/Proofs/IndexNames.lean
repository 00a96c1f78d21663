import DocStore.Store.Database
import DocStore.Proofs.Runs
import Mathlib
/-!
# Index names

`Database.createIndex` names the index of a collection and a field `idx_<collection>_<field>`,
with every character that is no ASCII letter or digit written as `_`, and the engine builds it
only when no index of that name exists yet. So two calls build two indexes exactly when their
names differ. The name forgets the difference between `/`, `.`, `-` and `_`, and where the
collection ends and the field begins: the collection `a_b` with the field `c` and the collection
`a` with the field `b_c` share the name `idx_a_b_c`, and the second call keeps the index of the
first: a statement that creates an index under a name an index already has succeeds and leaves
the content as it was (`Tables.execute_createIndex_of_indexed`).

Names are distinct on one class of calls (`indexName_injective`): collection paths of letters,
digits and `/`, at any depth, and fields of letters and digits. There the field holds no `_`, so
the last `_` of the name is the one before it, and every other `_` of the name stands for a `/`
of the path.
-/

namespace DocStore

/-- The character an index name writes for a character of its collection or field. -/
def nameChar (c : Char) : Char :=
  if ('a' ≤ c ∧ c ≤ 'z') ∨ ('A' ≤ c ∧ c ≤ 'Z') ∨ ('0' ≤ c ∧ c ≤ '9') then c else '_'

theorem nameChar_underscore : nameChar '_' = '_' := by
  decide

theorem indexName_toList (coll field : String) :
    (indexName coll field).toList = ['i', 'd', 'x', '_'] ++ (coll.toList ++ '_' :: field.toList).map nameChar := by
  have hprefix : "idx_".toList.map nameChar = ['i', 'd', 'x', '_'] := by
    decide
  show (String.ofList (("idx_" ++ coll ++ "_" ++ field).toList.map nameChar)).toList = _
  simp only [String.toList_ofList, String.toList_append, List.map_append, hprefix, List.append_assoc]
  simp [nameChar_underscore]

section
variable {c d : Char}

/-- Letters and digits are kept. -/
theorem nameChar_of_isAlphanum (h : c.isAlphanum = true) : nameChar c = c := by
  simp only [Char.isAlphanum, Char.isAlpha, Char.isUpper, Char.isLower, Char.isDigit, Bool.or_eq_true,
    Bool.and_eq_true, decide_eq_true_eq, ge_iff_le] at h
  unfold nameChar
  rw [if_pos]
  simp only [Char.le_def]
  rcases h with (hupper | hlower) | hdigit
  · exact .inr (.inl hupper)
  · exact .inl hlower
  · exact .inr (.inr hdigit)

theorem ne_underscore_of_isAlphanum (h : c.isAlphanum = true) : c ≠ '_' := by
  rintro rfl
  exact absurd h (by decide)

/-- A kept character is no `_`, so the only `_` of a name of letters and digits are those it
writes for other characters. -/
theorem nameChar_ne_underscore (h : c.isAlphanum = true) : nameChar c ≠ '_' := by
  rw [nameChar_of_isAlphanum h]
  exact ne_underscore_of_isAlphanum h

/-- On letters, digits and `/`, the name loses nothing. -/
theorem nameChar_inj (hc : c.isAlphanum = true ∨ c = '/') (hd : d.isAlphanum = true ∨ d = '/')
    (h : nameChar c = nameChar d) : c = d := by
  rcases hc with hc | rfl <;> rcases hd with hd | rfl
  · rwa [nameChar_of_isAlphanum hc, nameChar_of_isAlphanum hd] at h
  · exact absurd h (nameChar_ne_underscore hc)
  · exact absurd h.symm (nameChar_ne_underscore hd)
  · rfl

end

theorem map_nameChar_of_isAlphanum {l : List Char} (h : ∀ x ∈ l, x.isAlphanum = true) :
    l.map nameChar = l := by
  calc l.map nameChar = l.map id := List.map_congr_left fun x hx => nameChar_of_isAlphanum (h x hx)
    _ = l := List.map_id l

theorem underscore_not_mem {l : List Char} (h : ∀ x ∈ l, x.isAlphanum = true) : '_' ∉ l :=
  fun hmem => ne_underscore_of_isAlphanum (h '_' hmem) rfl

/-- A path of letters, digits and `/` written by `nameChar`, then `_` and a field of letters and
digits, gives back the path and the field. -/
theorem eq_of_map_nameChar_append {l l' f f' : List Char} (hl : ∀ x ∈ l, x.isAlphanum = true ∨ x = '/')
    (hl' : ∀ x ∈ l', x.isAlphanum = true ∨ x = '/') (hf : ∀ x ∈ f, x.isAlphanum = true)
    (hf' : ∀ x ∈ f', x.isAlphanum = true) (h : l.map nameChar ++ '_' :: f = l'.map nameChar ++ '_' :: f') :
    l = l' ∧ f = f' := by
  -- the path is read off character by character; where one path ends before the other, the
  -- other's remaining `_` would fall inside a field
  induction l generalizing l' with
  | nil =>
    cases l' with
    | nil => simpa using h
    | cons x' l' =>
      simp only [List.map_nil, List.nil_append, List.map_cons, List.cons_append, List.cons.injEq] at h
      exact absurd (h.2 ▸ List.mem_append_right _ List.mem_cons_self) (underscore_not_mem hf)
  | cons x l ih =>
    cases l' with
    | nil =>
      simp only [List.map_nil, List.nil_append, List.map_cons, List.cons_append, List.cons.injEq] at h
      exact absurd (h.2 ▸ List.mem_append_right _ List.mem_cons_self) (underscore_not_mem hf')
    | cons x' l' =>
      simp only [List.map_cons, List.cons_append, List.cons.injEq] at h
      have hx : x = x' := nameChar_inj (hl x List.mem_cons_self) (hl' x' List.mem_cons_self) h.1
      obtain ⟨rfl, hf⟩ := ih (fun y hy => hl y (List.mem_cons_of_mem x hy))
        (fun y hy => hl' y (List.mem_cons_of_mem x' hy)) h.2
      exact ⟨by rw [hx], hf⟩

/-- Index names are distinct for collection paths of letters, digits and `/` and fields of
letters and digits. -/
theorem indexName_injective {coll field coll' field' : String}
    (hc : ∀ x ∈ coll.toList, x.isAlphanum = true ∨ x = '/') (hf : ∀ x ∈ field.toList, x.isAlphanum = true)
    (hc' : ∀ x ∈ coll'.toList, x.isAlphanum = true ∨ x = '/')
    (hf' : ∀ x ∈ field'.toList, x.isAlphanum = true) :
    indexName coll field = indexName coll' field' ↔ coll = coll' ∧ field = field' := by
  constructor
  · intro h
    have htext := congrArg String.toList h
    rw [indexName_toList, indexName_toList, List.map_append, List.map_append, List.map_cons,
      List.map_cons, map_nameChar_of_isAlphanum hf, map_nameChar_of_isAlphanum hf'] at htext
    obtain ⟨hcoll, hfield⟩ := eq_of_map_nameChar_append hc hc' hf hf' (List.append_cancel_left htext)
    exact ⟨String.toList_inj.mp hcoll, String.toList_inj.mp hfield⟩
  · rintro ⟨rfl, rfl⟩
    rfl

/-- A collection three levels down and a field, against its parent's path with the last segment
taken as the field. -/
theorem indexName_injective_subcollection :
    (∀ x ∈ "users/u1/posts".toList, x.isAlphanum = true ∨ x = '/') ∧
      (∀ x ∈ "score".toList, x.isAlphanum = true) ∧
      (∀ x ∈ "users/u1".toList, x.isAlphanum = true ∨ x = '/') ∧
      (∀ x ∈ "posts".toList, x.isAlphanum = true) ∧
      (indexName "users/u1/posts" "score" = indexName "users/u1" "posts" ↔
        "users/u1/posts" = "users/u1" ∧ "score" = "posts") := by
  have hc : ∀ x ∈ "users/u1/posts".toList, x.isAlphanum = true ∨ x = '/' := by
    simp only [String.reduceToList, List.forall_mem_cons, List.not_mem_nil, false_imp_iff, implies_true,
      and_true]
    decide
  have hf : ∀ x ∈ "score".toList, x.isAlphanum = true := by
    simp only [String.reduceToList, List.forall_mem_cons, List.not_mem_nil, false_imp_iff, implies_true,
      and_true]
    decide
  have hc' : ∀ x ∈ "users/u1".toList, x.isAlphanum = true ∨ x = '/' := by
    simp only [String.reduceToList, List.forall_mem_cons, List.not_mem_nil, false_imp_iff, implies_true,
      and_true]
    decide
  have hf' : ∀ x ∈ "posts".toList, x.isAlphanum = true := by
    simp only [String.reduceToList, List.forall_mem_cons, List.not_mem_nil, false_imp_iff, implies_true,
      and_true]
    decide
  exact ⟨hc, hf, hc', hf', indexName_injective hc hf hc' hf'⟩

/-! ## The index a second call keeps -/

open Sql

namespace Tables

/-- Creating an index under a name an index already has returns at once and touches nothing. -/
theorem runFrom_createIndex_of_indexed {st : Statement} {name sql : String} {w : Work} {doc : Table}
    (hdoc : w.tables.schema.table? "documents" = some doc)
    (hrel : (w.tables.schema.table? name).isSome = false ∧ (w.tables.schema.view? name).isSome = false)
    (hidx : (w.tables.schema.index? name).isSome = true) :
    runFrom (createIndex st name sql) w = (.ok (), w) := by
  simp only [createIndex, Exec.schema, bind_pure_comp, bind_map_left, runFrom_bind, runFrom_get, hdoc,
    hrel, hidx, Bool.false_eq_true, or_self, ↓reduceIte, runFrom_pure]

/-- A statement that creates an index under a name an index already has succeeds and changes
nothing, whatever its definition: the index already there is the one the store keeps. -/
theorem execute_createIndex_of_indexed {t : Tables} {name coll : String} {path : FieldPath}
    {bs : List SqlValue} {ro : Bool} {doc : Table} (hdoc : t.schema.table? "documents" = some doc)
    (hrel : (t.schema.table? name).isSome = false ∧ (t.schema.view? name).isSome = false)
    (hidx : (t.schema.index? name).isSome = true) :
    t.execute (.createIndex name path coll) bs ro = .ok (t, [], []) := by
  let w : Work := { tables := t, readOnly := ro }
  have hwrite : runFrom (write (.createIndex name path coll) (bs.map t.encoding.conformValue)) w =
      (.ok (), w) :=
    runFrom_createIndex_of_indexed hdoc hrel hidx
  -- no counter was started, so saving the counters at the end writes nothing
  have hrun : runFrom (writeAll (.createIndex name path coll) (bs.map t.encoding.conformValue)) w =
      (.ok (), w) := by
    rw [writeAll, runFrom_bind, runFrom_tryCatch, hwrite]
    simp [saveCounters, runFrom_bind, w]
  simp only [execute, writes, ite_true]
  simp only [runFrom] at hrun
  rw [hrun]

end Tables

end DocStore
