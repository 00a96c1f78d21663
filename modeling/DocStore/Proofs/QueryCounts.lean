import DocStore.Proofs.QueryValidation
import DocStore.Store.Database
/-!
# Counts agree with the unpaged query

`Database.count` compiles a query with `Query.compileCount`, which builds only its filters, and
runs a `COUNT(*)` over them. This module compares it with reading the same query without its
orderings and limits (`Query.filtersOnly`) through `Database.getDocs`; the main statement is
`count_matches_unpaged_query`.

* Compiling the count fails exactly when compiling the unpaged query does, with the same error
  (`Query.compileCount_eq_error_iff`): both check the `where` constraints in order, the field path
  and then the `in` operand, and the unpaged query has no ordering for an inequality to break.
* On a database whose documents table has no usable index but its key (`Tables.KeyIndexed`, as
  the store creates it), the engine counts exactly the rows the unpaged query reads
  (`Tables.execute_count_of_select`): both statements reach the same rows in the same order
  (`Tables.documentAccess_count`) and test the same filters on them, and only the query goes on to
  read each row, which no trigger can interrupt.

The engine side rests on one relation, `Tally`, between the outcome of a read and of a count,
and on its lemma for loops, `Tally.forIn`, applied to the loop over the rows.
-/

namespace DocStore

/-- Whether a constraint is a `where`. -/
def Constraint.isFilter : Constraint → Bool
  | .filter .. => true
  | _ => false

namespace Query

/-- A query without its orderings and limits: its source and its `where` constraints. -/
def filtersOnly (q : Query) : Query :=
  { q with constraints := q.constraints.filter Constraint.isFilter }

/-! ## Compiling the count and the unpaged query -/

section Traversal

variable {α β ε : Type}

/-- A selection of the elements a predicate keeps is the selection of all of them, when the
function selects nothing from the others. -/
theorem filterMapM_filter {g : α → Except ε (Option β)} {p : α → Bool}
    (h : ∀ a, p a = false → g a = pure none) :
    ∀ l : List α, (l.filter p).filterMapM g = l.filterMapM g
  | [] => rfl
  | a :: l => by
    by_cases ha : p a = true
    · simp only [List.filter_cons_of_pos ha, List.filterMapM_cons, filterMapM_filter h l]
    · rw [List.filter_cons_of_neg ha, List.filterMapM_cons, h a (by simpa using ha),
        filterMapM_filter h l]
      rfl

/-- A selection and a check that fail on the same elements with the same errors fail alike. -/
theorem filterMapM_eq_error_iff_forM {g : α → Except ε (Option β)} {f : α → Except ε Unit} :
    ∀ {l : List α}, (∀ a ∈ l, ∀ e, g a = .error e ↔ f a = .error e) →
      ∀ e, l.filterMapM g = .error e ↔ forM l f = .error e
  | [], _, e => by simp [pure, Except.pure]
  | a :: l, h, e => by
    have ih := filterMapM_eq_error_iff_forM (l := l) fun b hb => h b (List.mem_cons_of_mem _ hb)
    rw [List.filterMapM_cons, List.forM_cons]
    rcases hg : g a with e' | r
    · -- both fail at the head, with its error
      have hf := (h a List.mem_cons_self e').1 hg
      simp [hf, bind, Except.bind]
    · -- both pass the head, and fail as the rest does
      have hf : f a = .ok () := by
        rcases hfa : f a with e'' | ⟨⟩
        · exact absurd ((h a List.mem_cons_self e'').2 hfa) (by simp [hg])
        · rfl
      rw [hf]
      cases r with
      | none => exact ih e
      | some b =>
        simp only [bind, Except.bind]
        rcases hl : l.filterMapM g with e'' | rs
        · simpa [hl] using ih e
        · have hne : forM l f ≠ .error e := fun h' => by simpa [hl] using (ih e).2 h'
          simpa [pure, Except.pure] using hne

/-- A fold that keeps its start at every element keeps it. -/
theorem foldl_eq_self {f : β → α → β} : ∀ {l : List α} {b : β}, (∀ a ∈ l, f b a = b) → l.foldl f b = b
  | [], _, _ => rfl
  | a :: l, b, h => by
    rw [List.foldl_cons, h a List.mem_cons_self]
    exact foldl_eq_self fun a' ha' => h a' (List.mem_cons_of_mem _ ha')

/-- A selection that selects no element selects nothing. -/
theorem filterMapM_eq_nil {g : α → Except ε (Option β)} :
    ∀ {l : List α}, (∀ a ∈ l, g a = pure none) → l.filterMapM g = pure []
  | [], _ => rfl
  | a :: l, h => by
    rw [List.filterMapM_cons, h a List.mem_cons_self]
    exact filterMapM_eq_nil fun a' ha' => h a' (List.mem_cons_of_mem _ ha')

/-- Building a result from a computation fails exactly as the computation does. -/
theorem bind_pure_eq_error_iff {rs : Except ε α} {k : α → β} {e : ε} :
    (do let r ← rs; pure (k r)) = Except.error e ↔ rs = .error e := by
  rcases rs with e' | r <;> simp [bind, Except.bind, pure, Except.pure]

end Traversal

theorem firstOrder?_filtersOnly (q : Query) : q.filtersOnly.firstOrder? = none :=
  firstOrder?_eq_none_iff.2 fun f d h => by
    simp [filtersOnly, Constraint.isFilter] at h

/-- The unpaged query selects what the query selects: its other constraints select nothing. -/
theorem predicates_filtersOnly (q : Query) : q.filtersOnly.predicates = q.predicates := by
  unfold predicates filtersOnly
  dsimp only
  rw [filterMapM_filter]
  intro c hc
  cases c with
  | filter => cases hc
  | _ => rfl

/-- A `where` fails to build its filter exactly with the first breach it has in a query without
ordering. -/
theorem whereFilter_eq_error_iff {field : String} {op : WhereOp} {value : Value} {e : StoreError} :
    whereFilter field op value = .error e ↔
      ∃ i, (Constraint.filter field op value).breach none = some i ∧ e = .invalid i := by
  by_cases hb : (Constraint.filter field op value).breach none = none
  · obtain ⟨hp, hin, -⟩ := breach_filter_eq_none_iff.1 hb
    obtain ⟨r, hr⟩ := whereFilter_ok hp hin
    simp [hr, hb]
  · by_cases hp : FieldPath.Valid field
    · -- with a valid path, the only breach left without an ordering is the `in` operand
      have hin : op = .isIn ∧ value.isNonEmptyArray = false :=
        Decidable.byContradiction fun hin => hb (by simp [Constraint.breach, hp, hin])
      obtain ⟨rfl, hv⟩ := hin
      simp [whereFilter, FieldPath.parse_eq, hp, inOperand_error hv, Constraint.breach, hv, bind,
        Except.bind, eq_comm]
    · simp [whereFilter, FieldPath.parse_eq, hp, Constraint.breach, bind, Except.bind, eq_comm]

/-- The filters of a query fail to build exactly when the check of its unpaged query fails, and
with its error. -/
theorem predicates_eq_error_iff {q : Query} {e : StoreError} :
    q.predicates = .error e ↔ q.filtersOnly.validate = .error e := by
  rw [← predicates_filtersOnly]
  unfold predicates validate
  dsimp only
  rw [bind_pure_eq_error_iff, firstOrder?_filtersOnly]
  refine filterMapM_eq_error_iff_forM (fun c hc e' => ?_) e
  obtain ⟨-, hf⟩ := List.mem_filter.1 hc
  cases c with
  | filter field op value =>
    rw [checkConstraint_eq_error_iff, ← whereFilter_eq_error_iff]
    rcases hw : whereFilter field op value with e'' | r <;> simp [hw, Functor.map, Except.map]
  | _ => cases hf

theorem effectiveLimits_filtersOnly (q : Query) : q.filtersOnly.effectiveLimits = (none, none) := by
  unfold effectiveLimits filtersOnly
  -- no constraint the unpaged query keeps sets a limit
  refine foldl_eq_self fun c hc => ?_
  obtain ⟨-, hf⟩ := List.mem_filter.1 hc
  cases c with
  | filter => rfl
  | _ => cases hf

theorem sortKeys_filtersOnly (q : Query) (reverse : Bool) :
    q.filtersOnly.sortKeys reverse = .ok [] := by
  unfold sortKeys filtersOnly
  -- the unpaged query keeps no ordering
  refine filterMapM_eq_nil fun c hc => ?_
  obtain ⟨-, hf⟩ := List.mem_filter.1 hc
  cases c with
  | filter => rfl
  | _ => cases hf

/-- The unpaged query compiles to a `SELECT` of its filters, in the order of the key and unlimited. -/
theorem compile_filtersOnly_eq_ok {q : Query} {c : CompiledQuery} (h : q.filtersOnly.compile = .ok c) :
    ∃ fs bs, q.predicates = .ok (fs, bs) ∧ c = ⟨.selectDocuments fs [] .asc false, bs, false⟩ := by
  unfold compile at h
  rw [effectiveLimits_filtersOnly, predicates_filtersOnly] at h
  dsimp only at h
  rw [sortKeys_filtersOnly] at h
  rcases hv : q.filtersOnly.validate with e | ⟨⟩
  · simp only [hv, bind, Except.bind, reduceCtorEq] at h
  · rcases hp : q.predicates with e | ⟨fs, bs⟩
    · simp only [hv, hp, bind, Except.bind, reduceCtorEq] at h
    · refine ⟨fs, bs, rfl, ?_⟩
      simp only [hv, hp, bind, Except.bind, pure, Except.pure, Except.ok.injEq] at h
      rw [← h]
      simp

theorem compileCount_eq_ok {q : Query} {c : CompiledQuery} (h : q.compileCount = .ok c) :
    ∃ fs bs, q.predicates = .ok (fs, bs) ∧ c = ⟨.countDocuments fs, bs, false⟩ := by
  unfold compileCount at h
  rcases hp : q.predicates with e | ⟨fs, bs⟩
  · simp only [hp, bind, Except.bind, reduceCtorEq] at h
  · simp only [hp, bind, Except.bind, pure, Except.pure, Except.ok.injEq] at h
    exact ⟨fs, bs, rfl, h.symm⟩

/-- Compiling the count of a query fails exactly when compiling its unpaged query fails, with the
same error. -/
theorem compileCount_eq_error_iff {q : Query} {e : StoreError} :
    q.compileCount = .error e ↔ q.filtersOnly.compile = .error e := by
  rw [compile_eq_error_iff, ← predicates_eq_error_iff]
  unfold compileCount
  rcases q.predicates with e' | ⟨fs, bs⟩ <;> simp [bind, Except.bind, pure, Except.pure]

theorem mapM_length {α β ε : Type} {f : α → Except ε β} :
    ∀ {l : List α} {l' : List β}, l.mapM f = .ok l' → l'.length = l.length
  | [], l', h => by
    simp only [List.mapM_nil, pure, Except.pure, Except.ok.injEq] at h
    rw [← h]
    rfl
  | a :: l, l', h => by
    rw [List.mapM_cons] at h
    rcases hb : f a with e | b
    · simp [hb, bind, Except.bind] at h
    · rcases hl : l.mapM f with e | bs
      · simp [hb, hl, bind, Except.bind] at h
      · simp only [hb, hl, bind, Except.bind, pure, Except.pure, Except.ok.injEq] at h
        rw [← h, List.length_cons, List.length_cons, mapM_length hl]

end Query

/-- A query's documents are one for each row it reads. -/
theorem CompiledQuery.length_documents {c : CompiledQuery} {rows : List Row}
    {docs : List QueryDocument} (h : c.documents rows = .ok docs) : docs.length = rows.length := by
  unfold CompiledQuery.documents at h
  rcases hm : rows.mapM rowDocument with e | ds
  · simp [hm, bind, Except.bind] at h
  · simp only [hm, bind, Except.bind, pure, Except.pure, Except.ok.injEq] at h
    rw [← h, ← Query.mapM_length hm]
    split <;> simp

/-! ## Agreeing outcomes of the engine

The engine reads the rows of the query and counts the rows of the count in two loops over the
same rows. `Tally R x y` says the outcome `y` of the counting side matches the outcome `x` of
the reading side: related values, or both ignored (a trigger's `RAISE(IGNORE)` ends a statement
with no rows), or the reading side failed, when nothing is claimed of the other. -/

open Sql

section Agreeing

variable {α β γ δ ε : Type}

/-- The outcome of a count agrees with the outcome of a read. -/
inductive Tally (R : α → β → Prop) : Eval α → Eval β → Prop
  | ok {a : α} {b : β} : R a b → Tally R (.ok a) (.ok b)
  | ignore : Tally R (.error .ignore) (.error .ignore)
  | fail (f : EngineFailure) (y : Eval β) : Tally R (.error (.failure f)) y

/-- The steps of two loops agree: both go on, or both stop, with related states. -/
inductive TallyStep (R : α → β → Prop) : ForInStep α → ForInStep β → Prop
  | done {a : α} {b : β} : R a b → TallyStep R (.done a) (.done b)
  | yield {a : α} {b : β} : R a b → TallyStep R (.yield a) (.yield b)

namespace Tally

variable {R : α → β → Prop} {S : γ → δ → Prop}

theorem refl (x : Eval α) : Tally Eq x x := by
  rcases x with (f | _) | a
  · exact .fail f _
  · exact .ignore
  · exact .ok rfl

theorem bind {x : Eval α} {y : Eval β} {f : α → Eval γ} {g : β → Eval δ} (h : Tally R x y)
    (hk : ∀ a b, R a b → Tally S (f a) (g b)) : Tally S (x >>= f) (y >>= g) := by
  cases h with
  | ok hab => exact hk _ _ hab
  | ignore => exact .ignore
  | fail fl y => exact .fail fl _

/-- A count that goes on to wrap its value agrees as the value does. -/
theorem map {x : Eval α} {y : Eval β} {k : β → δ} {S : α → δ → Prop} (h : Tally R x y)
    (hk : ∀ a b, R a b → S a (k b)) : Tally S x (y >>= fun b => pure (k b)) := by
  cases h with
  | ok hab => exact .ok (hk _ _ hab)
  | ignore => exact .ignore
  | fail fl y => exact .fail fl _

/-- A step the reading side alone takes, and which is never ignored, keeps the agreement. -/
theorem bind_left {x : Eval γ} {f : γ → Eval α} {y : Eval β} (hx : x ≠ .error .ignore)
    (hf : ∀ c, Tally R (f c) y) : Tally R (x >>= f) y := by
  rcases x with (fl | _) | c
  · exact .fail fl _
  · exact absurd rfl hx
  · exact hf c

theorem ok_left {a : α} {y : Eval β} (h : Tally R (.ok a) y) : ∃ b, y = .ok b ∧ R a b := by
  cases h with
  | ok hab => exact ⟨_, rfl, hab⟩

theorem ignore_left {y : Eval β} (h : Tally R (.error .ignore) y) : y = .error .ignore := by
  cases h
  rfl

/-- Loops whose bodies agree step by step, from related states, agree. -/
theorem forIn {f : ε → α → Eval (ForInStep α)} {g : ε → β → Eval (ForInStep β)} :
    ∀ (xs : List ε), (∀ x ∈ xs, ∀ a b, R a b → Tally (TallyStep R) (f x a) (g x b)) →
      ∀ {a : α} {b : β}, R a b → Tally R (forIn xs a f) (forIn xs b g)
  | [], _, _, _, h => .ok h
  | x :: xs, hs, a, b, h => by
    rw [List.forIn_cons, List.forIn_cons]
    refine (hs x List.mem_cons_self a b h).bind fun s t hst => ?_
    -- the loops go on together from related states, or stop together
    cases hst with
    | done h' => exact .ok h'
    | yield h' => exact Tally.forIn xs (fun y hy => hs y (List.mem_cons_of_mem _ hy)) h'

end Tally

theorem ok_bind {a : α} {f : α → Eval β} : (Except.ok a >>= f) = f a := rfl

/-- A computation that is never ignored, followed by steps that are never ignored, is never
ignored. -/
theorem ne_ignore_bind {x : Eval α} {f : α → Eval β} (hx : x ≠ .error .ignore)
    (hf : ∀ a, f a ≠ .error .ignore) : x >>= f ≠ .error .ignore := by
  rcases x with (fl | _) | a
  · simp [bind, Except.bind]
  · exact absurd rfl hx
  · exact hf a

theorem mapM_ne_ignore {f : α → Eval β} (hf : ∀ a, f a ≠ .error .ignore) :
    ∀ l : List α, l.mapM f ≠ .error .ignore
  | [] => by simp [pure, Except.pure]
  | a :: l => by
    rw [List.mapM_cons]
    exact ne_ignore_bind (hf a) fun b =>
      ne_ignore_bind (mapM_ne_ignore hf l) fun bs => by simp [pure, Except.pure]

end Agreeing

/-! ## Reading a row is never ignored

Only a trigger ignores, and reading the columns and the sort values of a row runs none: what
the read of a document row does beyond the filters of the count either gives a value or fails. -/

namespace Sql

theorem liftFailure_ne_ignore {α : Type} (x : Except EngineFailure α) :
    liftFailure x ≠ .error .ignore := by
  rcases x with f | a
  · have hf : liftFailure (.error f : Except EngineFailure α) = .error (.failure f) := rfl
    rw [hf]
    intro h
    cases h
  · have ha : liftFailure (.ok a : Except EngineFailure α) = .ok a := rfl
    rw [ha]
    intro h
    cases h

theorem constantName_ne_ignore (n : String) : Scope.constantName n ≠ .error .ignore := by
  unfold Scope.constantName
  split
  · simp
  · split <;> simp [Stop.error]

theorem unqualified_ne_ignore (n : String) :
    ∀ levels : List (List Frame), Scope.unqualified n levels ≠ .error .ignore
  | [] => constantName_ne_ignore n
  | lvl :: rest => by
    have ih := unqualified_ne_ignore n rest
    unfold Scope.unqualified
    dsimp only
    -- the name is found on this level, ambiguous there, or looked up one level out
    split
    · split <;> simp [Stop.error]
    · split
      · split <;> simp
      · simp [Stop.error]
    · split
      · split
        · split
          · simp
          · exact ih
        · simp [Stop.error]
        · exact ih
      · exact ih

theorem Scope.column_ne_ignore (sc : Scope) (n : String) : sc.column none n ≠ .error .ignore :=
  unqualified_ne_ignore n sc.levels

end Sql

namespace Tables

theorem readColumn_ne_ignore (t : Table) (r : Reached) (rd : Reading) (n : String) :
    readColumn t r rd n ≠ .error .ignore := by
  unfold readColumn
  refine ne_ignore_bind (liftFailure_ne_ignore _) fun rd' => ?_
  split <;> simp [throw, throwThe, MonadExceptOf.throw, Stop.error, pure, Except.pure]

theorem readColumns_ne_ignore (t : Table) (r : Reached) :
    ∀ (rd : Reading) (ns : List String), readColumns t r rd ns ≠ .error .ignore
  | _, [] => by simp [readColumns]
  | rd, n :: ns => by
    rw [readColumns]
    refine ne_ignore_bind (readColumn_ne_ignore t r rd n) fun p => ?_
    obtain ⟨v, rd'⟩ := p
    refine ne_ignore_bind (readColumns_ne_ignore t r rd' ns) fun p => ?_
    obtain ⟨vs, rd''⟩ := p
    simp [pure, Except.pure]

/-- The sort values of a row of an unordered query, its collection and id, are never ignored. -/
theorem sortKeys_nil_ne_ignore (sc : Sql.Scope) (enc : TextEncoding) :
    sortKeys sc enc [] ≠ .error .ignore := by
  unfold sortKeys
  refine ne_ignore_bind (by simp [pure, Except.pure]) fun _ => ?_
  refine ne_ignore_bind (sc.column_ne_ignore _) fun _ => ?_
  refine ne_ignore_bind (sc.column_ne_ignore _) fun _ => ?_
  simp [pure, Except.pure]

theorem viewValue_ne_ignore (cols : List (String × SqlValue)) (n : String) :
    viewValue cols n ≠ .error .ignore := by
  unfold viewValue
  split <;> simp [Stop.error]

/-! ## The count reaches the rows the query reaches -/

section Choices

variable {β : Type}

/-- A fold that at each element takes it or keeps what it has ends with its start or with one
of the elements. -/
theorem foldl_pick_mem {step : Option β → β → Option β}
    (hstep : ∀ best c, step best c = some c ∨ step best c = best) :
    ∀ (l : List β) (init : Option β) {x : β}, l.foldl step init = some x → init = some x ∨ x ∈ l
  | [], _, _, h => .inl h
  | c :: l, init, x, h => by
    rcases foldl_pick_mem hstep l (step init c) h with h' | h'
    · rcases hstep init c with hc | hc
      · exact .inr (by rw [hc] at h'; cases h'; exact List.mem_cons_self)
      · exact .inl (hc ▸ h')
    · exact .inr (List.mem_cons_of_mem _ h')

/-- A fold that takes the first element and keeps it against every other ends with the first
element. -/
theorem foldl_keep_first {step : Option β → β → Option β} (hnone : ∀ c, step none c = some c)
    {l : List β} (hkeep : ∀ b ∈ l, ∀ c ∈ l, step (some b) c = some b) :
    l.foldl step none = l.head? := by
  cases l with
  | nil => rfl
  | cons b l =>
    rw [List.foldl_cons, hnone]
    have hb : ∀ c ∈ l, step (some b) c = some b := fun c hc =>
      hkeep b List.mem_cons_self c (List.mem_cons_of_mem _ hc)
    -- the first element survives every later one
    suffices ∀ l' : List β, (∀ c ∈ l', step (some b) c = some b) → l'.foldl step (some b) = some b from
      this l hb
    intro l' hl'
    induction l' with
    | nil => rfl
    | cons c l' ih =>
      rw [List.foldl_cons, hl' c List.mem_cons_self]
      exact ih fun c' hc' => hl' c' (List.mem_cons_of_mem _ hc')

end Choices

/-- The documents table has no index a plan may use but indexes on its key: the collection and
then the id, both ascending, under the columns' own collations. The store's table is so: its key
is its primary key, and every other index the store makes has a condition. -/
def KeyIndexed (tables : Tables) : Prop :=
  ∀ t, tables.schema.table? "documents" = some t → ∀ i ∈ usableIndexes tables.schema t,
    ∃ c d pc pd, t.columnIndex? "collection_id" = some c ∧ t.columnIndex? "doc_id" = some d ∧
      i.parts = [pc, pd] ∧ partIsColumn t pc c = true ∧ partIsColumn t pd d = true ∧
      pc.desc = false ∧ pd.desc = false

theorem lookupIndex_mem {s : Schema} {t : Table} {ks : List Nat} {i : Index} {m : List Nat}
    (h : lookupIndex s t ks = some (i, m)) : i ∈ usableIndexes s t := by
  unfold lookupIndex at h
  have hpick := foldl_pick_mem ?hstep _ _ h
  case hstep =>
    intro best c
    cases best with
    | none => exact .inl rfl
    | some b => dsimp only; split <;> simp
  rcases hpick with h' | h'
  · cases h'
  · obtain ⟨i', hi', hsome⟩ := List.mem_filterMap.1 h'
    dsimp only at hsome
    split at hsome
    · cases hsome
    · cases hsome
      exact hi'

theorem partIsColumn_column {t : Table} {p : KeyPart} {k : Nat} (h : partIsColumn t p k = true) :
    p.column = .column k := by
  unfold partIsColumn at h
  split at h
  · rename_i j hj
    simp only [Bool.and_eq_true, beq_iff_eq] at h
    rw [hj, h.1]
  · cases h

section KeyIndexed

variable {tables : Tables} {t : Table}

/-- On a table indexed by its key alone, the smallest index holding the collection is the first
usable index. -/
theorem coveringIndex_eq_head (hkeys : tables.KeyIndexed) (ht : tables.schema.table? "documents" = some t)
    {c : Nat} (hc : t.columnIndex? "collection_id" = some c) :
    coveringIndex tables.schema t c = (usableIndexes tables.schema t).head? := by
  unfold coveringIndex
  have hparts : ∀ i ∈ usableIndexes tables.schema t, ∃ pc pd, i.parts = [pc, pd] ∧
      pc.column = .column c := by
    intro i hi
    obtain ⟨c', d, pc, pd, hc', -, hp, hpc, -⟩ := hkeys t ht i hi
    rw [hc] at hc'
    cases hc'
    exact ⟨pc, pd, hp, partIsColumn_column hpc⟩
  dsimp only
  -- every usable index holds the collection, and all are of one size
  rw [List.filter_eq_self.2 ?hold]
  case hold =>
    intro i hi
    obtain ⟨pc, pd, hp, hpc⟩ := hparts i hi
    simp [hp, hpc]
  refine foldl_keep_first (fun _ => rfl) fun b hb i hi => ?_
  obtain ⟨_, _, hb', -⟩ := hparts b hb
  obtain ⟨_, _, hi', -⟩ := hparts i hi
  simp [hb', hi']

/-- On a table indexed by its key alone, the index that orders by collection and id is the first
usable index. -/
theorem orderingIndex_eq_head (hkeys : tables.KeyIndexed) (ht : tables.schema.table? "documents" = some t)
    {c d : Nat} (hc : t.columnIndex? "collection_id" = some c) (hd : t.columnIndex? "doc_id" = some d) :
    orderingIndex tables.schema t [c, d] = (usableIndexes tables.schema t).head? := by
  unfold orderingIndex
  cases hu : usableIndexes tables.schema t with
  | nil => rfl
  | cons i rest =>
    obtain ⟨c', d', pc, pd, hc', hd', hp, hpc, hpd, hdc, hdd⟩ := hkeys t ht i (hu ▸ List.mem_cons_self)
    rw [hc] at hc'
    rw [hd] at hd'
    cases hc'
    cases hd'
    simp [hp, hpc, hpd, hdc, hdd]

/-- On a table indexed by its key alone, the count and the unordered query reach their rows the
same way: by the same access, which tests the source filter for both or for neither. The query
may seek its collection in the order of the key, which is the order the count seeks it in. -/
theorem documentAccess_count (hkeys : tables.KeyIndexed) (ht : tables.schema.table? "documents" = some t)
    (src : Option (Filter × List SqlValue)) :
    (tables.documentAccess t src true false .asc).access =
        (tables.documentAccess t src false true .asc).access ∧
      (tables.documentAccess t src true false .asc).seeks =
        (tables.documentAccess t src false true .asc).seeks := by
  unfold documentAccess
  dsimp only
  cases hci : t.columnIndex? "collection_id" with
  | none =>
    rcases src with _ | ⟨f, bs⟩
    · exact ⟨rfl, rfl⟩
    · cases f <;> exact ⟨rfl, rfl⟩
  | some c =>
    rcases src with _ | ⟨f, bs⟩
    · exact ⟨rfl, rfl⟩
    cases f with
    | collectionIs =>
      -- the collection is sought in a key index, whose id column is ascending
      dsimp only
      cases hl : lookupIndex tables.schema t [c] with
      | none => exact ⟨rfl, rfl⟩
      | some im =>
        obtain ⟨i, m⟩ := im
        obtain ⟨_, d, _, pd, -, hd, hp, -, hpd, -, hdd⟩ := hkeys t ht i (lookupIndex_mem hl)
        simp [hp, hd, hpd, hdd]
    | inGroup =>
      dsimp only
      rw [coveringIndex_eq_head hkeys ht hci]
      cases hd : t.columnIndex? "doc_id" with
      | none =>
        -- without an id column no index is usable
        have hu : usableIndexes tables.schema t = [] := List.eq_nil_iff_forall_not_mem.2 fun i hi => by
          obtain ⟨-, d, -, -, -, hd', -⟩ := hkeys t ht i hi
          rw [hd] at hd'
          cases hd'
        simp [hu]
      | some d =>
        dsimp only
        rw [orderingIndex_eq_head hkeys ht hci hd]
        cases (usableIndexes tables.schema t).head? <;> exact ⟨rfl, rfl⟩
    | _ => exact ⟨rfl, rfl⟩

end KeyIndexed

/-! ## The count names no column the query does not

Before it reads a row the engine resolves the names a statement reads; the count's are those of
its filters, which the query reads too. -/

theorem Piece.column_mem_of_mem_readsFrom {n : String} :
    ∀ {start : Nat} {ps : List Piece} {k : Nat}, (n, k) ∈ Piece.readsFrom start ps → Piece.column n ∈ ps
  | _, [], _, h => by simp [Piece.readsFrom] at h
  | start, .plain s :: ps, k, h => by
    rw [Piece.readsFrom] at h
    exact List.mem_cons_of_mem _ (column_mem_of_mem_readsFrom h)
  | start, .column m :: ps, k, h => by
    rw [Piece.readsFrom, List.mem_cons] at h
    rcases h with h | h
    · cases h
      exact List.mem_cons_self
    · exact List.mem_cons_of_mem _ (column_mem_of_mem_readsFrom h)

theorem Piece.exists_mem_readsFrom {n : String} :
    ∀ (start : Nat) {ps : List Piece}, Piece.column n ∈ ps → ∃ k, (n, k) ∈ Piece.readsFrom start ps
  | _, [], h => by cases h
  | start, .plain s :: ps, h => by
    rw [Piece.readsFrom]
    exact exists_mem_readsFrom _ (List.mem_of_ne_of_mem (by simp) h)
  | start, .column m :: ps, h => by
    rw [Piece.readsFrom]
    rcases List.mem_cons.1 h with h | h
    · cases h
      exact ⟨start, List.mem_cons_self⟩
    · obtain ⟨k, hk⟩ := exists_mem_readsFrom (start + m.utf8ByteSize) h
      exact ⟨k, List.mem_cons_of_mem _ hk⟩

/-- Every column the count names, the unordered query names too. -/
theorem column_mem_selectDocuments {fs : List Filter} {keys : List SortKey} {tiebreak : Direction}
    {limited : Bool} {n : String} (h : Piece.column n ∈ (Statement.countDocuments fs).pieces) :
    Piece.column n ∈ (Statement.selectDocuments fs keys tiebreak limited).pieces := by
  simp only [Statement.pieces, List.mem_append] at h ⊢
  rcases h with h | h
  · simp at h
  · simp [h]

variable {tables : Tables}

/-- Resolving the names of a statement that names no column another does not is ignored when
resolving the other's is, and passes when the other's passes. -/
theorem resolveNames_agrees {name : String} {s s' : Statement}
    (hsub : ∀ n, Piece.column n ∈ s'.pieces → Piece.column n ∈ s.pieces) :
    Tally (fun _ _ => True) (tables.resolveNames name s) (tables.resolveNames name s') := by
  unfold resolveNames
  dsimp only
  -- both statements are resolved against the same names
  refine (Tally.refl _).bind fun r _ hr => ?_
  subst hr
  cases r <;> refine (Tally.refl _).bind fun known _ hk => ?_ <;> subst hk
  all_goals
    split
    · exact .fail _ _
    · split
      · -- a name the second statement reads is missing, and so is it for the first
        rename_i hnone _ n k hsome
        have hmem := List.mem_of_find?_eq_some hsome
        obtain ⟨k', hk'⟩ := Piece.exists_mem_readsFrom 0
          (hsub n (Piece.column_mem_of_mem_readsFrom hmem))
        have hmiss := List.find?_some hsome
        have hknown := List.find?_eq_none.1 hnone _ hk'
        simp only at hmiss hknown
        exact absurd hmiss hknown
      · exact .ok trivial

/-! ## The count counts the rows the query reads -/

/-- From a documents table indexed by its key alone, the count counts the rows the unordered
query reads: it walks the same rows, tests the same filters on each and counts the rows that
pass them, where the query goes on to read them. -/
theorem selectFromTable_agrees_count {t : Table} (hkeys : tables.KeyIndexed)
    (ht : tables.schema.table? "documents" = some t) (fs : List Filter) (bs : List SqlValue) :
    Tally (fun rows n => n = rows.length) (tables.selectFromTable t fs [] .asc false bs)
      (tables.countDocuments fs bs) := by
  have hrel : tables.relation "documents" = .ok (.table t) := by simp [relation, ht]
  unfold selectFromTable countDocuments
  generalize splitBindings fs bs = split
  obtain ⟨pairs, leftover⟩ := split
  dsimp only
  rw [hrel, ok_bind]
  dsimp only
  obtain ⟨hacc, hseeks⟩ := documentAccess_count hkeys ht pairs.head?
  rw [List.isEmpty_nil, ← hacc, ← hseeks]
  refine (Tally.forIn (R := fun rows n => n = rows.length) _ ?_ rfl).bind fun rows n hn => ?_
  · -- each row passes the filters for both or for neither, and the query reads the rows that do
    intro r _ rows n hn
    refine (Tally.refl _).bind fun v w hvw => ?_
    subst hvw
    obtain ⟨ok, rd⟩ := v
    cases ok
    · exact .ok (.yield hn)
    · refine Tally.bind_left (readColumns_ne_ignore _ _ _ _) fun p => ?_
      obtain ⟨vals, rd'⟩ := p
      refine Tally.bind_left (liftFailure_ne_ignore _) fun rd'' => ?_
      refine Tally.bind_left (sortKeys_nil_ne_ignore _ _) fun sk => ?_
      exact .ok (.yield (by simp [hn]))
  · exact .ok (by split <;> simp [applyLimit, hn])

/-- From a documents view, the count counts the rows the unordered query reads: both test the
same filters on the view's rows in turn. -/
theorem selectFromView_agrees_count {v : View} (hv : tables.relation "documents" = .ok (.view v))
    (fs : List Filter) (bs : List SqlValue) :
    Tally (fun rows n => n = rows.length) (tables.selectFromView v fs [] .asc false bs)
      (tables.countDocuments fs bs) := by
  unfold selectFromView countDocuments
  generalize splitBindings fs bs = split
  obtain ⟨pairs, leftover⟩ := split
  dsimp only
  rw [hv, ok_bind]
  dsimp only
  refine (Tally.refl (viewRows tables v)).bind fun rs _ hrs => ?_
  subst hrs
  refine (Tally.forIn (R := fun rows n => n = rows.length) _ ?_ rfl).bind fun rows n hn => ?_
  · intro x _ rows n hn
    obtain ⟨sc, cols⟩ := x
    dsimp only
    -- the filters pass the row for both or for neither
    refine (Tally.forIn (R := Eq) _ ?_ rfl).bind fun ok ok' hok => ?_
    · intro fb _ ok ok' hok
      subst hok
      obtain ⟨f, b⟩ := fb
      cases ok
      · exact .ok (.yield rfl)
      · refine (Tally.refl _).bind fun h _ hh => ?_
        subst hh
        cases h <;> exact .ok (.yield rfl)
    · subst hok
      cases ok
      · exact .ok (.yield hn)
      · refine Tally.bind_left (mapM_ne_ignore (viewValue_ne_ignore cols) _) fun vals => ?_
        refine Tally.bind_left (sortKeys_nil_ne_ignore _ _) fun sk => ?_
        exact .ok (.yield (by simp [hn]))
  · exact .ok (by simp [applyLimit, hn])

theorem relation_ne_ignore (tables : Tables) (name : String) :
    tables.relation name ≠ .error .ignore := by
  unfold relation
  split
  · simp
  · split <;> simp [Stop.error]

theorem table?_of_relation {name : String} {t : Table}
    (h : tables.relation name = .ok (.table t)) : tables.schema.table? name = some t := by
  unfold relation at h
  split at h
  · cases h
    assumption
  · split at h <;> cases h

/-- Reading the unordered query and reading its count agree: the count's one row holds the
number of rows the query reads. -/
theorem read_agrees_count (hkeys : tables.KeyIndexed) (fs : List Filter) (bs : List SqlValue) :
    Tally (fun rows counted => counted = [⟨[("count", .integer rows.length)]⟩])
      (tables.read (.selectDocuments fs [] .asc false) bs) (tables.read (.countDocuments fs) bs) := by
  unfold read
  dsimp only
  refine (resolveNames_agrees fun _ => column_mem_selectDocuments).bind fun _ _ _ => ?_
  -- the query reads from the relation the count counts in, and the count wraps its number
  rcases hr : tables.relation "documents" with e | (t | v)
  · rcases e with f | _
    · exact .fail f _
    · exact absurd hr (relation_ne_ignore _ _)
  · exact (selectFromTable_agrees_count hkeys (table?_of_relation hr) fs bs).map
      fun rows n hn => by rw [hn]
  · exact (selectFromView_agrees_count hr fs bs).map fun rows n hn => by rw [hn]

/-- When the engine runs the unordered query to rows, it runs its count, which changes nothing,
to their number; when a trigger ends the query with no rows, it ends the count alike. -/
theorem execute_count_of_select (hkeys : tables.KeyIndexed) {fs : List Filter} {bs : List SqlValue}
    {readOnly : Bool} {t' : Tables} {changes : List Change} {rows : List Row}
    (h : tables.execute (.selectDocuments fs [] .asc false) bs readOnly = .ok (t', changes, rows)) :
    ∃ counted, tables.execute (.countDocuments fs) bs readOnly = .ok (tables, [], counted) ∧
      countOfRows counted = .ok rows.length := by
  unfold execute at h ⊢
  simp only [writes, Bool.false_eq_true, if_false] at h ⊢
  have hag := read_agrees_count hkeys fs (bs.map tables.encoding.conformValue)
  rcases hr : tables.read (.selectDocuments fs [] .asc false) (bs.map tables.encoding.conformValue)
    with (f | _) | rows'
  · rw [hr] at h
    cases h
  · -- ignored: no rows, and the count is ignored too
    rw [hr] at h hag
    cases h
    refine ⟨[], ?_, rfl⟩
    rw [hag.ignore_left]
  · rw [hr] at h hag
    cases h
    obtain ⟨counted, hc, rfl⟩ := hag.ok_left
    refine ⟨_, by rw [hc], ?_⟩
    simp [countOfRows, Row.integer, Row.get?, bind, Except.bind, pure, Except.pure]

end Tables

/-! ## Counts agree with the unpaged query -/

/-- Counting a query agrees with reading it without its orderings and limits. Compiling the count
fails exactly when compiling the unpaged query fails, with the same error. And on a database
whose documents table is indexed by its key alone, whenever the engine runs the unpaged query to
rows that read as documents, it runs the count, which changes nothing, to the number of those
documents. -/
theorem count_matches_unpaged_query (q : Query) (tables : Tables) (readOnly : Bool)
    (hkeys : tables.KeyIndexed) :
    (∀ e, q.compileCount = .error e ↔ q.filtersOnly.compile = .error e) ∧
    ∀ c c' t' changes rows docs, q.compileCount = .ok c → q.filtersOnly.compile = .ok c' →
      tables.execute c'.statement c'.bindings readOnly = .ok (t', changes, rows) →
      c'.documents rows = .ok docs →
      ∃ counted, tables.execute c.statement c.bindings readOnly = .ok (tables, [], counted) ∧
        countOfRows counted = .ok docs.length := by
  refine ⟨fun _ => Query.compileCount_eq_error_iff, ?_⟩
  intro c c' t' changes rows docs hc hc' hrun hdocs
  -- both compile the filters of the query, with the same bindings
  obtain ⟨fs, bs, hp, rfl⟩ := Query.compile_filtersOnly_eq_ok hc'
  obtain ⟨fs', bs', hp', rfl⟩ := Query.compileCount_eq_ok hc
  rw [hp] at hp'
  cases hp'
  rw [CompiledQuery.length_documents hdocs]
  exact Tables.execute_count_of_select hkeys hrun

/-- The agreement on the store's documents table, with its primary key as its only index, for a
query of one collection that is ordered and limited. -/
theorem count_matches_unpaged_query_on_key_index :
    let text : String → Column := fun n =>
      { name := n, typeName := "TEXT", affinity := .text, notNull := true }
    let documents : Table :=
      { name := "documents", columns := [text "collection_id", text "doc_id", text "data"] }
    let key : Index :=
      { name := "sqlite_autoindex_documents_1", table := "documents",
        parts := [{ column := .column 0 }, { column := .column 1 }], unique := true,
        automatic := true, primaryKey := true }
    let tables : Tables := { schema := { tables := [documents], indexes := [key] } }
    let q : Query := ⟨.collection ⟨"c"⟩, [.orderBy "a" .desc, .limit 2]⟩
    tables.KeyIndexed ∧ ((∀ e, q.compileCount = .error e ↔ q.filtersOnly.compile = .error e) ∧
      ∀ c c' t' changes rows docs, q.compileCount = .ok c → q.filtersOnly.compile = .ok c' →
        tables.execute c'.statement c'.bindings false = .ok (t', changes, rows) →
        c'.documents rows = .ok docs →
        ∃ counted, tables.execute c.statement c.bindings false = .ok (tables, [], counted) ∧
          countOfRows counted = .ok docs.length) := by
  intro text documents key tables q
  have hkeys : tables.KeyIndexed := by
    intro t ht i hi
    have hdoc : tables.schema.table? "documents" = some documents := by
      simp [tables, documents, Schema.table?, sameName]
    rw [hdoc] at ht
    cases ht
    have hu : usableIndexes tables.schema documents = [key] := by
      simp [usableIndexes, Schema.indexesOf, tables, documents, key, sameName]
    rw [hu, List.mem_singleton] at hi
    subst hi
    have hc : documents.columnIndex? "collection_id" = some 0 := by
      simp only [documents, text, Table.columnIndex?]
      decide
    have hd : documents.columnIndex? "doc_id" = some 1 := by
      simp only [documents, text, Table.columnIndex?]
      decide
    exact ⟨0, 1, _, _, hc, hd, rfl, rfl, rfl, rfl, rfl⟩
  exact ⟨hkeys, count_matches_unpaged_query q tables false hkeys⟩

end DocStore
