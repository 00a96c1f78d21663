import DocStore.Query.Compile
/-!
# Which queries compile

`Query.compile` first checks the shape of a query with `Query.validate` and then builds its
filters, its sort keys and its limit. The rules `validate` enforces are written here as a table,
`Constraint.breach`: the first rule a constraint breaks, tried in the order the engine of the
store tries them (for a `where`: its field path, then its `in` operand, then the ordering of an
inequality). `Query.Valid` states the same rules for a whole query in the words of the store's
documentation.

* `Query.validate_eq_ok_iff`: a query passes the check exactly when it is valid;
* `Query.validate_eq_error_iff`: otherwise the check reports the breach of the first constraint
  that has one;
* `Query.compile_eq_error_iff`: compiling fails exactly when the check does, with its error,
  because building the filters and sort keys fails only on what the check has ruled out.

The first two rest on one fact about traversals in `Except`: a traversal fails with the failure
of the first element that fails (`forM_eq_error_iff`).
-/

namespace DocStore

/-! ## Traversals that stop at the first failure -/

section Traversal

variable {α β ε : Type}

theorem forM_eq_ok_iff {f : α → Except ε Unit} :
    ∀ {l : List α}, forM l f = .ok () ↔ ∀ a ∈ l, f a = .ok ()
  | [] => by simp [pure, Except.pure]
  | a :: l => by
    rw [List.forM_cons]
    rcases h : f a with e | ⟨⟩
    · simp [h, bind, Except.bind]
    · simp [h, bind, Except.bind, forM_eq_ok_iff]

/-- A check of every element fails exactly with the failure of the first element that fails. -/
theorem forM_eq_error_iff {f : α → Except ε Unit} {e : ε} :
    ∀ {l : List α}, forM l f = .error e ↔
      ∃ pre a post, l = pre ++ a :: post ∧ (∀ b ∈ pre, f b = .ok ()) ∧ f a = .error e
  | [] => by
    simp only [List.forM_nil, pure, Except.pure, reduceCtorEq, false_iff, not_exists, not_and]
    intro pre a post h
    exact absurd h.symm (List.append_ne_nil_of_right_ne_nil pre (List.cons_ne_nil a post))
  | a :: l => by
    rw [List.forM_cons]
    rcases h : f a with e' | ⟨⟩
    · -- the head fails: it is the first failure
      simp only [bind, Except.bind, Except.error.injEq]
      constructor
      · rintro rfl
        exact ⟨[], a, l, rfl, by simp, h⟩
      · rintro ⟨pre, b, post, hl, hpre, hb⟩
        cases pre with
        | nil =>
          obtain ⟨rfl, -⟩ := List.cons.inj hl
          rw [h] at hb
          exact Except.error.inj hb
        | cons c pre =>
          obtain ⟨rfl, -⟩ := List.cons.inj hl
          rw [hpre _ List.mem_cons_self] at h
          cases h
    · -- the head passes: the first failure is in the tail
      simp only [bind, Except.bind, forM_eq_error_iff]
      constructor
      · rintro ⟨pre, b, post, rfl, hpre, hb⟩
        refine ⟨a :: pre, b, post, rfl, ?_, hb⟩
        rintro c (_ | ⟨_, hc⟩)
        · exact h
        · exact hpre c hc
      · rintro ⟨pre, b, post, hl, hpre, hb⟩
        cases pre with
        | nil =>
          obtain ⟨rfl, -⟩ := List.cons.inj hl
          rw [h] at hb
          cases hb
        | cons c pre =>
          obtain ⟨rfl, rfl⟩ := List.cons.inj hl
          exact ⟨pre, b, post, rfl, fun d hd => hpre d (List.mem_cons_of_mem _ hd), hb⟩

/-- A selection of every element fails only when it fails on one of them. -/
theorem filterMapM_ne_error {g : α → Except ε (Option β)} :
    ∀ {l : List α}, (∀ a ∈ l, ∃ r, g a = .ok r) → ∀ e, l.filterMapM g ≠ .error e
  | [], _, e => by simp [List.filterMapM_nil, pure, Except.pure]
  | a :: l, h, e => by
    obtain ⟨r, hr⟩ := h a List.mem_cons_self
    have ih := filterMapM_ne_error (l := l) fun b hb => h b (List.mem_cons_of_mem _ hb)
    rw [List.filterMapM_cons, hr]
    rcases hrs : l.filterMapM g with e' | rs
    · exact absurd hrs (ih e')
    · cases r <;> simp [bind, Except.bind, pure, Except.pure]

end Traversal

/-! ## The rules of query shape -/

/-- A dotted field path whose segments are all non-empty and free of double quotes. -/
def FieldPath.Valid (field : String) : Prop :=
  ∀ s ∈ field.splitOn ".", s ≠ "" ∧ '"' ∉ s.toList

instance FieldPath.decidableValid (field : String) : Decidable (FieldPath.Valid field) :=
  inferInstanceAs (Decidable (∀ s ∈ field.splitOn ".", s ≠ "" ∧ '"' ∉ s.toList))

theorem segmentValid_iff {s : String} : segmentValid s = true ↔ s ≠ "" ∧ '"' ∉ s.toList := by
  simp [segmentValid]

theorem FieldPath.parse_eq (field : String) :
    FieldPath.parse field = if FieldPath.Valid field then .ok ⟨field, field.splitOn "."⟩
      else .error (.invalid (.fieldPath field)) := by
  have hall : (field.splitOn ".").all segmentValid = true ↔ FieldPath.Valid field := by
    simp only [List.all_eq_true, segmentValid_iff, FieldPath.Valid]
  unfold FieldPath.parse
  by_cases h : FieldPath.Valid field
  · simp [hall.2 h, h]
  · have : (field.splitOn ".").all segmentValid = false := by simpa [← hall] using h
    simp [this, h]

/-- Whether a value is an array with at least one element. -/
def Value.isNonEmptyArray : Value → Bool
  | .arr (_ :: _) => true
  | _ => false

theorem Query.inOperand_ok (field : String) {v : Value} (h : v.isNonEmptyArray = true) :
    ∃ vs, Query.inOperand field v = .ok vs := by
  unfold Query.inOperand
  split
  · exact ⟨_, rfl⟩
  · rename_i hne
    rcases v with _ | _ | _ | _ | (_ | ⟨x, xs⟩) | _ <;> simp_all [Value.isNonEmptyArray]

theorem Query.inOperand_error {field : String} {v : Value} (h : v.isNonEmptyArray = false) :
    Query.inOperand field v = .error (.invalid (.inOperand field)) := by
  unfold Query.inOperand
  split
  · simp [Value.isNonEmptyArray] at h
  · rfl

/-- The first rule of query shape a constraint breaks, when the query's first ordering is on
`first`, in the order the rules are checked: a `where` needs a valid field path, then (for `in`)
a non-empty array, then (for an inequality) to be on the field of the first ordering; an
`orderBy` needs a valid field path; `limitToLast` needs an ordering. -/
def Constraint.breach (first : Option String) : Constraint → Option Invalid
  | .filter field op value =>
    if ¬FieldPath.Valid field then some (.fieldPath field)
    else if op = .isIn ∧ value.isNonEmptyArray = false then some (.inOperand field)
    else match first with
      | some f => if op.isInequality ∧ f ≠ field then some (.inequalityOrder field op.name f) else none
      | none => none
  | .orderBy field _ => if FieldPath.Valid field then none else some (.fieldPath field)
  | .limitToLast _ => if first.isSome then none else some .limitToLastWithoutOrder
  | .limit _ => none

namespace Query

/-- Checking one constraint fails exactly with its breach. -/
theorem checkConstraint_eq (first : Option String) (c : Constraint) :
    checkConstraint first c = match c.breach first with
      | none => .ok ()
      | some i => .error (.invalid i) := by
  cases c with
  | filter field op value =>
    simp only [checkConstraint, Constraint.breach, FieldPath.parse_eq]
    by_cases hp : FieldPath.Valid field
    · simp only [hp, not_true_eq_false, ite_false]
      by_cases hin : op = .isIn
      · -- an `in` filter checks its operand, and is no inequality
        subst hin
        cases hv : value.isNonEmptyArray
        · simp [inOperand_error hv, bind, Except.bind]
        · obtain ⟨vs, h⟩ := inOperand_ok field hv
          cases first <;> simp [h, WhereOp.isInequality, bind, Except.bind, pure, Except.pure]
      · simp only [hin, ite_false, false_and]
        cases first with
        | none => cases op.isInequality <;> rfl
        | some f =>
          by_cases hi : op.isInequality = true <;> by_cases hf : f = field <;>
            simp [hi, hf, bind, Except.bind, pure, Except.pure, throw, throwThe, MonadExceptOf.throw]
    · simp [hp, bind, Except.bind]
  | orderBy field _ =>
    simp only [checkConstraint, Constraint.breach, FieldPath.parse_eq]
    by_cases hp : FieldPath.Valid field <;> simp [hp, bind, Except.bind, pure, Except.pure]
  | limitToLast _ =>
    simp only [checkConstraint, Constraint.breach]
    cases first <;> rfl
  | limit _ => rfl

theorem checkConstraint_eq_ok_iff {first : Option String} {c : Constraint} :
    checkConstraint first c = .ok () ↔ c.breach first = none := by
  rw [checkConstraint_eq]
  cases c.breach first <;> simp

theorem checkConstraint_eq_error_iff {first : Option String} {c : Constraint} {e : StoreError} :
    checkConstraint first c = .error e ↔ ∃ i, c.breach first = some i ∧ e = .invalid i := by
  rw [checkConstraint_eq]
  cases c.breach first <;> simp [eq_comm]

/-! ## The first ordering -/

/-- The first ordering of a query is the first `orderBy` among its constraints. -/
theorem firstOrder?_eq_some_iff {q : Query} {f : String} :
    q.firstOrder? = some f ↔ ∃ pre d post, q.constraints = pre ++ .orderBy f d :: post ∧
      ∀ c ∈ pre, ∀ g d', c ≠ .orderBy g d' := by
  unfold firstOrder?
  rw [List.findSome?_eq_some_iff]
  constructor
  · rintro ⟨pre, c, post, hl, hc, hpre⟩
    cases c with
    | orderBy g d =>
      cases hc
      refine ⟨pre, d, post, hl, fun c hc g' d' h => ?_⟩
      simpa [h] using hpre c hc
    | _ => cases hc
  · rintro ⟨pre, d, post, hl, hpre⟩
    refine ⟨pre, .orderBy f d, post, hl, rfl, fun c hc => ?_⟩
    cases c with
    | orderBy g d' => exact absurd rfl (hpre _ hc g d')
    | _ => rfl

theorem firstOrder?_eq_none_iff {q : Query} :
    q.firstOrder? = none ↔ ∀ f d, .orderBy f d ∉ q.constraints := by
  unfold firstOrder?
  rw [List.findSome?_eq_none_iff]
  constructor
  · intro h f d hmem
    simpa using h _ hmem
  · intro h c hc
    cases c with
    | orderBy f d => exact absurd hc (h f d)
    | _ => rfl

/-! ## Valid queries -/

/-- The shape rules of a query, as the store documents them. -/
structure Valid (q : Query) : Prop where
  /-- Every `where` field is a valid field path. -/
  filterPaths : ∀ f op v, .filter f op v ∈ q.constraints → FieldPath.Valid f
  /-- Every `orderBy` field is a valid field path. -/
  orderPaths : ∀ f d, .orderBy f d ∈ q.constraints → FieldPath.Valid f
  /-- Every `in` operand is a non-empty array. -/
  inOperands : ∀ f v, .filter f .isIn v ∈ q.constraints → v.isNonEmptyArray = true
  /-- In an ordered query every inequality is on the field of the first ordering. -/
  inequalities : ∀ f op v g, .filter f op v ∈ q.constraints → op.isInequality = true →
    q.firstOrder? = some g → g = f
  /-- `limitToLast` needs an ordering. -/
  ordered : ∀ n, .limitToLast n ∈ q.constraints → ∃ f d, .orderBy f d ∈ q.constraints

theorem breach_filter_eq_none_iff {first : Option String} {f : String} {op : WhereOp}
    {v : Value} : (Constraint.filter f op v).breach first = none ↔
      FieldPath.Valid f ∧ (op = .isIn → v.isNonEmptyArray = true) ∧
      (op.isInequality = true → ∀ g, first = some g → g = f) := by
  simp only [Constraint.breach]
  by_cases hp : FieldPath.Valid f
  · rw [if_neg (Decidable.not_not.2 hp)]
    by_cases hin : op = .isIn ∧ v.isNonEmptyArray = false
    · obtain ⟨rfl, hv⟩ := hin
      simp [hv]
    · rw [if_neg hin]
      have hin' : op = .isIn → v.isNonEmptyArray = true := by simpa using hin
      cases first with
      | none => exact ⟨fun _ => ⟨hp, hin', fun _ g hg => absurd hg (Option.some_ne_none g).symm⟩, fun _ => rfl⟩
      | some g =>
        dsimp only
        by_cases hg : op.isInequality = true ∧ g ≠ f
        · rw [if_pos hg]
          simp only [reduceCtorEq, false_iff]
          exact fun h => hg.2 (h.2.2 hg.1 g rfl)
        · rw [if_neg hg]
          refine ⟨fun _ => ⟨hp, hin', fun hi g' hg' => ?_⟩, fun _ => rfl⟩
          cases hg'
          exact Decidable.byContradiction fun hne => hg ⟨hi, hne⟩
  · simp [hp]

/-- Every constraint is free of breaches exactly when the query is valid. -/
theorem breaches_eq_none_iff {q : Query} :
    (∀ c ∈ q.constraints, c.breach q.firstOrder? = none) ↔ q.Valid := by
  constructor
  · intro h
    refine ⟨fun f op v hc => (breach_filter_eq_none_iff.1 (h _ hc)).1,
      fun f d hc => ?_, fun f v hc => (breach_filter_eq_none_iff.1 (h _ hc)).2.1 rfl,
      fun f op v g hc hi hg => (breach_filter_eq_none_iff.1 (h _ hc)).2.2 hi g hg,
      fun n hc => ?_⟩
    · have := h _ hc
      simp only [Constraint.breach] at this
      split at this
      · assumption
      · cases this
    · have := h _ hc
      simp only [Constraint.breach] at this
      split at this
      · rename_i hs
        obtain ⟨g, hg⟩ := Option.isSome_iff_exists.1 hs
        obtain ⟨pre, d, post, hl, -⟩ := firstOrder?_eq_some_iff.1 hg
        exact ⟨g, d, by simp [hl]⟩
      · cases this
  · intro hv c hc
    cases c with
    | filter f op v =>
      exact breach_filter_eq_none_iff.2 ⟨hv.filterPaths f op v hc,
        fun hin => hv.inOperands f v (hin ▸ hc), fun hi g hg => hv.inequalities f op v g hc hi hg⟩
    | orderBy f d => simp [Constraint.breach, hv.orderPaths f d hc]
    | limitToLast n =>
      obtain ⟨f, d, hf⟩ := hv.ordered n hc
      have hsome : q.firstOrder?.isSome = true := by
        cases h : q.firstOrder? with
        | none => exact absurd hf (firstOrder?_eq_none_iff.1 h f d)
        | some _ => rfl
      simp [Constraint.breach, hsome]
    | limit n => rfl

/-- A query passes the shape check exactly when it is valid. -/
theorem validate_eq_ok_iff {q : Query} : q.validate = .ok () ↔ q.Valid := by
  unfold validate
  refine forM_eq_ok_iff.trans ?_
  simp only [checkConstraint_eq_ok_iff]
  exact breaches_eq_none_iff

/-- A query that fails the shape check fails with the breach of its first constraint that has
one. -/
theorem validate_eq_error_iff {q : Query} {e : StoreError} :
    q.validate = .error e ↔ ∃ pre c post i, q.constraints = pre ++ c :: post ∧
      (∀ c' ∈ pre, c'.breach q.firstOrder? = none) ∧ c.breach q.firstOrder? = some i ∧
      e = .invalid i := by
  unfold validate
  refine forM_eq_error_iff.trans ?_
  simp only [checkConstraint_eq_ok_iff, checkConstraint_eq_error_iff]
  constructor
  · rintro ⟨pre, c, post, hl, hpre, i, hi, rfl⟩
    exact ⟨pre, c, post, i, hl, hpre, hi, rfl⟩
  · rintro ⟨pre, c, post, i, hl, hpre, hi, rfl⟩
    exact ⟨pre, c, post, hl, hpre, i, hi, rfl⟩

/-! ## Compiling a valid query -/

/-- The filter of a `where` is built once its field path is valid and, for `in`, its operand is
a non-empty array. -/
theorem whereFilter_ok {field : String} {op : WhereOp} {value : Value}
    (hp : FieldPath.Valid field) (hin : op = .isIn → value.isNonEmptyArray = true) :
    ∃ r, whereFilter field op value = .ok r := by
  unfold whereFilter
  rw [FieldPath.parse_eq, if_pos hp]
  split
  case h_10 v =>
    obtain ⟨vs, hvs⟩ := inOperand_ok field (hin rfl)
    exact ⟨_, by rw [hvs]; rfl⟩
  -- every other operator builds its filter at once
  all_goals exact ⟨_, rfl⟩

/-- The filters of a query whose constraints have no breach are built. -/
theorem predicates_ok {q : Query} (h : ∀ c ∈ q.constraints, c.breach q.firstOrder? = none) :
    ∃ r, q.predicates = .ok r := by
  simp only [predicates, bind, Except.bind]
  split
  · rename_i e he
    refine absurd he (filterMapM_ne_error (fun c hc => ?_) e)
    cases c with
    | filter field op value =>
      obtain ⟨hp, hin, -⟩ := breach_filter_eq_none_iff.1 (h _ hc)
      obtain ⟨r, hr⟩ := whereFilter_ok hp hin
      exact ⟨some r, by simp [hr, Functor.map, Except.map]⟩
    | _ => exact ⟨none, rfl⟩
  · exact ⟨_, rfl⟩

/-- The sort keys of a query whose orderings have valid field paths are built, in either
direction. -/
theorem sortKeys_ok {q : Query} (h : ∀ c ∈ q.constraints, c.breach q.firstOrder? = none)
    (reverse : Bool) : ∃ keys, q.sortKeys reverse = .ok keys := by
  unfold sortKeys
  rcases hk : q.constraints.filterMapM _ with e | keys
  · refine absurd hk (filterMapM_ne_error (fun c hc => ?_) e)
    cases c with
    | orderBy field dir =>
      have hp : FieldPath.Valid field := by
        have := h _ hc
        simp only [Constraint.breach] at this
        split at this
        · assumption
        · cases this
      exact ⟨_, by dsimp only; rw [FieldPath.parse_eq, if_pos hp]; rfl⟩
    | _ => exact ⟨none, rfl⟩
  · exact ⟨keys, rfl⟩

/-- Compiling fails exactly when the shape check fails, and with its error. -/
theorem compile_eq_error_iff {q : Query} {e : StoreError} :
    q.compile = .error e ↔ q.validate = .error e := by
  rcases hv : q.validate with e' | ⟨⟩
  · simp [compile, hv, bind, Except.bind]
  · have hb := breaches_eq_none_iff.2 (validate_eq_ok_iff.1 hv)
    obtain ⟨⟨fs, bs⟩, hp⟩ := predicates_ok hb
    obtain ⟨keys, hk⟩ := sortKeys_ok hb (q.effectiveLimits.1.isNone && q.effectiveLimits.2.isSome)
    simp [compile, hv, hp, hk, bind, Except.bind, pure, Except.pure]

/-- A query compiles exactly when it is valid. When it is not, compiling reports the breach of
its first constraint that has one, checking each `where` for its field path, then its `in`
operand, then the ordering of an inequality. -/
theorem compile_error_iff_first_breach (q : Query) :
    (∀ e, q.compile = .error e ↔ q.validate = .error e) ∧
    (q.validate = .ok () ↔ q.Valid) ∧
    ∀ e, q.validate = .error e ↔ ∃ pre c post i, q.constraints = pre ++ c :: post ∧
      (∀ c' ∈ pre, c'.breach q.firstOrder? = none) ∧ c.breach q.firstOrder? = some i ∧
      e = .invalid i :=
  ⟨fun _ => compile_eq_error_iff, validate_eq_ok_iff, fun _ => validate_eq_error_iff⟩

end Query

end DocStore
