import DocStore.Engine.Session
/-!
# Running stateful computations

Jobs on the queue (`Job`) and statements at work (`Exec`) are both computations of
`ExceptT ε (StateM σ)`: a failure keeps the state it reached. `runFrom x s` is the outcome and
the final state of `x` started in `s`; the lemmas here take the combinators apart one at a
time, so that later proofs follow a job line by line without unfolding the monad.
-/

namespace DocStore

section Runs

variable {ε σ α β : Type}

/-- The outcome and the final state of a computation started in `s`. -/
def runFrom (x : ExceptT ε (StateM σ) α) (s : σ) : Except ε α × σ := x.run.run s

theorem runFrom_bind (x : ExceptT ε (StateM σ) α) (f : α → ExceptT ε (StateM σ) β) (s : σ) :
    runFrom (x >>= f) s = match runFrom x s with
      | (.ok a, s') => runFrom (f a) s'
      | (.error e, s') => (.error e, s') := by
  rcases h : runFrom x s with ⟨r, s'⟩
  cases r <;> simp only [runFrom, ExceptT.run_bind, StateT.run_bind] at h ⊢ <;> rw [h] <;> rfl

@[simp] theorem runFrom_pure (a : α) (s : σ) :
    runFrom (pure a : ExceptT ε (StateM σ) α) s = (.ok a, s) := rfl

@[simp] theorem runFrom_throw (e : ε) (s : σ) :
    runFrom (throw e : ExceptT ε (StateM σ) α) s = (.error e, s) := rfl

@[simp] theorem runFrom_get (s : σ) : runFrom (get : ExceptT ε (StateM σ) σ) s = (.ok s, s) := rfl

@[simp] theorem runFrom_set (s t : σ) :
    runFrom (set t : ExceptT ε (StateM σ) PUnit) s = (.ok ⟨⟩, t) := rfl

@[simp] theorem runFrom_modify (f : σ → σ) (s : σ) :
    runFrom (modify f : ExceptT ε (StateM σ) PUnit) s = (.ok ⟨⟩, f s) := rfl

theorem runFrom_tryCatch (x : ExceptT ε (StateM σ) α) (h : ε → ExceptT ε (StateM σ) α) (s : σ) :
    runFrom (tryCatch x h) s = match runFrom x s with
      | (.ok a, s') => (.ok a, s')
      | (.error e, s') => runFrom (h e) s' := by
  rcases hx : runFrom x s with ⟨r, s'⟩
  simp only [runFrom] at hx ⊢
  rw [ExceptT.run_tryCatch, StateT.run_bind, hx]
  cases r <;> rfl

theorem runFrom_map (f : α → β) (x : ExceptT ε (StateM σ) α) (s : σ) :
    runFrom (f <$> x) s = ((runFrom x s).1.map f, (runFrom x s).2) := by
  rcases hx : runFrom x s with ⟨r, s'⟩
  simp only [runFrom] at hx ⊢
  simp only [ExceptT.run_map, StateT.run_map, hx]
  cases r <;> rfl

/-- One turn of a loop over a list: the body on the head, then the rest unless it stopped. -/
theorem runFrom_forIn_cons (a : α) (as : List α) (b : β)
    (f : α → β → ExceptT ε (StateM σ) (ForInStep β)) (s : σ) :
    runFrom (forIn (a :: as) b f) s = match runFrom (f a b) s with
      | (.ok (.done b'), s') => (.ok b', s')
      | (.ok (.yield b'), s') => runFrom (forIn as b' f) s'
      | (.error e, s') => (.error e, s') := by
  rw [List.forIn_cons, runFrom_bind]
  rcases runFrom (f a b) s with ⟨r, s'⟩
  rcases r with e | (b' | b') <;> rfl

@[simp] theorem runFrom_forIn_nil (b : β) (f : α → β → ExceptT ε (StateM σ) (ForInStep β)) (s : σ) :
    runFrom (forIn ([] : List α) b f) s = (.ok b, s) := rfl

/-! ## Plain state computations

Store operations run in `StateM` alone; their binds take apart the same way. -/

theorem stateRun_bind (x : StateM σ α) (f : α → StateM σ β) (s : σ) :
    (x >>= f).run s = (f (x.run s).1).run (x.run s).2 := rfl

theorem stateRun_bind_of {x : StateM σ α} {s s' : σ} {a : α} (h : x.run s = (a, s'))
    (f : α → StateM σ β) : (x >>= f).run s = (f a).run s' := by
  rw [stateRun_bind, h]

@[simp] theorem stateRun_pure (a : α) (s : σ) : (Pure.pure a : StateM σ α).run s = (a, s) := rfl

@[simp] theorem stateRun_get (s : σ) : (get : StateM σ σ).run s = (s, s) := rfl

/-! ## Relations a computation keeps

`Holds R x` says that the state `x` ends in is related by `R` to the state it started in,
whatever the outcome. For a reflexive and transitive `R` the combinators keep it, so it is shown
once per primitive and then follows for every computation built from them. -/

/-- The final state of `x` is related by `R` to its start, whatever the outcome. -/
def Holds (R : σ → σ → Prop) (x : ExceptT ε (StateM σ) α) : Prop := ∀ s, R s (runFrom x s).2

section Holds

variable {R : σ → σ → Prop}

theorem Holds.pure [Std.Refl R] (a : α) : Holds R (Pure.pure a : ExceptT ε (StateM σ) α) :=
  fun s => Std.Refl.refl s

theorem Holds.throw [Std.Refl R] (e : ε) : Holds R (throw e : ExceptT ε (StateM σ) α) :=
  fun s => Std.Refl.refl s

theorem Holds.get [Std.Refl R] : Holds R (get : ExceptT ε (StateM σ) σ) :=
  fun s => Std.Refl.refl s

theorem Holds.bind [Trans R R R] {x : ExceptT ε (StateM σ) α} {f : α → ExceptT ε (StateM σ) β}
    (hx : Holds R x) (hf : ∀ a, Holds R (f a)) : Holds R (x >>= f) := by
  intro s
  rw [runFrom_bind]
  have h₁ := hx s
  rcases hrun : runFrom x s with ⟨r, s₁⟩
  rw [hrun] at h₁
  cases r with
  | error e => exact h₁
  | ok a => exact Trans.trans h₁ (hf a s₁)

theorem Holds.tryCatch [Trans R R R] {x : ExceptT ε (StateM σ) α}
    {h : ε → ExceptT ε (StateM σ) α} (hx : Holds R x) (hh : ∀ e, Holds R (h e)) :
    Holds R (tryCatch x h) := by
  intro s
  rw [runFrom_tryCatch]
  have h₁ := hx s
  rcases hrun : runFrom x s with ⟨r, s₁⟩
  rw [hrun] at h₁
  cases r with
  | error e => exact Trans.trans h₁ (hh e s₁)
  | ok a => exact h₁

theorem Holds.map {x : ExceptT ε (StateM σ) α} (f : α → β) (hx : Holds R x) :
    Holds R (f <$> x) := by
  intro s
  rw [runFrom_map]
  exact hx s

/-- A loop over a list keeps a relation that every turn of its body keeps. -/
theorem Holds.forIn [Std.Refl R] [Trans R R R] {l : List α} {b : β}
    {f : α → β → ExceptT ε (StateM σ) (ForInStep β)} (hf : ∀ a b, Holds R (f a b)) :
    Holds R (forIn l b f) := by
  induction l generalizing b with
  | nil => exact Holds.pure b
  | cons a rest ih =>
    intro s
    rw [runFrom_forIn_cons]
    have h₁ := hf a b s
    rcases hrun : runFrom (f a b) s with ⟨r, s₁⟩
    rw [hrun] at h₁
    rcases r with e | (b' | b')
    · exact h₁
    · exact h₁
    · exact Trans.trans h₁ (ih s₁)

/-- A traversal keeps a relation that every call of its function keeps. -/
theorem Holds.mapM [Std.Refl R] [Trans R R R] {f : α → ExceptT ε (StateM σ) β}
    (hf : ∀ a, Holds R (f a)) : ∀ l : List α, Holds R (l.mapM f)
  | [] => Holds.pure _
  | a :: l => by
    rw [List.mapM_cons]
    exact Holds.bind (hf a) fun _ => Holds.bind (Holds.mapM hf l) fun _ => Holds.pure _

theorem Holds.ite {c : Prop} [Decidable c] {x y : ExceptT ε (StateM σ) α} (hx : Holds R x)
    (hy : Holds R y) : Holds R (if c then x else y) := by
  split
  · exact hx
  · exact hy

/-- Every value that `x` returns satisfies `P`. -/
def Returns (P : α → Prop) (x : ExceptT ε (StateM σ) α) : Prop :=
  ∀ s a s', runFrom x s = (.ok a, s') → P a

theorem Returns.pure {P : α → Prop} {a : α} (h : P a) :
    Returns P (Pure.pure a : ExceptT ε (StateM σ) α) := by
  intro s b s' hrun
  cases hrun
  exact h

theorem Returns.bind {P : α → Prop} {Q : β → Prop} {x : ExceptT ε (StateM σ) α}
    {f : α → ExceptT ε (StateM σ) β} (hx : Returns P x) (hf : ∀ a, P a → Returns Q (f a)) :
    Returns Q (x >>= f) := by
  intro s b s' hrun
  rw [runFrom_bind] at hrun
  rcases h₁ : runFrom x s with ⟨(e | a), s₁⟩
  all_goals rw [h₁] at hrun
  · cases hrun
  · exact hf a (hx s a s₁ h₁) s₁ b s' hrun

/-- A bind keeps a relation when its continuation keeps it for the values the first part
returns. -/
theorem Holds.bind_of_returns [Trans R R R] {P : α → Prop} {x : ExceptT ε (StateM σ) α}
    {f : α → ExceptT ε (StateM σ) β} (hx : Holds R x) (hP : Returns P x)
    (hf : ∀ a, P a → Holds R (f a)) : Holds R (x >>= f) := by
  intro s
  rw [runFrom_bind]
  have h₁ := hx s
  rcases hrun : runFrom x s with ⟨r, s₁⟩
  rw [hrun] at h₁
  cases r with
  | error e => exact h₁
  | ok a => exact Trans.trans h₁ (hf a (hP s a s₁ hrun) s₁)

end Holds

end Runs

end DocStore
