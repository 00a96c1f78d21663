import DocStore.Proofs.CallTrace
import DocStore.Proofs.Transactions
/-!
# Crash-safe jobs retry a bounded, counted number of times

A crash-safe job runs in rounds (`Rounds`): each round opens the handle (`ensureOpen`) and runs
the job under the queue's crash handler (`guarded`). A round ends the job when opening fails, or
when the job ends without a crash; after a crash the session is recovered (`recover`: the engine
is reset and the handle opened again) and the next round starts, as long as retries are left. A
failed recovery ends the job with its failure. `safeAttempts_rounds` shows that the queue's loop
runs exactly such rounds, whatever its fuel, and `Rounds.unique` that the rounds from a session are
determined.

What the rounds say about a job built from statement runs (`Closure`):

* the job runs at most `crashRetries + 1` times, and runs again only after a crash; what its
  last run gave, unless it crashed, is the result (`Rounds.length_le`, `Rounds.crashed_dropLast`,
  `Rounds.eq_of_getLast`);
* the loop gives up with a crash only after `crashRetries + 1` runs that all crashed
  (`Rounds.crash_exhausted`): opening and recovering fail with other failures
  (`ensureOpen_failsWithoutCrash`, `recover_failsWithoutCrash`), though either may stop
  abruptly, which the queue reports as a crash too (`submitSafe_crash_after_one_run`);
* the engine is reset once per retry, and once more when the session had crashed before the job
  (`Rounds.resets`), since opening resets only a crashed session and nothing else resets;
* a job that succeeds leaves the handle open (`Rounds.ok_opened`).

`submitSafe_retries_accounted` puts these together for the queue's crash-safe submission.
-/

namespace DocStore

open Session

/-! ## Resets of the engine -/

namespace Session

/-- The engine was not reset. -/
def NoReset (s s' : Session) : Prop := s'.plan.resets = s.plan.resets

instance refl_noReset : Std.Refl NoReset := ⟨fun _ => rfl⟩

instance trans_noReset : Trans NoReset NoReset NoReset := ⟨fun h₁ h₂ => h₂.trans h₁⟩

@[simp] theorem resets_fire (p : FaultPlan) (t : String) : (p.fire t).2.resets = p.resets := rfl

theorem engineOpen_noReset : Holds NoReset engineOpen := by
  intro s
  rcases h : runFrom engineOpen s with ⟨r, s'⟩
  simp only [engineOpen, runFrom_bind, runFrom_get, updatePlan, runFrom_modify] at h
  -- only the counters of opens and failing opens move, and the file
  split at h
  · split at h <;> simp [runFrom_bind, Job.fail] at h <;> obtain ⟨rfl, rfl⟩ := h <;> rfl
  · split at h
    · simp at h
      obtain ⟨rfl, rfl⟩ := h
      rfl
    · simp at h
      obtain ⟨rfl, rfl⟩ := h
      rfl
    · split at h
      · simp at h
        obtain ⟨rfl, rfl⟩ := h
        rfl
      · simp [Job.fail] at h
        obtain ⟨rfl, rfl⟩ := h
        rfl

theorem engineRun_noReset (c : Connection) (st : BoundStatement) : Holds NoReset (engineRun c st) := by
  intro s
  rcases hrun : runFrom (engineRun c st) s with ⟨(u | ⟨c', rows⟩), s'⟩
  · rw [engineRun_error hrun]
    exact resets_fire _ _
  · obtain ⟨d, -, rfl⟩ := engineRun_ok hrun
    exact resets_fire _ _

theorem removeBackingFile_noReset : Holds NoReset removeBackingFile := by
  intro s
  simp only [removeBackingFile, runFrom_bind, runFrom_updatePlan, runFrom_get]
  split <;> rfl

theorem tryOpen_noReset : Holds NoReset tryOpen := by
  unfold tryOpen
  refine Holds.bind Holds.get (fun _ => Holds.bind engineOpen_noReset (fun c => ?_))
  refine Holds.bind (engineRun_noReset c _) (fun ⟨c₁, _⟩ => ?_)
  exact Holds.bind (engineRun_noReset c₁ _) (fun ⟨c₂, _⟩ => Holds.pure c₂)

theorem openAttempts_noReset (total : Nat) :
    ∀ n last, Holds NoReset (openAttempts total n last)
  | 0, _ => Holds.bind Holds.get (fun _ => Holds.throw _)
  | n + 1, _ => by
    unfold openAttempts
    refine Holds.bind (Holds.attempt tryOpen_noReset) (fun o => ?_)
    cases o with
    | ok c => exact fun _ => rfl
    | error e =>
      dsimp only
      split
      · exact Holds.bind removeBackingFile_noReset (fun _ => openAttempts_noReset total n (some e))
      · exact openAttempts_noReset total n (some e)

theorem openWithRetry_noReset : Holds NoReset openWithRetry := by
  unfold openWithRetry
  refine Holds.bind Holds.get (fun s => ?_)
  split
  · exact Holds.throw _
  · exact openAttempts_noReset _ _ _

theorem isOpen_noReset : Holds NoReset isOpen := fun s => by
  rw [runFrom_isOpen]
  rfl

theorem run_noReset (st : BoundStatement) : Holds NoReset (run st) := by
  intro s
  rcases hrun : runFrom (run st) s with ⟨r, s'⟩
  rcases run_cases hrun with ⟨-, rfl, -⟩ | ⟨c, -, hcases⟩
  · rfl
  -- setting or dropping the handle leaves the plan the engine left
  have hn : ∀ {r₀ s₀}, runFrom (engineRun c st) s = (r₀, s₀) → NoReset s s₀ := fun he => by
    have := engineRun_noReset c st s
    rw [he] at this
    exact this
  rcases hcases with ⟨c', rows, s₀, he, -, rfl⟩ | ⟨s₀, he, -, rfl⟩ |
    ⟨e, s₀, he, ⟨-, -, rfl⟩ | ⟨-, -, rfl⟩⟩
  all_goals
    have hs₀ := hn he
    exact hs₀

theorem runTransaction_noReset (stmts : List BoundStatement) :
    Holds NoReset (runTransaction stmts) := by
  unfold runTransaction
  refine Holds.bind (run_noReset _) (fun _ => Holds.bind (Holds.attempt ?_) (fun r => ?_))
  · exact Holds.bind (Holds.forIn (fun st _ => Holds.bind (run_noReset st) (fun _ => Holds.pure _)))
      (fun _ => Holds.bind (run_noReset _) (fun _ => Holds.pure _))
  · cases r with
    | ok => exact Holds.pure ()
    | error e =>
      refine Holds.bind isOpen_noReset (fun b => ?_)
      split
      · exact Holds.bind (Holds.attempt (run_noReset _)) (fun _ => Holds.throw _)
      · exact Holds.throw _

/-- Recovering resets the engine once, whether the handle opens again or not. -/
theorem recover_resets (s : Session) :
    (runFrom recover s).2.plan.resets = s.plan.resets + 1 := by
  unfold recover
  rw [runFrom_bind, runFrom_close]
  dsimp only
  rw [runFrom_bind, runFrom_updatePlan]
  dsimp only
  rw [runFrom_bind]
  have hopen := openWithRetry_noReset
    { s with handle := .closed, file := s.settled, plan := { s.plan with resets := s.plan.resets + 1 } }
  rcases hrun : runFrom openWithRetry
    { s with handle := .closed, file := s.settled, plan := { s.plan with resets := s.plan.resets + 1 } }
    with ⟨(u | ⟨⟩), s₃⟩
  all_goals rw [hrun] at hopen
  · exact hopen
  · dsimp only
    rw [runFrom_modify]
    exact hopen

/-- Opening resets the engine exactly when the session had crashed. -/
theorem ensureOpen_resets (s : Session) :
    (runFrom ensureOpen s).2.plan.resets =
      s.plan.resets + (if s.handle.kind = .crashed then 1 else 0) := by
  unfold ensureOpen
  rw [runFrom_bind, runFrom_get]
  dsimp only
  cases hh : s.handle with
  | opened c => simp [HandleState.kind]
  | closed => simpa [HandleState.kind, NoReset] using openWithRetry_noReset s
  | crashed => simpa [HandleState.kind] using recover_resets s

end Session

theorem guarded_noReset {α : Type} {j : Job α} (h : Holds NoReset j) : Holds NoReset (guarded j) := by
  intro s
  have hj := h s
  rw [runFrom_guarded]
  rcases hr : runFrom j s with ⟨(u | a), s'⟩
  all_goals rw [hr] at hj
  · cases u with
    | panic => exact hj
    | fail e => exact hj
  · exact hj

/-- A job built from statement runs never resets the engine. -/
theorem Closure.job_noReset {α : Type} : ∀ c : Closure α, Holds NoReset c.job
  | .done a => Holds.pure a
  | .stop u => Holds.throw u
  | .run st next => Holds.bind (run_noReset st) fun rows => (next rows).job_noReset
  | .transaction stmts next => Holds.bind (runTransaction_noReset stmts) fun _ => next.job_noReset

/-! ## Handles left open -/

namespace Session

/-- A job that succeeds leaves the handle open. -/
def OkOpened {α : Type} (j : Job α) : Prop :=
  ∀ s a s', runFrom j s = (.ok a, s') → s'.handle.kind = .opened

theorem OkOpened.throw {α : Type} (u : Unwind) : OkOpened (throw u : Job α) := by
  intro s a s' h
  cases h

theorem OkOpened.bind {α β : Type} (x : Job α) {f : α → Job β} (hf : ∀ a, OkOpened (f a)) :
    OkOpened (x >>= f) := by
  intro s b s' h
  rw [runFrom_bind] at h
  rcases hx : runFrom x s with ⟨(u | a), s₁⟩
  all_goals rw [hx] at h
  · cases h
  · exact hf a s₁ b s' h

/-- A job that ends with a value after one that leaves the handle open. -/
theorem OkOpened.bind_pure {α β : Type} {x : Job α} (hx : OkOpened x) (b : β) :
    OkOpened (x >>= fun _ => pure b) := by
  intro s b' s' h
  rw [runFrom_bind] at h
  rcases hr : runFrom x s with ⟨(u | a), s₁⟩
  all_goals rw [hr] at h
  · cases h
  · cases h
    exact hx s a _ hr

/-- A statement that succeeds ran on the open handle, which stays open. -/
theorem run_okOpened (st : BoundStatement) : OkOpened (run st) := by
  intro s rows s' h
  obtain ⟨c, c', d, -, -, rfl⟩ := run_ok h
  rfl

/-- A transaction that succeeds committed, on the open handle. -/
theorem runTransaction_okOpened (stmts : List BoundStatement) : OkOpened (runTransaction stmts) := by
  have hbody : OkOpened (do
      forIn stmts PUnit.unit fun st _ => do
        let _ ← run st
        pure (ForInStep.yield PUnit.unit)
      let _ ← run ⟨.commit, []⟩
      pure () : Job Unit) :=
    OkOpened.bind _ fun _ => (run_okOpened _).bind_pure ()
  intro s u s' h
  unfold runTransaction at h
  rw [runFrom_bind] at h
  rcases hb : runFrom (run ⟨.beginTransaction, []⟩) s with ⟨(v | rows), s₁⟩
  all_goals rw [hb] at h
  · cases h
  dsimp only at h
  rw [runFrom_bind, runFrom_attempt] at h
  rcases hr : runFrom (do
      forIn stmts PUnit.unit fun st _ => do
        let _ ← run st
        pure (ForInStep.yield PUnit.unit)
      let _ ← run ⟨.commit, []⟩
      pure () : Job Unit) s₁ with ⟨(v | ⟨⟩), s₂⟩
  all_goals rw [hr] at h
  · -- a failed body is reported as a failure, never as success
    rcases v with e | _
    · exact absurd h (afterBody_ne_ok e _ _)
    · cases h
  · cases h
    exact hbody s₁ () _ hr

/-- Open attempts that succeed leave the handle open on the connection they made. -/
theorem openAttempts_okOpened (total : Nat) : ∀ n last, OkOpened (openAttempts total n last)
  | 0, _ => OkOpened.bind _ fun _ => OkOpened.throw _
  | n + 1, _ => by
    unfold openAttempts
    refine OkOpened.bind _ fun o => ?_
    cases o with
    | ok c =>
      intro s a s' h
      rw [runFrom_modify] at h
      cases h
      rfl
    | error e =>
      dsimp only
      split
      · exact OkOpened.bind _ fun _ => openAttempts_okOpened total n (some e)
      · exact openAttempts_okOpened total n (some e)

theorem openWithRetry_okOpened : OkOpened openWithRetry := by
  unfold openWithRetry
  refine OkOpened.bind _ fun s => ?_
  split
  · exact OkOpened.throw _
  · exact openAttempts_okOpened _ _ _

/-- A recovery that succeeds leaves the handle open. -/
theorem recover_okOpened : OkOpened recover := by
  unfold recover
  refine OkOpened.bind _ fun _ => OkOpened.bind _ fun _ => ?_
  intro s a s' h
  rw [runFrom_bind] at h
  rcases ho : runFrom openWithRetry s with ⟨(u | ⟨⟩), s₁⟩
  all_goals rw [ho] at h
  · cases h
  · dsimp only at h
    rw [runFrom_modify] at h
    cases h
    exact openWithRetry_okOpened s () s₁ ho

/-- Opening that succeeds leaves the handle open, whatever state it was in. -/
theorem ensureOpen_okOpened : OkOpened ensureOpen := by
  intro s a s' h
  unfold ensureOpen at h
  rw [runFrom_bind, runFrom_get] at h
  dsimp only at h
  cases hh : s.handle with
  | opened c =>
    rw [hh] at h
    cases h
    rw [hh]
    rfl
  | closed =>
    rw [hh] at h
    exact openWithRetry_okOpened s a s' h
  | crashed =>
    rw [hh] at h
    exact recover_okOpened s a s' h

/-! ## Opening fails without a crash -/

/-- A job that fails does so with a failure other than a crash (it may still stop abruptly). -/
def FailsWithoutCrash {α : Type} (j : Job α) : Prop :=
  ∀ s e s', runFrom j s = (.error (.fail e), s') → e ≠ .engineCrashed

theorem FailsWithoutCrash.of_holds {α : Type} {j : Job α}
    (h : ∀ s e s', runFrom j s ≠ (.error (.fail e), s')) : FailsWithoutCrash j :=
  fun s e s' hr => absurd hr (h s e s')

theorem FailsWithoutCrash.bind {α β : Type} {x : Job α} {f : α → Job β}
    (hx : FailsWithoutCrash x) (hf : ∀ a, FailsWithoutCrash (f a)) :
    FailsWithoutCrash (x >>= f) := by
  intro s e s' h
  rw [runFrom_bind] at h
  rcases hr : runFrom x s with ⟨(u | a), s₁⟩
  all_goals rw [hr] at h
  · cases h
    exact hx s e _ hr
  · exact hf a s₁ e s' h

theorem FailsWithoutCrash.attempt {α : Type} (j : Job α) : FailsWithoutCrash (Job.attempt j) := by
  refine FailsWithoutCrash.of_holds fun s e s' h => ?_
  rw [runFrom_attempt] at h
  rcases hj : runFrom j s with ⟨((e' | _) | a), s₁⟩ <;> rw [hj] at h <;> cases h

theorem FailsWithoutCrash.never {α : Type} {j : Job α} (h : ∀ s, ∃ a, (runFrom j s).1 = .ok a) :
    FailsWithoutCrash j :=
  FailsWithoutCrash.of_holds fun s e s' hr => by
    obtain ⟨a, ha⟩ := h s
    rw [hr] at ha
    cases ha

theorem openAttempts_failsWithoutCrash (total : Nat) :
    ∀ n last, FailsWithoutCrash (openAttempts total n last)
  | 0, _ => by
    intro s e s' h
    simp only [openAttempts, runFrom_bind, runFrom_get, Job.fail, runFrom_throw,
      Prod.mk.injEq, Except.error.injEq, Unwind.fail.injEq] at h
    rw [← h.1]
    exact StoreError.noConfusion
  | n + 1, _ => by
    unfold openAttempts
    refine (FailsWithoutCrash.attempt _).bind fun o => ?_
    cases o with
    | ok c => exact FailsWithoutCrash.never fun _ => ⟨(), rfl⟩
    | error e =>
      dsimp only
      split
      · exact (FailsWithoutCrash.never fun s => ⟨(), by
          simp only [removeBackingFile, runFrom_bind, runFrom_updatePlan, runFrom_get]
          split <;> rfl⟩).bind fun _ => openAttempts_failsWithoutCrash total n (some e)
      · exact openAttempts_failsWithoutCrash total n (some e)

theorem openWithRetry_failsWithoutCrash : FailsWithoutCrash openWithRetry := by
  unfold openWithRetry
  refine (FailsWithoutCrash.never fun s => ⟨s, rfl⟩).bind fun s => ?_
  split
  · intro s' e s'' h
    simp only [Job.fail, runFrom_throw, Prod.mk.injEq, Except.error.injEq, Unwind.fail.injEq] at h
    rw [← h.1]
    exact StoreError.noConfusion
  · exact openAttempts_failsWithoutCrash _ _ _

theorem recover_failsWithoutCrash : FailsWithoutCrash recover := by
  unfold recover
  refine (FailsWithoutCrash.never fun s => ⟨(), by rw [runFrom_close]⟩).bind fun _ => ?_
  refine (FailsWithoutCrash.never fun s => ⟨(), rfl⟩).bind fun _ => ?_
  exact openWithRetry_failsWithoutCrash.bind fun _ => FailsWithoutCrash.never fun _ => ⟨(), rfl⟩

theorem ensureOpen_failsWithoutCrash : FailsWithoutCrash ensureOpen := by
  unfold ensureOpen
  refine (FailsWithoutCrash.never fun s => ⟨s, rfl⟩).bind fun s => ?_
  split
  · exact FailsWithoutCrash.never fun _ => ⟨(), rfl⟩
  · exact openWithRetry_failsWithoutCrash
  · exact recover_failsWithoutCrash

end Session

/-- A job built from statement runs leaves an open handle open when it succeeds. -/
theorem Closure.job_keepsOpened {α : Type} :
    ∀ (c : Closure α) {s : Session} {a : α} {s' : Session}, s.handle.kind = .opened →
      runFrom c.job s = (.ok a, s') → s'.handle.kind = .opened
  | .done a, _, _, _, hs, h => by
    cases h
    exact hs
  | .stop u, _, _, _, _, h => by cases h
  | .run st next, s, a, s', _, h => by
    simp only [Closure.job] at h
    rw [runFrom_bind] at h
    rcases hr : runFrom (Session.run st) s with ⟨(u | rows), s₁⟩
    all_goals rw [hr] at h
    · cases h
    · exact (next rows).job_keepsOpened (run_okOpened st s rows s₁ hr) h
  | .transaction stmts next, s, a, s', _, h => by
    simp only [Closure.job] at h
    rw [runFrom_bind] at h
    rcases hr : runFrom (Session.runTransaction stmts) s with ⟨(u | ⟨⟩), s₁⟩
    all_goals rw [hr] at h
    · cases h
    · exact next.job_keepsOpened (runTransaction_okOpened stmts s () s₁ hr) h

/-! ## The rounds of a crash-safe job -/

/-- The rounds of the crash-safe job `j`, with `r` retries allowed, started from session `s` with
`n` retries used: the job ran once per entry of `runs`, which holds what each run gave (an abrupt
stop already reported as a crash), `m` retries were used in the end, and the rounds ended with
`res` in session `s'`. -/
inductive Rounds {α : Type} (j : Job α) (r : Nat) :
    Nat → Session → List (Except Unwind α) → Nat → Except Unwind α → Session → Prop
  /-- Opening the handle fails or stops abruptly: the job does not run. -/
  | openFails {n : Nat} {s s' : Session} {u : Unwind} :
      runFrom ensureOpen s = (.error u, s') → Rounds j r n s [] n (.error u) s'
  /-- The job runs and ends without a crash: what it gave ends the rounds. -/
  | finish {n : Nat} {s t s' : Session} {o : Except Unwind α} :
      runFrom ensureOpen s = (.ok (), t) → runFrom (guarded j) t = (o, s') →
      o ≠ .error (.fail .engineCrashed) → Rounds j r n s [o] n o s'
  /-- The job crashes with no retry left: the crash ends the rounds. -/
  | giveUp {n : Nat} {s t s' : Session} :
      runFrom ensureOpen s = (.ok (), t) →
      runFrom (guarded j) t = (.error (.fail .engineCrashed), s') → r ≤ n →
      Rounds j r n s [.error (.fail .engineCrashed)] n (.error (.fail .engineCrashed)) s'
  /-- The job crashes and recovering fails or stops abruptly: that ends the rounds. -/
  | recoverFails {n : Nat} {s t u s' : Session} {v : Unwind} :
      runFrom ensureOpen s = (.ok (), t) →
      runFrom (guarded j) t = (.error (.fail .engineCrashed), u) → n < r →
      runFrom recover u = (.error v, s') →
      Rounds j r n s [.error (.fail .engineCrashed)] (n + 1) (.error v) s'
  /-- The job crashes, the session is recovered, and the next round starts. -/
  | retry {n m : Nat} {s t u v s' : Session} {runs : List (Except Unwind α)}
      {res : Except Unwind α} :
      runFrom ensureOpen s = (.ok (), t) →
      runFrom (guarded j) t = (.error (.fail .engineCrashed), u) → n < r →
      runFrom recover u = (.ok (), v) → Rounds j r (n + 1) v runs m res s' →
      Rounds j r n s (.error (.fail .engineCrashed) :: runs) m res s'

/-- The queue's retry loop runs the rounds of its job: with fuel beyond the retries left, the fuel
never runs out. -/
theorem safeAttempts_rounds {α : Type} (j : Job α) (r : Nat) :
    ∀ fuel n {s : Session} {res : Except Unwind α} {s' : Session}, n ≤ r → r < n + fuel →
      runFrom (safeAttempts j r fuel n) s = (res, s') → ∃ runs m, Rounds j r n s runs m res s'
  | 0, _, _, _, _, hn, hfuel, _ => absurd hfuel (by omega)
  | fuel + 1, n, s, res, s', hn, hfuel, h => by
    unfold safeAttempts at h
    rw [runFrom_bind, runFrom_attempt, runFrom_bind] at h
    rcases ho : runFrom ensureOpen s with ⟨(u | ⟨⟩), t⟩
    all_goals rw [ho] at h
    · -- opening failed, never with a crash, or stopped abruptly: that ends the rounds
      rcases u with e | _
      · have hne := ensureOpen_failsWithoutCrash s e t ho
        dsimp only at h
        split at h
        · rename_i hok
          cases hok
        · rename_i hcrash
          cases hcrash
          exact absurd rfl hne
        · rename_i e' hother
          cases hother
          cases h
          exact ⟨[], n, .openFails ho⟩
      · cases h
        exact ⟨[], n, .openFails ho⟩
    · dsimp only at h
      rcases hg : runFrom (guarded j) t with ⟨(u | a), t'⟩
      all_goals rw [hg] at h
      · rcases u with e | _
        · dsimp only at h
          by_cases hc : e = .engineCrashed
          · -- a crash: recover and go on while retries are left
            subst hc
            dsimp only at h
            by_cases hlt : n < r
            · rw [if_pos hlt, runFrom_bind] at h
              rcases hrec : runFrom recover t' with ⟨(v | ⟨⟩), v'⟩
              all_goals rw [hrec] at h
              · cases h
                exact ⟨_, n + 1, .recoverFails ho hg hlt hrec⟩
              · obtain ⟨runs, m, hr⟩ := safeAttempts_rounds j r fuel (n + 1) (by omega) (by omega) h
                exact ⟨_, m, .retry ho hg hlt hrec hr⟩
            · rw [if_neg hlt] at h
              cases h
              exact ⟨_, n, .giveUp ho hg (by omega)⟩
          · -- any other failure of the job ends the rounds
            split at h
            · rename_i hok
              cases hok
            · rename_i hcrash
              cases hcrash
              exact absurd rfl hc
            · rename_i e' hother
              cases hother
              cases h
              exact ⟨_, n, .finish ho hg (fun heq => hc (by cases heq; rfl))⟩
        · exact absurd (by rw [hg]) (guarded_ne_panic j t)
      · cases h
        exact ⟨_, n, .finish ho hg (fun heq => by cases heq)⟩

namespace Rounds

variable {α : Type} {j : Job α} {r n m : Nat} {s s' : Session} {runs : List (Except Unwind α)}
  {res : Except Unwind α}

/-- The job runs at most once more than the retries left. -/
theorem length_le (h : Rounds j r n s runs m res s') (hn : n ≤ r) : runs.length + n ≤ r + 1 := by
  induction h with
  | openFails => simp only [List.length_nil]; omega
  | finish => simp only [List.length_singleton]; omega
  | giveUp => simp only [List.length_singleton]; omega
  | recoverFails => simp only [List.length_singleton]; omega
  | retry _ _ hlt _ _ ih =>
    have := ih (by omega)
    simp only [List.length_cons]
    omega

/-- The retries used only grow, and never beyond those allowed. -/
theorem retries_le (h : Rounds j r n s runs m res s') (hn : n ≤ r) : n ≤ m ∧ m ≤ r := by
  induction h with
  | openFails | finish | giveUp => omega
  | recoverFails _ _ hlt => omega
  | retry _ _ hlt _ _ ih =>
    have := ih (by omega)
    omega

/-- The job runs again only after a crash. -/
theorem crashed_dropLast (h : Rounds j r n s runs m res s') :
    ∀ o ∈ runs.dropLast, o = .error (.fail .engineCrashed) := by
  induction h with
  | openFails | finish | giveUp | recoverFails => simp
  | @retry _ _ _ _ _ _ _ runs _ _ _ _ _ _ ih =>
    intro o ho
    cases runs with
    | nil => simp at ho
    | cons x xs =>
      rw [List.dropLast_cons_cons] at ho
      rcases List.mem_cons.1 ho with rfl | ho
      · rfl
      · exact ih o ho

/-- What the last run gave, unless it crashed, is what the rounds ended with. -/
theorem eq_of_getLast (h : Rounds j r n s runs m res s') {o : Except Unwind α}
    (hlast : runs.getLast? = some o) (ho : o ≠ .error (.fail .engineCrashed)) : res = o := by
  induction h with
  | openFails => cases hlast
  | finish =>
    cases hlast
    rfl
  | giveUp | recoverFails =>
    cases hlast
    exact absurd rfl ho
  | @retry _ _ _ _ _ _ _ runs _ _ _ _ _ _ ih =>
    cases runs with
    | nil =>
      cases hlast
      exact absurd rfl ho
    | cons x xs =>
      rw [List.getLast?_cons_cons] at hlast
      exact ih hlast

/-- The rounds give up with a crash only when every run crashed and no retry was left. -/
theorem crash_exhausted (h : Rounds j r n s runs m res s')
    (hres : res = .error (.fail .engineCrashed)) (hn : n ≤ r) :
    runs.length + n = r + 1 ∧ ∀ o ∈ runs, o = .error (.fail .engineCrashed) := by
  induction h with
  | @openFails _ s₀ s₁ u ho =>
    cases hres
    exact absurd rfl (ensureOpen_failsWithoutCrash s₀ _ s₁ ho)
  | finish _ _ hne => exact absurd hres hne
  | giveUp _ _ hle =>
    refine ⟨by simp only [List.length_singleton]; omega, fun o ho => ?_⟩
    rw [List.mem_singleton.1 ho]
  | @recoverFails _ _ _ u₀ s₁ v _ _ _ hrec =>
    cases hres
    exact absurd rfl (recover_failsWithoutCrash u₀ _ s₁ hrec)
  | retry _ _ hlt _ _ ih =>
    obtain ⟨hlen, hall⟩ := ih hres (by omega)
    refine ⟨by simp only [List.length_cons]; omega, fun o ho => ?_⟩
    rcases List.mem_cons.1 ho with rfl | ho
    · rfl
    · exact hall o ho

/-- The engine is reset once per retry, and once more when the session had crashed before. -/
theorem resets (h : Rounds j r n s runs m res s') (hj : Holds NoReset j) :
    s'.plan.resets + n = s.plan.resets + m + (if s.handle.kind = .crashed then 1 else 0) := by
  induction h with
  | @openFails _ s₀ _ _ ho =>
    have := ensureOpen_resets s₀
    rw [ho] at this
    dsimp only at this
    omega
  | @finish _ s₀ t _ _ ho hg =>
    have hopen := ensureOpen_resets s₀
    have hjob := guarded_noReset hj t
    rw [ho] at hopen
    rw [hg] at hjob
    dsimp only at hopen hjob
    unfold NoReset at hjob
    omega
  | @giveUp _ s₀ t _ ho hg =>
    have hopen := ensureOpen_resets s₀
    have hjob := guarded_noReset hj t
    rw [ho] at hopen
    rw [hg] at hjob
    dsimp only at hopen hjob
    unfold NoReset at hjob
    omega
  | @recoverFails _ s₀ t u₀ _ _ ho hg _ hrec =>
    have hopen := ensureOpen_resets s₀
    have hjob := guarded_noReset hj t
    have hrecover := recover_resets u₀
    rw [ho] at hopen
    rw [hg] at hjob
    rw [hrec] at hrecover
    dsimp only at hopen hjob hrecover
    unfold NoReset at hjob
    omega
  | @retry _ _ s₀ t u₀ v _ _ _ ho hg _ hrec _ ih =>
    have hopen := ensureOpen_resets s₀
    have hjob := guarded_noReset hj t
    have hrecover := recover_resets u₀
    -- a successful recovery leaves the handle open, so the next round does not reset
    have hv : v.handle.kind = .opened := recover_okOpened u₀ () v hrec
    rw [ho] at hopen
    rw [hg] at hjob
    rw [hrec] at hrecover
    dsimp only at hopen hjob hrecover
    unfold NoReset at hjob
    rw [hv] at ih
    simp only [reduceCtorEq, if_false, Nat.add_zero] at ih
    omega

/-- Rounds that end with a value leave the handle open, for a job that keeps an open handle
open when it succeeds. -/
theorem ok_opened (h : Rounds j r n s runs m res s') {a : α} (hres : res = .ok a)
    (hj : ∀ {t : Session} {a : α} {t' : Session}, t.handle.kind = .opened →
      runFrom j t = (.ok a, t') → t'.handle.kind = .opened) : s'.handle.kind = .opened := by
  induction h with
  | openFails => cases hres
  | @finish _ s₀ t _ _ ho hg =>
    subst hres
    exact hj (ensureOpen_okOpened s₀ () t ho) (guarded_ok hg)
  | giveUp | recoverFails => cases hres
  | retry _ _ _ _ _ ih => exact ih hres

/-- The rounds are determined by where they start. -/
theorem unique (h : Rounds j r n s runs m res s') {runs₂ : List (Except Unwind α)} {m₂ : Nat}
    {res₂ : Except Unwind α} {s₂ : Session} (h₂ : Rounds j r n s runs₂ m₂ res₂ s₂) :
    runs = runs₂ ∧ m = m₂ ∧ res = res₂ ∧ s' = s₂ := by
  -- each step of a round is a run of a job from a known session, so two rounds take the same
  -- steps; they part only on the retry bound, which the same `n` decides the same way
  induction h generalizing runs₂ m₂ res₂ s₂ with
  | openFails ho =>
    cases h₂ with
    | openFails ho₂ =>
      cases ho.symm.trans ho₂
      exact ⟨rfl, rfl, rfl, rfl⟩
    | finish ho₂ | giveUp ho₂ | recoverFails ho₂ | retry ho₂ => cases ho.symm.trans ho₂
  | finish ho hg hne =>
    cases h₂ with
    | openFails ho₂ => cases ho.symm.trans ho₂
    | finish ho₂ hg₂ =>
      cases ho.symm.trans ho₂
      cases hg.symm.trans hg₂
      exact ⟨rfl, rfl, rfl, rfl⟩
    | giveUp ho₂ hg₂ | recoverFails ho₂ hg₂ | retry ho₂ hg₂ =>
      cases ho.symm.trans ho₂
      cases hg.symm.trans hg₂
      exact absurd rfl hne
  | giveUp ho hg hle =>
    cases h₂ with
    | openFails ho₂ => cases ho.symm.trans ho₂
    | finish ho₂ hg₂ hne₂ =>
      cases ho.symm.trans ho₂
      cases hg.symm.trans hg₂
      exact absurd rfl hne₂
    | giveUp ho₂ hg₂ =>
      cases ho.symm.trans ho₂
      cases hg.symm.trans hg₂
      exact ⟨rfl, rfl, rfl, rfl⟩
    | recoverFails _ _ hlt | retry _ _ hlt => exact absurd hle (by omega)
  | recoverFails ho hg hlt hrec =>
    cases h₂ with
    | openFails ho₂ => cases ho.symm.trans ho₂
    | finish ho₂ hg₂ hne₂ =>
      cases ho.symm.trans ho₂
      cases hg.symm.trans hg₂
      exact absurd rfl hne₂
    | giveUp _ _ hle => exact absurd hle (by omega)
    | recoverFails ho₂ hg₂ _ hrec₂ =>
      cases ho.symm.trans ho₂
      cases hg.symm.trans hg₂
      cases hrec.symm.trans hrec₂
      exact ⟨rfl, rfl, rfl, rfl⟩
    | retry ho₂ hg₂ _ hrec₂ =>
      cases ho.symm.trans ho₂
      cases hg.symm.trans hg₂
      cases hrec.symm.trans hrec₂
  | retry ho hg hlt hrec _ ih =>
    cases h₂ with
    | openFails ho₂ => cases ho.symm.trans ho₂
    | finish ho₂ hg₂ hne₂ =>
      cases ho.symm.trans ho₂
      cases hg.symm.trans hg₂
      exact absurd rfl hne₂
    | giveUp _ _ hle => exact absurd hle (by omega)
    | recoverFails ho₂ hg₂ _ hrec₂ =>
      cases ho.symm.trans ho₂
      cases hg.symm.trans hg₂
      cases hrec.symm.trans hrec₂
    | retry ho₂ hg₂ _ hrec₂ h₂ =>
      cases ho.symm.trans ho₂
      cases hg.symm.trans hg₂
      cases hrec.symm.trans hrec₂
      obtain ⟨rfl, rfl, rfl, rfl⟩ := ih h₂
      exact ⟨rfl, rfl, rfl, rfl⟩

end Rounds

/-! ## The queue's account of a crash-safe job -/

/-- The queue runs the retry loop of a crash-safe job, with the retries its configuration allows,
and reports its result, an abrupt stop as a crash of the handle. -/
theorem submitSafe_run {α : Type} (j : Job α) (s : Session) :
    (submitSafe j).run s =
      match runFrom (safeAttempts j s.config.crashRetries (s.config.crashRetries + 1) 0) s with
      | (.ok a, s₁) => (.ok a, s₁)
      | (.error (.fail e), s₁) => (.error e, s₁)
      | (.error .panic, s₁) =>
        (.error .engineCrashed, { s₁ with handle := .crashed, file := s₁.settled }) := by
  have hsub : (submitSafe j).run s =
      (submit (safeAttempts j s.config.crashRetries (s.config.crashRetries + 1) 0)).run s :=
    rfl
  rw [hsub, submit_run, runFrom_guarded]
  rcases runFrom (safeAttempts j s.config.crashRetries (s.config.crashRetries + 1) 0) s with
    ⟨((e | _) | a), s₁⟩ <;> rfl

/-- How the queue runs a crash-safe job, with `r` the retries its configuration allows. The job
runs in rounds (`Rounds`), at most `r + 1` of them, with at most `r` retries used; it runs again
only after a crash, and what its last run gave, unless it crashed, is the result. The engine is
reset once per retry, and once more when the session had crashed before, and a job that succeeds
leaves the handle open. The result is a crash only when the job ran `r + 1` times and crashed
each time, or when reopening the handle, before a run or after a crash, stopped abruptly: the
queue reports that stop as a crash at once, without running the job again. -/
theorem submitSafe_retries_accounted {α : Type} (c : Closure α) (s : Session) :
    ∃ runs m res s₁, Rounds c.job s.config.crashRetries 0 s runs m res s₁ ∧
      (submitSafe c.job).run s = (match res with
        | .ok a => (.ok a, s₁)
        | .error (.fail e) => (.error e, s₁)
        | .error .panic =>
          (.error .engineCrashed, { s₁ with handle := .crashed, file := s₁.settled })) ∧
      runs.length ≤ s.config.crashRetries + 1 ∧ m ≤ s.config.crashRetries ∧
      (∀ o ∈ runs.dropLast, o = .error (.fail .engineCrashed)) ∧
      (∀ o, runs.getLast? = some o → o ≠ .error (.fail .engineCrashed) → res = o) ∧
      (((submitSafe c.job).run s).1 = .error .engineCrashed →
        (runs.length = s.config.crashRetries + 1 ∧
          ∀ o ∈ runs, o = .error (.fail .engineCrashed)) ∨ res = .error .panic) ∧
      ((submitSafe c.job).run s).2.plan.resets =
        s.plan.resets + m + (if s.handle.kind = .crashed then 1 else 0) ∧
      ∀ a, ((submitSafe c.job).run s).1 = .ok a →
        ((submitSafe c.job).run s).2.handle.kind = .opened := by
  rw [submitSafe_run]
  rcases hrun : runFrom (safeAttempts c.job s.config.crashRetries (s.config.crashRetries + 1) 0)
    s with ⟨res, s₁⟩
  obtain ⟨runs, m, hr⟩ :=
    safeAttempts_rounds c.job _ _ 0 (Nat.zero_le _) (by omega) hrun
  have hresets := hr.resets (Closure.job_noReset c)
  have hlen := hr.length_le (Nat.zero_le _)
  obtain ⟨-, hm⟩ := hr.retries_le (Nat.zero_le _)
  refine ⟨runs, m, res, s₁, hr, ?_, by omega, hm, hr.crashed_dropLast,
    fun o => hr.eq_of_getLast, ?_, ?_, ?_⟩
  · rcases res with ((e | _) | a) <;> rfl
  · intro hcrash
    rcases res with ((e | _) | a)
    · -- the rounds gave up with a crash: every run crashed and no retry was left
      cases hcrash
      obtain ⟨hlen', hall⟩ := hr.crash_exhausted rfl (Nat.zero_le _)
      exact .inl ⟨by omega, hall⟩
    · exact .inr rfl
    · cases hcrash
  · rcases res with ((e | _) | a) <;> simpa using hresets
  · intro a
    rcases res with ((e | _) | a')
    · intro h
      cases h
    · intro h
      cases h
    · intro _
      exact hr.ok_opened rfl (Closure.job_keepsOpened c)

/-- A crash-safe job can be reported as a crash after a single run: when the job crashes and
reopening the handle after it stops abruptly, the queue reports a crash at once, although retries
were left. -/
theorem submitSafe_crash_after_one_run :
    let s : Session :=
      { config := {}, handle := .opened default, plan := { failingOpens := 1, openKind := .panic } }
    let c : Closure Unit := .stop (.fail .engineCrashed)
    ((submitSafe c.job).run s).1 = .error .engineCrashed ∧ 0 < s.config.crashRetries ∧
      ∀ runs m res s', Rounds c.job s.config.crashRetries 0 s runs m res s' →
        runs = [.error (.fail .engineCrashed)] := by
  intro s c
  have hopen : runFrom ensureOpen s = (.ok (), s) := rfl
  have hrun : runFrom (guarded c.job) s = (.error (.fail .engineCrashed), s) := rfl
  have hrecover : (runFrom recover s).1 = .error .panic := rfl
  refine ⟨rfl, by decide, fun runs m res s' h => ?_⟩
  cases h with
  | openFails ho => cases ho.symm.trans hopen
  | finish ho hg hne =>
    cases ho.symm.trans hopen
    cases hg.symm.trans hrun
    exact absurd rfl hne
  | giveUp _ _ hle => exact absurd hle (by decide)
  | recoverFails => rfl
  | retry ho hg _ hrec =>
    cases ho.symm.trans hopen
    cases hg.symm.trans hrun
    rw [hrec] at hrecover
    cases hrecover

end DocStore
