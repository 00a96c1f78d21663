import DocStore.Proofs.Atomicity
/-!
# What a job that succeeds has done

The failure theorems say what a failed job leaves behind; this module says what a successful one
did.

* A statement that succeeds on the handle ran on the handle's connection, and the file is what it
  made (`Session.run_ok`).
* A transaction that succeeds on a calm session ran its statements one after another inside one
  transaction begun on the file as it was, each on what the one before left (`RunsInOrder`), and
  committed what the last one left (`Session.runTransaction_ok`).
* A crash-safe job that succeeds, on a calm session and without removing the backing file,
  succeeded in its last attempt, which started from a calm session holding the rows the store
  had: the failed attempts before it and the recoveries in between changed no rows
  (`safeAttempts_ok`, `submitSafe_ok`).
-/

namespace DocStore

/-- Statements that run one after another on a connection, each one succeeding: each runs on the
connection and the file the one before left, and `c'` and `d'` are what the last one left. -/
inductive RunsInOrder (now : Int) : Connection → DatabaseFile → List BoundStatement →
    Connection → DatabaseFile → Prop
  | nil (c : Connection) (d : DatabaseFile) : RunsInOrder now c d [] c d
  | cons {c c₁ c' : Connection} {d d₁ d' : DatabaseFile} {st : BoundStatement}
      {sts : List BoundStatement} {rows : List Row} :
      c.run d now st = .ok (c₁, d₁, rows) → RunsInOrder now c₁ d₁ sts c' d' →
      RunsInOrder now c d (st :: sts) c' d'

/-- Statements other than transaction control keep the connection's transaction. -/
theorem RunsInOrder.savepoint {now : Int} {c c' : Connection} {d d' : DatabaseFile}
    {sts : List BoundStatement} (h : RunsInOrder now c d sts c' d')
    (hs : ∀ st ∈ sts, st.statement.controlsTransaction = false) : c'.savepoint = c.savepoint := by
  induction h with
  | nil => rfl
  | cons hrun _ ih =>
    rw [ih (fun st hst => hs st (List.mem_cons_of_mem _ hst))]
    exact (Connection.run_cases (hs _ List.mem_cons_self) hrun).1

namespace Session

/-! ## What no job changes -/

/-- What no job changes: the configuration, the clock, and whether the directory of the backing
file can be made. -/
structure Fixed (s s' : Session) : Prop where
  config : s'.config = s.config
  clock : s'.clock = s.clock
  directoryFailure : s'.directoryFailure = s.directoryFailure

instance : Std.Refl Fixed := ⟨fun _ => ⟨rfl, rfl, rfl⟩⟩

instance : Trans Fixed Fixed Fixed :=
  ⟨fun h₁ h₂ => ⟨h₂.config.trans h₁.config, h₂.clock.trans h₁.clock,
    h₂.directoryFailure.trans h₁.directoryFailure⟩⟩

/-- A change of the session that leaves the configuration, the clock and the directory. -/
theorem modify_fixed {f : Session → Session} (hf : ∀ s, Fixed s (f s)) :
    Holds Fixed (modify f : Job Unit) := by
  intro s
  rw [runFrom_modify]
  exact hf s

theorem updatePlan_fixed (f : FaultPlan → FaultPlan) : Holds Fixed (updatePlan f) :=
  modify_fixed (fun _ => ⟨rfl, rfl, rfl⟩)

theorem engineOpen_fixed : Holds Fixed engineOpen := by
  intro s
  rcases h : runFrom engineOpen s with ⟨r, s'⟩
  simp only [engineOpen, runFrom_bind, runFrom_get, updatePlan, runFrom_modify] at h
  split at h
  · split at h <;> simp [runFrom_bind, Job.fail] at h <;> obtain ⟨rfl, rfl⟩ := h <;> exact ⟨rfl, rfl, rfl⟩
  · split at h
    · simp at h
      obtain ⟨rfl, rfl⟩ := h
      exact ⟨rfl, rfl, rfl⟩
    · simp at h
      obtain ⟨rfl, rfl⟩ := h
      exact ⟨rfl, rfl, rfl⟩
    · split at h
      · simp at h
        obtain ⟨rfl, rfl⟩ := h
        exact ⟨rfl, rfl, rfl⟩
      · simp [Job.fail] at h
        obtain ⟨rfl, rfl⟩ := h
        exact ⟨rfl, rfl, rfl⟩

theorem engineRun_fixed (c : Connection) (st : BoundStatement) : Holds Fixed (engineRun c st) := by
  intro s
  rcases hrun : runFrom (engineRun c st) s with ⟨(u | ⟨c', rows⟩), s'⟩
  · rw [engineRun_error hrun]
    exact ⟨rfl, rfl, rfl⟩
  · obtain ⟨d, -, rfl⟩ := engineRun_ok hrun
    exact ⟨rfl, rfl, rfl⟩

theorem removeBackingFile_fixed : Holds Fixed removeBackingFile := by
  intro s
  simp only [removeBackingFile, runFrom_bind, runFrom_updatePlan, runFrom_get]
  split
  · exact ⟨rfl, rfl, rfl⟩
  · exact ⟨rfl, rfl, rfl⟩

theorem close_fixed : Holds Fixed close := fun s => by
  rw [runFrom_close]
  exact ⟨rfl, rfl, rfl⟩

theorem isOpen_fixed : Holds Fixed isOpen := fun s => by
  rw [runFrom_isOpen]
  exact Std.Refl.refl s

theorem tryOpen_fixed : Holds Fixed tryOpen := by
  unfold tryOpen
  refine Holds.bind Holds.get (fun _ => Holds.bind engineOpen_fixed (fun c => ?_))
  refine Holds.bind (engineRun_fixed c _) (fun ⟨c₁, _⟩ => ?_)
  exact Holds.bind (engineRun_fixed c₁ _) (fun ⟨c₂, _⟩ => Holds.pure c₂)

theorem openAttempts_fixed (total : Nat) : ∀ n last, Holds Fixed (openAttempts total n last)
  | 0, _ => Holds.bind Holds.get (fun _ => Holds.throw _)
  | n + 1, _ => by
    unfold openAttempts
    refine Holds.bind (Holds.attempt tryOpen_fixed) (fun o => ?_)
    cases o with
    | ok c => exact modify_fixed (fun _ => ⟨rfl, rfl, rfl⟩)
    | error e =>
      dsimp only
      split
      · exact Holds.bind removeBackingFile_fixed (fun _ => openAttempts_fixed total n (some e))
      · exact openAttempts_fixed total n (some e)

theorem openWithRetry_fixed : Holds Fixed openWithRetry := by
  unfold openWithRetry
  refine Holds.bind Holds.get (fun s => ?_)
  split
  · exact Holds.throw _
  · exact openAttempts_fixed _ _ _

theorem recover_fixed : Holds Fixed recover := by
  unfold recover
  exact Holds.bind close_fixed (fun _ => Holds.bind (updatePlan_fixed _) (fun _ =>
    Holds.bind openWithRetry_fixed (fun _ => modify_fixed (fun _ => ⟨rfl, rfl, rfl⟩))))

theorem ensureOpen_fixed : Holds Fixed ensureOpen := by
  unfold ensureOpen
  refine Holds.bind Holds.get (fun s => ?_)
  split
  · exact Holds.pure ()
  · exact openWithRetry_fixed
  · exact recover_fixed

theorem run_fixed (st : BoundStatement) : Holds Fixed (run st) := by
  intro s
  rcases hrun : runFrom (run st) s with ⟨r, s'⟩
  rcases run_cases hrun with ⟨-, rfl, -⟩ | ⟨c, -, hcases⟩
  · exact Std.Refl.refl _
  have hf : ∀ {r₀ s₀}, runFrom (engineRun c st) s = (r₀, s₀) → Fixed s s₀ := fun he => by
    have := engineRun_fixed c st s
    rw [he] at this
    exact this
  rcases hcases with ⟨c', rows, s₀, he, -, rfl⟩ | ⟨s₀, he, -, rfl⟩ |
    ⟨e, s₀, he, ⟨-, -, rfl⟩ | ⟨-, -, rfl⟩⟩
  -- setting or dropping the handle leaves what the engine left
  all_goals
    obtain ⟨hconfig, hclock, hdir⟩ := hf he
    exact ⟨hconfig, hclock, hdir⟩

theorem runTransaction_fixed (stmts : List BoundStatement) : Holds Fixed (runTransaction stmts) := by
  unfold runTransaction
  refine Holds.bind (run_fixed _) (fun _ => Holds.bind (Holds.attempt ?_) (fun r => ?_))
  · exact Holds.bind (Holds.forIn (fun st _ => Holds.bind (run_fixed st) (fun _ => Holds.pure _)))
      (fun _ => Holds.bind (run_fixed _) (fun _ => Holds.pure _))
  · cases r with
    | ok => exact Holds.pure ()
    | error e =>
      refine Holds.bind isOpen_fixed (fun b => ?_)
      split
      · exact Holds.bind (Holds.attempt (run_fixed _)) (fun _ => Holds.throw _)
      · exact Holds.throw _

/-- A statement that succeeds on the handle ran on its connection: the file is what the
statement made of it, and the handle keeps the connection the statement left. -/
theorem run_ok {st : BoundStatement} {s s' : Session} {rows : List Row}
    (h : runFrom (run st) s = (.ok rows, s')) :
    ∃ c c' d, s.handle = .opened c ∧ c.run s.database s.clock st = .ok (c', d, rows) ∧
      s' = { s with plan := (s.plan.fire st.statement.text).2, file := .database d,
                    handle := .opened c' } := by
  rcases run_cases h with ⟨-, -, _, hr⟩ | ⟨c, hc, hcases⟩
  · cases hr
  rcases hcases with ⟨c', rows', s₀, he, hr, rfl⟩ | ⟨s₀, -, hr, -⟩ |
    ⟨e, s₀, -, ⟨-, hr, -⟩ | ⟨-, hr, -⟩⟩
  · cases hr
    obtain ⟨d, hd, rfl⟩ := engineRun_ok he
    exact ⟨c, c', d, hc, hd, rfl⟩
  all_goals cases hr

/-- A loop that runs statements one by one and succeeds ran each of them, in order, on what the
one before left. The clock stays, and the plan moves as firing moves it. -/
theorem forIn_run_ok (stmts : List BoundStatement) :
    ∀ {s s' : Session} {c : Connection}, s.handle = .opened c →
      runFrom (forIn stmts PUnit.unit fun st _ => do
        let _ ← run st
        pure (ForInStep.yield PUnit.unit)) s = (.ok PUnit.unit, s') →
      ∃ c', RunsInOrder s.clock c s.database stmts c' s'.database ∧ s'.handle = .opened c' ∧
        s'.clock = s.clock ∧ Moves s s' := by
  induction stmts with
  | nil =>
    intro s s' c hc h
    cases h
    exact ⟨c, .nil c _, hc, rfl, Std.Refl.refl _⟩
  | cons st rest ih =>
    intro s s' c hc h
    rw [runFrom_forIn_cons, runFrom_bind] at h
    rcases hst : runFrom (run st) s with ⟨(u | rows), s₁⟩
    all_goals rw [hst] at h; dsimp only at h
    · cases h
    obtain ⟨c₀, c₁, d, hc₀, hd, rfl⟩ := run_ok hst
    rw [hc] at hc₀
    cases hc₀
    -- the first statement ran; the rest starts where it stopped
    obtain ⟨c', hruns, hh, hclock, hmoves⟩ := ih rfl h
    exact ⟨c', .cons hd hruns, hh, hclock, Trans.trans (moves_fire s st.statement.text rfl) hmoves⟩

/-- Once the body of a transaction has failed, the transaction fails: rolling back never turns
the failure into success. -/
theorem afterBody_ne_ok (e : StoreError) (s s' : Session) :
    runFrom (do
      if ← isOpen then
        let _ ← Job.attempt (run ⟨.rollback, []⟩)
      Job.fail e : Job Unit) s ≠ (.ok (), s') := by
  intro h
  rw [runFrom_bind, runFrom_isOpen] at h
  dsimp only at h
  split at h
  · rw [if_pos rfl, runFrom_bind, runFrom_attempt] at h
    rcases hr : runFrom (run ⟨.rollback, []⟩) s with ⟨((_ | _) | _), _⟩ <;>
      simp only [hr, Job.fail, runFrom_throw] at h <;> cases h
  · rw [if_neg Bool.false_ne_true] at h
    cases h

/-- A COMMIT that succeeds inside a transaction ends it and keeps the content the statements
left. -/
theorem run_commit_ok {s s' : Session} {c : Connection} {d₀ : DatabaseFile} {rows : List Row}
    (hc : s.handle = .opened c) (hsp : c.savepoint = some d₀)
    (h : runFrom (run ⟨.commit, []⟩) s = (.ok rows, s')) :
    s'.file.rows = (BackingFile.database s.database).rows ∧
      (∀ c', s'.handle = .opened c' → c'.savepoint = none) ∧ Moves s s' := by
  obtain ⟨c₁, c₂, d, hc₁, hd, rfl⟩ := run_ok h
  rw [hc] at hc₁
  cases hc₁
  simp only [Connection.run, hsp] at hd
  split at hd
  · cases hd
    exact ⟨rfl, fun c' h => by cases h; rfl, moves_fire s _ rfl⟩
  · cases hd

/-- A transaction that succeeds on a calm session began on the file as it was, ran its
statements in order inside it, each on what the one before left, and committed: the rows are
those the last statement left, and the session is calm again. -/
theorem runTransaction_ok {stmts : List BoundStatement}
    (hs : ∀ st ∈ stmts, st.statement.controlsTransaction = false) {s s' : Session}
    (hcalm : s.Calm) (h : runFrom (runTransaction stmts) s = (.ok (), s')) :
    ∃ c c' d, c.savepoint = some s.database ∧ RunsInOrder s.clock c s.database stmts c' d ∧
      s'.file.rows = (BackingFile.database d).rows ∧ s'.Calm ∧ Moves s s' := by
  unfold runTransaction at h
  rw [runFrom_bind] at h
  rcases hb : runFrom (run ⟨.beginTransaction, []⟩) s with ⟨(u | rows), s₁⟩
  all_goals rw [hb] at h
  · cases h
  -- BEGIN opened a transaction on the file as it was
  obtain ⟨c₀, c₁, d₀, hc₀, hd₀, rfl⟩ := run_ok hb
  rw [Connection.run_begin c₀ _ _ [] (hcalm.idle c₀ hc₀)] at hd₀
  cases hd₀
  dsimp only at h
  rw [runFrom_bind, runFrom_attempt] at h
  rcases hbody : runFrom (do
      forIn stmts PUnit.unit fun st _ => do
        let _ ← run st
        pure (ForInStep.yield PUnit.unit)
      let _ ← run ⟨.commit, []⟩
      pure () : Job Unit) _ with ⟨(u | ⟨⟩), s₃⟩
  all_goals rw [hbody] at h
  · -- a failure of the body is reported, never turned into success
    rcases u with e | _
    · exact absurd h (afterBody_ne_ok e _ _)
    · cases h
  cases h
  rw [runFrom_bind] at hbody
  rcases hloop : runFrom (forIn stmts PUnit.unit fun st _ => do
      let _ ← run st
      pure (ForInStep.yield PUnit.unit)) _ with ⟨(u | ⟨⟩), s₂⟩
  all_goals rw [hloop] at hbody; dsimp only at hbody
  · cases hbody
  obtain ⟨c₂, hruns, hc₂, hclock, hmoves⟩ := forIn_run_ok stmts rfl hloop
  rw [runFrom_bind] at hbody
  rcases hcommit : runFrom (run ⟨.commit, []⟩) s₂ with ⟨(u | rows), s₃'⟩
  all_goals rw [hcommit] at hbody; dsimp only at hbody
  · cases hbody
  cases hbody
  -- COMMIT kept the content the statements left and ended the transaction
  have hsp : c₂.savepoint = some s.database := by
    rw [hruns.savepoint hs]
  obtain ⟨hrows, hidle, hm₃⟩ := run_commit_ok hc₂ hsp hcommit
  have hm : Moves s _ := Trans.trans (moves_fire s _ rfl) (Trans.trans hmoves hm₃)
  exact ⟨_, c₂, s₂.database, rfl, hruns, hrows, ⟨hidle, hm.rollbackSafe hcalm.rollbackSafe⟩, hm⟩

end Session

open Session

/-! ## The queue -/

/-- The queue's crash handler leaves a job that succeeds as it is. -/
theorem guarded_ok {α : Type} {j : Job α} {s s' : Session} {a : α}
    (h : runFrom (guarded j) s = (.ok a, s')) : runFrom j s = (.ok a, s') := by
  rw [runFrom_guarded] at h
  rcases hj : runFrom j s with ⟨(u | b), s₁⟩
  all_goals rw [hj] at h
  · cases u <;> cases h
  · exact h

theorem guarded_fixed {α : Type} {j : Job α} (h : Holds Fixed j) : Holds Fixed (guarded j) := by
  intro s
  have hj := h s
  rw [runFrom_guarded]
  rcases hr : runFrom j s with ⟨(u | a), s'⟩
  all_goals rw [hr] at hj
  · cases u with
    | panic => exact ⟨hj.config, hj.clock, hj.directoryFailure⟩
    | fail e => exact hj
  · exact hj

/-- An attempt of a crash-safe job that succeeds, on a calm session and without removing the
backing file, opened the handle keeping the rows and then ran the job. -/
theorem attempt_ok {α : Type} {j : Job α} (hj : Atomic j) {s s' : Session} {a : α}
    (hcalm : s.Calm) (hx : runFrom (do ensureOpen; guarded j) s = (.ok a, s'))
    (heq : s'.plan.removes = s.plan.removes) :
    ∃ s₀, s₀.Calm ∧ s₀.file.rows = s.file.rows ∧ Fixed s s₀ ∧ runFrom j s₀ = (.ok a, s') := by
  rw [runFrom_bind] at hx
  rcases ho : runFrom ensureOpen s with ⟨(v | ⟨⟩), s₀⟩
  all_goals rw [ho] at hx
  · cases hx
  dsimp only at hx
  have hk := ensureOpen_keeps s
  have hfo := ensureOpen_fixed s
  rw [ho] at hk hfo
  dsimp only at hk hfo
  -- removals only add up, so opening removed nothing
  have hle₁ : s₀.plan.removes ≤ s'.plan.removes := by
    have := (guarded_atomic hj).moves s₀
    rw [hx] at this
    exact this.removes_le
  have hle₀ : s.plan.removes ≤ s₀.plan.removes := hk.removes_le
  obtain ⟨hc₀, hr₀⟩ := hk.calm (by omega) hcalm
  exact ⟨s₀, hc₀, hr₀, hfo, guarded_ok hx⟩

/-- A failed attempt of a crash-safe job and the recovery after it, from a calm session and
without removing the backing file, leave a calm session with the rows the store had. -/
theorem attempt_recover_keeps {α : Type} {j : Job α} (hj : Atomic j) (hf : Holds Fixed j)
    {s s₁ s₂ : Session} {e : StoreError} (hcalm : s.Calm)
    (hx : runFrom (do ensureOpen; guarded j) s = (.error (.fail e), s₁))
    (hrec : runFrom recover s₁ = (.ok (), s₂)) (hle : s₂.plan.removes ≤ s.plan.removes) :
    s₂.Calm ∧ s₂.file.rows = s.file.rows ∧ Fixed s s₂ ∧ s₂.plan.removes = s.plan.removes := by
  have ha : Atomic (do ensureOpen; guarded j) :=
    Atomic.bind ensureOpen_keeps (fun _ => guarded_atomic hj)
  have hm := ha.moves s
  have hfx := Holds.bind ensureOpen_fixed (fun _ => guarded_fixed hf) s
  have hk := recover_keeps s₁
  have hfr := recover_fixed s₁
  rw [hx] at hm hfx
  rw [hrec] at hk hfr
  dsimp only at hm hfx hk hfr
  have hle₁ : s₁.plan.removes ≤ s₂.plan.removes := hk.removes_le
  have hle₀ : s.plan.removes ≤ s₁.plan.removes := hm.removes_le
  -- the failed attempt and the recovery removed nothing, so each kept the rows
  have hs₁ := ha.settles s hcalm (by rw [hx]; dsimp only; omega)
  rw [hx] at hs₁
  obtain ⟨hc₁, hr₁⟩ := hs₁
  obtain ⟨hc₂, hr₂⟩ := hk.calm (by omega) hc₁
  exact ⟨hc₂, hr₂.trans hr₁, Trans.trans hfx hfr, by omega⟩

/-- The retry loop of a crash-safe job that succeeds on a calm session, without removing the
backing file, succeeded in its last attempt: that attempt opened the handle and ran the job from
a calm session with the rows the store had, since every failed attempt and every recovery before
it kept them. -/
theorem safeAttempts_ok {α : Type} {j : Job α} (hj : Atomic j) (hf : Holds Fixed j)
    (retries : Nat) :
    ∀ fuel n {s s' : Session} {a : α}, s.Calm →
      runFrom (safeAttempts j retries fuel n) s = (.ok a, s') →
      s'.plan.removes = s.plan.removes →
      ∃ s₁, s₁.Calm ∧ s₁.file.rows = s.file.rows ∧ Fixed s s₁ ∧ runFrom j s₁ = (.ok a, s')
  | 0, _, _, _, _, _, h, _ => by cases h
  | fuel + 1, n, s, s', a, hcalm, h, heq => by
    unfold safeAttempts at h
    rw [runFrom_bind, runFrom_attempt] at h
    rcases hx : runFrom (do ensureOpen; guarded j) s with ⟨(u | b), s₁⟩
    · rw [hx] at h
      rcases u with e | _
      · -- a failed attempt leads to success only through a recovery and a later attempt
        dsimp only at h
        by_cases hc : e = .engineCrashed ∧ n < retries
        · obtain ⟨rfl, hn⟩ := hc
          simp only [hn, ite_true] at h
          rw [runFrom_bind] at h
          rcases hrec : runFrom recover s₁ with ⟨(v | ⟨⟩), s₂⟩
          all_goals rw [hrec] at h
          · cases h
          dsimp only at h
          have hle₂ : s₂.plan.removes ≤ s'.plan.removes := by
            have := (safeAttempts_atomic hj retries fuel (n + 1)).moves s₂
            rw [h] at this
            exact this.removes_le
          obtain ⟨hc₂, hr₂, hf₂, heq₂⟩ := attempt_recover_keeps hj hf hcalm hx hrec (by omega)
          obtain ⟨s₃, hc₃, hr₃, hf₃, hrun⟩ :=
            safeAttempts_ok hj hf retries fuel (n + 1) hc₂ h (by omega)
          exact ⟨s₃, hc₃, hr₃.trans hr₂, Trans.trans hf₂ hf₃, hrun⟩
        · -- any other failure is reported as it is
          split at h
          · rename_i hok
            cases hok
          · rename_i hcrash
            cases hcrash
            rw [if_neg (fun hn => hc ⟨rfl, hn⟩)] at h
            cases h
          · cases h
      · cases h
    · -- the attempt succeeded
      rw [hx] at h
      cases h
      exact attempt_ok hj hcalm hx heq

/-- A crash-safe job that succeeds on a calm session, without removing the backing file, ran
successfully from a calm session with the rows the store had. -/
theorem submitSafe_ok {α : Type} {j : Job α} (hj : Atomic j) (hf : Holds Fixed j)
    {s s' : Session} {a : α} (hcalm : s.Calm) (h : (submitSafe j).run s = (.ok a, s'))
    (heq : s'.plan.removes = s.plan.removes) :
    ∃ s₁, s₁.Calm ∧ s₁.file.rows = s.file.rows ∧ Fixed s s₁ ∧ runFrom j s₁ = (.ok a, s') := by
  have h' : (submit (safeAttempts j s.config.crashRetries (s.config.crashRetries + 1) 0)).run s =
      (.ok a, s') := h
  rw [submit_run] at h'
  rcases hg : runFrom (guarded (safeAttempts j s.config.crashRetries (s.config.crashRetries + 1) 0))
    s with ⟨((e | _) | b), s₁⟩
  all_goals rw [hg] at h'
  · cases h'
  · cases h'
  · cases h'
    exact safeAttempts_ok hj hf _ _ _ hcalm (guarded_ok hg) heq

/-- A transaction the queue reports as done on a calm session, with no open attempt having
removed the backing file, ran its statements in order inside one transaction on a database with
the rows the store had; the store now holds what the last of them left. -/
theorem submitTransaction_ok {stmts : List BoundStatement}
    (hs : ∀ st ∈ stmts, st.statement.controlsTransaction = false) {s s' : Session}
    (hcalm : s.Calm) (h : (submitTransaction stmts).run s = (.ok (), s'))
    (heq : s'.plan.removes = s.plan.removes) :
    ∃ d₀ c c' d, (BackingFile.database d₀).rows = s.file.rows ∧ c.savepoint = some d₀ ∧
      RunsInOrder s.clock c d₀ stmts c' d ∧ s'.file.rows = (BackingFile.database d).rows ∧
      s'.Calm := by
  obtain ⟨s₁, hcalm₁, hrows₁, hfixed, hrun⟩ :=
    submitSafe_ok (runTransaction_atomic hs) (runTransaction_fixed stmts) hcalm h heq
  obtain ⟨c, c', d, hsave, hruns, hrows, hcalm', -⟩ := runTransaction_ok hs hcalm₁ hrun
  refine ⟨s₁.database, c, c', d, ?_, hsave, ?_, hrows, hcalm'⟩
  · rw [rows_database, hrows₁]
  · rwa [← hfixed.clock]

end DocStore
