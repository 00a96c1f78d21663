import DocStore.Proofs.Statements
/-!
# Failed jobs keep the store

A job on the queue that fails leaves the rows of the backing file as it found them, provided
two things:

* no transaction is open between jobs and no injected rule can make a rollback fail with an
  ordinary error (`Session.Calm`). A rollback that fails so leaves its transaction open, and the
  next statement sees the uncommitted writes;
* the job did not remove the backing file, which an open attempt does when the file turns out to
  be damaged (`plan.removes` unchanged).

A failed job leaves the session calm again with the same rows (`Session.Settles`). A job that
stops abruptly may leave a transaction open; the rows are then those of the file once the handle
is abandoned (`Session.settled`), which is what the queue does next.

The argument is by layers. Every job only adds removals and keeps a plan safe for rollbacks
(`Session.Moves`). Opening, closing, recovering and reading keep the rows whatever their outcome
(`Session.Keeps`). A single statement, and a transaction, keep them when they fail
(`Session.Atomic`); inside a transaction the handle remembers the file as it was when the
transaction began (`Session.InTransaction`). The queue's retry loop and its crash handler keep
`Atomic`, so every crash-safe job built from these does.
-/

namespace DocStore

/-! ## Injected failures -/

namespace FaultKind

/-- Whether an injected failure takes the engine down: an abrupt stop, or a failure the session
treats as an engine fault. -/
def crashes (k : FaultKind) : Bool := k == .panic || k.failure.isEngineFault

end FaultKind

namespace FaultPlan

/-- The rules can still fire on a rollback only with failures that take the engine down. -/
def RollbackSafe (p : FaultPlan) : Prop :=
  ∀ r ∈ p.rules, 0 < r.remaining → "ROLLBACK".startsWith r.start = true → r.kind.crashes = true

/-- Firing keeps each rule's prefix and kind and never raises a count. -/
theorem fire_go_rules (text : String) (rules : List FaultRule) :
    ∀ r' ∈ (fire.go text rules).2, ∃ r ∈ rules,
      r'.start = r.start ∧ r'.kind = r.kind ∧ r'.remaining ≤ r.remaining := by
  induction rules with
  | nil => simp [fire.go]
  | cons r rest ih =>
    intro r' hr'
    rcases hgo : fire.go text rest with ⟨k, rest'⟩
    simp only [fire.go, hgo] at hr'
    split at hr'
    · -- the head fires: it loses one count
      rcases List.mem_cons.1 hr' with rfl | hmem
      · exact ⟨r, List.mem_cons_self, rfl, rfl, Nat.sub_le _ _⟩
      · exact ⟨r', List.mem_cons_of_mem _ hmem, rfl, rfl, Nat.le_refl _⟩
    · rcases List.mem_cons.1 hr' with rfl | hmem
      · exact ⟨r', List.mem_cons_self, rfl, rfl, Nat.le_refl _⟩
      · obtain ⟨r₀, h₀, hs, hk, hle⟩ := ih r' (by rw [hgo]; exact hmem)
        exact ⟨r₀, List.mem_cons_of_mem _ h₀, hs, hk, hle⟩

/-- A rule fires only if it matches and has a count left. -/
theorem fire_go_fired (text : String) (rules : List FaultRule) {k : FaultKind}
    (h : (fire.go text rules).1 = some k) :
    ∃ r ∈ rules, 0 < r.remaining ∧ text.startsWith r.start = true ∧ r.kind = k := by
  induction rules with
  | nil => simp [fire.go] at h
  | cons r rest ih =>
    rcases hgo : fire.go text rest with ⟨k', rest'⟩
    simp only [fire.go, hgo] at h
    split at h
    · rename_i hm
      cases h
      exact ⟨r, List.mem_cons_self, hm.1, hm.2, rfl⟩
    · obtain ⟨r₀, h₀, hpos, hst, hk⟩ := ih (by rw [hgo]; exact h)
      exact ⟨r₀, List.mem_cons_of_mem _ h₀, hpos, hst, hk⟩

/-- Whether rollbacks are safe depends on the rules alone. -/
theorem rollbackSafe_of_rules {p q : FaultPlan} (h : p.RollbackSafe) (hr : q.rules = p.rules) :
    q.RollbackSafe := by
  unfold RollbackSafe
  rw [hr]
  exact h

@[simp] theorem removes_fire (p : FaultPlan) (t : String) : (p.fire t).2.removes = p.removes :=
  rfl

theorem rollbackSafe_fire {p : FaultPlan} (h : p.RollbackSafe) (t : String) :
    (p.fire t).2.RollbackSafe := by
  intro r' hr' hpos hst
  obtain ⟨r, hr, hs, hk, hle⟩ := fire_go_rules _ p.rules r' hr'
  rw [hk]
  exact h r hr (Nat.lt_of_lt_of_le hpos hle) (hs ▸ hst)

/-- Under a plan safe for rollbacks, what fires on a rollback takes the engine down. -/
theorem crashes_of_fire_rollback {p : FaultPlan} (h : p.RollbackSafe) {k : FaultKind}
    (hk : (p.fire Statement.rollback.text).1 = some k) : k.crashes = true := by
  obtain ⟨r, hr, hpos, hst, rfl⟩ := fire_go_fired _ p.rules hk
  have htext : String.ofList (Text.trimStart Statement.rollback.text.toList) = "ROLLBACK" := by
    decide
  rw [htext] at hst
  exact h r hr hpos hst

end FaultPlan

/-! ## The rows of a backing file -/

namespace BackingFile

/-- The rows of each table of a backing file; a file that holds no database holds no rows. -/
def rows : BackingFile → String → RowList
  | .database d, name => d.tables.tableRows name
  | _, _ => []

@[simp] theorem rows_missing : BackingFile.missing.rows = fun _ => [] := rfl

@[simp] theorem rows_foreign (bytes : List UInt8) : (foreign bytes).rows = fun _ => [] := rfl

@[simp] theorem rows_empty : (database {}).rows = fun _ => [] := by
  funext m
  simp [rows, Tables.tableRows, Tables.rowsOf]

end BackingFile

namespace Session

/-- The backing file as it stands once the handle is gone: an open transaction rolled back. -/
def settled (s : Session) : BackingFile :=
  match s.handle with
  | .opened c => s.released c
  | _ => s.file

/-- The engine reads a missing or foreign file as an empty database, with the same rows. -/
theorem rows_database (s : Session) : (BackingFile.database s.database).rows = s.file.rows := by
  unfold database
  cases s.file with
  | database d => rfl
  | missing => exact BackingFile.rows_empty
  | foreign bytes => exact BackingFile.rows_empty

/-! ## Invariants and the relations jobs keep -/

/-- A session between jobs: no transaction is open, and no rule can make a rollback fail with an
ordinary error. -/
structure Calm (s : Session) : Prop where
  idle : ∀ c, s.handle = .opened c → c.savepoint = none
  rollbackSafe : s.plan.RollbackSafe

/-- In a calm session the handle holds no transaction back. -/
theorem settled_of_calm {s : Session} (h : s.Calm) : s.settled = s.file := by
  unfold settled
  split
  · rename_i c hc
    unfold released Connection.release
    rw [h.idle c hc]
    split <;> simp_all
  · rfl

/-- What every job does to the session: removals of the backing file only add up, and a plan
safe for rollbacks stays so. -/
structure Moves (s s' : Session) : Prop where
  removes_le : s.plan.removes ≤ s'.plan.removes
  rollbackSafe : s.plan.RollbackSafe → s'.plan.RollbackSafe

instance : Std.Refl Moves := ⟨fun _ => ⟨Nat.le_refl _, id⟩⟩

instance : Trans Moves Moves Moves :=
  ⟨fun h₁ h₂ => ⟨Nat.le_trans h₁.removes_le h₂.removes_le, h₂.rollbackSafe ∘ h₁.rollbackSafe⟩⟩

/-- A move that kept the store: unless the backing file was removed on the way, a calm session
stays calm and its file keeps its rows. -/
structure Keeps (s s' : Session) : Prop extends Moves s s' where
  calm : s'.plan.removes = s.plan.removes → s.Calm → s'.Calm ∧ s'.file.rows = s.file.rows

instance : Std.Refl Keeps := ⟨fun _ => ⟨Std.Refl.refl _, fun _ h => ⟨h, rfl⟩⟩⟩

instance : Trans Keeps Keeps Keeps :=
  ⟨fun {s s₁ s₂} h₁ h₂ => by
    refine ⟨Trans.trans h₁.toMoves h₂.toMoves, fun heq hcalm => ?_⟩
    -- removals only add up, so none happened on either part
    have hle₁ := h₁.removes_le
    have hle₂ := h₂.removes_le
    obtain ⟨hc₁, hr₁⟩ := h₁.calm (by omega) hcalm
    obtain ⟨hc₂, hr₂⟩ := h₂.calm (by omega) hc₁
    exact ⟨hc₂, hr₂.trans hr₁⟩⟩

theorem Keeps.of_moves {s s' : Session} (h : Moves s s') (hcalm : s.Calm → s'.Calm)
    (hrows : s'.file.rows = s.file.rows) : Keeps s s' :=
  ⟨h, fun _ hc => ⟨hcalm hc, hrows⟩⟩

/-- How a job that started calm may stop: after a failure the session is calm with the same
rows; after an abrupt stop the rows are those of the file once the handle is gone. -/
def Settles {α : Type} (s : Session) : Except Unwind α × Session → Prop
  | (.ok _, _) => True
  | (.error .panic, s') => s'.plan.RollbackSafe ∧ s'.settled.rows = s.file.rows
  | (.error (.fail _), s') => s'.Calm ∧ s'.file.rows = s.file.rows

theorem Settles.of_rows {α : Type} {s s₁ : Session} {p : Except Unwind α × Session}
    (h : s₁.file.rows = s.file.rows) (hp : Settles s₁ p) : Settles s p := by
  rcases p with ⟨(u | a), s'⟩
  · cases u with
    | panic => exact ⟨hp.1, hp.2.trans h⟩
    | fail e => exact ⟨hp.1, hp.2.trans h⟩
  · trivial

/-- A job that keeps the store when it fails, unless it removed the backing file. -/
structure Atomic {α : Type} (j : Job α) : Prop where
  moves : Holds Moves j
  settles : ∀ s, s.Calm → (runFrom j s).2.plan.removes = s.plan.removes → Settles s (runFrom j s)

theorem Holds.moves_of_keeps {α : Type} {j : Job α} (h : Holds Keeps j) : Holds Moves j :=
  fun s => (h s).toMoves

/-- A job that keeps the rows whatever its outcome keeps them when it fails. -/
theorem Atomic.of_keeps {α : Type} {j : Job α} (h : Holds Keeps j) : Atomic j := by
  refine ⟨Holds.moves_of_keeps h, fun s hcalm heq => ?_⟩
  obtain ⟨hc, hr⟩ := (h s).calm heq hcalm
  rcases hrun : runFrom j s with ⟨(u | a), s'⟩
  all_goals rw [hrun] at hc hr
  · cases u with
    | panic => exact ⟨hc.rollbackSafe, by rw [settled_of_calm hc, hr]⟩
    | fail e => exact ⟨hc, hr⟩
  · trivial

/-- A job that keeps the rows, followed by one that keeps them when it fails. -/
theorem Atomic.bind {α β : Type} {x : Job α} {f : α → Job β} (hx : Holds Keeps x)
    (hf : ∀ a, Atomic (f a)) : Atomic (x >>= f) := by
  refine ⟨Holds.bind (Holds.moves_of_keeps hx) (fun a => (hf a).moves), fun s hcalm heq => ?_⟩
  rw [runFrom_bind] at heq ⊢
  have hk := hx s
  rcases hrun : runFrom x s with ⟨(u | a), s₁⟩
  all_goals rw [hrun] at heq hk; dsimp only at heq hk ⊢
  · have h₁ := (Atomic.of_keeps hx).settles s hcalm (by rw [hrun]; exact heq)
    rw [hrun] at h₁
    cases u <;> exact h₁
  · -- the first part succeeded without a removal, so the second starts calm with the same rows
    have hle₀ := hk.removes_le
    have hle := ((hf a).moves s₁).removes_le
    obtain ⟨hc₁, hr₁⟩ := hk.calm (by omega) hcalm
    have h₂ := (hf a).settles s₁ hc₁ (by omega)
    rcases hrun₂ : runFrom (f a) s₁ with ⟨(v | b), s₂⟩
    all_goals rw [hrun₂] at h₂
    · cases v with
      | panic => exact ⟨h₂.1, h₂.2.trans hr₁⟩
      | fail e => exact ⟨h₂.1, h₂.2.trans hr₁⟩
    · trivial

theorem Calm.of_handle {s s' : Session} (h : s.Calm) (hh : s'.handle = s.handle)
    (hp : s'.plan.RollbackSafe) : s'.Calm :=
  ⟨fun c hc => h.idle c (hh ▸ hc), hp⟩

/-- Dropping the handle, which rolls back what it holds, leaves a calm session. -/
theorem calm_drop (s : Session) {h : HandleState} (hh : ∀ c, h ≠ .opened c)
    (hp : s.plan.RollbackSafe) : ({ s with handle := h, file := s.settled } : Session).Calm :=
  ⟨fun c hc => absurd hc (hh c), hp⟩

theorem keeps_drop (s : Session) {h : HandleState} (hh : ∀ c, h ≠ .opened c) :
    Keeps s { s with handle := h, file := s.settled } :=
  ⟨⟨Nat.le_refl _, id⟩, fun _ hc => ⟨calm_drop s hh hc.rollbackSafe, by rw [settled_of_calm hc]⟩⟩

/-! ## The primitives -/

theorem runFrom_attempt {α : Type} (j : Job α) (s : Session) :
    runFrom (Job.attempt j) s = match runFrom j s with
      | (.ok a, s') => (.ok (.ok a), s')
      | (.error (.fail e), s') => (.ok (.error e), s')
      | (.error .panic, s') => (.error .panic, s') := by
  unfold Job.attempt
  rw [runFrom_tryCatch, runFrom_map]
  rcases runFrom j s with ⟨(u | a), s'⟩
  · cases u <;> rfl
  · rfl

/-- Catching a job's failure keeps what the job keeps. -/
theorem Holds.attempt {R : Session → Session → Prop} [Std.Refl R] [Trans R R R] {α : Type}
    {j : Job α} (h : Holds R j) : Holds R (Job.attempt j) := by
  refine Holds.tryCatch (Holds.map _ h) (fun u => ?_)
  cases u with
  | fail e => exact Holds.pure _
  | panic => exact Holds.throw _

theorem Returns.attempt {α : Type} {P : α → Prop} {j : Job α} (h : Returns P j) :
    Returns (fun o => ∀ a, o = .ok a → P a) (Job.attempt j) := by
  intro s o s' hrun a ha
  subst ha
  rw [runFrom_attempt] at hrun
  rcases hj : runFrom j s with ⟨(u | b), s₁⟩
  all_goals rw [hj] at hrun
  · cases u <;> cases hrun
  · cases hrun
    exact h s a _ hj

@[simp] theorem runFrom_updatePlan (f : FaultPlan → FaultPlan) (s : Session) :
    runFrom (updatePlan f) s = (.ok (), { s with plan := f s.plan }) := rfl

/-- Changing the plan's counters keeps the store. -/
theorem updatePlan_keeps {f : FaultPlan → FaultPlan} (hr : ∀ p, (f p).rules = p.rules)
    (hrem : ∀ p, p.removes ≤ (f p).removes) : Holds Keeps (updatePlan f) := by
  intro s
  rw [runFrom_updatePlan]
  exact Keeps.of_moves ⟨hrem _, fun h => FaultPlan.rollbackSafe_of_rules h (hr _)⟩
    (fun hc => hc.of_handle rfl (FaultPlan.rollbackSafe_of_rules hc.rollbackSafe (hr _))) rfl

/-- A change of the session that leaves the handle, the plan and the file as they are. -/
theorem modify_keeps {f : Session → Session} (hh : ∀ s, (f s).handle = s.handle)
    (hp : ∀ s, (f s).plan = s.plan) (hf : ∀ s, (f s).file = s.file) :
    Holds Keeps (modify f : Job Unit) := by
  intro s
  rw [runFrom_modify]
  refine Keeps.of_moves ⟨Nat.le_of_eq (by rw [hp]), fun h => by rw [hp]; exact h⟩
    (fun hc => hc.of_handle (hh s) (by rw [hp]; exact hc.rollbackSafe)) (by rw [hf])

theorem runFrom_abandon (s : Session) :
    runFrom abandon s = (.ok (), { s with handle := .crashed, file := s.settled }) := by
  cases hh : s.handle <;> simp [abandon, settled, hh]

theorem runFrom_close (s : Session) :
    runFrom close s = (.ok (), { s with handle := .closed, file := s.settled }) := by
  cases hh : s.handle <;> simp [close, settled, hh]

theorem close_keeps : Holds Keeps close := by
  intro s
  rw [runFrom_close]
  exact keeps_drop s (fun _ h => by cases h)

/-! ## Opening -/

/-- What an open of the engine can do: count itself, fail, or create an empty database where
there was none. -/
theorem engineOpen_cases {s s' : Session} {r : Except Unwind Connection}
    (h : runFrom engineOpen s = (r, s')) :
    s'.handle = s.handle ∧ s'.plan.rules = s.plan.rules ∧ s'.plan.removes = s.plan.removes ∧
      s'.file.rows = s.file.rows ∧ ∀ c, r = .ok c → c.savepoint = none := by
  simp only [engineOpen, runFrom_bind, runFrom_get, updatePlan, runFrom_modify] at h
  split at h
  · -- an injected failure: only the counters move
    split at h <;> simp [runFrom_bind, Job.fail] at h <;> obtain ⟨rfl, rfl⟩ := h <;> simp
  · split at h
    · rename_i hfile
      simp at h
      obtain ⟨rfl, rfl⟩ := h
      simp [hfile]
    · simp at h
      obtain ⟨rfl, rfl⟩ := h
      simp
    · rename_i hfile
      split at h
      · simp at h
        obtain ⟨rfl, rfl⟩ := h
        simp [hfile]
      · simp [Job.fail] at h
        obtain ⟨rfl, rfl⟩ := h
        simp

theorem engineOpen_keeps : Holds Keeps engineOpen := by
  intro s
  rcases hrun : runFrom engineOpen s with ⟨r, s'⟩
  obtain ⟨hh, hr, hrem, hrows, -⟩ := engineOpen_cases hrun
  exact Keeps.of_moves ⟨hrem ▸ Nat.le_refl _, fun h => FaultPlan.rollbackSafe_of_rules h hr⟩
    (fun hc => hc.of_handle hh (FaultPlan.rollbackSafe_of_rules hc.rollbackSafe hr)) hrows

theorem engineOpen_returns : Returns (fun c : Connection => c.savepoint = none) engineOpen :=
  fun _ c _ hrun => (engineOpen_cases hrun).2.2.2.2 c rfl

/-! ## Running one statement on the engine -/

/-- What the engine can do with a statement: an injected failure fires and nothing runs, the
statement fails, its rows cannot be handed out, or it runs and the file becomes what it made. -/
theorem engineRun_cases {c : Connection} {st : BoundStatement} {s s' : Session}
    {r : Except Unwind (Connection × List Row)} (h : runFrom (engineRun c st) s = (r, s')) :
    (∃ u, r = .error u ∧ s' = { s with plan := (s.plan.fire st.statement.text).2 } ∧
      (∀ k, (s.plan.fire st.statement.text).1 = some k →
        u = if k = .panic then .panic else .fail k.failure) ∧
      ((s.plan.fire st.statement.text).1 = none →
        (∃ f, c.run s.database s.clock st = .error f ∧ u = .fail (.engine f)) ∨
        (∃ c' d rows, c.run s.database s.clock st = .ok (c', d, rows) ∧ u = .panic))) ∨
    (∃ c' d rows, (s.plan.fire st.statement.text).1 = none ∧
      c.run s.database s.clock st = .ok (c', d, rows) ∧ r = .ok (c', rows) ∧
      s' = { s with plan := (s.plan.fire st.statement.text).2, file := .database d }) := by
  rcases hf : s.plan.fire st.statement.text with ⟨fired, plan⟩
  simp only [engineRun, runFrom_bind, runFrom_get, hf, updatePlan, runFrom_modify] at h
  cases fired with
  | some k =>
    -- an injected failure: nothing runs
    left
    refine ⟨if k = .panic then .panic else .fail k.failure, ?_, ?_, by simp, by simp⟩ <;>
      rcases k with _ | _ | _ <;> simp [Job.fail] at h <;> simp [h]
  | none =>
    have hdb : ({ s with plan := plan } : Session).database = s.database := rfl
    simp only [runFrom_bind, runFrom_get, hdb] at h
    rcases hr : c.run s.database s.clock st with f | ⟨c', d, rows⟩
    · -- the statement fails
      rw [hr] at h
      simp only [Job.fail, runFrom_throw, Prod.mk.injEq] at h
      obtain ⟨rfl, rfl⟩ := h
      exact .inl ⟨_, rfl, rfl, by simp, fun _ => .inl ⟨f, rfl, rfl⟩⟩
    · rw [hr] at h
      dsimp only at h
      split at h
      · -- rows that cannot be handed out stop the job
        simp only [runFrom_bind, runFrom_throw, Prod.mk.injEq] at h
        obtain ⟨rfl, rfl⟩ := h
        exact .inl ⟨_, rfl, rfl, by simp, fun _ => .inr ⟨c', d, rows, rfl, rfl⟩⟩
      · simp only [runFrom_bind, runFrom_modify, runFrom_pure, Prod.mk.injEq] at h
        obtain ⟨rfl, rfl⟩ := h
        exact .inr ⟨c', d, rows, rfl, rfl, rfl, rfl⟩

theorem engineRun_error {c : Connection} {st : BoundStatement} {s s' : Session} {u : Unwind}
    (h : runFrom (engineRun c st) s = (.error u, s')) :
    s' = { s with plan := (s.plan.fire st.statement.text).2 } := by
  rcases engineRun_cases h with ⟨_, _, hs', _⟩ | ⟨_, _, _, _, _, hr, _⟩
  · exact hs'
  · cases hr

theorem engineRun_ok {c c' : Connection} {st : BoundStatement} {s s' : Session} {rows : List Row}
    (h : runFrom (engineRun c st) s = (.ok (c', rows), s')) :
    ∃ d, c.run s.database s.clock st = .ok (c', d, rows) ∧
      s' = { s with plan := (s.plan.fire st.statement.text).2, file := .database d } := by
  rcases engineRun_cases h with ⟨_, hr, _⟩ | ⟨c'', d, rows', _, hrun, hr, hs'⟩
  · cases hr
  · cases hr
    exact ⟨d, hrun, hs'⟩

/-- Firing an injected rule is a move of the session. -/
theorem moves_fire (s : Session) (t : String) {s' : Session}
    (hp : s'.plan = (s.plan.fire t).2) : Moves s s' :=
  ⟨Nat.le_of_eq (by rw [hp, FaultPlan.removes_fire]), fun h => hp ▸ FaultPlan.rollbackSafe_fire h t⟩

theorem calm_fire {s : Session} (h : s.Calm) (t : String) {s' : Session}
    (hh : s'.handle = s.handle) (hp : s'.plan = (s.plan.fire t).2) : s'.Calm :=
  h.of_handle hh (hp ▸ FaultPlan.rollbackSafe_fire h.rollbackSafe t)

theorem engineRun_moves (c : Connection) (st : BoundStatement) : Holds Moves (engineRun c st) := by
  intro s
  rcases hrun : runFrom (engineRun c st) s with ⟨(u | ⟨c', rows⟩), s'⟩
  · rw [engineRun_error hrun]
    exact moves_fire s _ rfl
  · obtain ⟨d, -, rfl⟩ := engineRun_ok hrun
    exact moves_fire s _ rfl

/-- A statement that reads, sets the journal or creates the schema keeps the store, whatever the
engine does with it. -/
theorem engineRun_keeps (c : Connection) {st : BoundStatement}
    (hs : st.statement.controlsTransaction = false)
    (hk : Tables.writes st.statement = false ∨ st.statement = .createSchema) :
    Holds Keeps (engineRun c st) := by
  intro s
  rcases hrun : runFrom (engineRun c st) s with ⟨(u | ⟨c', rows⟩), s'⟩
  · rw [engineRun_error hrun]
    exact Keeps.of_moves (moves_fire s _ rfl) (fun hc => calm_fire hc _ rfl rfl) rfl
  · obtain ⟨d, hd, rfl⟩ := engineRun_ok hrun
    refine Keeps.of_moves (moves_fire s _ rfl) (fun hc => calm_fire hc _ rfl rfl) ?_
    calc (BackingFile.database d).rows
        = (BackingFile.database s.database).rows := funext (Connection.tableRows_run hs hk hd)
      _ = s.file.rows := rows_database s

/-- A statement other than transaction control keeps the connection's transaction. -/
theorem engineRun_returns (c : Connection) {st : BoundStatement}
    (hs : st.statement.controlsTransaction = false) :
    Returns (fun r : Connection × List Row => r.1.savepoint = c.savepoint) (engineRun c st) := by
  intro s ⟨c', rows⟩ s' hrun
  obtain ⟨d, hd, -⟩ := engineRun_ok hrun
  exact (Connection.run_cases hs hd).1

/-- Removing the backing file counts a removal, so it keeps the store vacuously. -/
theorem removeBackingFile_keeps : Holds Keeps removeBackingFile := by
  intro s
  have hmoves : ∀ s' : Session, s'.plan = { s.plan with removes := s.plan.removes + 1 } →
      Keeps s s' := fun s' hp =>
    ⟨⟨by rw [hp]; exact Nat.le_succ _,
      fun h => FaultPlan.rollbackSafe_of_rules h (by rw [hp])⟩,
     fun heq => absurd heq (by rw [hp]; exact Nat.succ_ne_self _)⟩
  simp only [removeBackingFile, runFrom_bind, runFrom_updatePlan, runFrom_get]
  split
  · exact hmoves _ rfl
  · exact hmoves _ rfl

/-! ## Opening, recovering and ensuring an open handle -/

theorem tryOpen_keeps : Holds Keeps tryOpen := by
  unfold tryOpen
  refine Holds.bind Holds.get (fun _ => Holds.bind engineOpen_keeps (fun c => ?_))
  refine Holds.bind (engineRun_keeps c rfl (.inl rfl)) (fun ⟨c₁, _⟩ => ?_)
  exact Holds.bind (engineRun_keeps c₁ rfl (.inr rfl)) (fun ⟨c₂, _⟩ => Holds.pure c₂)

/-- An attempt to open yields a connection outside any transaction. -/
theorem tryOpen_returns : Returns (fun c : Connection => c.savepoint = none) tryOpen := by
  unfold tryOpen
  refine Returns.bind (P := fun _ => True) (fun _ _ _ _ => trivial) (fun _ _ => ?_)
  refine Returns.bind engineOpen_returns (fun c hc => ?_)
  refine Returns.bind (engineRun_returns c rfl) (fun ⟨c₁, _⟩ h₁ => ?_)
  refine Returns.bind (engineRun_returns c₁ rfl) (fun ⟨c₂, _⟩ h₂ => Returns.pure ?_)
  exact h₂.trans (h₁.trans hc)

theorem openAttempts_keeps (total : Nat) : ∀ n last, Holds Keeps (openAttempts total n last)
  | 0, _ => Holds.bind Holds.get (fun _ => Holds.throw _)
  | n + 1, _ => by
    unfold openAttempts
    refine Holds.bind_of_returns (Holds.attempt tryOpen_keeps) (Returns.attempt tryOpen_returns)
      (fun o ho => ?_)
    cases o with
    | ok c =>
      -- the handle takes a connection that holds no transaction
      intro s
      rw [runFrom_modify]
      exact Keeps.of_moves ⟨Nat.le_refl _, id⟩
        (fun hc => ⟨fun c' h => by cases h; exact ho c rfl, hc.rollbackSafe⟩) rfl
    | error e =>
      -- a damaged file is removed before the next attempt
      dsimp only
      split
      · exact Holds.bind removeBackingFile_keeps (fun _ => openAttempts_keeps total n (some e))
      · exact openAttempts_keeps total n (some e)

theorem openWithRetry_keeps : Holds Keeps openWithRetry := by
  unfold openWithRetry
  refine Holds.bind Holds.get (fun s => ?_)
  split
  · exact Holds.throw _
  · exact openAttempts_keeps _ _ _

theorem recover_keeps : Holds Keeps recover := by
  unfold recover
  refine Holds.bind close_keeps (fun _ => Holds.bind ?_ (fun _ =>
    Holds.bind openWithRetry_keeps (fun _ => modify_keeps (fun _ => rfl) (fun _ => rfl)
      (fun _ => rfl))))
  exact updatePlan_keeps (fun _ => rfl) (fun _ => Nat.le_refl _)

theorem ensureOpen_keeps : Holds Keeps ensureOpen := by
  unfold ensureOpen
  refine Holds.bind Holds.get (fun s => ?_)
  split
  · exact Holds.pure ()
  · exact openWithRetry_keeps
  · exact recover_keeps

/-! ## Running a statement on the handle -/

/-- What running a statement on the handle can do: fail at once when the handle is not open;
otherwise take the engine's outcome, turning an engine fault into a crash of the handle. -/
theorem run_cases {st : BoundStatement} {s s' : Session} {r : Except Unwind (List Row)}
    (h : runFrom (run st) s = (r, s')) :
    ((∀ c, s.handle ≠ .opened c) ∧ s' = s ∧ ∃ e, r = .error (.fail e)) ∨
    ∃ c, s.handle = .opened c ∧
      ((∃ c' rows s₀, runFrom (engineRun c st) s = (.ok (c', rows), s₀) ∧ r = .ok rows ∧
          s' = { s₀ with handle := .opened c' }) ∨
       (∃ s₀, runFrom (engineRun c st) s = (.error .panic, s₀) ∧ r = .error .panic ∧ s' = s₀) ∨
       (∃ e s₀, runFrom (engineRun c st) s = (.error (.fail e), s₀) ∧
          ((e.isEngineFault = true ∧ r = .error (.fail .engineCrashed) ∧
              s' = { s₀ with handle := .crashed, file := s₀.settled }) ∨
           (e.isEngineFault = false ∧ r = .error (.fail e) ∧ s' = s₀)))) := by
  simp only [run, runFrom_bind, runFrom_get] at h
  split at h
  · rename_i hh
    simp only [Job.fail, runFrom_throw, Prod.mk.injEq] at h
    obtain ⟨rfl, rfl⟩ := h
    exact .inl ⟨fun c hc => (by rw [hh] at hc; cases hc), rfl, _, rfl⟩
  · rename_i hh
    simp only [Job.fail, runFrom_throw, Prod.mk.injEq] at h
    obtain ⟨rfl, rfl⟩ := h
    exact .inl ⟨fun c hc => (by rw [hh] at hc; cases hc), rfl, _, rfl⟩
  · rename_i c hh
    refine .inr ⟨c, hh, ?_⟩
    rw [runFrom_bind, runFrom_attempt] at h
    rcases he : runFrom (engineRun c st) s with ⟨(u | ⟨c', rows⟩), s₀⟩
    all_goals rw [he] at h
    · cases u with
      | panic =>
        simp only [Prod.mk.injEq] at h
        obtain ⟨rfl, rfl⟩ := h
        exact .inr (.inl ⟨s₀, rfl, rfl, rfl⟩)
      | fail e =>
        refine .inr (.inr ⟨e, s₀, rfl, ?_⟩)
        dsimp only at h
        cases hf : e.isEngineFault
        · simp only [hf, Bool.false_eq_true, ite_false, Job.fail, runFrom_throw,
            Prod.mk.injEq] at h
          obtain ⟨rfl, rfl⟩ := h
          exact .inr ⟨rfl, rfl, rfl⟩
        · simp only [hf, ite_true, runFrom_bind, runFrom_abandon, Job.fail, runFrom_throw,
            Prod.mk.injEq] at h
          obtain ⟨rfl, rfl⟩ := h
          exact .inl ⟨rfl, rfl, rfl⟩
    · simp only [runFrom_bind, runFrom_modify, runFrom_pure, Prod.mk.injEq] at h
      obtain ⟨rfl, rfl⟩ := h
      exact .inl ⟨c', rows, s₀, rfl, rfl, rfl⟩

theorem run_moves (st : BoundStatement) : Holds Moves (run st) := by
  intro s
  rcases hrun : runFrom (run st) s with ⟨r, s'⟩
  rcases run_cases hrun with ⟨-, rfl, -⟩ | ⟨c, -, hcases⟩
  · exact Std.Refl.refl _
  -- the engine moves the plan; setting or dropping the handle keeps it
  have hm : ∀ {r₀ s₀}, runFrom (engineRun c st) s = (r₀, s₀) → Moves s s₀ := fun he => by
    have := engineRun_moves c st s
    rw [he] at this
    exact this
  rcases hcases with ⟨c', rows, s₀, he, -, rfl⟩ | ⟨s₀, he, -, rfl⟩ |
    ⟨e, s₀, he, ⟨-, -, rfl⟩ | ⟨-, -, rfl⟩⟩
  · exact ⟨(hm he).removes_le, (hm he).rollbackSafe⟩
  · exact hm he
  · exact ⟨(hm he).removes_le, (hm he).rollbackSafe⟩
  · exact hm he

/-- A statement that reads, sets the journal or creates the schema keeps the store on the
handle, whatever happens to it. -/
theorem run_keeps {st : BoundStatement} (hs : st.statement.controlsTransaction = false)
    (hk : Tables.writes st.statement = false ∨ st.statement = .createSchema) :
    Holds Keeps (run st) := by
  intro s
  rcases hrun : runFrom (run st) s with ⟨r, s'⟩
  rcases run_cases hrun with ⟨-, rfl, -⟩ | ⟨c, hc, hcases⟩
  · exact Std.Refl.refl _
  have hk₀ : ∀ {r₀ s₀}, runFrom (engineRun c st) s = (r₀, s₀) → Keeps s s₀ := fun he => by
    have := engineRun_keeps c hs hk s
    rw [he] at this
    exact this
  rcases hcases with ⟨c', rows, s₀, he, -, rfl⟩ | ⟨s₀, he, -, rfl⟩ |
    ⟨e, s₀, he, ⟨-, -, rfl⟩ | ⟨-, -, rfl⟩⟩
  · -- the handle takes the connection back, still outside any transaction
    have hsp : c'.savepoint = c.savepoint := engineRun_returns c hs s (c', rows) s₀ he
    refine ⟨⟨(hk₀ he).removes_le, (hk₀ he).rollbackSafe⟩, fun heq hcalm => ?_⟩
    obtain ⟨hc₀, hr₀⟩ := (hk₀ he).calm heq hcalm
    refine ⟨⟨fun c'' h => ?_, hc₀.rollbackSafe⟩, hr₀⟩
    cases h
    rw [hsp]
    exact hcalm.idle c hc
  · exact hk₀ he
  · exact Trans.trans (hk₀ he) (keeps_drop s₀ (fun _ h => by cases h))
  · exact hk₀ he

/-- A statement that fails on the handle leaves a calm session calm with the same rows. -/
theorem run_atomic (st : BoundStatement) : Atomic (run st) := by
  refine ⟨run_moves st, fun s hcalm _ => ?_⟩
  rcases hrun : runFrom (run st) s with ⟨r, s'⟩
  rcases run_cases hrun with ⟨-, rfl, e, rfl⟩ | ⟨c, -, hcases⟩
  · exact ⟨hcalm, rfl⟩
  -- after a failure of the engine only the plan has moved
  have hc₀ : ∀ {u s₀}, runFrom (engineRun c st) s = (.error u, s₀) → s₀.Calm ∧ s₀.file = s.file :=
    fun he => by
      rw [engineRun_error he]
      exact ⟨calm_fire hcalm _ rfl rfl, rfl⟩
  rcases hcases with ⟨c', rows, s₀, -, rfl, -⟩ | ⟨s₀, he, rfl, rfl⟩ |
    ⟨e, s₀, he, ⟨-, rfl, rfl⟩ | ⟨-, rfl, rfl⟩⟩
  · trivial
  · obtain ⟨h₀, hf⟩ := hc₀ he
    exact ⟨h₀.rollbackSafe, by rw [settled_of_calm h₀, hf]⟩
  · obtain ⟨h₀, hf⟩ := hc₀ he
    exact ⟨calm_drop s₀ (fun _ h => by cases h) h₀.rollbackSafe,
      by simp only [settled_of_calm h₀, hf]⟩
  · obtain ⟨h₀, hf⟩ := hc₀ he
    exact ⟨h₀, by rw [hf]⟩

/-! ## Transactions -/

section Transactions

variable {R : String → RowList}

/-- A session inside a transaction begun on a file with rows `R`: the handle is open on a
connection that remembers that file, and the backing file is a database. -/
structure InTransaction (R : String → RowList) (s : Session) : Prop where
  rollbackSafe : s.plan.RollbackSafe
  opened : ∃ c saved d, s.handle = .opened c ∧ c.savepoint = some saved ∧
    s.file = .database d ∧ (BackingFile.database saved).rows = R

theorem InTransaction.settled_rows {s : Session} (h : InTransaction R s) : s.settled.rows = R := by
  obtain ⟨c, saved, d, hh, hsp, hf, hr⟩ := h.opened
  simp [settled, hh, released, hf, Connection.release, hsp, hr]

theorem InTransaction.fire {s : Session} (h : InTransaction R s) (t : String) :
    InTransaction R { s with plan := (s.plan.fire t).2 } :=
  ⟨FaultPlan.rollbackSafe_fire h.rollbackSafe t, h.opened⟩

/-- A session on its way out of a transaction begun on a file with rows `R`: still in it, or
with the handle dropped, calm, and the rows back. -/
def Unwinding (R : String → RowList) (s : Session) : Prop :=
  InTransaction R s ∨ (s.Calm ∧ s.file.rows = R ∧ ∀ c, s.handle ≠ .opened c)

theorem Unwinding.settles {s : Session} (h : Unwinding R s) :
    s.plan.RollbackSafe ∧ s.settled.rows = R := by
  rcases h with h | ⟨hc, hr, -⟩
  · exact ⟨h.rollbackSafe, h.settled_rows⟩
  · exact ⟨hc.rollbackSafe, by rw [settled_of_calm hc, hr]⟩

/-- Inside a transaction, a statement that fails leaves the session on its way out. -/
theorem run_unwinding {st : BoundStatement} {s s' : Session} {u : Unwind}
    (h : InTransaction R s) (hrun : runFrom (run st) s = (.error u, s')) : Unwinding R s' := by
  obtain ⟨c₀, saved, d, hh, -, -, -⟩ := h.opened
  rcases run_cases hrun with ⟨hno, -, -⟩ | ⟨c, -, hcases⟩
  · exact absurd hh (hno c₀)
  rcases hcases with ⟨c', rows, s₀, -, hr, -⟩ | ⟨s₀, he, -, rfl⟩ |
    ⟨e, s₀, he, ⟨-, -, rfl⟩ | ⟨-, -, rfl⟩⟩
  · cases hr
  · rw [engineRun_error he]
    exact .inl (h.fire _)
  · -- the engine crashed: dropping the handle rolls the transaction back
    rw [engineRun_error he]
    have h₀ := h.fire st.statement.text
    exact .inr ⟨calm_drop _ (fun _ h => by cases h) h₀.rollbackSafe, h₀.settled_rows,
      fun _ h => by cases h⟩
  · rw [engineRun_error he]
    exact .inl (h.fire _)

/-- Inside a transaction, a statement other than transaction control that succeeds keeps the
transaction. -/
theorem run_inTransaction {st : BoundStatement} {s s' : Session} {rows : List Row}
    (hs : st.statement.controlsTransaction = false) (h : InTransaction R s)
    (hrun : runFrom (run st) s = (.ok rows, s')) : InTransaction R s' := by
  obtain ⟨c₀, saved, d, hh, hsp, -, hr⟩ := h.opened
  rcases run_cases hrun with ⟨hno, -, -⟩ | ⟨c, hc, hcases⟩
  · exact absurd hh (hno c₀)
  rw [hh] at hc
  cases hc
  rcases hcases with ⟨c', rows', s₀, he, -, rfl⟩ | ⟨s₀, -, hr', -⟩ | ⟨e, s₀, -, ⟨-, hr', -⟩ | ⟨-, hr', -⟩⟩
  · have hsp' : c'.savepoint = c₀.savepoint := engineRun_returns c₀ hs s (c', rows') s₀ he
    obtain ⟨d', -, rfl⟩ := engineRun_ok he
    exact ⟨FaultPlan.rollbackSafe_fire h.rollbackSafe _, c', saved, d', rfl, hsp'.trans hsp, rfl, hr⟩
  all_goals cases hr'

/-- `BEGIN` that succeeds on a calm session opens a transaction on the file as it is. -/
theorem run_begin {bs : List SqlValue} {s s' : Session} {rows : List Row} (hcalm : s.Calm)
    (hrun : runFrom (run ⟨.beginTransaction, bs⟩) s = (.ok rows, s')) :
    InTransaction s.file.rows s' := by
  rcases run_cases hrun with ⟨-, -, _, hr⟩ | ⟨c, hc, hcases⟩
  · cases hr
  rcases hcases with ⟨c', rows', s₀, he, -, rfl⟩ | ⟨s₀, -, hr', -⟩ | ⟨e, s₀, -, ⟨-, hr', -⟩ | ⟨-, hr', -⟩⟩
  · obtain ⟨d, hd, rfl⟩ := engineRun_ok he
    rw [Connection.run_begin c _ _ bs (hcalm.idle c hc)] at hd
    cases hd
    exact ⟨FaultPlan.rollbackSafe_fire hcalm.rollbackSafe _, _, s.database, s.database, rfl, rfl,
      rfl, rows_database s⟩
  all_goals cases hr'

/-- Under a plan safe for rollbacks, a rollback in a transaction fails only by taking the engine
down. -/
theorem engineRun_rollback_crashes {c : Connection} {saved : DatabaseFile}
    (hsp : c.savepoint = some saved) {bs : List SqlValue} {s s₀ : Session} {e : StoreError}
    (hsafe : s.plan.RollbackSafe)
    (he : runFrom (engineRun c ⟨.rollback, bs⟩) s = (.error (.fail e), s₀)) :
    e.isEngineFault = true := by
  rcases engineRun_cases he with ⟨u, hu, -, hfired, hnone⟩ | ⟨_, _, _, _, _, hr, _⟩
  · cases hu
    cases hk : (s.plan.fire Statement.rollback.text).1 with
    | some k =>
      have hcr := FaultPlan.crashes_of_fire_rollback hsafe hk
      have hu := hfired k hk
      by_cases hp : k = .panic
      · simp [hp] at hu
      · simp only [hp, ite_false, Unwind.fail.injEq] at hu
        simp only [FaultKind.crashes, Bool.or_eq_true, beq_iff_eq, hp, false_or] at hcr
        rw [hu]
        exact hcr
    | none =>
      rcases hnone hk with ⟨f, hf, -⟩ | ⟨_, _, _, -, hp⟩
      · rw [Connection.run_rollback c _ saved _ bs hsp] at hf
        cases hf
      · cases hp
  · cases hr

/-- A rollback in a transaction, under a plan safe for rollbacks, brings the rows back and leaves
the session calm, unless the job stops abruptly on it. -/
theorem run_rollback {bs : List SqlValue} {s s' : Session} {r : Except Unwind (List Row)}
    (h : InTransaction R s) (hrun : runFrom (run ⟨.rollback, bs⟩) s = (r, s')) :
    (r = .error .panic ∧ InTransaction R s') ∨ (s'.Calm ∧ s'.file.rows = R) := by
  obtain ⟨c₀, saved, d, hh, hsp, -, hr⟩ := h.opened
  rcases run_cases hrun with ⟨hno, -, -⟩ | ⟨c, hc, hcases⟩
  · exact absurd hh (hno c₀)
  rw [hh] at hc
  cases hc
  rcases hcases with ⟨c', rows, s₀, he, -, rfl⟩ | ⟨s₀, he, rfl, rfl⟩ |
    ⟨e, s₀, he, ⟨-, -, rfl⟩ | ⟨hf, -, rfl⟩⟩
  · -- the rollback ran: the remembered file is back and no transaction is open
    obtain ⟨d', hd, rfl⟩ := engineRun_ok he
    rw [Connection.run_rollback c₀ _ saved _ bs hsp] at hd
    cases hd
    refine .inr ⟨⟨fun c h => ?_, FaultPlan.rollbackSafe_fire h.rollbackSafe _⟩, hr⟩
    cases h
    rfl
  · rw [engineRun_error he]
    exact .inl ⟨rfl, h.fire _⟩
  · rw [engineRun_error he]
    have h₀ := h.fire Statement.rollback.text
    exact .inr ⟨calm_drop _ (fun _ h => by cases h) h₀.rollbackSafe, h₀.settled_rows⟩
  · have := engineRun_rollback_crashes hsp h.rollbackSafe he
    rw [hf] at this
    cases this

/-- A job inside a transaction that keeps it open when it succeeds and leaves the session on its
way out of it when it fails. -/
def StaysIn {α : Type} (R : String → RowList) (j : Job α) : Prop :=
  ∀ s s' r, InTransaction R s → runFrom j s = (r, s') →
    (∀ a, r = .ok a → InTransaction R s') ∧ (∀ u, r = .error u → Unwinding R s')

/-- A job inside a transaction that leaves the session on its way out of it when it fails. -/
def FailsOut {α : Type} (R : String → RowList) (j : Job α) : Prop :=
  ∀ s s' u, InTransaction R s → runFrom j s = (.error u, s') → Unwinding R s'

theorem StaysIn.pure {α : Type} (a : α) : StaysIn R (Pure.pure a : Job α) := by
  intro s s' r h hrun
  cases hrun
  exact ⟨fun _ _ => h, fun _ hr => by cases hr⟩

theorem StaysIn.bind {α β : Type} {x : Job α} {f : α → Job β} (hx : StaysIn R x)
    (hf : ∀ a, StaysIn R (f a)) : StaysIn R (x >>= f) := by
  intro s s' r h hrun
  rw [runFrom_bind] at hrun
  rcases h₁ : runFrom x s with ⟨(u | a), s₁⟩
  all_goals rw [h₁] at hrun
  · simp only [Prod.mk.injEq] at hrun
    obtain ⟨rfl, rfl⟩ := hrun
    exact ⟨fun _ hr => (by cases hr), fun _ _ => (hx s s₁ _ h h₁).2 u rfl⟩
  · exact hf a s₁ s' r ((hx s s₁ _ h h₁).1 a rfl) hrun

theorem StaysIn.forIn {α β : Type} {l : List α} {b : β} {f : α → β → Job (ForInStep β)}
    (hf : ∀ a ∈ l, ∀ b, StaysIn R (f a b)) : StaysIn R (forIn l b f) := by
  induction l generalizing b with
  | nil => exact StaysIn.pure b
  | cons a rest ih =>
    intro s s' r h hrun
    have ha := hf a List.mem_cons_self b
    rw [runFrom_forIn_cons] at hrun
    rcases h₁ : runFrom (f a b) s with ⟨(u | (b' | b')), s₁⟩
    all_goals rw [h₁] at hrun
    · simp only [Prod.mk.injEq] at hrun
      obtain ⟨rfl, rfl⟩ := hrun
      exact ⟨fun _ hr => (by cases hr), fun _ _ => (ha s s₁ _ h h₁).2 u rfl⟩
    · simp only [Prod.mk.injEq] at hrun
      obtain ⟨rfl, rfl⟩ := hrun
      exact ⟨fun _ _ => (ha s s₁ _ h h₁).1 _ rfl, fun _ hr => (by cases hr)⟩
    · exact ih (fun a' ha' => hf a' (List.mem_cons_of_mem _ ha')) s₁ s' r
        ((ha s s₁ _ h h₁).1 _ rfl) hrun

theorem StaysIn.failsOut {α : Type} {j : Job α} (h : StaysIn R j) : FailsOut R j :=
  fun s s' u hin hrun => (h s s' _ hin hrun).2 u rfl

theorem FailsOut.bind {α β : Type} {x : Job α} {f : α → Job β} (hx : StaysIn R x)
    (hf : ∀ a, FailsOut R (f a)) : FailsOut R (x >>= f) := by
  intro s s' u h hrun
  rw [runFrom_bind] at hrun
  rcases h₁ : runFrom x s with ⟨(v | a), s₁⟩
  all_goals rw [h₁] at hrun
  · simp only [Prod.mk.injEq] at hrun
    obtain ⟨-, rfl⟩ := hrun
    exact (hx s s₁ _ h h₁).2 v rfl
  · exact hf a s₁ s' u ((hx s s₁ _ h h₁).1 a rfl) hrun

theorem FailsOut.bind_pure {α β : Type} {x : Job α} (hx : FailsOut R x) (g : α → β) :
    FailsOut R (x >>= fun a => Pure.pure (g a)) := by
  intro s s' u h hrun
  rw [runFrom_bind] at hrun
  rcases h₁ : runFrom x s with ⟨(v | a), s₁⟩
  all_goals rw [h₁] at hrun
  · simp only [Prod.mk.injEq] at hrun
    obtain ⟨-, rfl⟩ := hrun
    exact hx s s₁ v h h₁
  · cases hrun

theorem run_staysIn {st : BoundStatement} (hs : st.statement.controlsTransaction = false) :
    StaysIn R (run st) := fun _ _ _ h hrun =>
  ⟨fun _ hr => run_inTransaction hs h (hr ▸ hrun), fun _ hr => run_unwinding h (hr ▸ hrun)⟩

theorem run_failsOut (st : BoundStatement) : FailsOut R (run st) :=
  fun _ _ _ h hrun => run_unwinding h hrun

end Transactions

theorem runFrom_isOpen (s : Session) :
    runFrom isOpen s = (.ok (match s.handle with | .opened _ => true | _ => false), s) := by
  cases hh : s.handle <;> simp [isOpen, runFrom_bind, hh]

theorem isOpen_moves : Holds Moves isOpen := by
  intro s
  rw [runFrom_isOpen]
  exact Std.Refl.refl s

theorem runTransaction_moves (stmts : List BoundStatement) : Holds Moves (runTransaction stmts) := by
  unfold runTransaction
  refine Holds.bind (run_moves _) (fun _ => Holds.bind (Holds.attempt ?_) (fun r => ?_))
  · exact Holds.bind (Holds.forIn (fun st _ => Holds.bind (run_moves st) (fun _ => Holds.pure _)))
      (fun _ => Holds.bind (run_moves _) (fun _ => Holds.pure _))
  · cases r with
    | ok => exact Holds.pure ()
    | error e =>
      refine Holds.bind isOpen_moves (fun b => ?_)
      split
      · exact Holds.bind (Holds.attempt (run_moves _)) (fun _ => Holds.throw _)
      · exact Holds.throw _

/-- After the body of a transaction failed, rolling back (when the handle is still open) and
reporting the failure keeps the store. -/
theorem settles_after_body {s s₂ : Session} (e : StoreError) (h : Unwinding s.file.rows s₂) :
    Settles s (runFrom (do
      if ← isOpen then
        let _ ← Job.attempt (run ⟨.rollback, []⟩)
      Job.fail e : Job Unit) s₂) := by
  rw [runFrom_bind, runFrom_isOpen]
  rcases h with hin | ⟨hc, hr, hno⟩
  · -- still in the transaction: roll it back
    obtain ⟨c, -, -, hh, -⟩ := hin.opened
    simp only [hh, ite_true]
    rw [runFrom_bind, runFrom_attempt]
    rcases hrb : runFrom (run ⟨.rollback, []⟩) s₂ with ⟨r, s₃⟩
    rcases run_rollback hin hrb with ⟨rfl, hin₃⟩ | ⟨hc₃, hr₃⟩
    · exact ⟨hin₃.rollbackSafe, hin₃.settled_rows⟩
    · rcases r with ((e' | _) | rows)
      · exact ⟨hc₃, hr₃⟩
      · exact ⟨hc₃.rollbackSafe, by rw [settled_of_calm hc₃, hr₃]⟩
      · exact ⟨hc₃, hr₃⟩
  · -- the handle is gone and the rows are back
    cases hh : s₂.handle with
    | opened c => exact absurd hh (hno c)
    | closed => exact ⟨hc, hr⟩
    | crashed => exact ⟨hc, hr⟩

/-- A transaction of statements other than transaction control that fails keeps the store: the
rows it began with are back and the session is calm, or, if the job stopped abruptly, the rows
are back once the handle is dropped. -/
theorem runTransaction_atomic {stmts : List BoundStatement}
    (hs : ∀ st ∈ stmts, st.statement.controlsTransaction = false) :
    Atomic (runTransaction stmts) := by
  refine ⟨runTransaction_moves stmts, fun s hcalm heq => ?_⟩
  have hbody : FailsOut s.file.rows (do
      for st in stmts do
        let _ ← run st
      let _ ← run ⟨.commit, []⟩ : Job Unit) :=
    FailsOut.bind (StaysIn.forIn (fun st hst _ => StaysIn.bind (run_staysIn (hs st hst))
      (fun _ => StaysIn.pure _))) (fun _ => FailsOut.bind_pure (run_failsOut _) (fun _ => ()))
  unfold runTransaction at heq ⊢
  rw [runFrom_bind] at heq ⊢
  rcases hb : runFrom (run ⟨.beginTransaction, []⟩) s with ⟨(u | rows), s₁⟩
  · -- BEGIN failed, and a failed statement keeps the store
    have h₁ := (run_atomic _).settles s hcalm (by rw [hb]; rw [hb] at heq; exact heq)
    rw [hb] at h₁
    cases u <;> exact h₁
  have hin := run_begin hcalm hb
  dsimp only
  rw [runFrom_bind, runFrom_attempt]
  split
  · rename_i o s₂ hatt
    split at hatt
    · -- the statements and the commit went through
      simp only [Prod.mk.injEq, Except.ok.injEq] at hatt
      obtain ⟨rfl, rfl⟩ := hatt
      trivial
    · -- a statement or the commit failed: roll back and report it
      rename_i e s₃ hfail
      simp only [Prod.mk.injEq, Except.ok.injEq] at hatt
      obtain ⟨rfl, rfl⟩ := hatt
      exact settles_after_body e (hbody s₁ s₃ _ hin hfail)
    · simp at hatt
  · rename_i u s₂ hatt
    split at hatt
    · simp at hatt
    · simp at hatt
    · -- the job stopped abruptly inside the transaction
      rename_i s₃ hpanic
      simp only [Prod.mk.injEq, Except.error.injEq] at hatt
      obtain ⟨rfl, rfl⟩ := hatt
      exact (hbody s₁ s₃ _ hin hpanic).settles

/-- A job that keeps the store when it fails, followed by a value, keeps it too. -/
theorem Atomic.bind_pure {α β : Type} {x : Job α} (h : Atomic x) (g : α → β) :
    Atomic (x >>= fun a => Pure.pure (g a)) := by
  refine ⟨Holds.bind h.moves (fun a => Holds.pure (g a)), fun s hcalm heq => ?_⟩
  rw [runFrom_bind] at heq ⊢
  have hs := h.settles s hcalm
  rcases hx : runFrom x s with ⟨(u | a), s'⟩
  all_goals rw [hx] at heq hs
  · cases u <;> exact hs heq
  · trivial

end Session

/-! ## The queue -/

open Session

theorem runFrom_guarded {α : Type} (j : Job α) (s : Session) :
    runFrom (guarded j) s = match runFrom j s with
      | (.error .panic, s') =>
        (.error (.fail .engineCrashed), { s' with handle := .crashed, file := s'.settled })
      | other => other := by
  unfold guarded
  rw [runFrom_tryCatch]
  rcases runFrom j s with ⟨(u | a), s'⟩
  · cases u with
    | panic => simp [runFrom_bind, runFrom_abandon, Job.fail]
    | fail e => rfl
  · rfl

/-- The queue's crash handler: a job that stopped abruptly is reported as a crash, with the
handle dropped. -/
theorem guarded_atomic {α : Type} {j : Job α} (h : Atomic j) : Atomic (guarded j) := by
  refine ⟨fun s => ?_, fun s hcalm heq => ?_⟩
  · have hm := h.moves s
    rw [runFrom_guarded]
    rcases hj : runFrom j s with ⟨(u | a), s'⟩
    all_goals rw [hj] at hm
    · cases u with
      | panic => exact ⟨hm.removes_le, hm.rollbackSafe⟩
      | fail e => exact hm
    · exact hm
  · rw [runFrom_guarded] at heq ⊢
    have hs := h.settles s hcalm
    rcases hj : runFrom j s with ⟨(u | a), s'⟩
    all_goals rw [hj] at heq hs
    · cases u with
      | panic =>
        obtain ⟨hsafe, hrows⟩ := hs heq
        exact ⟨calm_drop s' (fun _ h => by cases h) hsafe, hrows⟩
      | fail e => exact hs heq
    · trivial

theorem guarded_ne_panic {α : Type} (j : Job α) (s : Session) :
    (runFrom (guarded j) s).1 ≠ .error .panic := by
  rw [runFrom_guarded]
  rcases runFrom j s with ⟨(u | a), s'⟩
  · cases u <;> simp
  · simp

/-- The retry loop of a crash-safe job keeps the store when it fails: each attempt that fails
leaves it as it was, and recovering in between keeps it. -/
theorem safeAttempts_atomic {α : Type} {j : Job α} (h : Atomic j) (retries : Nat) :
    ∀ fuel n, Atomic (safeAttempts j retries fuel n)
  | 0, _ => Atomic.of_keeps (Holds.throw _)
  | fuel + 1, n => by
    have ha : Atomic (do ensureOpen; guarded j) :=
      Atomic.bind ensureOpen_keeps (fun _ => guarded_atomic h)
    have ih := safeAttempts_atomic h retries fuel (n + 1)
    have hretry : Atomic (do recover; safeAttempts j retries fuel (n + 1)) :=
      Atomic.bind recover_keeps (fun _ => ih)
    unfold safeAttempts
    refine ⟨Holds.bind (Holds.attempt ha.moves) (fun o => ?_), fun s hcalm heq => ?_⟩
    · split
      · exact Holds.pure _
      · split
        · exact hretry.moves
        · exact Holds.throw _
      · exact Holds.throw _
    · rw [runFrom_bind, runFrom_attempt] at heq ⊢
      have hm := ha.moves s
      have hs := ha.settles s hcalm
      rcases hx : runFrom (do ensureOpen; guarded j) s with ⟨(u | a), s₁⟩
      all_goals rw [hx] at heq hm hs
      · cases u with
        | panic => exact hs heq
        | fail e =>
          -- the attempt failed and kept the store; what follows starts from there
          have hle : s.plan.removes ≤ s₁.plan.removes := hm.removes_le
          dsimp only at heq hs ⊢
          revert heq
          split
          · rename_i heq'
            cases heq'
          · split
            · -- a crash with retries left: recover and run again
              intro heq
              have hle₂ := (hretry.moves s₁).removes_le
              obtain ⟨hc₁, hr₁⟩ := hs (by omega)
              exact Settles.of_rows hr₁ (hretry.settles s₁ hc₁ (by omega))
            · exact hs
          · exact hs
      · trivial

theorem submit_run {α : Type} (j : Job α) (s : Session) :
    (submit j).run s = match runFrom (guarded j) s with
      | (.ok v, s') => (.ok v, s')
      | (.error (.fail e), s') => (.error e, s')
      | (.error .panic, s') => (.error .engineCrashed, s') := by
  rcases h : runFrom (guarded j) s with ⟨r, s'⟩
  simp only [runFrom] at h
  simp only [submit, StateT.run_bind, h]
  rcases r with ((e | _) | v) <;> rfl

/-- A queued job that keeps the store when it fails leaves the session calm with the same rows
when its outcome is a failure. -/
theorem submit_failed {α : Type} {j : Job α} (h : Atomic j) {s s' : Session} {e : StoreError}
    (hcalm : s.Calm) (hrun : (submit j).run s = (.error e, s'))
    (heq : s'.plan.removes = s.plan.removes) : s'.Calm ∧ s'.file.rows = s.file.rows := by
  rw [submit_run] at hrun
  have hg := (guarded_atomic h).settles s hcalm
  have hnp := guarded_ne_panic j s
  rcases hx : runFrom (guarded j) s with ⟨(u | a), s₁⟩
  all_goals rw [hx] at hrun hg hnp
  · cases u with
    | panic => exact absurd rfl hnp
    | fail e' =>
      simp only at hrun
      obtain ⟨-, rfl⟩ := hrun
      exact hg heq
  · cases hrun

theorem submitSafe_failed {α : Type} {j : Job α} (h : Atomic j) {s s' : Session} {e : StoreError}
    (hcalm : s.Calm) (hrun : (submitSafe j).run s = (.error e, s'))
    (heq : s'.plan.removes = s.plan.removes) : s'.Calm ∧ s'.file.rows = s.file.rows := by
  simp only [submitSafe, StateT.run_bind] at hrun
  exact submit_failed (safeAttempts_atomic h _ _ _) hcalm hrun heq

end DocStore
