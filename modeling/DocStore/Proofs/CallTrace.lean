import DocStore.Proofs.Atomicity
import DocStore.Store.Snapshot
/-!
# The calls a session makes

A session reaches its engine through a handful of calls: opening the backing file, which yields a
handle; running a statement on a handle; closing a handle or dropping it without a close;
resetting the engine; removing the backing file. This module writes them down. A `Traced` job
runs like the session's own job and records, in order, each call the session makes and each
change of its handle's state (`Call`); a handle is numbered by the open call that made it: the
number of open calls before it.

The traced jobs follow the session's jobs line by line (`Traced.ensureOpen`, `Traced.run`, ...),
and each is shown to do to the session exactly what the model's job does, with the same outcome
(`Traced.Erases`, `Traced.ensureOpen_erases` and the like): the record observes the model's runs
and adds no behaviour of its own. The jobs of the queue (`QueueJob`) are traced the same way:
opening, closing, reading the restart counter, exporting and importing the image, and the
crash-safe jobs whose closures reach the engine only by running statements (`Closure`).
-/

namespace DocStore

/-- The state of a handle, without its connection. -/
inductive HandleKind where
  | closed
  | opened
  | crashed
deriving DecidableEq, Repr

/-- The kind of a handle state. -/
def HandleState.kind : HandleState → HandleKind
  | .closed => .closed
  | .opened _ => .opened
  | .crashed => .crashed

/-- A call of a session to its engine, or a change of the state of its handle. -/
inductive Call where
  /-- The engine was asked to open the backing file while the session's handle was in `state`;
  `handle` is the handle it returned, if it returned one. -/
  | opening (handle : Option Nat) (state : HandleKind)
  /-- A statement ran on a handle. -/
  | ran (h : Nat)
  /-- A handle was closed. -/
  | closed (h : Nat)
  /-- A handle was dropped without a close. -/
  | dropped (h : Nat)
  /-- The engine dropped the state it keeps across handles. -/
  | reset
  /-- The engine removed the backing file. -/
  | removed
  /-- The session's handle entered a state. -/
  | entered (k : HandleKind)
  /-- The restart counter moved. -/
  | restarted
deriving DecidableEq, Repr

/-- Whether a call asked the engine to open. -/
def Call.isOpening : Call → Bool
  | .opening _ _ => true
  | _ => false

/-- The open calls of a record. -/
def Call.openings (τ : List Call) : Nat := τ.countP Call.isOpening

/-- What a record keeps beside the session: the handle the session holds, and the calls so far. -/
structure Ghost where
  held : Option Nat := none
  calls : List Call := []

/-- A job of the queue whose calls are recorded. -/
abbrev Traced := ExceptT Unwind (StateM (Session × Ghost))

namespace Traced

variable {α β : Type}

/-- The session. -/
def session : Traced Session := do return (← get).1

/-- The record. -/
def ghost : Traced Ghost := do return (← get).2

/-- Record a call. -/
def note (c : Call) : Traced Unit :=
  modify fun st => (st.1, { st.2 with calls := st.2.calls ++ [c] })

/-- Record which handle the session holds. -/
def hold (h : Option Nat) : Traced Unit :=
  modify fun st => (st.1, { st.2 with held := h })

/-- Run a job of the model, recording nothing. -/
def lift (j : Job α) : Traced α :=
  ExceptT.mk fun st => ((runFrom j st.1).1, ((runFrom j st.1).2, st.2))

/-- Run a job of the model and hand over its outcome, recording nothing. -/
def capture (j : Job α) : Traced (Except Unwind α) :=
  ExceptT.mk fun st => (.ok (runFrom j st.1).1, ((runFrom j st.1).2, st.2))

/-- Go on with an outcome. -/
def ofExcept : Except Unwind α → Traced α
  | .ok a => pure a
  | .error u => throw u

@[simp] theorem runFrom_session (st : Session × Ghost) : runFrom session st = (.ok st.1, st) := rfl

@[simp] theorem runFrom_ghost (st : Session × Ghost) : runFrom ghost st = (.ok st.2, st) := rfl

@[simp] theorem runFrom_note (c : Call) (st : Session × Ghost) :
    runFrom (note c) st = (.ok (), (st.1, { st.2 with calls := st.2.calls ++ [c] })) := rfl

@[simp] theorem runFrom_hold (h : Option Nat) (st : Session × Ghost) :
    runFrom (hold h) st = (.ok (), (st.1, { st.2 with held := h })) := rfl

@[simp] theorem runFrom_lift (j : Job α) (st : Session × Ghost) :
    runFrom (lift j) st = ((runFrom j st.1).1, ((runFrom j st.1).2, st.2)) := rfl

@[simp] theorem runFrom_capture (j : Job α) (st : Session × Ghost) :
    runFrom (capture j) st = (.ok (runFrom j st.1).1, ((runFrom j st.1).2, st.2)) := rfl

theorem runFrom_ofExcept (r : Except Unwind α) (st : Session × Ghost) :
    runFrom (ofExcept r) st = (r, st) := by
  cases r <;> rfl

/-! ## Erasing the record -/

/-- A traced job does to the session what a job of the model does, with the same outcome,
whatever the record holds. -/
def Erases (t : Traced α) (j : Job α) : Prop :=
  ∀ st, ((runFrom t st).1, (runFrom t st).2.1) = runFrom j st.1

theorem Erases.lift (j : Job α) : Erases (Traced.lift j) j := fun _ => rfl

theorem Erases.pure (a : α) : Erases (Pure.pure a) (Pure.pure a) := fun _ => rfl

theorem Erases.throw (u : Unwind) : Erases (throw u : Traced α) (throw u) := fun _ => rfl

theorem Erases.session : Erases Traced.session get := fun _ => rfl

theorem Erases.bind {t : Traced α} {j : Job α} {g : α → Traced β} {f : α → Job β}
    (ht : Erases t j) (hg : ∀ a, Erases (g a) (f a)) : Erases (t >>= g) (j >>= f) := by
  intro st
  have h := ht st
  rw [runFrom_bind, runFrom_bind]
  rcases hrun : runFrom t st with ⟨r, s', g'⟩
  rw [hrun] at h
  rw [← h]
  cases r with
  | error u => rfl
  | ok a => exact hg a (s', g')

/-- Reading the session or the record, or writing the record, is invisible to the model. -/
theorem Erases.session_bind {f : Session → Traced α} {j : Job α} (hf : ∀ s, Erases (f s) j) :
    Erases (Traced.session >>= f) j := fun st => by
  rw [runFrom_bind, runFrom_session]
  exact hf st.1 st

theorem Erases.ghost_bind {f : Ghost → Traced α} {j : Job α} (hf : ∀ g, Erases (f g) j) :
    Erases (Traced.ghost >>= f) j := fun st => by
  rw [runFrom_bind, runFrom_ghost]
  exact hf st.2 st

theorem Erases.note_bind {t : Traced α} {j : Job α} (c : Call) (ht : Erases t j) :
    Erases (note c >>= fun _ => t) j := fun st => by
  rw [runFrom_bind, runFrom_note]
  exact ht _

theorem Erases.tryCatch {t : Traced α} {j : Job α} {h : Unwind → Traced α}
    {k : Unwind → Job α} (ht : Erases t j) (hh : ∀ u, Erases (h u) (k u)) :
    Erases (tryCatch t h) (tryCatch j k) := by
  intro st
  have h₁ := ht st
  rw [runFrom_tryCatch, runFrom_tryCatch]
  rcases hrun : runFrom t st with ⟨r, s', g'⟩
  rw [hrun] at h₁
  rw [← h₁]
  cases r with
  | error u => exact hh u (s', g')
  | ok a => rfl

/-- A handler that records a call and fails on is invisible to the model. -/
theorem Erases.tryCatch_note {t : Traced α} {j : Job α} (c : Call) (ht : Erases t j) :
    Erases (MonadExcept.tryCatch t fun u => note c >>= fun _ => MonadExcept.throw u) j := by
  intro st
  have h₁ := ht st
  rw [runFrom_tryCatch]
  rcases hrun : runFrom t st with ⟨r, s', g'⟩
  rw [hrun] at h₁
  rw [← h₁]
  cases r <;> rfl

theorem Erases.map {t : Traced α} {j : Job α} (f : α → β) (ht : Erases t j) :
    Erases (f <$> t) (f <$> j) := by
  intro st
  have h := ht st
  rw [runFrom_map, runFrom_map]
  rcases hrun : runFrom t st with ⟨r, s', g'⟩
  rw [hrun] at h
  rw [← h]

theorem Erases.ite {c : Prop} [Decidable c] {t t' : Traced α} {j j' : Job α} (ht : Erases t j)
    (ht' : Erases t' j') : Erases (if c then t else t') (if c then j else j') := by
  split
  · exact ht
  · exact ht'

/-- A loop over a list: every turn erases. -/
theorem Erases.forIn {l : List α} {b : β} {g : α → β → Traced (ForInStep β)}
    {f : α → β → Job (ForInStep β)} (hg : ∀ a b, Erases (g a b) (f a b)) :
    Erases (forIn l b g) (forIn l b f) := by
  induction l generalizing b with
  | nil => exact Erases.pure b
  | cons a rest ih =>
    intro st
    have h := hg a b st
    rw [runFrom_forIn_cons, runFrom_forIn_cons]
    rcases hrun : runFrom (g a b) st with ⟨r, s', g'⟩
    rw [hrun] at h
    rw [← h]
    rcases r with u | (b' | b')
    · rfl
    · rfl
    · exact ih (b := b') (s', g')

theorem Erases.capture_note {j : Job α} (c : Except Unwind α → Call) :
    Erases (capture j >>= fun r => note (c r) >>= fun _ => ofExcept r) j := fun st => by
  rw [runFrom_bind, runFrom_capture]
  dsimp only
  rw [runFrom_bind, runFrom_note]
  dsimp only
  rw [runFrom_ofExcept]

/-- A traced job that only writes the record. -/
def Silent (q : Traced Unit) : Prop := ∀ st, (runFrom q st).1 = .ok () ∧ (runFrom q st).2.1 = st.1

theorem Silent.pure : Silent (Pure.pure ()) := fun _ => ⟨rfl, rfl⟩

theorem Silent.note (c : Call) : Silent (note c) := fun _ => ⟨rfl, rfl⟩

theorem Silent.hold (h : Option Nat) : Silent (hold h) := fun _ => ⟨rfl, rfl⟩

theorem Silent.bind {q q' : Traced Unit} (hq : Silent q) (hq' : Silent q') :
    Silent (q >>= fun _ => q') := fun st => by
  obtain ⟨h₁, h₂⟩ := hq st
  rw [runFrom_bind]
  rcases hrun : runFrom q st with ⟨r, s', g'⟩
  rw [hrun] at h₁ h₂
  cases h₁
  obtain ⟨h₃, h₄⟩ := hq' (s', g')
  exact ⟨h₃, h₄.trans h₂⟩

theorem Erases.silent_bind {q : Traced Unit} {t : Traced α} {j : Job α} (hq : Silent q)
    (ht : Erases t j) : Erases (q >>= fun _ => t) j := fun st => by
  obtain ⟨h₁, h₂⟩ := hq st
  rw [runFrom_bind]
  rcases hrun : runFrom q st with ⟨r, s', g'⟩
  rw [hrun] at h₁ h₂
  cases h₁
  rw [← h₂]
  exact ht (s', g')

theorem Erases.bind_silent {t : Traced Unit} {j : Job Unit} {q : Traced Unit} (ht : Erases t j)
    (hq : Silent q) : Erases (t >>= fun _ => q) j := fun st => by
  have h := ht st
  rw [runFrom_bind]
  rcases hrun : runFrom t st with ⟨r, s', g'⟩
  rw [hrun] at h
  rw [← h]
  cases r with
  | error u => rfl
  | ok a =>
    obtain ⟨h₁, h₂⟩ := hq (s', g')
    dsimp only
    rw [h₁, h₂]

/-! ## The session's jobs, traced -/

/-- The engine opens the backing file; the call is recorded with the state of the handle and
the handle it returned, numbered by the open calls before it. -/
def engineOpen : Traced Connection := do
  let s ← session
  let n := Call.openings (← ghost).calls
  capture Session.engineOpen >>= fun r => do
    note (.opening (r.toOption.map fun _ => n) s.handle.kind)
    ofExcept r

/-- The engine runs a statement on handle `h`. -/
def engineRun (h : Nat) (c : Connection) (st : BoundStatement) :
    Traced (Connection × List Row) := do
  note (.ran h)
  lift (Session.engineRun c st)

/-- The engine removes the backing file. -/
def removeBackingFile : Traced Unit := do
  note .removed
  lift Session.removeBackingFile

/-- Give the handle up with `j`, a close or an abandon of the model: the handle the session held
goes as `ev` says, and the session enters `k`. -/
def release (ev : Nat → Call) (k : HandleKind) (j : Job Unit) : Traced Unit := do
  match (← ghost).held with
  | some h => note (ev h)
  | none => pure ()
  lift j
  hold none
  note (.entered k)

/-- Drop the handle without a clean close. -/
def abandon : Traced Unit := release .dropped .crashed Session.abandon

/-- Close the handle. -/
def close : Traced Unit := release .closed .closed Session.close

/-- Run a job and catch its failure, letting an abrupt stop through. -/
def attempt (t : Traced α) : Traced (Outcome α) :=
  tryCatch (.ok <$> t) (fun u => match u with
    | .fail e => pure (.error e)
    | .panic => throw .panic)

theorem runFrom_attempt (t : Traced α) (st : Session × Ghost) :
    runFrom (attempt t) st = match runFrom t st with
      | (.ok a, st') => (.ok (.ok a), st')
      | (.error (.fail e), st') => (.ok (.error e), st')
      | (.error .panic, st') => (.error .panic, st') := by
  unfold attempt
  rw [runFrom_tryCatch, runFrom_map]
  rcases runFrom t st with ⟨(u | a), st'⟩
  · cases u <;> rfl
  · rfl

/-- One attempt to open. The handle is the one the open makes, numbered by the opens before
it; when its setup fails it is dropped. -/
def tryOpen : Traced Connection := do
  let s ← session
  let h := Call.openings (← ghost).calls
  let c ← engineOpen
  tryCatch (do
      let (c, _) ← engineRun h c ⟨.configure s.config.journalMode s.config.synchronous, []⟩
      let (c, _) ← engineRun h c ⟨.createSchema, []⟩
      pure c)
    (fun u => do
      note (.dropped h)
      throw u)

/-- Open attempts, `n` of them left; the session holds the handle the successful one made. -/
def openAttempts (total : Nat) : Nat → Option StoreError → Traced Unit
  | 0, last => lift (Session.openAttempts total 0 last)
  | n + 1, _ => do
    let h := Call.openings (← ghost).calls
    match ← attempt tryOpen with
    | .ok c =>
      lift (modify (fun s => { s with handle := .opened c }))
      hold (some h)
      note (.entered .opened)
    | .error e =>
      if e.isMalformedFile then removeBackingFile
      openAttempts total n (some e)

/-- Open the handle, retrying. -/
def openWithRetry : Traced Unit := do
  let s ← session
  match s.directoryFailure with
  | some f => lift (Job.fail (.io f))
  | none =>
    let total := max s.config.openAttempts 1
    openAttempts total total none

/-- Recover: the handle is dropped (a new state overwrites it), the engine is reset, and the
session opens from scratch and counts a restart. -/
def recover : Traced Unit := do
  release .dropped .closed Session.close
  note .reset
  lift (Session.updatePlan (fun p => { p with resets := p.resets + 1 }))
  openWithRetry
  lift (modify (fun s => { s with restarts := s.restarts + 1 }))
  note .restarted

/-- Open the handle unless it is open; a crashed handle is recovered. -/
def ensureOpen : Traced Unit := do
  match (← session).handle with
  | .opened _ => pure ()
  | .closed => openWithRetry
  | .crashed => recover

/-- Run a statement on the handle the session holds. -/
def run (st : BoundStatement) : Traced (List Row) := do
  match (← session).handle with
  | .closed => lift (Job.fail .notInitialized)
  | .crashed => lift (Job.fail .engineCrashed)
  | .opened c =>
    let h := (← ghost).held.getD 0
    match ← attempt (engineRun h c st) with
    | .ok (c', rows) =>
      lift (modify (fun s => { s with handle := .opened c' }))
      pure rows
    | .error e =>
      if e.isEngineFault then do
        abandon
        lift (Job.fail .engineCrashed)
      else lift (Job.fail e)

/-- Whether the handle is open. -/
def isOpen : Traced Bool := lift Session.isOpen

/-- Run statements in one transaction. -/
def runTransaction (stmts : List BoundStatement) : Traced Unit := do
  let _ ← run ⟨.beginTransaction, []⟩
  let r ← attempt (do
    for st in stmts do
      let _ ← run st
    let _ ← run ⟨.commit, []⟩)
  match r with
  | .ok () => pure ()
  | .error e =>
    if ← isOpen then
      let _ ← attempt (run ⟨.rollback, []⟩)
    lift (Job.fail e)

/-- Run a job, turning an abrupt stop into a crash of the handle. -/
def guarded (t : Traced α) : Traced α :=
  tryCatch t (fun u => match u with
    | .panic => do abandon; lift (Job.fail .engineCrashed)
    | e => throw e)

/-- The attempts of a crash-safe job. -/
def safeAttempts (t : Traced α) (retries : Nat) : Nat → Nat → Traced α
  | 0, _ => lift (Job.fail .engineCrashed)
  | fuel + 1, n => do
    match ← attempt (do ensureOpen; guarded t) with
    | .ok v => pure v
    | .error .engineCrashed =>
      if n < retries then do
        recover
        safeAttempts t retries fuel (n + 1)
      else lift (Job.fail .engineCrashed)
    | .error e => lift (Job.fail e)

/-- Queue a job and wait for its result. -/
def submit (t : Traced α) : StateM (Session × Ghost) (Outcome α) := do
  match ← ExceptT.run (guarded t) with
  | .ok v => pure (.ok v)
  | .error (.fail e) => pure (.error e)
  | .error .panic => pure (.error .engineCrashed)

/-- Queue a crash-safe job. -/
def submitSafe (t : Traced α) : StateM (Session × Ghost) (Outcome α) := do
  let retries := (← get).1.config.crashRetries
  submit (safeAttempts t retries (retries + 1) 0)

/-! ## The traced jobs are the session's jobs -/

theorem engineOpen_erases : Erases engineOpen Session.engineOpen :=
  Erases.session_bind fun _ => Erases.ghost_bind fun _ => Erases.capture_note _

theorem engineRun_erases (h : Nat) (c : Connection) (st : BoundStatement) :
    Erases (engineRun h c st) (Session.engineRun c st) :=
  Erases.note_bind _ (Erases.lift _)

theorem removeBackingFile_erases : Erases removeBackingFile Session.removeBackingFile :=
  Erases.note_bind _ (Erases.lift _)

theorem release_erases (ev : Nat → Call) (k : HandleKind) (j : Job Unit) :
    Erases (release ev k j) j := by
  have hrest : Erases (lift j >>= fun _ => hold none >>= fun _ => note (.entered k)) j :=
    Erases.bind_silent (Erases.lift j) ((Silent.hold none).bind (Silent.note _))
  refine Erases.ghost_bind fun g => ?_
  dsimp only
  cases g.held with
  | some h => exact Erases.note_bind _ hrest
  | none => exact hrest

theorem abandon_erases : Erases abandon Session.abandon := release_erases _ _ _

theorem close_erases : Erases close Session.close := release_erases _ _ _

theorem attempt_erases {t : Traced α} {j : Job α} (ht : Erases t j) :
    Erases (attempt t) (Job.attempt j) := by
  refine Erases.tryCatch (Erases.map _ ht) fun u => ?_
  cases u with
  | fail e => exact Erases.pure _
  | panic => exact Erases.throw _

theorem tryOpen_erases : Erases tryOpen Session.tryOpen := by
  refine Erases.bind Erases.session fun s => Erases.ghost_bind fun g => ?_
  refine Erases.bind engineOpen_erases fun c => Erases.tryCatch_note _ ?_
  refine Erases.bind (engineRun_erases _ _ _) fun p => ?_
  obtain ⟨c₁, _⟩ := p
  refine Erases.bind (engineRun_erases _ _ _) fun q => ?_
  obtain ⟨c₂, _⟩ := q
  exact Erases.pure c₂

theorem openAttempts_erases (total : Nat) :
    ∀ n last, Erases (openAttempts total n last) (Session.openAttempts total n last)
  | 0, _ => Erases.lift _
  | n + 1, _ => by
    refine Erases.ghost_bind fun _ => Erases.bind (attempt_erases tryOpen_erases) fun r => ?_
    cases r with
    | ok c => exact Erases.bind_silent (Erases.lift _) ((Silent.hold _).bind (Silent.note _))
    | error e =>
      dsimp only
      exact Erases.ite (Erases.bind removeBackingFile_erases fun _ => openAttempts_erases total n _)
        (openAttempts_erases total n _)

theorem openWithRetry_erases : Erases openWithRetry Session.openWithRetry := by
  refine Erases.bind Erases.session fun s => ?_
  cases s.directoryFailure with
  | some f => exact Erases.lift _
  | none => exact openAttempts_erases _ _ _

theorem recover_erases : Erases recover Session.recover := by
  refine Erases.bind (release_erases _ _ _) fun _ => Erases.silent_bind (Silent.note _) ?_
  refine Erases.bind (Erases.lift _) fun _ => Erases.bind openWithRetry_erases fun _ => ?_
  exact Erases.bind_silent (Erases.lift _) (Silent.note _)

theorem ensureOpen_erases : Erases ensureOpen Session.ensureOpen := by
  refine Erases.bind Erases.session fun s => ?_
  cases s.handle with
  | opened c => exact Erases.pure ()
  | closed => exact openWithRetry_erases
  | crashed => exact recover_erases

theorem run_erases (st : BoundStatement) : Erases (run st) (Session.run st) := by
  refine Erases.bind Erases.session fun s => ?_
  cases s.handle with
  | closed => exact Erases.lift _
  | crashed => exact Erases.lift _
  | opened c =>
    refine Erases.ghost_bind fun g =>
      Erases.bind (attempt_erases (engineRun_erases _ _ _)) fun r => ?_
    rcases r with e | ⟨c', rows⟩
    · exact Erases.ite (Erases.bind abandon_erases fun _ => Erases.lift _) (Erases.lift _)
    · exact Erases.bind (Erases.lift _) fun _ => Erases.pure rows

theorem runTransaction_erases (stmts : List BoundStatement) :
    Erases (runTransaction stmts) (Session.runTransaction stmts) := by
  refine Erases.bind (run_erases _) fun _ => Erases.bind (attempt_erases ?_) fun r => ?_
  · exact Erases.bind (Erases.forIn fun st _ => Erases.bind (run_erases st) fun _ => Erases.pure _)
      fun _ => Erases.bind (run_erases _) fun _ => Erases.pure ()
  · rcases r with e | ⟨⟩
    · refine Erases.bind (Erases.lift _) fun b => ?_
      dsimp only
      exact Erases.ite (Erases.bind (attempt_erases (run_erases _)) fun _ => Erases.lift _)
        (Erases.lift _)
    · exact Erases.pure ()

theorem guarded_erases {t : Traced α} {j : Job α} (ht : Erases t j) :
    Erases (guarded t) (DocStore.guarded j) := by
  refine Erases.tryCatch ht fun u => ?_
  cases u with
  | panic => exact Erases.bind abandon_erases fun _ => Erases.lift _
  | fail e => exact Erases.throw _

theorem safeAttempts_erases {t : Traced α} {j : Job α} (ht : Erases t j) (retries : Nat) :
    ∀ fuel n, Erases (safeAttempts t retries fuel n) (DocStore.safeAttempts j retries fuel n)
  | 0, _ => Erases.lift _
  | fuel + 1, n => by
    refine Erases.bind (attempt_erases (Erases.bind ensureOpen_erases fun _ => guarded_erases ht))
      fun r => ?_
    rcases r with e | v
    · cases e
      case engineCrashed =>
        exact Erases.ite (Erases.bind recover_erases fun _ => safeAttempts_erases ht retries fuel _)
          (Erases.lift _)
      all_goals exact Erases.lift _
    · exact Erases.pure v

theorem submit_run (t : Traced α) (st : Session × Ghost) :
    (submit t).run st = match runFrom (guarded t) st with
      | (.ok v, st') => (.ok v, st')
      | (.error (.fail e), st') => (.error e, st')
      | (.error .panic, st') => (.error .engineCrashed, st') := by
  rcases h : runFrom (guarded t) st with ⟨r, st'⟩
  simp only [runFrom] at h
  simp only [submit, StateT.run_bind, h]
  rcases r with ((e | _) | v) <;> rfl

/-! ## Queue jobs -/

/-- A traced computation on the session does to it what a computation of the model does, with
the same result, whatever the record holds. -/
def ErasesS (x : StateM (Session × Ghost) β) (y : StateM Session β) : Prop :=
  ∀ st, ((x.run st).1, (x.run st).2.1) = y.run st.1

theorem ErasesS.pure (b : β) : ErasesS (Pure.pure b) (Pure.pure b) := fun _ => rfl

theorem ErasesS.bind {x : StateM (Session × Ghost) α} {y : StateM Session α}
    {f : α → StateM (Session × Ghost) β} {g : α → StateM Session β} (hx : ErasesS x y)
    (hf : ∀ a, ErasesS (f a) (g a)) : ErasesS (x >>= f) (y >>= g) := by
  intro st
  have h := hx st
  rw [stateRun_bind, stateRun_bind]
  rcases hrun : x.run st with ⟨a, s', g'⟩
  rw [hrun] at h
  rw [← h]
  exact hf a (s', g')

theorem submit_erases {t : Traced α} {j : Job α} (ht : Erases t j) :
    ErasesS (submit t) (DocStore.submit j) := by
  intro st
  have h := guarded_erases ht st
  rw [submit_run, DocStore.submit_run]
  rcases hrun : runFrom (guarded t) st with ⟨r, s', g'⟩
  rw [hrun] at h
  rw [← h]
  rcases r with ((e | _) | v) <;> rfl

theorem submitSafe_erases {t : Traced α} {j : Job α} (ht : Erases t j) :
    ErasesS (submitSafe t) (DocStore.submitSafe j) := fun st =>
  submit_erases
    (safeAttempts_erases ht st.1.config.crashRetries (st.1.config.crashRetries + 1) 0) st

end Traced

/-- The closure of a crash-safe job that reaches the engine only by running statements, one at a
time or in a transaction: after each run it goes on with what the run returned, or it stops. -/
inductive Closure (α : Type) where
  | done (a : α)
  | stop (u : Unwind)
  | run (st : BoundStatement) (next : List Row → Closure α)
  | transaction (stmts : List BoundStatement) (next : Closure α)

namespace Closure

variable {α : Type}

/-- The closure as a job of the session. -/
def job : Closure α → Job α
  | .done a => pure a
  | .stop u => throw u
  | .run st next => Session.run st >>= fun rows => (next rows).job
  | .transaction stmts next => Session.runTransaction stmts >>= fun _ => next.job

/-- The closure as a traced job. -/
def traced : Closure α → Traced α
  | .done a => pure a
  | .stop u => throw u
  | .run st next => Traced.run st >>= fun rows => (next rows).traced
  | .transaction stmts next => Traced.runTransaction stmts >>= fun _ => next.traced

theorem traced_erases : ∀ c : Closure α, Traced.Erases c.traced c.job
  | .done a => Traced.Erases.pure a
  | .stop u => Traced.Erases.throw u
  | .run st next => Traced.Erases.bind (Traced.run_erases st) fun rows => traced_erases (next rows)
  | .transaction stmts next =>
    Traced.Erases.bind (Traced.runTransaction_erases stmts) fun _ => traced_erases next

end Closure

/-- The job of an image export: the handle is closed for the read and opened again after it. -/
def exportJob : Job (List UInt8) := do
  Session.ensureOpen
  Session.close
  let image := Database.imageOf (← get).file
  Session.ensureOpen
  pure image

/-- The job of an image import: the checked image replaces the closed backing file, which is
opened again. -/
def importJob (image : List UInt8) : Job Unit := do
  let t ← Job.ofOutcome (Database.verifiedCopy image)
  Session.close
  modify (fun s => { s with file := .database (DatabaseFile.ofImage t image) })
  Session.ensureOpen

/-- The job of an image export, traced. -/
def Traced.exportJob : Traced (List UInt8) := do
  Traced.ensureOpen
  Traced.close
  let image := Database.imageOf (← Traced.session).file
  Traced.ensureOpen
  pure image

/-- The job of an image import, traced. -/
def Traced.importJob (image : List UInt8) : Traced Unit := do
  let t ← Traced.lift (Job.ofOutcome (Database.verifiedCopy image))
  Traced.close
  Traced.lift (modify (fun s => { s with file := .database (DatabaseFile.ofImage t image) }))
  Traced.ensureOpen

theorem Traced.exportJob_erases : Traced.Erases Traced.exportJob DocStore.exportJob := by
  refine .bind Traced.ensureOpen_erases fun _ => .bind Traced.close_erases fun _ => ?_
  exact .bind .session fun _ => .bind Traced.ensureOpen_erases fun _ => .pure _

theorem Traced.importJob_erases (image : List UInt8) :
    Traced.Erases (Traced.importJob image) (DocStore.importJob image) := by
  refine .bind (.lift _) fun _ => .bind Traced.close_erases fun _ => ?_
  exact .bind (.lift _) fun _ => Traced.ensureOpen_erases

/-- The jobs a queue runs on its session: opening, closing, reading the restart counter,
exporting and importing the image, and crash-safe jobs. -/
inductive QueueJob where
  | init
  | close
  | restarts
  | exportImage
  | importImage (image : List UInt8)
  | safe {α : Type} (c : Closure α)

namespace QueueJob

/-- Run a job of the queue, forgetting its result. -/
def run : QueueJob → StateM Session Unit
  | .init => do let _ ← submit Session.ensureOpen
  | .close => do let _ ← submit Session.close
  | .restarts => do let _ ← submit (do return (← get).restarts)
  | .exportImage => do let _ ← submit exportJob
  | .importImage image => do let _ ← submit (importJob image)
  | .safe c => do let _ ← submitSafe c.job

/-- Run a job of the queue and record its calls. -/
def traced : QueueJob → StateM (Session × Ghost) Unit
  | .init => do let _ ← Traced.submit Traced.ensureOpen
  | .close => do let _ ← Traced.submit Traced.close
  | .restarts => do let _ ← Traced.submit (do return (← Traced.session).restarts)
  | .exportImage => do let _ ← Traced.submit Traced.exportJob
  | .importImage image => do let _ ← Traced.submit (Traced.importJob image)
  | .safe c => do let _ ← Traced.submitSafe c.traced

theorem traced_erases : ∀ q : QueueJob, Traced.ErasesS q.traced q.run
  | .init => .bind (Traced.submit_erases Traced.ensureOpen_erases) fun _ => .pure ()
  | .close => .bind (Traced.submit_erases Traced.close_erases) fun _ => .pure ()
  | .restarts => .bind (Traced.submit_erases (.bind .session fun _ => .pure _)) fun _ => .pure ()
  | .exportImage => .bind (Traced.submit_erases Traced.exportJob_erases) fun _ => .pure ()
  | .importImage image =>
    .bind (Traced.submit_erases (Traced.importJob_erases image)) fun _ => .pure ()
  | .safe c => .bind (Traced.submitSafe_erases c.traced_erases) fun _ => .pure ()

/-- A run of the queue: its jobs, one after another. -/
theorem forM_traced_erases :
    ∀ js : List QueueJob, Traced.ErasesS (js.forM traced) (js.forM run)
  | [] => .pure ()
  | q :: js => .bind (traced_erases q) fun _ => forM_traced_erases js

end QueueJob

end DocStore
