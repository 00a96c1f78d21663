import DocStore.Engine.Connection
import DocStore.Engine.Faults
import DocStore.Config
/-!
# The engine session

A store reaches its engine only through a queue of jobs, each run to completion before the
next one starts. The jobs share one session: the configuration, the state of the one engine
handle, the number of crash recoveries, the engine with its injected failures, and the backing
file.

The handle is closed, open (on a connection), or crashed. Running a statement on a crashed
handle fails with `engineCrashed`, on a closed one with `notInitialized`; a runtime fault of the
engine (`StoreError.isEngineFault`) abandons the handle, which rolls back an open transaction,
and is reported as `engineCrashed`. Other failures pass through and leave the handle open.

Opening tries `openAttempts` times (at least once). Each attempt opens a connection and issues
the journal settings and the table definitions; a failure that shows a damaged file removes
the file before the next attempt. Recovering from a crash resets the engine, opens again and
counts a restart.

A job may also stop abruptly (`Unwind.panic`), as it does when a statement's rows hold text
that is not well-formed UTF-8. The queue catches that, abandons the handle and
reports `engineCrashed`. Crash-safe jobs (`submitSafe`) open the handle first and rerun the job
after a crash, recovering in between, up to `crashRetries` more times.
-/

namespace DocStore

/-- The backing file of a store. -/
inductive BackingFile where
  | missing
  | database (d : DatabaseFile)
  /-- A file that the engine does not read as a database. -/
  | foreign (bytes : List UInt8)
deriving Repr, Inhabited

/-- The state of the engine handle. -/
inductive HandleState where
  | closed
  | opened (c : Connection)
  | crashed
deriving Repr, Inhabited

/-- Everything the jobs of one store share. -/
structure Session where
  config : Config
  handle : HandleState := .closed
  restarts : Nat := 0
  plan : FaultPlan := {}
  file : BackingFile := .missing
  /-- Set when the directory of the backing file cannot be created. -/
  directoryFailure : Option IoFailure := none
  /-- The wall clock the engine reads, in milliseconds of the Julian day number. -/
  clock : Int := 0
deriving Repr, Inhabited

/-- How a job stops early: with a failure, or abruptly. -/
inductive Unwind where
  | fail (e : StoreError)
  | panic
deriving DecidableEq, Repr

/-- A job on the queue. State changes made before a job stops are kept. -/
abbrev Job := ExceptT Unwind (StateM Session)

namespace Job

/-- Stop with a failure. -/
def fail {α : Type} (e : StoreError) : Job α := throw (.fail e)

/-- Run a job and catch its failure, letting an abrupt stop through. -/
def attempt {α : Type} (j : Job α) : Job (Outcome α) :=
  tryCatch (.ok <$> j) (fun u => match u with
    | .fail e => pure (.error e)
    | .panic => throw .panic)

end Job

open Job

namespace Session

/-- The database in the backing file. -/
def database (s : Session) : DatabaseFile :=
  match s.file with
  | .database d => d
  | _ => {}

/-- The backing file once a connection is gone: its open transaction rolled back. -/
def released (s : Session) (c : Connection) : BackingFile :=
  match s.file with
  | .database d => .database (c.release d)
  | other => other

/-- Update the fault plan. -/
def updatePlan (f : FaultPlan → FaultPlan) : Job Unit :=
  modify (fun s => { s with plan := f s.plan })

/-- The engine opens a connection onto the backing file, creating it when missing. -/
def engineOpen : Job Connection := do
  let s ← get
  updatePlan (fun p => { p with opens := p.opens + 1 })
  if 0 < s.plan.failingOpens then
    updatePlan (fun p => { p with failingOpens := p.failingOpens - 1 })
    match s.plan.openKind with
    | .panic => throw .panic
    | k => fail k.failure
  let opened : Connection := { settings := { path := s.config.dbPath } }
  match s.file with
  | .missing => modify (fun s => { s with file := .database {} }); pure opened
  | .database _ => pure opened
  | .foreign bytes =>
    if bytes.isEmpty then do
      modify (fun s => { s with file := .database {} })
      pure opened
    else fail (.engine ⟨.notADatabase, some "file is not a database"⟩)

/-- The engine runs one statement on a connection, unless an injected failure fires first. -/
def engineRun (c : Connection) (st : BoundStatement) : Job (Connection × List Row) := do
  let (fired, plan) := (← get).plan.fire st.statement.text
  updatePlan (fun _ => plan)
  match fired with
  | some .panic => throw .panic
  | some k => fail k.failure
  | none =>
    match c.run (← get).database (← get).clock st with
    | .ok (c', d, rows) =>
      -- A text value that is not well-formed UTF-8 cannot be handed out: the job stops abruptly.
      if rows.any (fun r => r.columns.any (fun (_, v) => match v with
          | .text s => !Text.isValid s
          | _ => false)) then throw .panic
      modify (fun s => { s with file := .database d })
      pure (c', rows)
    | .error f => fail (.engine f)

/-- The engine removes the backing file; a failure to do so is only logged. -/
def removeBackingFile : Job Unit := do
  updatePlan (fun p => { p with removes := p.removes + 1 })
  if !(← get).plan.removeFails then
    modify (fun s => { s with file := .missing })

/-- Drop the handle without a clean close. -/
def abandon : Job Unit :=
  modify (fun s => match s.handle with
    | .opened c => { s with handle := .crashed, file := s.released c }
    | _ => { s with handle := .crashed })

/-- Close the handle. -/
def close : Job Unit :=
  modify (fun s => match s.handle with
    | .opened c => { s with handle := .closed, file := s.released c }
    | _ => { s with handle := .closed })

/-- Whether the handle is open. -/
def isOpen : Job Bool := do
  match (← get).handle with
  | .opened _ => pure true
  | _ => pure false

/-- One attempt to open: a connection with the journal settings and the tables. -/
def tryOpen : Job Connection := do
  let cfg := (← get).config
  let c ← engineOpen
  let (c, _) ← engineRun c ⟨.configure cfg.journalMode cfg.synchronous, []⟩
  let (c, _) ← engineRun c ⟨.createSchema, []⟩
  pure c

/-- Open attempts, `n` of them left, remembering the last failure. -/
def openAttempts (total : Nat) : Nat → Option StoreError → Job Unit
  | 0, last => do
    fail (.openFailed (← get).config.dbPath total ((last.map StoreError.message).getD ""))
  | n + 1, _ => do
    match ← attempt tryOpen with
    | .ok c => modify (fun s => { s with handle := .opened c })
    | .error e =>
      if e.isMalformedFile then removeBackingFile
      openAttempts total n (some e)

/-- Open the handle, retrying. -/
def openWithRetry : Job Unit := do
  let s ← get
  match s.directoryFailure with
  | some f => fail (.io f)
  | none =>
    let total := max s.config.openAttempts 1
    openAttempts total total none

/-- Tear the handle down, reset the engine and open from scratch, counting a restart. -/
def recover : Job Unit := do
  close
  updatePlan (fun p => { p with resets := p.resets + 1 })
  openWithRetry
  modify (fun s => { s with restarts := s.restarts + 1 })

/-- Open the handle unless it is open; a crashed handle is recovered. -/
def ensureOpen : Job Unit := do
  match (← get).handle with
  | .opened _ => pure ()
  | .closed => openWithRetry
  | .crashed => recover

/-- Run a statement on the live handle. -/
def run (st : BoundStatement) : Job (List Row) := do
  match (← get).handle with
  | .closed => fail .notInitialized
  | .crashed => fail .engineCrashed
  | .opened c =>
    match ← attempt (engineRun c st) with
    | .ok (c', rows) =>
      modify (fun s => { s with handle := .opened c' })
      pure rows
    | .error e =>
      if e.isEngineFault then do
        abandon
        fail .engineCrashed
      else fail e

/-- Run statements in one transaction; on a failure the transaction is rolled back (when the
handle is still open) and the failure reported. -/
def runTransaction (stmts : List BoundStatement) : Job Unit := do
  let _ ← run ⟨.beginTransaction, []⟩
  let r ← attempt (do
    for st in stmts do
      let _ ← run st
    let _ ← run ⟨.commit, []⟩)
  match r with
  | .ok () => pure ()
  | .error e =>
    if ← isOpen then
      let _ ← attempt (run ⟨.rollback, []⟩)
    fail e

end Session

open Session

/-- Run a job, turning an abrupt stop into a crash of the handle. -/
def guarded {α : Type} (j : Job α) : Job α :=
  tryCatch j (fun u => match u with
    | .panic => do abandon; fail .engineCrashed
    | e => throw e)

/-- The attempts of a crash-safe job: open, run, and after a crash recover and run again while
retries are left. `fuel` bounds the attempts. -/
def safeAttempts {α : Type} (j : Job α) (retries : Nat) : Nat → Nat → Job α
  | 0, _ => fail .engineCrashed
  | fuel + 1, n => do
    match ← attempt (do ensureOpen; guarded j) with
    | .ok v => pure v
    | .error .engineCrashed =>
      if n < retries then do
        recover
        safeAttempts j retries fuel (n + 1)
      else fail .engineCrashed
    | .error e => fail e

/-- Queue a job and wait for its result. -/
def submit {α : Type} (j : Job α) : StateM Session (Outcome α) := do
  match ← (guarded j).run with
  | .ok v => pure (.ok v)
  | .error (.fail e) => pure (.error e)
  | .error .panic => pure (.error .engineCrashed)

/-- Queue a crash-safe job. -/
def submitSafe {α : Type} (j : Job α) : StateM Session (Outcome α) := do
  let retries := (← get).config.crashRetries
  submit (safeAttempts j retries (retries + 1) 0)

/-- Queue a job that runs statements in one transaction. -/
def submitTransaction (stmts : List BoundStatement) : StateM Session (Outcome Unit) :=
  submitSafe (runTransaction stmts)

end DocStore
