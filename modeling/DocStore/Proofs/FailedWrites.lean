import DocStore.Proofs.Atomicity
import DocStore.Store.Batch
import DocStore.Store.Files
import DocStore.Store.Snapshot
/-!
# A failed write leaves the store as it was

Every operation that writes to a store either fails before it reaches the queue, or runs one
crash-safe job: a single statement, the read and write of a patch, or a transaction for a batch
or an import. Changes are announced only after a job succeeds. So when a write fails, the rows
of the backing file are those it had, the listeners have heard nothing, and the session is calm
again (`failed_write_keeps_store`), provided it was calm before: no transaction open between
operations and no injected rule that makes a rollback fail with an ordinary error. A rollback
that fails so leaves its transaction open, and what the transaction wrote stays visible.

A failure that removed the backing file (an open attempt that finds the file damaged) is set
aside: it counts a removal, and the statements here assume none happened.

An image rejected by its header or by the integrity check of its copy changes nothing at all.
-/

namespace DocStore

open Session Database

/-! ## Store operations that fail cleanly -/

theorem onSession_run {α : Type} (m : StateM Session α) (db : Database) :
    (onSession m).run db = ((m.run db.session).1, { db with session := (m.run db.session).2 }) :=
  rfl

/-- A store operation that, when it fails without removing the backing file, leaves a calm
session calm, the rows of the backing file as they were, and the listeners untouched. -/
def FailsClean {α : Type} (op : StoreM (Outcome α)) : Prop :=
  ∀ db db' e, db.session.Calm → op.run db = (.error e, db') →
    db'.session.plan.removes = db.session.plan.removes →
    db'.session.Calm ∧ db'.session.file.rows = db.session.file.rows ∧ db'.listeners = db.listeners

theorem FailsClean.pure {α : Type} (o : Outcome α) : FailsClean (Pure.pure o : StoreM _) := by
  intro db db' e hcalm hrun _
  cases hrun
  exact ⟨hcalm, rfl, rfl⟩

/-- A crash-safe job that keeps the store when it fails. -/
theorem failsClean_submitSafe {α : Type} {j : Job α} (h : Atomic j) :
    FailsClean (onSession (submitSafe j)) := by
  intro db db' e hcalm hrun heq
  rw [onSession_run] at hrun
  rcases hs : (submitSafe j).run db.session with ⟨o, s'⟩
  rw [hs] at hrun
  simp only at hrun
  obtain ⟨rfl, rfl⟩ := hrun
  obtain ⟨hc, hr⟩ := submitSafe_failed h hcalm hs heq
  exact ⟨hc, hr, rfl⟩

/-- Announcing a change only after success keeps what the operation keeps on failure. -/
theorem FailsClean.emitting {α : Type} {x : StoreM (Outcome α)} (hx : FailsClean x)
    (scope : Scope) : FailsClean (do
      let res ← x
      if res.isOk then emit scope
      return res) := by
  intro db db' e hcalm hrun heq
  rcases h₁ : x.run db with ⟨o, db₁⟩
  rw [stateRun_bind_of h₁] at hrun
  cases o with
  | error e' =>
    -- nothing is announced after a failure
    change (Except.error e', db₁) = _ at hrun
    simp only [Prod.mk.injEq] at hrun
    obtain ⟨-, rfl⟩ := hrun
    exact hx db db₁ e' hcalm h₁ heq
  | ok a => exact absurd (congrArg Prod.fst hrun) (fun h => by cases h)

theorem FailsClean.map {α β : Type} {x : StoreM (Outcome α)} (hx : FailsClean x) (f : α → β) :
    FailsClean (do return (← x).map f) := by
  intro db db' e hcalm hrun heq
  rcases h₁ : x.run db with ⟨o, db₁⟩
  rw [stateRun_bind_of h₁] at hrun
  cases o with
  | error e' =>
    change (Except.error e', db₁) = _ at hrun
    simp only [Prod.mk.injEq] at hrun
    obtain ⟨-, rfl⟩ := hrun
    exact hx db db₁ e' hcalm h₁ heq
  | ok a => exact absurd (congrArg Prod.fst hrun) (fun h => by cases h)

/-! ## The writes one by one -/

theorem execute_failsClean (st : BoundStatement) : FailsClean (execute st) :=
  failsClean_submitSafe (Atomic.bind_pure (run_atomic st) (fun _ => ()))

theorem setDoc_failsClean (r : DocumentRef) (data : Value) (now : Instant) :
    FailsClean (setDoc r data now) := by
  unfold setDoc
  split
  · exact FailsClean.pure _
  · exact (execute_failsClean _).emitting _

theorem addDoc_failsClean (c : CollectionRef) (id : String) (data : Value) (now : Instant) :
    FailsClean (addDoc c id data now) := by
  unfold addDoc
  split
  · exact FailsClean.pure _
  · exact (setDoc_failsClean _ _ _).map _

theorem updateDoc_failsClean (r : DocumentRef) (data : Value) (now : Instant) :
    FailsClean (updateDoc r data now) := by
  unfold updateDoc
  split
  · exact FailsClean.pure _
  · exact (execute_failsClean _).emitting _

/-- A patch reads the document, then writes it once: only the write can change the rows, and it
is the job's last step. -/
theorem patchJob_atomic (r : DocumentRef) (ops : Patch) : Atomic (patchJob r ops) := by
  unfold patchJob
  refine Atomic.bind (run_keeps rfl (.inl rfl)) (fun rows => ?_)
  split
  · exact Atomic.of_keeps (Holds.throw _)
  · refine Atomic.bind ?_ (fun data => ?_)
    · unfold Job.ofOutcome
      split
      · exact Holds.pure _
      · exact Holds.throw _
    · split
      · exact Atomic.of_keeps (Holds.throw _)
      · exact Atomic.of_keeps (Holds.throw _)
      · exact Atomic.bind_pure (run_atomic _) (fun _ => ())
      · exact Atomic.of_keeps (Holds.throw _)

theorem patchDoc_failsClean (collectionId docId : String) (patch : Value) :
    FailsClean (patchDoc collectionId docId patch) := by
  unfold patchDoc
  split
  · exact FailsClean.pure _
  · split
    · exact FailsClean.pure _
    · exact (failsClean_submitSafe (patchJob_atomic _ _)).emitting _

theorem deleteDoc_failsClean (r : DocumentRef) : FailsClean (deleteDoc r) :=
  (execute_failsClean _).emitting _

theorem createIndex_failsClean (collectionId field : String) :
    FailsClean (createIndex collectionId field) := by
  unfold createIndex
  split
  · exact FailsClean.pure _
  · split
    · exact FailsClean.pure _
    · exact (execute_failsClean _).map _

theorem uploadFile_failsClean (path : String) (data : List UInt8) (contentType : String)
    (now : Instant) : FailsClean (uploadFile path data contentType now) := by
  unfold uploadFile
  split
  · exact FailsClean.pure _
  · exact execute_failsClean _

theorem deleteFile_failsClean (path : String) : FailsClean (deleteFile path) :=
  execute_failsClean _

/-! ## Transactions of the store -/

/-- A batch holds only the writes it queues: no statement of it opens, commits or rolls back a
transaction. -/
def WriteBatch.Queued (b : WriteBatch) : Prop :=
  ∀ st ∈ b.statements, st.statement.controlsTransaction = false

theorem WriteBatch.queued_empty : ({} : WriteBatch).Queued := fun _ h => by cases h

theorem WriteBatch.Queued.push {b : WriteBatch} (h : b.Queued) (r : DocumentRef)
    {st : BoundStatement} (hs : st.statement.controlsTransaction = false) : (b.push r st).Queued := by
  intro st' hst'
  rcases List.mem_append.1 hst' with hmem | hmem
  · exact h st' hmem
  · rw [List.mem_singleton] at hmem
    rw [hmem]
    exact hs

/-- Queuing a write keeps a batch to the writes it queues. -/
theorem WriteBatch.Queued.set {b b' : WriteBatch} (h : b.Queued) {r : DocumentRef} {data : Value}
    {now : Instant} (hset : b.set r data now = .ok b') : b'.Queued := by
  simp only [WriteBatch.set, bind, Except.bind] at hset
  split at hset
  · cases hset
  · split at hset
    · cases hset
    · cases hset
      exact h.push r rfl

theorem WriteBatch.Queued.update {b b' : WriteBatch} (h : b.Queued) {r : DocumentRef}
    {data : Value} {now : Instant} (hupd : b.update r data now = .ok b') : b'.Queued := by
  simp only [WriteBatch.update, bind, Except.bind] at hupd
  split at hupd
  · cases hupd
  · split at hupd
    · cases hupd
    · cases hupd
      exact h.push r rfl

theorem WriteBatch.Queued.delete {b b' : WriteBatch} (h : b.Queued) {r : DocumentRef}
    (hdel : b.delete r = .ok b') : b'.Queued := by
  simp only [WriteBatch.delete, bind, Except.bind] at hdel
  split at hdel
  · cases hdel
  · cases hdel
    exact h.push r rfl

/-- A batch built by the batch operations, which holds only the writes it queued. -/
abbrev QueuedBatch := { b : WriteBatch // b.Queued }

namespace QueuedBatch

/-- A new batch. -/
def empty : QueuedBatch := ⟨{}, WriteBatch.queued_empty⟩

/-- A batch operation on a built batch, whose result is built too. -/
def lift (op : WriteBatch → Outcome WriteBatch)
    (keeps : ∀ {b b' : WriteBatch}, b.Queued → op b = .ok b' → b'.Queued) (b : QueuedBatch) :
    Outcome QueuedBatch :=
  match h : op b.1 with
  | .ok b' => .ok ⟨b', keeps b.2 h⟩
  | .error e => .error e

/-- A lifted operation answers as the operation does, with the same batch. -/
theorem lift_val (op : WriteBatch → Outcome WriteBatch)
    (keeps : ∀ {b b' : WriteBatch}, b.Queued → op b = .ok b' → b'.Queued) (b : QueuedBatch) :
    (lift op keeps b).map Subtype.val = op b.1 := by
  unfold lift
  split <;> rename_i h <;> exact h.symm

/-- Queue a full replace of a document. -/
def set (b : QueuedBatch) (r : DocumentRef) (data : Value) (now : Instant) : Outcome QueuedBatch :=
  lift (·.set r data now) (fun h hset => h.set hset) b

/-- Queue a merge into a document. -/
def update (b : QueuedBatch) (r : DocumentRef) (data : Value) (now : Instant) : Outcome QueuedBatch :=
  lift (·.update r data now) (fun h hupd => h.update hupd) b

/-- Queue a delete of a document. -/
def delete (b : QueuedBatch) (r : DocumentRef) : Outcome QueuedBatch :=
  lift (·.delete r) (fun h hdel => h.delete hdel) b

end QueuedBatch

/-- A batch commit that fails keeps the store: its statements ran in one transaction. -/
theorem commit_failsClean {b : WriteBatch} (hb : b.Queued) :
    FailsClean (do return (← commit b).1) := by
  intro db db' e hcalm hrun heq
  rcases h₁ : (commit b).run db with ⟨⟨o, b'⟩, db₁⟩
  rw [stateRun_bind_of h₁] at hrun
  change (o, db₁) = _ at hrun
  simp only [Prod.mk.injEq] at hrun
  obtain ⟨rfl, rfl⟩ := hrun
  unfold commit at h₁
  split at h₁
  · -- a batch that has committed is refused before the queue
    simp only [stateRun_pure] at h₁
    obtain ⟨-, rfl⟩ := h₁
    exact ⟨hcalm, rfl, rfl⟩
  · split at h₁
    · -- an empty batch commits without the queue, and does not fail
      simp only [stateRun_pure] at h₁
      exact absurd (congrArg (fun p => p.1.1) h₁) (fun h => by cases h)
    · rcases h₂ : (onSession (submitTransaction b.statements)).run db with ⟨o, db₂⟩
      rw [stateRun_bind_of h₂] at h₁
      cases o with
      | error e' =>
        change ((Except.error e', _), db₂) = _ at h₁
        simp only [Prod.mk.injEq] at h₁
        obtain ⟨-, rfl⟩ := h₁
        exact failsClean_submitSafe (runTransaction_atomic hb) db db₂ e' hcalm h₂ heq
      | ok u =>
        -- the transaction went through, so the commit succeeds
        rw [stateRun_bind] at h₁
        exact absurd (congrArg (fun p => p.1.1) h₁) (fun h => by cases h)

/-- An import that fails keeps the store: it replaces the documents in one transaction. -/
theorem importJson_failsClean (backup : Value) : FailsClean (importJson backup) := by
  intro db db' e hcalm hrun heq
  unfold importJson at hrun
  split at hrun
  · -- a backup that does not parse is refused before the queue
    simp only [stateRun_pure] at hrun
    obtain ⟨-, rfl⟩ := hrun
    exact ⟨hcalm, rfl, rfl⟩
  · rw [stateRun_bind] at hrun
    split at hrun
    · rename_i e' hres
      have h₂ : _ = ((Except.error e' : Outcome Unit), _) := Prod.ext hres rfl
      simp only [stateRun_pure] at hrun
      obtain ⟨-, rfl⟩ := hrun
      refine failsClean_submitSafe (runTransaction_atomic ?_) db _ _ hcalm h₂ heq
      -- the import deletes, then inserts
      intro st hst
      rcases List.mem_cons.1 hst with rfl | hmem
      · rfl
      · obtain ⟨_, -, rfl⟩ := List.mem_map.1 hmem
        rfl
    · exact absurd (congrArg Prod.fst hrun) (fun h => by cases h)

/-! ## Every write -/

/-- The operations that write to a store. -/
inductive Write where
  | setDoc (r : DocumentRef) (data : Value) (now : Instant)
  | addDoc (c : CollectionRef) (id : String) (data : Value) (now : Instant)
  | updateDoc (r : DocumentRef) (data : Value) (now : Instant)
  | patchDoc (collectionId docId : String) (patch : Value)
  | deleteDoc (r : DocumentRef)
  | commit (b : QueuedBatch)
  | importJson (backup : Value)
  | createIndex (collectionId field : String)
  | uploadFile (path : String) (data : List UInt8) (contentType : String) (now : Instant)
  | deleteFile (path : String)

namespace Write

/-- Run a write on a store: its outcome, without the value it returns. -/
def run : Write → StoreM (Outcome Unit)
  | .setDoc r data now => Database.setDoc r data now
  | .addDoc c id data now => do return (← Database.addDoc c id data now).map (fun _ => ())
  | .updateDoc r data now => Database.updateDoc r data now
  | .patchDoc collectionId docId patch => Database.patchDoc collectionId docId patch
  | .deleteDoc r => Database.deleteDoc r
  | .commit b => do return (← Database.commit b.1).1
  | .importJson backup => do return (← Database.importJson backup).map (fun _ => ())
  | .createIndex collectionId field => do
    return (← Database.createIndex collectionId field).map (fun _ => ())
  | .uploadFile path data contentType now => Database.uploadFile path data contentType now
  | .deleteFile path => Database.deleteFile path

theorem run_failsClean (w : Write) : FailsClean w.run := by
  cases w with
  | setDoc r data now => exact setDoc_failsClean r data now
  | addDoc c id data now => exact (addDoc_failsClean c id data now).map _
  | updateDoc r data now => exact updateDoc_failsClean r data now
  | patchDoc collectionId docId patch => exact patchDoc_failsClean collectionId docId patch
  | deleteDoc r => exact deleteDoc_failsClean r
  | commit b => exact commit_failsClean b.2
  | importJson backup => exact (importJson_failsClean backup).map _
  | createIndex collectionId field => exact (createIndex_failsClean collectionId field).map _
  | uploadFile path data contentType now => exact uploadFile_failsClean path data contentType now
  | deleteFile path => exact deleteFile_failsClean path

end Write

/-- An image that its header or the integrity check of its copy rejects is refused before the
backing file is touched. -/
theorem importBinary_rejected {image : List UInt8} {e : StoreError}
    (h : Image.checkHeader image = .error e ∨
      Image.checkHeader image = .ok () ∧ verifiedCopy image = .error e) (db : Database) :
    (importBinary image).run db = (.error e, db) := by
  rcases h with h | ⟨hh, hv⟩
  · simp only [importBinary, h]
    rfl
  · have hjob : (onSession (submit (do
        let t ← Job.ofOutcome (verifiedCopy image)
        Session.close
        modify (fun s => { s with file := .database (DatabaseFile.ofImage t image) })
        Session.ensureOpen))).run db = (.error e, db) := by
      rw [onSession_run, submit_run, runFrom_guarded, runFrom_bind, hv]
      rfl
    simp only [importBinary, hh]
    rw [stateRun_bind_of hjob]
    rfl

/-- A write that fails, on a store between operations under a plan that cannot make a rollback
fail with an ordinary error, leaves the rows of every table of the backing file and the
listeners as they were, and the store between operations again, unless the failure removed the
backing file. An image that its header or the integrity check of its copy rejects changes
nothing at all. -/
theorem failed_write_keeps_store (db : Database) :
    (∀ (w : Write) (db' : Database) (e : StoreError), db.session.Calm →
      w.run.run db = (.error e, db') → db'.session.plan.removes = db.session.plan.removes →
      db'.session.file.rows = db.session.file.rows ∧ db'.listeners = db.listeners ∧
        db'.session.Calm) ∧
    (∀ (image : List UInt8) (e : StoreError),
      (Image.checkHeader image = .error e ∨
        Image.checkHeader image = .ok () ∧ verifiedCopy image = .error e) →
      (importBinary image).run db = (.error e, db)) := by
  refine ⟨fun w db' e hcalm hrun heq => ?_, fun image e h => importBinary_rejected h db⟩
  obtain ⟨hc, hr, hl⟩ := w.run_failsClean db db' e hcalm hrun heq
  exact ⟨hr, hl, hc⟩

/-- A delete on a store whose one open attempt fails: the failure reaches the queue and counts
the open in the plan, and the store keeps its rows. -/
theorem failed_open_keeps_store :
    let db : Database :=
      { session := { config := { openAttempts := 1 }, plan := { failingOpens := 1 } } }
    let db' : Database := { session := { config := { openAttempts := 1 }, plan := { opens := 1 } } }
    let e : StoreError := .openFailed (Config.dbPath { openAttempts := 1 }) 1
      (StoreError.engine ⟨.cannotOpen, none⟩).message
    let w : Write := .deleteDoc ⟨"c", "a"⟩
    (db.session.Calm ∧ w.run.run db = (.error e, db') ∧
      db'.session.plan.removes = db.session.plan.removes) ∧
    (db'.session.file.rows = db.session.file.rows ∧ db'.listeners = db.listeners ∧
      db'.session.Calm) := by
  intro db db' e w
  have hcalm : db.session.Calm := ⟨fun _ h => (by cases h), fun _ h => (by cases h)⟩
  have hrun : w.run.run db = (.error e, db') := rfl
  exact ⟨⟨hcalm, hrun, rfl⟩, (failed_write_keeps_store db).1 w db' e hcalm hrun rfl⟩

end DocStore
