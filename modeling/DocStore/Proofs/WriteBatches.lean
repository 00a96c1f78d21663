import DocStore.Proofs.FailedWrites
import DocStore.Proofs.Transactions
/-!
# Write batches are single-use and all-or-nothing

A batch is driven by its owner through four calls (`BatchCall`): `set`, `update` and `delete`
queue a write, `commit` runs them. A builder call that fails leaves the batch as it was, as a
method on a mutable batch does.

* A commit uses the batch up whatever its outcome (`commit_uses_up`); from then on every call is
  refused with `batchAlreadyCommitted` and leaves the store and the batch exactly as they are
  (`BatchCall.run_of_committed`).
* Until then the batch holds the writes its accepted calls queued, in call order, and the
  collections they touch, each once and in byte order (`WriteBatch.Holding`); a call whose
  payload is rejected changes nothing.
* An empty batch commits without touching the store. A non-empty one runs its writes in one
  transaction on the queue. When that succeeds, on a calm store and without removing the backing
  file, the writes ran one after another, in call order, from a file with the rows the store had,
  and the store holds what the last one left; then each collection is announced once, in byte
  order (`commit_ok`). When it fails, the rows and the listeners are as they were
  (`commit_failed`).

`BatchCall.runAll_single_use` puts these together over any sequence of calls. The condition on
the backing file is needed: an open that finds the file is not a database removes it, so a
commit that then fails has still lost the rows (`BatchCall.failed_commit_removes_malformed_file`).

Byte order is the order of the UTF-8 bytes of two texts, a prefix first: the order in which the
batch keeps its collections (`insertSorted`).
-/

namespace DocStore

/-! ## Byte order of texts -/

theorem SqlValue.compareLex_eq_list {α : Type} (cmp : α → α → Ordering) :
    ∀ a b : List α, SqlValue.compareLex cmp a b = List.compareLex cmp a b
  | [], [] => rfl
  | [], _ :: _ => rfl
  | _ :: _, [] => rfl
  | x :: xs, y :: ys => by
    simp only [SqlValue.compareLex, List.compareLex_cons_cons]
    cases cmp x y <;> simp [compareLex_eq_list cmp xs ys]

/-- Byte order is the lexicographic order of byte values. -/
theorem SqlValue.compareBytes_eq (a b : List UInt8) :
    SqlValue.compareBytes a b = List.compareLex (compareOn UInt8.toNat) a b :=
  compareLex_eq_list _ a b

instance lawfulEqCmp_byteValue : Std.LawfulEqCmp (compareOn UInt8.toNat) where
  compare_self := Nat.compare_eq_eq.2 rfl
  eq_of_compare h := UInt8.toNat_inj.1 (Nat.compare_eq_eq.1 h)

theorem ByteArray.toList_loop (bs : ByteArray) (i : Nat) (r : List UInt8) :
    ByteArray.toList.loop bs i r = r.reverse ++ bs.data.toList.drop i := by
  fun_induction ByteArray.toList.loop bs i r with
  | case1 i r hi ih =>
    rw [ih]
    have hnext : bs.data.toList.drop i = bs.get! i :: bs.data.toList.drop (i + 1) := by
      rw [List.drop_eq_getElem_cons (by simpa using hi)]
      simp only [ByteArray.get!, List.cons.injEq, and_true]
      exact (getElem!_pos bs.data i (by simpa using hi)).symm
    simp [hnext]
  | case2 i r hi =>
    rw [List.drop_eq_nil_of_le (by simp only [ByteArray.size, Array.length_toList] at hi ⊢; omega),
      List.append_nil]

/-- The bytes of a byte array, in order. -/
theorem ByteArray.toList_eq (bs : ByteArray) : bs.toList = bs.data.toList := by
  simp [ByteArray.toList, ByteArray.toList_loop]

/-- A text is determined by its UTF-8 bytes. -/
theorem String.eq_of_utf8 {s t : String} (h : s.toUTF8.toList = t.toUTF8.toList) : s = t := by
  rw [ByteArray.toList_eq, ByteArray.toList_eq] at h
  exact String.toByteArray_inj.1 (ByteArray.ext (Array.toList_inj.1 h))

/-- `a` comes before `b` in byte order. -/
def ByteLt (a b : String) : Prop :=
  SqlValue.compareBytes a.toUTF8.toList b.toUTF8.toList = .lt

theorem byteLt_trans {a b c : String} (hab : ByteLt a b) (hbc : ByteLt b c) : ByteLt a c := by
  unfold ByteLt at *
  rw [SqlValue.compareBytes_eq] at *
  exact Std.TransCmp.lt_trans hab hbc

theorem byteLt_of_gt {a b : String}
    (h : SqlValue.compareBytes a.toUTF8.toList b.toUTF8.toList = .gt) : ByteLt b a := by
  unfold ByteLt
  rw [SqlValue.compareBytes_eq] at *
  exact Std.OrientedCmp.lt_of_gt h

theorem eq_of_compareBytes_eq {a b : String}
    (h : SqlValue.compareBytes a.toUTF8.toList b.toUTF8.toList = .eq) : a = b := by
  rw [SqlValue.compareBytes_eq] at h
  exact String.eq_of_utf8 (Std.LawfulEqCmp.eq_of_compare h)

/-! ## The collections of a batch -/

/-- Inserting a name into the collections adds exactly that name. -/
theorem mem_insertSorted {s x : String} :
    ∀ {l : List String}, x ∈ insertSorted s l ↔ x = s ∨ x ∈ l
  | [] => by simp [insertSorted]
  | y :: rest => by
    unfold insertSorted
    split
    · simp
    · rename_i heq
      have := eq_of_compareBytes_eq heq
      subst this
      simp
    · simp only [List.mem_cons, mem_insertSorted]
      exact or_left_comm

/-- The collections stay in increasing byte order, each once. -/
theorem pairwise_insertSorted {s : String} :
    ∀ {l : List String}, l.Pairwise ByteLt → (insertSorted s l).Pairwise ByteLt
  | [], _ => List.pairwise_singleton _ _
  | y :: rest, h => by
    rw [List.pairwise_cons] at h
    obtain ⟨hy, hrest⟩ := h
    unfold insertSorted
    split
    · -- the name goes first: it is below `y`, and so below everything after `y`
      rename_i hlt
      refine List.Pairwise.cons (fun z hz => ?_) (List.Pairwise.cons hy hrest)
      rcases List.mem_cons.1 hz with rfl | hz
      · exact hlt
      · exact byteLt_trans hlt (hy z hz)
    · exact List.Pairwise.cons hy hrest
    · rename_i hgt
      refine List.Pairwise.cons (fun z hz => ?_) (pairwise_insertSorted hrest)
      rcases mem_insertSorted.1 hz with rfl | hz
      · exact byteLt_of_gt hgt
      · exact hy z hz

/-! ## What a batch holds -/

/-- A write a batch queues for a document: a full replace, a merge, or a delete. -/
def IsDocumentWrite (x : DocumentRef × BoundStatement) : Prop :=
  (∃ p, x.2 = setStatement x.1 p) ∨ (∃ p, x.2 = updateStatement x.1 p) ∨ x.2 = deleteStatement x.1

/-- A write of a document neither begins, commits nor rolls back a transaction. -/
theorem IsDocumentWrite.controlsTransaction {x : DocumentRef × BoundStatement}
    (h : IsDocumentWrite x) : x.2.statement.controlsTransaction = false := by
  rcases h with ⟨p, hx⟩ | ⟨p, hx⟩ | hx <;> rw [hx] <;> rfl

namespace WriteBatch

/-- A batch that has not committed and holds the writes `w`, in the order they were queued: each
a write of its document, their statements in that order, and the collections they touch, each
once and in byte order. -/
structure Holding (b : WriteBatch) (w : List (DocumentRef × BoundStatement)) : Prop where
  notCommitted : b.committed = false
  writes : ∀ x ∈ w, IsDocumentWrite x
  statements : b.statements = w.map Prod.snd
  sorted : b.collections.Pairwise ByteLt
  collections : ∀ c, c ∈ b.collections ↔ ∃ x ∈ w, x.1.collectionId = c

/-- A new batch holds nothing. -/
theorem holding_empty : ({} : WriteBatch).Holding [] where
  notCommitted := rfl
  writes _ h := by cases h
  statements := rfl
  sorted := List.Pairwise.nil
  collections c := by simp

/-- Queuing a write of a document puts it after the others and adds its collection. -/
theorem Holding.push {b : WriteBatch} {w : List (DocumentRef × BoundStatement)} (h : b.Holding w)
    {r : DocumentRef} {st : BoundStatement} (hw : IsDocumentWrite (r, st)) :
    (b.push r st).Holding (w ++ [(r, st)]) where
  notCommitted := h.notCommitted
  writes x hx := by
    rcases List.mem_append.1 hx with hx | hx
    · exact h.writes x hx
    · rw [List.mem_singleton.1 hx]
      exact hw
  statements := by simp [WriteBatch.push, h.statements]
  sorted := pairwise_insertSorted h.sorted
  collections c := by
    simp only [WriteBatch.push, mem_insertSorted, h.collections, List.mem_append,
      List.mem_singleton]
    constructor
    · rintro (rfl | ⟨x, hx, rfl⟩)
      · exact ⟨(r, st), .inr rfl, rfl⟩
      · exact ⟨x, .inl hx, rfl⟩
    · rintro ⟨x, hx | rfl, rfl⟩
      · exact .inr ⟨x, hx, rfl⟩
      · exact .inl rfl

/-- A batch holding writes of documents holds nothing that controls a transaction. -/
theorem Holding.queued {b : WriteBatch} {w : List (DocumentRef × BoundStatement)}
    (h : b.Holding w) : b.Queued := by
  intro st hst
  rw [h.statements] at hst
  obtain ⟨x, hx, rfl⟩ := List.mem_map.1 hst
  exact (h.writes x hx).controlsTransaction

theorem checkOpen_of_committed {b : WriteBatch} (h : b.committed = true) :
    b.checkOpen = .error .batchAlreadyCommitted := by
  simp [checkOpen, h]

theorem checkOpen_of_open {b : WriteBatch} (h : b.committed = false) : b.checkOpen = .ok () := by
  simp [checkOpen, h]

/-- The outcome of a builder call and the batch after it: a call that fails leaves the batch as
it was. -/
def after (b : WriteBatch) : Outcome WriteBatch → Outcome Unit × WriteBatch
  | .ok b' => (.ok (), b')
  | .error e => (.error e, b)

end WriteBatch

/-! ## Calls on a batch -/

/-- A call on a write batch. -/
inductive BatchCall where
  | set (r : DocumentRef) (data : Value) (now : Instant)
  | update (r : DocumentRef) (data : Value) (now : Instant)
  | delete (r : DocumentRef)
  | commit

open Database WriteBatch

namespace BatchCall

/-- Make a call on a batch: its outcome and the batch afterwards. -/
def run (b : WriteBatch) : BatchCall → StoreM (Outcome Unit × WriteBatch)
  | .set r data now => pure (b.after (b.set r data now))
  | .update r data now => pure (b.after (b.update r data now))
  | .delete r => pure (b.after (b.delete r))
  | .commit => Database.commit b

/-- A batch that has committed refuses every call and leaves the store as it is. -/
theorem run_of_committed {b : WriteBatch} (h : b.committed = true) (call : BatchCall)
    (db : Database) : (call.run b).run db = ((.error .batchAlreadyCommitted, b), db) := by
  cases call <;>
    simp [run, after, WriteBatch.set, WriteBatch.update, WriteBatch.delete, Database.commit,
      checkOpen_of_committed h, bind, Except.bind] <;> rfl

/-- A full replace or a merge whose payload is rejected leaves the batch and the store as they
are. -/
theorem run_rejected {b : WriteBatch} (h : b.committed = false) {r : DocumentRef} {data : Value}
    {now : Instant} {e : StoreError} (he : prepareWrite data now = .error e) (db : Database) :
    ((set r data now).run b).run db = ((.error e, b), db) ∧
      ((update r data now).run b).run db = ((.error e, b), db) := by
  constructor <;>
    simp [run, after, WriteBatch.set, WriteBatch.update, checkOpen_of_open h, he, bind,
      Except.bind] <;> rfl

/-- An accepted full replace or merge queues its statement after the others, without touching
the store. -/
theorem run_accepted {b : WriteBatch} {w : List (DocumentRef × BoundStatement)} (h : b.Holding w)
    {r : DocumentRef} {data : Value} {now : Instant} {p : List (String × Value)}
    (hp : prepareWrite data now = .ok p) (db : Database) :
    ((set r data now).run b).run db = ((.ok (), b.push r (setStatement r p)), db) ∧
      (b.push r (setStatement r p)).Holding (w ++ [(r, setStatement r p)]) ∧
    ((update r data now).run b).run db = ((.ok (), b.push r (updateStatement r p)), db) ∧
      (b.push r (updateStatement r p)).Holding (w ++ [(r, updateStatement r p)]) := by
  refine ⟨?_, h.push (.inl ⟨p, rfl⟩), ?_, h.push (.inr (.inl ⟨p, rfl⟩))⟩ <;>
    simp [run, after, WriteBatch.set, WriteBatch.update, checkOpen_of_open h.notCommitted, hp,
      bind, Except.bind] <;> rfl

/-- A delete is always queued while the batch is open. -/
theorem run_delete {b : WriteBatch} {w : List (DocumentRef × BoundStatement)} (h : b.Holding w)
    (r : DocumentRef) (db : Database) :
    ((delete r).run b).run db = ((.ok (), b.push r (deleteStatement r)), db) ∧
      (b.push r (deleteStatement r)).Holding (w ++ [(r, deleteStatement r)]) := by
  refine ⟨?_, h.push (.inr (.inr rfl))⟩
  simp [run, after, WriteBatch.delete, checkOpen_of_open h.notCommitted, bind, Except.bind]
  rfl

end BatchCall

/-! ## Committing -/

/-- A loop that runs an action on each element in turn is the action mapped over the list. -/
theorem forIn_yield_eq_forM {m : Type → Type} [Monad m] [LawfulMonad m] {α : Type} (l : List α)
    (f : α → m PUnit) :
    forIn l PUnit.unit (fun a _ => do f a; pure (ForInStep.yield PUnit.unit)) = forM l f := by
  induction l with
  | nil => rfl
  | cons a l ih =>
    rw [List.forIn_cons, List.forM_cons, ← ih]
    simp only [bind_assoc, pure_bind]

/-- Announcing changes reaches only the listeners. -/
theorem forM_emit_session (cs : List String) (db : Database) :
    ((forM cs fun c => emit (.collection c)).run db).2.session = db.session := by
  induction cs generalizing db with
  | nil => rfl
  | cons c cs ih =>
    rw [List.forM_cons, stateRun_bind]
    exact ih _

/-- A commit of an open batch uses it up, whatever its outcome: the batch is marked committed
and its statements are taken. -/
theorem commit_uses_up {b : WriteBatch} (h : b.committed = false) (db : Database) :
    ((commit b).run db).1.2.committed = true ∧ ((commit b).run db).1.2.statements = [] := by
  simp only [commit, checkOpen_of_open h]
  split
  · -- nothing queued: the batch is only marked
    exact ⟨rfl, List.isEmpty_iff.1 ‹_›⟩
  · rw [stateRun_bind]
    split <;> exact ⟨rfl, rfl⟩

/-- Committing a batch that holds nothing touches nothing. -/
theorem commit_empty {b : WriteBatch} (h : b.Holding []) (db : Database) :
    (commit b).run db = ((.ok (), { b with committed := true }), db) := by
  have hs : b.statements.isEmpty = true := by simp [h.statements]
  simp only [commit, checkOpen_of_open h.notCommitted, hs, if_true]
  rfl

/-- A commit of writes that fails, on a calm session and without removing the backing file,
leaves the store calm, its rows as they were and the listeners unannounced. -/
theorem commit_failed {b b' : WriteBatch} {w : List (DocumentRef × BoundStatement)}
    (h : b.Holding w) {db db' : Database} {e : StoreError} (hcalm : db.session.Calm)
    (hrun : (commit b).run db = ((.error e, b'), db'))
    (heq : db'.session.plan.removes = db.session.plan.removes) :
    w ≠ [] ∧ db'.session.Calm ∧ db'.session.file.rows = db.session.file.rows ∧
      db'.listeners = db.listeners := by
  refine ⟨?_, commit_failsClean h.queued db db' e hcalm ?_ heq⟩
  · rintro rfl
    rw [commit_empty h] at hrun
    cases hrun
  · rw [stateRun_bind_of hrun]
    rfl

/-- A commit of writes that succeeds ran its statements as one transaction on the queue and then
announced the batch's collections in order. -/
theorem commit_ok_effect {b b' : WriteBatch} {w : List (DocumentRef × BoundStatement)}
    (h : b.Holding w) (hne : w ≠ []) {db db' : Database}
    (hrun : (commit b).run db = ((.ok (), b'), db')) :
    ∃ s, (submitTransaction b.statements).run db.session = (.ok (), s) ∧
      db' = ((forM b.collections fun c => emit (.collection c)).run { db with session := s }).2 := by
  have hs : b.statements.isEmpty = false := by simp [h.statements, hne]
  simp only [commit, checkOpen_of_open h.notCommitted, hs, Bool.false_eq_true, if_false] at hrun
  rcases h₂ : (submitTransaction b.statements).run db.session with ⟨o, s⟩
  have h₂' := onSession_run (submitTransaction b.statements) db
  rw [h₂] at h₂'
  rw [stateRun_bind_of h₂'] at hrun
  cases o with
  | error e => cases hrun
  | ok u =>
    -- the transaction went through: announce the collections
    rw [forIn_yield_eq_forM, stateRun_bind] at hrun
    exact ⟨s, rfl, (congrArg Prod.snd hrun).symm⟩

/-- A commit of writes that succeeds, on a calm session and without removing the backing file,
ran them in order inside one transaction on a database with the rows the store had, left the
session calm with the rows the last of them left, and then announced the batch's collections
in order. -/
theorem commit_ok {b b' : WriteBatch} {w : List (DocumentRef × BoundStatement)}
    (h : b.Holding w) (hne : w ≠ []) {db db' : Database} (hcalm : db.session.Calm)
    (hrun : (commit b).run db = ((.ok (), b'), db'))
    (heq : db'.session.plan.removes = db.session.plan.removes) :
    ∃ s d₀ c c' d, (BackingFile.database d₀).rows = db.session.file.rows ∧
      c.savepoint = some d₀ ∧ RunsInOrder db.session.clock c d₀ (w.map Prod.snd) c' d ∧
      s.file.rows = (BackingFile.database d).rows ∧ s.Calm ∧
      db' = ((forM b.collections fun c => emit (.collection c)).run { db with session := s }).2 := by
  obtain ⟨s, h₂, hdb'⟩ := commit_ok_effect h hne hrun
  have hs' : db'.session = s := by rw [hdb', forM_emit_session]
  rw [hs'] at heq
  obtain ⟨d₀, c, c', d, hrows₀, hsave, hruns, hrows, hcalm'⟩ :=
    submitTransaction_ok h.queued hcalm h₂ heq
  rw [h.statements] at hruns
  exact ⟨s, d₀, c, c', d, hrows₀, hsave, hruns, hrows, hcalm', hdb'⟩

/-- What committing the writes `w` does to the store `db`, ending with the outcome `o` and the
store `db'`. With no writes it does nothing. Otherwise, on success, the writes ran in order
inside one transaction on a database with the rows the store had, the store holds what the last
of them left, and each collection they touch was announced once, in byte order; on failure the
store and its listeners are as they were. -/
def Commits (w : List (DocumentRef × BoundStatement)) (db : Database) :
    Outcome Unit → Database → Prop
  | .ok (), db' =>
    (w = [] ∧ db' = db) ∨
    (w ≠ [] ∧ ∃ s d₀ c c' d, ∃ cs : List String, (BackingFile.database d₀).rows = db.session.file.rows ∧
      c.savepoint = some d₀ ∧ RunsInOrder db.session.clock c d₀ (w.map Prod.snd) c' d ∧
      s.file.rows = (BackingFile.database d).rows ∧ s.Calm ∧
      cs.Pairwise ByteLt ∧ (∀ x, x ∈ cs ↔ ∃ y ∈ w, y.1.collectionId = x) ∧
      db' = ((forM cs fun c => emit (.collection c)).run { db with session := s }).2)
  | .error _, db' =>
    w ≠ [] ∧ db'.session.Calm ∧ db'.session.file.rows = db.session.file.rows ∧
      db'.listeners = db.listeners

/-- A commit of an open batch, on a calm session and without removing the backing file, does
what `Commits` says of the writes the batch holds. -/
theorem commit_commits {b b' : WriteBatch} {w : List (DocumentRef × BoundStatement)}
    (h : b.Holding w) {db db' : Database} {o : Outcome Unit} (hcalm : db.session.Calm)
    (hrun : (commit b).run db = ((o, b'), db'))
    (heq : db'.session.plan.removes = db.session.plan.removes) : Commits w db o db' := by
  cases o with
  | error e =>
    rw [Commits]
    exact commit_failed h hcalm hrun heq
  | ok u =>
    cases u
    by_cases hw : w = []
    · -- nothing queued: the commit only marks the batch
      subst hw
      rw [commit_empty h] at hrun
      cases hrun
      rw [Commits]
      exact .inl ⟨rfl, rfl⟩
    · obtain ⟨s, d₀, c, c', d, hrows₀, hsave, hruns, hrows, hcalm', hdb'⟩ :=
        commit_ok h hw hcalm hrun heq
      rw [Commits]
      exact .inr ⟨hw, s, d₀, c, c', d, b.collections, hrows₀, hsave, hruns, hrows, hcalm',
        h.sorted, h.collections, hdb'⟩

namespace BatchCall

/-- The write a builder call queues, when its payload is accepted. -/
def write : BatchCall → Option (DocumentRef × BoundStatement)
  | .set r data now => (prepareWrite data now).toOption.map fun p => (r, setStatement r p)
  | .update r data now => (prepareWrite data now).toOption.map fun p => (r, updateStatement r p)
  | .delete r => some (r, deleteStatement r)
  | .commit => none

/-- A builder call on an open batch leaves the store as it is and queues its write, if any. -/
theorem run_builder {b : WriteBatch} {w : List (DocumentRef × BoundStatement)} (h : b.Holding w)
    {call : BatchCall} (hc : call ≠ .commit) (db : Database) :
    ∃ o b', (call.run b).run db = ((o, b'), db) ∧ b'.Holding (w ++ call.write.toList) := by
  cases call with
  | set r data now =>
    rcases hp : prepareWrite data now with e | p
    · exact ⟨_, b, (run_rejected h.notCommitted hp db).1, by simpa [write, hp, Except.toOption] using h⟩
    · obtain ⟨hrun, hhold, -⟩ := run_accepted h hp db
      exact ⟨_, _, hrun, by simpa [write, hp, Except.toOption] using hhold⟩
  | update r data now =>
    rcases hp : prepareWrite data now with e | p
    · exact ⟨_, b, (run_rejected h.notCommitted hp db).2, by simpa [write, hp, Except.toOption] using h⟩
    · obtain ⟨-, -, hrun, hhold⟩ := run_accepted h hp db
      exact ⟨_, _, hrun, by simpa [write, hp, Except.toOption] using hhold⟩
  | delete r =>
    obtain ⟨hrun, hhold⟩ := run_delete h r db
    exact ⟨_, _, hrun, hhold⟩
  | commit => exact absurd rfl hc

/-- Make calls on a batch in order: their outcomes and the batch after the last. -/
def runAll : WriteBatch → List BatchCall → StoreM (List (Outcome Unit) × WriteBatch)
  | b, [] => pure ([], b)
  | b, call :: calls => do
    let (o, b₁) ← call.run b
    let (os, b₂) ← runAll b₁ calls
    pure (o :: os, b₂)

theorem runAll_cons {b b₁ b₂ : WriteBatch} {call : BatchCall} {calls : List BatchCall}
    {db db₁ db₂ : Database} {o : Outcome Unit} {os : List (Outcome Unit)}
    (h₁ : (call.run b).run db = ((o, b₁), db₁)) (h₂ : (runAll b₁ calls).run db₁ = ((os, b₂), db₂)) :
    (runAll b (call :: calls)).run db = ((o :: os, b₂), db₂) := by
  simp only [runAll, stateRun_bind_of h₁, stateRun_bind_of h₂]
  rfl

theorem runAll_append {b b₁ b₂ : WriteBatch} {calls₁ calls₂ : List BatchCall}
    {db db₁ db₂ : Database} {os₁ os₂ : List (Outcome Unit)}
    (h₁ : (runAll b calls₁).run db = ((os₁, b₁), db₁))
    (h₂ : (runAll b₁ calls₂).run db₁ = ((os₂, b₂), db₂)) :
    (runAll b (calls₁ ++ calls₂)).run db = ((os₁ ++ os₂, b₂), db₂) := by
  induction calls₁ generalizing b db os₁ with
  | nil =>
    cases h₁
    exact h₂
  | cons call calls₁ ih =>
    rcases hc : (call.run b).run db with ⟨⟨o, b'⟩, db'⟩
    rcases hr : (runAll b' calls₁).run db' with ⟨⟨os', b''⟩, db''⟩
    rw [runAll_cons hc hr] at h₁
    cases h₁
    exact runAll_cons hc (ih hr)

/-- Once a batch has committed, every later call is refused and touches neither the store nor
the batch. -/
theorem runAll_of_committed {b : WriteBatch} (h : b.committed = true) (calls : List BatchCall)
    (db : Database) :
    (runAll b calls).run db = ((calls.map fun _ => .error .batchAlreadyCommitted, b), db) := by
  induction calls with
  | nil => rfl
  | cons call calls ih => exact runAll_cons (run_of_committed h call db) ih

/-- Builder calls on an open batch leave the store as it is and queue, in call order, the
writes whose payloads are accepted. -/
theorem runAll_builders {calls : List BatchCall} (hc : ∀ call ∈ calls, call ≠ .commit) :
    ∀ {b : WriteBatch} {w : List (DocumentRef × BoundStatement)}, b.Holding w → ∀ db,
      ∃ os b', (runAll b calls).run db = ((os, b'), db) ∧ os.length = calls.length ∧
        b'.Holding (w ++ calls.filterMap write) := by
  induction calls with
  | nil => intro b w h db; exact ⟨[], b, rfl, rfl, by simpa using h⟩
  | cons call calls ih =>
    intro b w h db
    obtain ⟨o, b₁, hrun₁, h₁⟩ := run_builder h (hc call (.head _)) db
    obtain ⟨os, b', hrun, hlen, h'⟩ := ih (fun c hc' => hc c (.tail _ hc')) h₁ db
    refine ⟨o :: os, b', ?_, by simp [hlen], ?_⟩
    · exact runAll_cons hrun₁ hrun
    · have hw : w ++ call.write.toList ++ calls.filterMap write =
          w ++ (call :: calls).filterMap write := by
        cases hwr : call.write <;> simp [hwr]
      rwa [hw] at h'

/-- A write batch is used once, all or nothing. Whatever builder calls come before the first
commit, that commit does what `Commits` says of the writes they queued, in call order and
without the ones whose payload was rejected; every call after it is refused and changes
nothing, and the batch ends committed with nothing queued. This is for a calm session and a run
in which no open attempt removed the backing file. -/
theorem runAll_single_use {b : WriteBatch} {w : List (DocumentRef × BoundStatement)}
    (h : b.Holding w) {pre post : List BatchCall} (hpre : ∀ call ∈ pre, call ≠ .commit)
    {db db' : Database} (hcalm : db.session.Calm) {os : List (Outcome Unit)} {b' : WriteBatch}
    (hrun : (runAll b (pre ++ .commit :: post)).run db = ((os, b'), db'))
    (heq : db'.session.plan.removes = db.session.plan.removes) :
    b'.committed = true ∧ b'.statements = [] ∧
      ∃ o, os.drop pre.length = o :: post.map (fun _ => .error .batchAlreadyCommitted) ∧
        Commits (w ++ pre.filterMap write) db o db' := by
  -- the builder calls leave the store as it is
  obtain ⟨os₁, b₁, hrun₁, hlen, h₁⟩ := runAll_builders hpre h db
  rcases hc : (BatchCall.commit.run b₁).run db with ⟨⟨o, b₂⟩, db₂⟩
  have hc' : (Database.commit b₁).run db = ((o, b₂), db₂) := hc
  have hused := commit_uses_up h₁.notCommitted db
  rw [hc'] at hused
  -- after the commit every call is refused
  have hall := runAll_append hrun₁ (runAll_cons hc (runAll_of_committed hused.1 post db₂))
  rw [hall] at hrun
  cases hrun
  refine ⟨hused.1, hused.2, o, by simp [← hlen], commit_commits h₁ hcalm hc' heq⟩

/-- A batch with one delete, committed twice on a store that cannot be opened. -/
theorem runAll_single_use_unopenable :
    let db : Database :=
      { session := { config := { openAttempts := 1 }, plan := { failingOpens := 1 } } }
    let r := (runAll {} ([.delete ⟨"c", "a"⟩] ++ .commit :: [.commit])).run db
    r.1.2.committed = true ∧ r.1.2.statements = [] ∧
      ∃ o, r.1.1.drop 1 = o :: [.error .batchAlreadyCommitted] ∧
        Commits ([] ++ [(⟨"c", "a"⟩, deleteStatement ⟨"c", "a"⟩)]) db o r.2 := by
  intro db r
  have hcalm : db.session.Calm :=
    { idle := fun _ h => (by cases h), rollbackSafe := fun _ h => (by cases h) }
  exact @runAll_single_use {} [] holding_empty [.delete ⟨"c", "a"⟩] [.commit] (by simp) db r.2
    hcalm r.1.1 r.1.2 rfl rfl

/-- A store holding one document, in a file that says it is not a database on the next open. -/
def notADatabaseStore : Database where
  session :=
    { config := { openAttempts := 1 }
      plan := { failingOpens := 1, openKind := .code .notADatabase }
      file := .database
        { tables :=
            { schema := { tables := [{ name := "documents", columns :=
                [{ name := "collection_id", typeName := "TEXT", affinity := .text },
                 { name := "doc_id", typeName := "TEXT", affinity := .text },
                 { name := "data", typeName := "TEXT", affinity := .text }] }] }
              rows := [("documents", [(1, [.ofString "c", .ofString "a", .ofString "{}"])])] } } }

/-- A commit can fail and still lose the store: an open that finds the file is not a database
removes it before giving up. -/
theorem failed_commit_removes_malformed_file :
    let r := (runAll {} [.delete ⟨"c", "b"⟩, .commit]).run notADatabaseStore
    (∃ e, r.1.1 = [.ok (), .error e]) ∧
      r.2.session.file.rows "documents" ≠ notADatabaseStore.session.file.rows "documents" := by
  intro r
  refine ⟨⟨_, rfl⟩, ?_⟩
  decide

end BatchCall

end DocStore
