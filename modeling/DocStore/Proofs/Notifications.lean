import DocStore.Listen.Registry
import DocStore.Proofs.Linearizability
/-!
# Listeners never miss a write

Callers and a listener share the store through its one worker. A caller submits an operation:
validation answers it at once, or its job joins the worker's queue under the next ticket. The
worker serves the head of the queue. A served caller then makes its announcements one at a time;
`StoreOp.run_announcing` says every operation of the store is such a job followed by such
announcements. The listener first subscribes to the bus, then queues its first read; after each
read it takes its notifications one at a time, and queues a re-read when one is in its scope or
when it lagged behind. `Live` is the state of such a system, `Live.step` one step of any of its
parties, and a schedule picks the step taken at each time.

The worker serves jobs in ticket order (`Live.Wf.sorted`), so a larger ticket is served later.
The main theorem, `Live.rereads_after_write`, says: along a schedule in which every kind of step
recurs, once a caller's operation that writes a document the listener reads has been served and
succeeded under ticket `t`, the listener later completes a read whose ticket comes after `t`,
whatever the engine does with each job.

Its safety half is an invariant (`Live.safe_trace`): from then on, the listener's latest read
comes after the write or is still to be queued, or the caller still holds an announcement in the
listener's scope, or the listener, past its first read, owes a re-read. Its progress half is a
chain of phases, each ended by one kind of step and measured by what is left of it
(`Live.reaches_of_decreasing`): the caller's announcements, the listener's place in the queue,
its notifications up to the first one in scope.
-/

set_option linter.unusedSectionVars false

namespace DocStore

open Database

/-! ## The bus -/

namespace Listener

/-- What an announcement does to one listener: an active listener queues it, and when its queue
is over the capacity keeps only the newest and is marked as lagging. -/
def notify (cap : Nat) (s : Scope) (l : Listener) : Listener :=
  if !l.active then l
  else
    let queued := l.pending ++ [s]
    if queued.length > cap then { l with pending := queued.drop (queued.length - cap), lagging := true }
    else { l with pending := queued }

/-- A listener owes a re-read: it lagged behind, or it holds a notification in its scope. -/
def Owed (l : Listener) : Prop :=
  l.lagging = true ∨ ∃ n ∈ l.pending, l.watch.scope.covers n = true

/-- How far a listener is from its next re-read: nothing once it lagged, else one more than the
number of notifications before the first one in its scope. -/
def backlog (l : Listener) : Nat :=
  if l.lagging then 0 else l.pending.findIdx (l.watch.scope.covers ·) + 1

@[simp] theorem notify_watch (cap : Nat) (s : Scope) (l : Listener) :
    (notify cap s l).watch = l.watch := by
  unfold notify
  split
  · rfl
  · dsimp only
    split <;> rfl

@[simp] theorem notify_active (cap : Nat) (s : Scope) (l : Listener) :
    (notify cap s l).active = l.active := by
  unfold notify
  split
  · rfl
  · dsimp only
    split <;> rfl

/-- An active listener whose scope covers an announcement owes a re-read after it, whether the
announcement was queued or the queue overflowed. -/
theorem notify_owed {cap : Nat} {s : Scope} {l : Listener} (ha : l.active = true)
    (hs : l.watch.scope.covers s = true) : (notify cap s l).Owed := by
  simp only [notify, ha, Bool.not_true, Bool.false_eq_true, if_false]
  split
  · exact .inl rfl
  · exact .inr ⟨s, List.mem_append_right _ (List.mem_singleton_self s), hs⟩

/-- An announcement never takes a debt away: a notification in scope either stays queued or
the listener is marked as lagging. -/
theorem Owed.notify {cap : Nat} {s : Scope} {l : Listener} (h : l.Owed) : (notify cap s l).Owed := by
  unfold Listener.notify
  split
  · exact h
  · dsimp only
    split
    · exact .inl rfl
    · rcases h with hlag | ⟨n, hn, hcov⟩
      · exact .inl hlag
      · exact .inr ⟨n, List.mem_append_left _ hn, hcov⟩

/-- An announcement never moves a listener that owes a re-read further from it: the new
notification queues behind the one in scope, or the listener lags. -/
theorem backlog_notify_le {cap : Nat} {s : Scope} {l : Listener} (h : l.Owed) :
    (notify cap s l).backlog ≤ l.backlog := by
  unfold Listener.notify
  split
  · exact Nat.le_refl _
  · dsimp only
    split
    · simp [backlog]
    · by_cases hlag : l.lagging = true
      · simp [backlog, hlag]
      · -- the notification in scope is already queued, so the first one stays where it was
        have hlt := List.findIdx_lt_length_of_exists (h.resolve_left hlag)
        simp [backlog, hlag, List.findIdx_append, hlt]

/-- Taking a notification out of scope brings a listener that owes a re-read one closer to it,
and it still owes it. -/
theorem Owed.skip {l : Listener} {n : Scope} {rest : List Scope} (h : l.Owed)
    (hlag : l.lagging = false) (hp : l.pending = n :: rest) (hn : l.watch.scope.covers n = false) :
    { l with pending := rest }.Owed ∧ { l with pending := rest }.backlog < l.backlog := by
  obtain ⟨m, hm, hcov⟩ := h.resolve_left (by simp [hlag])
  rw [hp] at hm
  have hmr : m ∈ rest := (List.mem_cons.1 hm).resolve_left (by rintro rfl; simp [hcov] at hn)
  refine ⟨.inr ⟨m, hmr, hcov⟩, ?_⟩
  simp [backlog, hlag, hp, List.findIdx_cons, hn]

end Listener

theorem emit_run (s : Scope) (db : Database) :
    ((emit s).run db).2 = { db with listeners := db.listeners.map (Listener.notify db.capacity s) } :=
  rfl

theorem onSession_listeners {α : Type} (m : StateM Session α) (db : Database) :
    ((onSession m).run db).2.listeners = db.listeners :=
  rfl

/-! ## Which announcements a listener hears -/

/-- Whether a watch reads a document: its own document, or a document of its query's collection,
or of a collection of its query's group. -/
def Watch.Reads : Watch → DocumentRef → Prop
  | .document ref _, r => ref = r
  | .query q _, r =>
    match q.source with
    | .collection c => r.collectionId = c.id
    | .group g => r.collectionId = g.id ∨ r.collectionId.endsWith ("/" ++ g.id) = true

/-- A listener's scope covers the announcement of every document it reads. -/
theorem Watch.covers_of_reads {w : Watch} {r : DocumentRef} (h : w.Reads r) :
    w.scope.covers (.collection r.collectionId) = true := by
  cases w with
  | document ref last =>
    simp only [Watch.Reads] at h
    subst h
    simp [Watch.scope, Scope.covers]
  | query q previous =>
    simp only [Watch.Reads] at h
    simp only [Watch.scope]
    split
    · rename_i c hc
      rw [hc] at h
      simp [Scope.covers, h]
    · simp [Scope.covers]

/-- Every listener's scope covers an announcement about the whole store. -/
theorem Watch.covers_wildcard (w : Watch) : w.scope.covers .wildcard = true := by
  simp [Scope.covers]

/-- What a listener reads: its document, or its query. -/
def Watch.read : Watch → StoreOp
  | .document ref _ => .get ref
  | .query q _ => .query q

namespace StoreOp

/-- The documents an operation writes when it succeeds: the document of a set, an update or a
delete, of an add or a patch whose names make one, each document whose write a batch holds, and
every document for an import, which replaces them all. -/
def Writes : StoreOp → DocumentRef → Prop
  | .set r _ _, d | .update r _ _, d | .delete r, d => r = d
  | .add c id _ _, d => c.doc id = .ok d
  | .patch cid did _, d => (CollectionRef.parse cid >>= (·.doc did)) = .ok d
  | .commit b, d => ∃ ws, b.Holding ws ∧ ∃ x ∈ ws, x.1 = d
  | .importJson _, _ | .importBinary _, _ => True
  | .get _, _ | .query _, _ | .count _, _ | .createIndex _ _, _ | .uploadFile _ _ _ _, _
  | .getFile _, _ | .deleteFile _, _ | .exportJson, _ | .exportBinary, _ => False

/-- After a success, an operation announces a scope that covers every listener reading a
document it writes. -/
theorem covers_of_writes {op : StoreOp} {d : DocumentRef} {w : Watch} {r : Reply}
    (hw : op.Writes d) (hr : w.Reads d) (hok : r.isOk = true) :
    ∃ s ∈ op.announcements r, w.scope.covers s = true := by
  have hcov := Watch.covers_of_reads hr
  simp only [announcements, hok, if_true]
  cases op with
  | set r _ _ | update r _ _ | delete r =>
    cases hw
    exact ⟨_, List.mem_singleton_self _, hcov⟩
  | add c id _ _ =>
    simp only [Writes] at hw
    simp only [scopes, hw]
    exact ⟨_, List.mem_singleton_self _, hcov⟩
  | patch cid did _ =>
    simp only [Writes] at hw
    simp only [scopes, hw]
    exact ⟨_, List.mem_singleton_self _, hcov⟩
  | commit b =>
    obtain ⟨ws, hb, x, hx, rfl⟩ := hw
    -- the batch holds a write, so it has statements and the write's collection
    have hne : b.statements.isEmpty = false := by
      rw [hb.statements]
      cases ws with
      | nil => cases hx
      | cons _ _ => rfl
    have hc : x.1.collectionId ∈ b.collections := (hb.collections _).2 ⟨x, hx, rfl⟩
    simp only [scopes, hne, Bool.false_eq_true, if_false]
    exact ⟨_, List.mem_map_of_mem hc, hcov⟩
  | importJson _ | importBinary _ => exact ⟨_, List.mem_singleton_self _, Watch.covers_wildcard w⟩
  | get _ | query _ | count _ | createIndex _ _ | uploadFile _ _ _ _ | getFile _ | deleteFile _
  | exportJson | exportBinary => cases hw

end StoreOp

/-! ## Callers, the worker and a listener -/

/-- Whose job a queue entry is. -/
inductive Owner (ι : Type) where
  | caller (i : ι)
  | listener

/-- Whether an entry is the listener's read. -/
def Owner.isListener {ι : Type} : Owner ι → Bool
  | .caller _ => false
  | .listener => true

/-- Where a caller is: not started, answered before the queue, waiting under a ticket, or served
with a reply and the announcements it has still to make. -/
inductive Caller where
  | ready
  | answered (r : Reply)
  | queued (t : Nat)
  | served (t : Nat) (r : Reply) (left : List Scope)

/-- Where the listener is: not subscribed, subscribed before its first read, waiting for a read
on the queue, or waiting for notifications. -/
inductive Task where
  | idle
  | subscribed
  | fetching
  | waiting
deriving DecidableEq

/-- The store, the worker's queue of ticketed jobs and the next ticket, each caller's progress,
and the listener's: its task, the ticket of its latest read, and its place among the store's
listeners. -/
structure Live (ι : Type) where
  store : Database
  queue : List (Nat × Owner ι)
  issued : Nat
  calls : ι → Caller
  task : Task
  latest : Option Nat
  pos : Nat

/-- A step of one party. -/
inductive Act (ι : Type) where
  | submit (i : ι)
  | serve
  | announce (i : ι)
  | subscribe
  | firstRead
  | receive

/-- The one kind of step that moves the listener on from each task. -/
def Task.leaving {ι : Type} : Task → Act ι
  | .idle => .subscribe
  | .subscribed => .firstRead
  | .fetching => .serve
  | .waiting => .receive

namespace Live

variable {ι : Type} [DecidableEq ι]

/-- The store as it is, nothing queued, no caller started, the listener not yet subscribed. -/
def start (db : Database) : Live ι :=
  { store := db, queue := [], issued := 0, calls := fun _ => .ready, task := .idle, latest := none,
    pos := 0 }

/-- The listener as the store holds it. -/
def receiver (st : Live ι) : Option Listener := st.store.listeners[st.pos]?

/-- The listener queues a read under the next ticket. -/
def queueRead (st : Live ι) : Live ι :=
  { st with queue := st.queue ++ [(st.issued, .listener)], issued := st.issued + 1,
            task := .fetching, latest := some st.issued }

/-- Replace the listener as the store holds it. -/
def setReceiver (st : Live ι) (l : Listener) : Live ι :=
  { st with store := { st.store with listeners := st.store.listeners.set st.pos l } }

section Steps

variable (job : StoreOp → StateM Session Reply) (ops : ι → StoreOp) (w : Watch)

/-- A caller submits its operation: answered at once, or queued under the next ticket. -/
def submit (i : ι) (st : Live ι) : Live ι :=
  match st.calls i with
  | .ready =>
    match (ops i).slot with
    | .answer r => { st with calls := Function.update st.calls i (.answered r) }
    | _ => { st with queue := st.queue ++ [(st.issued, .caller i)], issued := st.issued + 1,
                     calls := Function.update st.calls i (.queued st.issued) }
  | _ => st

/-- The worker serves the head of the queue: a caller's job, after which the caller has its
announcements to make, or the listener's read. -/
def serve (st : Live ι) : Live ι :=
  match st.queue with
  | [] => st
  | (t, .caller i) :: rest =>
    let done := (onSession (job (ops i))).run st.store
    { st with store := done.2, queue := rest,
              calls := Function.update st.calls i (.served t done.1 ((ops i).announcements done.1)) }
  | (_, .listener) :: rest =>
    { st with store := ((onSession (job w.read)).run st.store).2, queue := rest, task := .waiting }

/-- A served caller makes its next announcement. -/
def announce (i : ι) (st : Live ι) : Live ι :=
  match st.calls i with
  | .served t r (s :: left) =>
    { st with store := ((emit s).run st.store).2, calls := Function.update st.calls i (.served t r left) }
  | _ => st

/-- The listener subscribes to the bus. -/
def subscribeListener (st : Live ι) : Live ι :=
  match st.task with
  | .idle =>
    { st with store := ((subscribe { name := "listener", watch := w }).run st.store).2,
              task := .subscribed, pos := st.store.listeners.length }
  | _ => st

/-- The subscribed listener queues its first read. -/
def firstRead (st : Live ι) : Live ι :=
  match st.task with
  | .subscribed => st.queueRead
  | _ => st

/-- The listener, its read served, takes one notification: after lagging, or for a notification
in its scope, it queues a re-read. -/
def receive (st : Live ι) : Live ι :=
  match st.task with
  | .waiting =>
    match st.receiver with
    | some l =>
      if l.lagging then (st.setReceiver { l with lagging := false }).queueRead
      else
        match l.pending with
        | [] => st
        | n :: rest =>
          if l.watch.scope.covers n then (st.setReceiver { l with pending := rest }).queueRead
          else st.setReceiver { l with pending := rest }
    | none => st
  | _ => st

/-- One step of one party. -/
def step (st : Live ι) : Act ι → Live ι
  | .submit i => submit ops i st
  | .serve => serve job ops w st
  | .announce i => announce i st
  | .subscribe => subscribeListener w st
  | .firstRead => firstRead st
  | .receive => receive st

/-- The states a schedule passes through. -/
def trace (st₀ : Live ι) (sched : Nat → Act ι) : Nat → Live ι
  | 0 => st₀
  | n + 1 => step job ops w (trace st₀ sched n) (sched n)

end Steps

/-- A schedule in which every kind of step recurs. -/
def Fair (sched : Nat → Act ι) : Prop := ∀ a n, ∃ m ≥ n, sched m = a

/-- One caller and the listener take every kind of step in turn. -/
def roundRobin (m : Nat) : Act Unit :=
  match m % 6 with
  | 0 => .submit ()
  | 1 => .serve
  | 2 => .announce ()
  | 3 => .subscribe
  | 4 => .firstRead
  | _ => .receive

theorem fair_roundRobin : Fair roundRobin := by
  -- each kind of step comes at every time that is its place modulo six
  have hat : ∀ k n, k < 6 → roundRobin (6 * n + k) = roundRobin k := fun k n hk => by
    unfold roundRobin
    rw [show (6 * n + k) % 6 = k % 6 by omega]
  intro a n
  cases a with
  | submit i => exact ⟨6 * n, by omega, hat 0 n (by decide)⟩
  | serve => exact ⟨6 * n + 1, by omega, hat 1 n (by decide)⟩
  | announce i => exact ⟨6 * n + 2, by omega, hat 2 n (by decide)⟩
  | subscribe => exact ⟨6 * n + 3, by omega, hat 3 n (by decide)⟩
  | firstRead => exact ⟨6 * n + 4, by omega, hat 4 n (by decide)⟩
  | receive => exact ⟨6 * n + 5, by omega, hat 5 n (by decide)⟩

/-! ## What every state keeps -/

/-- What every reachable state keeps: the queue holds issued tickets in increasing order; a
caller's entry is its queued job and a served caller's ticket was issued; the listener's entry is
the read it waits for, and it waits for one exactly while fetching; it has a latest read exactly
once it is past its first; once subscribed, the store holds it, active and on its watch. -/
structure Wf (w : Watch) (st : Live ι) : Prop where
  queue_lt : ∀ x ∈ st.queue, x.1 < st.issued
  sorted : (st.queue.map Prod.fst).Pairwise (· < ·)
  caller_queued : ∀ t i, (t, Owner.caller i) ∈ st.queue → st.calls i = .queued t
  served_lt : ∀ i t r left, st.calls i = .served t r left → t < st.issued
  listener_latest : ∀ t, (t, Owner.listener) ∈ st.queue → st.task = .fetching ∧ st.latest = some t
  fetching_queued : st.task = .fetching → ∃ t, (t, Owner.listener) ∈ st.queue
  latest_none : st.latest = none ↔ (st.task = .idle ∨ st.task = .subscribed)
  latest_lt : ∀ t, st.latest = some t → t < st.issued
  receiver : st.task ≠ .idle → ∃ l, st.receiver = some l ∧ l.watch = w ∧ l.active = true

theorem wf_start (w : Watch) (db : Database) : Wf w (start db : Live ι) where
  queue_lt _ h := by cases h
  sorted := List.Pairwise.nil
  caller_queued _ _ h := by cases h
  served_lt _ _ _ _ h := by cases h
  listener_latest _ h := by cases h
  fetching_queued h := by cases h
  latest_none := by simp [start]
  latest_lt _ h := by cases h
  receiver h := absurd rfl h

/-! ## What each step does -/

section Shapes

variable {job : StoreOp → StateM Session Reply} {ops : ι → StoreOp} {w : Watch}

theorem submit_cases (ops : ι → StoreOp) (i : ι) (st : Live ι) :
    submit ops i st = st ∨
    (st.calls i = .ready ∧ ∃ r, submit ops i st = { st with calls := Function.update st.calls i (.answered r) }) ∨
    (st.calls i = .ready ∧
      submit ops i st = { st with queue := st.queue ++ [(st.issued, .caller i)], issued := st.issued + 1,
                                  calls := Function.update st.calls i (.queued st.issued) }) := by
  unfold submit
  split
  · rename_i hready
    split
    · exact .inr (.inl ⟨hready, _, rfl⟩)
    · exact .inr (.inr ⟨hready, rfl⟩)
  · exact .inl rfl

theorem announce_cases (i : ι) (st : Live ι) :
    announce i st = st ∨
    ∃ t r s left, st.calls i = .served t r (s :: left) ∧
      announce i st = { st with store := ((emit s).run st.store).2,
                                calls := Function.update st.calls i (.served t r left) } := by
  unfold announce
  split
  · exact .inr ⟨_, _, _, _, ‹_›, rfl⟩
  · exact .inl rfl

theorem receive_cases (st : Live ι) :
    receive st = st ∨
    ∃ l, st.task = .waiting ∧ st.receiver = some l ∧
      ((l.lagging = true ∧ receive st = (st.setReceiver { l with lagging := false }).queueRead) ∨
       (∃ n rest, l.lagging = false ∧ l.pending = n :: rest ∧ l.watch.scope.covers n = true ∧
          receive st = (st.setReceiver { l with pending := rest }).queueRead) ∨
       (∃ n rest, l.lagging = false ∧ l.pending = n :: rest ∧ l.watch.scope.covers n = false ∧
          receive st = st.setReceiver { l with pending := rest })) := by
  unfold receive
  split
  · rename_i htask
    split
    · rename_i l hl
      by_cases hlag : l.lagging = true
      · exact .inr ⟨l, htask, hl, .inl ⟨hlag, by simp [hlag]⟩⟩
      · simp only [hlag, Bool.false_eq_true, if_false]
        have hlag' : l.lagging = false := by simpa using hlag
        split
        · exact .inl rfl
        · rename_i n rest hp
          by_cases hn : l.watch.scope.covers n = true
          · exact .inr ⟨l, htask, hl, .inr (.inl ⟨n, rest, hlag', hp, hn, by simp [hn, hlag']⟩)⟩
          · exact .inr ⟨l, htask, hl, .inr (.inr ⟨n, rest, hlag', hp, by simpa using hn,
              by simp [hn, hlag']⟩)⟩
    · exact .inl rfl
  · exact .inl rfl

/-- The listener as the store holds it, after an announcement. -/
theorem receiver_emit (st : Live ι) (s : Scope) (c : ι → Caller) :
    ({ st with store := ((emit s).run st.store).2, calls := c } : Live ι).receiver =
      st.receiver.map (Listener.notify st.store.capacity s) := by
  simp [receiver, emit_run]

theorem receiver_setReceiver {st : Live ι} {l : Listener} (h : st.receiver = some l) (l' : Listener) :
    (st.setReceiver l').receiver = some l' := by
  have hpos : st.pos < st.store.listeners.length := (List.getElem?_eq_some_iff.1 h).1
  simp [receiver, setReceiver, List.getElem?_set_self hpos]

@[simp] theorem queueRead_receiver (st : Live ι) : st.queueRead.receiver = st.receiver := rfl

end Shapes

/-! ## Every reachable state is well formed -/

section Wellformed

variable {job : StoreOp → StateM Session Reply} {ops : ι → StoreOp} {w : Watch} {st : Live ι}

theorem Wf.enqueue_lt (h : Wf w st) (o : Owner ι) :
    ∀ x ∈ st.queue ++ [(st.issued, o)], x.1 < st.issued + 1 := by
  intro x hx
  rcases List.mem_append.1 hx with hx | hx
  · exact Nat.lt_succ_of_lt (h.queue_lt x hx)
  · rw [List.mem_singleton.1 hx]
    exact Nat.lt_succ_self _

theorem Wf.enqueue_sorted (h : Wf w st) (o : Owner ι) :
    ((st.queue ++ [(st.issued, o)]).map Prod.fst).Pairwise (· < ·) := by
  rw [List.map_append, List.pairwise_append]
  refine ⟨h.sorted, List.pairwise_singleton _ _, fun a ha b hb => ?_⟩
  obtain ⟨x, hx, rfl⟩ := List.mem_map.1 ha
  simp only [List.map_cons, List.map_nil, List.mem_singleton] at hb
  rw [hb]
  exact h.queue_lt x hx

/-- An entry behind the head of the queue has a larger ticket than the head. -/
theorem Wf.head_lt (h : Wf w st) {x : Nat × Owner ι} {rest : List (Nat × Owner ι)}
    (hq : st.queue = x :: rest) {y : Nat × Owner ι} (hy : y ∈ rest) : x.1 < y.1 := by
  have hs := h.sorted
  rw [hq, List.map_cons, List.pairwise_cons] at hs
  exact hs.1 y.1 (List.mem_map_of_mem hy)

/-- Without its head, the queue is still in ticket order. -/
theorem Wf.tail_sorted (h : Wf w st) {x : Nat × Owner ι} {rest : List (Nat × Owner ι)}
    (hq : st.queue = x :: rest) : (rest.map Prod.fst).Pairwise (· < ·) := by
  have hs := h.sorted
  rw [hq, List.map_cons, List.pairwise_cons] at hs
  exact hs.2

theorem Wf.submit (h : Wf w st) (i : ι) : Wf w (submit ops i st) := by
  rcases submit_cases ops i st with hs | ⟨hready, r, hs⟩ | ⟨hready, hs⟩ <;> rw [hs]
  · exact h
  · -- a caller that has not started has no entry on the queue and was not served
    exact { h with
      caller_queued := fun t j hj => by
        have hji : j ≠ i := by
          rintro rfl
          rw [h.caller_queued t j hj] at hready
          cases hready
        simpa [Function.update_of_ne hji] using h.caller_queued t j hj
      served_lt := fun j t r' left hj => by
        by_cases hji : j = i
        · subst hji
          simp at hj
        · exact h.served_lt j t r' left (by simpa [Function.update_of_ne hji] using hj) }
  · refine { h with
      queue_lt := h.enqueue_lt _
      sorted := h.enqueue_sorted _
      caller_queued := fun t j hj => ?_
      served_lt := fun j t r' left hj => ?_
      listener_latest := fun t ht => h.listener_latest t ?_
      fetching_queued := fun hf => ?_
      latest_lt := fun t ht => Nat.lt_succ_of_lt (h.latest_lt t ht) }
    · rcases List.mem_append.1 hj with hold | hnew
      · have hji : j ≠ i := by
          rintro rfl
          rw [h.caller_queued t j hold] at hready
          cases hready
        simpa [Function.update_of_ne hji] using h.caller_queued t j hold
      · simp only [List.mem_singleton, Prod.mk.injEq, Owner.caller.injEq] at hnew
        obtain ⟨rfl, rfl⟩ := hnew
        simp
    · by_cases hji : j = i
      · subst hji
        simp at hj
      · exact Nat.lt_succ_of_lt (h.served_lt j t r' left (by simpa [Function.update_of_ne hji] using hj))
    · simpa using ht
    · obtain ⟨t, ht⟩ := h.fetching_queued hf
      exact ⟨t, List.mem_append_left _ ht⟩

/-- Queuing a read, for a listener that is subscribed and not already waiting for one. -/
theorem Wf.queueRead (h : Wf w st) (hi : st.task ≠ .idle) (hf : st.task ≠ .fetching) :
    Wf w st.queueRead where
  queue_lt := h.enqueue_lt _
  sorted := h.enqueue_sorted _
  caller_queued t j hj := by
    rcases List.mem_append.1 hj with hj | hj
    · exact h.caller_queued t j hj
    · simp at hj
  served_lt j t r left hj := Nat.lt_succ_of_lt (h.served_lt j t r left hj)
  listener_latest t ht := by
    rcases List.mem_append.1 ht with ht | ht
    · exact absurd (h.listener_latest t ht).1 hf
    · simp only [List.mem_singleton, Prod.mk.injEq] at ht
      simp [Live.queueRead, ht.1]
  fetching_queued _ := ⟨st.issued, List.mem_append_right _ (List.mem_singleton_self _)⟩
  latest_none := by simp [Live.queueRead]
  latest_lt t ht := by
    simp only [Live.queueRead, Option.some.injEq] at ht
    simp [Live.queueRead, ← ht]
  receiver _ := h.receiver hi

/-- Replacing the listener the store holds by one on the same watch and as active. -/
theorem Wf.setReceiver (h : Wf w st) {l : Listener} (hl : st.receiver = some l) (l' : Listener)
    (hw : l'.watch = l.watch) (ha : l'.active = l.active) : Wf w (st.setReceiver l') :=
  { h with
    receiver := fun hi => by
      obtain ⟨l₀, hl₀, hw₀, ha₀⟩ := h.receiver hi
      rw [hl] at hl₀
      cases hl₀
      exact ⟨l', receiver_setReceiver hl l', hw.trans hw₀, ha.trans ha₀⟩ }

theorem Wf.serve (h : Wf w st) : Wf w (serve job ops w st) := by
  unfold Live.serve
  split
  · exact h
  · rename_i t i rest hq
    have hi : st.calls i = .queued t := h.caller_queued t i (by rw [hq]; exact List.mem_cons_self ..)
    have hmem : ∀ x ∈ rest, x ∈ st.queue := fun x hx => by rw [hq]; exact List.mem_cons_of_mem _ hx
    refine { h with
      queue_lt := fun x hx => h.queue_lt x (hmem x hx)
      sorted := h.tail_sorted hq
      caller_queued := fun t' j hj => ?_
      served_lt := fun j t' r left hj => ?_
      listener_latest := fun t' ht => h.listener_latest t' (hmem _ ht)
      fetching_queued := fun hf => ?_ }
    · -- the caller served has no other entry: its tickets would be equal and increasing
      by_cases hji : j = i
      · subst hji
        have := h.caller_queued t' j (hmem _ hj)
        rw [hi, Caller.queued.injEq] at this
        have := h.head_lt hq hj
        simp only at this
        omega
      · simpa [Function.update_of_ne hji] using h.caller_queued t' j (hmem _ hj)
    · by_cases hji : j = i
      · subst hji
        simp only [Function.update_self, Caller.served.injEq] at hj
        rw [← hj.1]
        exact h.queue_lt _ (by rw [hq]; exact List.mem_cons_self ..)
      · exact h.served_lt j t' r left (by simpa [Function.update_of_ne hji] using hj)
    · obtain ⟨t', ht'⟩ := h.fetching_queued hf
      rw [hq] at ht'
      rcases List.mem_cons.1 ht' with ht' | ht'
      · cases ht'
      · exact ⟨t', ht'⟩
  · rename_i t rest hq
    have hhead := h.listener_latest t (by rw [hq]; exact List.mem_cons_self ..)
    have hmem : ∀ x ∈ rest, x ∈ st.queue := fun x hx => by rw [hq]; exact List.mem_cons_of_mem _ hx
    refine { h with
      queue_lt := fun x hx => h.queue_lt x (hmem x hx)
      sorted := h.tail_sorted hq
      caller_queued := fun t' j hj => h.caller_queued t' j (hmem _ hj)
      listener_latest := fun t' ht => ?_
      fetching_queued := fun hf => by cases hf
      latest_none := by simp [hhead.2]
      receiver := fun _ => h.receiver (by rw [hhead.1]; decide) }
    · -- the read served was the listener's only one: a second would have the same ticket
      have h₁ := (h.listener_latest t' (hmem _ ht)).2
      rw [hhead.2, Option.some.injEq] at h₁
      have := h.head_lt hq ht
      simp only at this
      omega

theorem Wf.announce (h : Wf w st) (i : ι) : Wf w (announce i st) := by
  rcases announce_cases i st with hs | ⟨t, r, s, left, hi, hs⟩ <;> rw [hs]
  · exact h
  · refine { h with
      caller_queued := fun t' j hj => ?_
      served_lt := fun j t' r' left' hj => ?_
      receiver := fun hidle => ?_ }
    · have hj' := h.caller_queued t' j hj
      have hji : j ≠ i := by
        rintro rfl
        rw [hi] at hj'
        cases hj'
      simpa [Function.update_of_ne hji] using hj'
    · by_cases hji : j = i
      · subst hji
        simp only [Function.update_self, Caller.served.injEq] at hj
        rw [← hj.1]
        exact h.served_lt j t r _ hi
      · exact h.served_lt j t' r' left' (by simpa [Function.update_of_ne hji] using hj)
    · obtain ⟨l, hl, hw, ha⟩ := h.receiver hidle
      refine ⟨Listener.notify st.store.capacity s l, ?_, by simp [hw], by simp [ha]⟩
      rw [receiver_emit, hl]
      rfl

theorem Wf.subscribeListener (h : Wf w st) : Wf w (subscribeListener w st) := by
  unfold Live.subscribeListener
  split
  · rename_i hidle
    have hnone : st.latest = none := h.latest_none.2 (.inl hidle)
    exact { h with
      listener_latest := fun t ht => by
        have := (h.listener_latest t ht).1
        rw [hidle] at this
        cases this
      fetching_queued := fun hf => by cases hf
      latest_none := by simp [hnone]
      latest_lt := fun t ht => by rw [hnone] at ht; cases ht
      receiver := fun _ => ⟨{ name := "listener", watch := w }, by
        show (st.store.listeners ++ [{ name := "listener", watch := w }])[st.store.listeners.length]? = _
        simp, rfl, rfl⟩ }
  · exact h

theorem Wf.firstRead (h : Wf w st) : Wf w (firstRead st) := by
  unfold Live.firstRead
  split
  · rename_i hsub
    exact h.queueRead (by rw [hsub]; decide) (by rw [hsub]; decide)
  · exact h

theorem Wf.receive (h : Wf w st) : Wf w (receive st) := by
  rcases receive_cases st with hs | ⟨l, hwait, hl, ⟨-, hs⟩ | ⟨n, rest, -, -, -, hs⟩ | ⟨n, rest, -, -, -, hs⟩⟩ <;>
    rw [hs]
  · exact h
  · exact (h.setReceiver hl { l with lagging := false } rfl rfl).queueRead
      (by simp [Live.setReceiver, hwait]) (by simp [Live.setReceiver, hwait])
  · exact (h.setReceiver hl { l with pending := rest } rfl rfl).queueRead
      (by simp [Live.setReceiver, hwait]) (by simp [Live.setReceiver, hwait])
  · exact h.setReceiver hl { l with pending := rest } rfl rfl

/-- One step keeps a state well formed. -/
theorem Wf.step (h : Wf w st) : ∀ a, Wf w (step job ops w st a)
  | .submit i => h.submit i
  | .serve => h.serve
  | .announce i => h.announce i
  | .subscribe => h.subscribeListener
  | .firstRead => h.firstRead
  | .receive => h.receive

/-- Every state a schedule passes through from a well-formed state is well formed. -/
theorem Wf.trace {st₀ : Live ι} (h : Wf w st₀) (sched : Nat → Act ι) :
    ∀ n, Wf w (trace job ops w st₀ sched n)
  | 0 => h
  | n + 1 => (h.trace sched n).step (sched n)

end Wellformed

/-! ## After a write, the listener is covered -/

/-- The listener's latest read, if it has one yet, comes after ticket `t`. -/
def Later (t : Nat) (st : Live ι) : Prop := ∀ t', st.latest = some t' → t < t'

/-- Caller `i` still holds an announcement in the scope of watch `w`. -/
def Unannounced (w : Watch) (i : ι) (st : Live ι) : Prop :=
  ∃ t r left, st.calls i = .served t r left ∧ ∃ s ∈ left, w.scope.covers s = true

/-- The listener, past its first read, owes a re-read. -/
def Owing (st : Live ι) : Prop :=
  (st.task = .fetching ∨ st.task = .waiting) ∧ ∃ l, st.receiver = some l ∧ l.Owed

/-- After caller `i`'s write under ticket `t`: the listener's latest read comes after it or is
still to be queued, or the caller still holds an announcement in its scope, or it owes a
re-read. -/
def Covered (w : Watch) (i : ι) (t : Nat) (st : Live ι) : Prop :=
  Later t st ∨ Unannounced w i st ∨ Owing st

/-- Every success of caller `i` is covered. -/
def Safe (w : Watch) (i : ι) (st : Live ι) : Prop :=
  ∀ t r left, st.calls i = .served t r left → r.isOk = true → Covered w i t st

section Safety

variable {job : StoreOp → StateM Session Reply} {ops : ι → StoreOp} {w : Watch} {i : ι}
  {st st' : Live ι}

/-- Whatever leaves the listener's latest read, caller `i`, and the listener's receiver alone,
and keeps it past its first read, keeps it covered. -/
theorem Covered.congr {t : Nat} (h : Covered w i t st) (hl : st'.latest = st.latest)
    (hc : st'.calls i = st.calls i) (hr : st'.receiver = st.receiver)
    (ht : st.task = .fetching ∨ st.task = .waiting → st'.task = .fetching ∨ st'.task = .waiting) :
    Covered w i t st' := by
  rcases h with hlat | hun | ⟨htask, howe⟩
  · exact .inl fun t' h' => hlat t' (hl ▸ h')
  · obtain ⟨t', r', left', hc', hs⟩ := hun
    exact .inr (.inl ⟨t', r', left', hc.trans hc', hs⟩)
  · exact .inr (.inr ⟨ht htask, hr ▸ howe⟩)

theorem Safe.congr (h : Safe w i st) (hl : st'.latest = st.latest) (hc : st'.calls i = st.calls i)
    (hr : st'.receiver = st.receiver)
    (ht : st.task = .fetching ∨ st.task = .waiting → st'.task = .fetching ∨ st'.task = .waiting) :
    Safe w i st' := fun t r left hs hok =>
  (h t r left (hc ▸ hs) hok).congr hl hc hr ht

/-- A caller that is not served has nothing to be covered. -/
theorem safe_of_not_served (hc : ∀ t r left, st.calls i ≠ .served t r left) : Safe w i st :=
  fun t r left hs => absurd hs (hc t r left)

/-- Before its first read, the listener covers every write. -/
theorem later_of_none {t : Nat} (h : st.latest = none) : Later t st := fun t' h' => by
  rw [h] at h'
  cases h'

/-- A read queued now comes after every issued ticket. -/
theorem later_queueRead {t : Nat} (ht : t < st.issued) : Later t st.queueRead := by
  intro t' h'
  simp only [Live.queueRead, Option.some.injEq] at h'
  omega

/-- A listener whose read is queued after every success of the caller covers them all. -/
theorem Wf.safe_queueRead (hwf : Wf w st) : Safe w i st.queueRead :=
  fun t r left hs _ => .inl (later_queueRead (hwf.served_lt i t r left hs))

theorem Safe.submit (h : Safe w i st) (j : ι) : Safe w i (submit ops j st) := by
  rcases submit_cases ops j st with hs | ⟨hready, r, hs⟩ | ⟨hready, hs⟩ <;> rw [hs]
  · exact h
  all_goals
    by_cases hji : i = j
    · subst hji
      exact safe_of_not_served fun t r left => by simp
    · exact h.congr rfl (Function.update_of_ne hji _ _) rfl id

theorem Safe.serve (hw : (ops i).Writes d) (hr : w.Reads d) (h : Safe w i st) :
    Safe w i (serve job ops w st) := by
  unfold Live.serve
  split
  · exact h
  · rename_i t₀ j rest hq
    by_cases hji : i = j
    · -- the caller's own job: what it now has to announce covers the listener
      subst hji
      intro t r left hs hok
      simp only [Function.update_self, Caller.served.injEq] at hs
      obtain ⟨-, rfl, rfl⟩ := hs
      obtain ⟨s, hs, hcov⟩ := StoreOp.covers_of_writes hw hr hok
      exact .inr (.inl ⟨_, _, _, Function.update_self .., s, hs, hcov⟩)
    · exact h.congr rfl (Function.update_of_ne hji _ _) rfl id
  · exact h.congr rfl rfl rfl fun _ => .inr rfl

/-- An announcement keeps a listener that owes a re-read owing it. -/
theorem Owing.emit (h : Owing st) (s : Scope) (c : ι → Caller) :
    Owing ({ st with store := ((emit s).run st.store).2, calls := c } : Live ι) := by
  obtain ⟨htask, l, hl, hl'⟩ := h
  exact ⟨htask, _, by rw [receiver_emit, hl]; rfl, hl'.notify⟩

/-- An announcement that leaves caller `i` alone keeps it covered. -/
theorem Covered.emit {t : Nat} (h : Covered w i t st) (s : Scope) {c : ι → Caller}
    (hc : c i = st.calls i) :
    Covered w i t ({ st with store := ((emit s).run st.store).2, calls := c } : Live ι) := by
  rcases h with hlat | ⟨t', r', left', hc', hs⟩ | howe
  · exact .inl hlat
  · exact .inr (.inl ⟨t', r', left', hc.trans hc', hs⟩)
  · exact .inr (.inr (howe.emit s c))

/-- An announcement in the listener's scope leaves it owing a re-read, unless it has no read
yet. -/
theorem Wf.emit_in_scope (hwf : Wf w st) {s : Scope} (hs : w.scope.covers s = true) (c : ι → Caller)
    (t : Nat) :
    Later t ({ st with store := ((emit s).run st.store).2, calls := c } : Live ι) ∨
      Owing ({ st with store := ((emit s).run st.store).2, calls := c } : Live ι) := by
  by_cases hidle : st.task = .idle ∨ st.task = .subscribed
  · exact .inl (later_of_none (hwf.latest_none.2 hidle))
  · obtain ⟨l, hl, hlw, hla⟩ := hwf.receiver fun h' => hidle (.inl h')
    have htask : st.task = .fetching ∨ st.task = .waiting := by
      cases ht : st.task <;> simp_all
    exact .inr ⟨htask, _, by rw [receiver_emit, hl]; rfl, Listener.notify_owed hla (hlw ▸ hs)⟩

theorem Safe.announce (hwf : Wf w st) (h : Safe w i st) (j : ι) : Safe w i (announce j st) := by
  rcases announce_cases j st with hs | ⟨t₀, r₀, s, left₀, hj, hs⟩ <;> rw [hs]
  · exact h
  · by_cases hji : i = j
    · subst hji
      intro t r left hc hok
      simp only [Function.update_self, Caller.served.injEq] at hc
      obtain ⟨rfl, rfl, rfl⟩ := hc
      rcases h t₀ r₀ (s :: left₀) hj hok with hlat | ⟨t', r', left', hc', s', hs', hcov⟩ | howe
      · exact .inl hlat
      · rw [hj, Caller.served.injEq] at hc'
        obtain ⟨-, -, rfl⟩ := hc'
        rcases List.mem_cons.1 hs' with rfl | hs'
        · exact (hwf.emit_in_scope hcov _ t₀).imp_right .inr
        · exact .inr (.inl ⟨t₀, r₀, left₀, Function.update_self .., s', hs', hcov⟩)
      · exact .inr (.inr (howe.emit s _))
    · have hci := Function.update_of_ne hji (Caller.served t₀ r₀ left₀) st.calls
      exact fun t r left hc hok => (h t r left (hci.symm.trans hc) hok).emit s hci

theorem Safe.subscribeListener (hwf : Wf w st) (h : Safe w i st) :
    Safe w i (subscribeListener w st) := by
  unfold Live.subscribeListener
  split
  · rename_i hidle
    -- no read yet: every success is covered
    exact fun t r left _ _ => .inl (later_of_none (hwf.latest_none.2 (.inl hidle)))
  · exact h

theorem Safe.firstRead (hwf : Wf w st) (h : Safe w i st) : Safe w i (firstRead st) := by
  unfold Live.firstRead
  split
  · exact hwf.safe_queueRead
  · exact h

theorem Safe.receive (hwf : Wf w st) (h : Safe w i st) : Safe w i (receive st) := by
  rcases receive_cases st with hs | ⟨l, hwait, hl, ⟨-, hs⟩ | ⟨n, rest, -, -, -, hs⟩ |
      ⟨n, rest, hlag, hp, hn, hs⟩⟩ <;> rw [hs]
  · exact h
  · exact (hwf.setReceiver hl { l with lagging := false } rfl rfl).safe_queueRead
  · exact (hwf.setReceiver hl { l with pending := rest } rfl rfl).safe_queueRead
  · -- a notification out of scope: a debt the listener had stays with it
    intro t r left hc hok
    rcases h t r left hc hok with hlat | hun | ⟨htask, l', hl', howe⟩
    · exact .inl hlat
    · exact .inr (.inl hun)
    · rw [hl] at hl'
      cases hl'
      exact .inr (.inr ⟨htask, _, receiver_setReceiver hl _, (howe.skip hlag hp hn).1⟩)

/-- One step keeps every success of the caller covered. -/
theorem Safe.step (hw : (ops i).Writes d) (hr : w.Reads d) (hwf : Wf w st) (h : Safe w i st) :
    ∀ a, Safe w i (step job ops w st a)
  | .submit j => h.submit j
  | .serve => h.serve hw hr
  | .announce j => h.announce hwf j
  | .subscribe => h.subscribeListener hwf
  | .firstRead => h.firstRead hwf
  | .receive => h.receive hwf

/-- Along every schedule from the start, every success of a caller whose operation writes a
document the listener reads stays covered. -/
theorem safe_trace (hw : (ops i).Writes d) (hr : w.Reads d) (db : Database) (sched : Nat → Act ι) :
    ∀ n, Safe w i (trace job ops w (start db) sched n)
  | 0 => safe_of_not_served fun _ _ _ h => by cases h
  | n + 1 => (safe_trace hw hr db sched n).step hw hr ((wf_start w db).trace sched n) (sched n)

end Safety

/-! ## What a step leaves alone -/

/-- How many announcements caller `i` has still to make. -/
def leftOf (i : ι) (st : Live ι) : Nat :=
  match st.calls i with
  | .served _ _ left => left.length
  | _ => 0

/-- The listener's place in the worker's queue. -/
def placeOf (st : Live ι) : Nat := st.queue.findIdx (·.2.isListener)

/-- How far the listener, as the store holds it, is from its next re-read. -/
def backlogOf (st : Live ι) : Nat :=
  match st.receiver with
  | some l => l.backlog
  | none => 0

section Frame

variable {job : StoreOp → StateM Session Reply} {ops : ι → StoreOp} {w : Watch} {st : Live ι}

theorem issued_le_step (b : Act ι) : st.issued ≤ (step job ops w st b).issued := by
  cases b with
  | submit j =>
    simp only [step]
    rcases submit_cases ops j st with h | ⟨-, _, h⟩ | ⟨-, h⟩ <;>
      simp only [h, Nat.le_refl, Nat.le_succ]
  | serve =>
    simp only [step]
    unfold Live.serve
    split <;> exact Nat.le_refl _
  | announce j =>
    simp only [step]
    rcases announce_cases j st with h | ⟨_, _, _, _, -, h⟩ <;> simp only [h, Nat.le_refl]
  | subscribe =>
    simp only [step]
    unfold Live.subscribeListener
    split <;> exact Nat.le_refl _
  | firstRead =>
    simp only [step]
    unfold Live.firstRead
    split
    · exact Nat.le_succ _
    · exact Nat.le_refl _
  | receive =>
    simp only [step]
    rcases receive_cases st with h | ⟨_, -, -, ⟨-, h⟩ | ⟨_, _, -, -, -, h⟩ | ⟨_, _, -, -, -, h⟩⟩ <;>
      simp only [h, Live.queueRead, Live.setReceiver, Nat.le_refl, Nat.le_succ]

/-- Only the step that leaves a task moves the listener from it. -/
theorem task_step_of_ne (hwf : Wf w st) {b : Act ι} (hb : b ≠ st.task.leaving) :
    (step job ops w st b).task = st.task := by
  cases b with
  | submit j =>
    simp only [step]
    rcases submit_cases ops j st with h | ⟨-, _, h⟩ | ⟨-, h⟩ <;> rw [h]
  | serve =>
    simp only [step]
    unfold Live.serve
    split
    · rfl
    · rfl
    · -- the worker serves the listener's read only while it is fetching
      rename_i t rest hq
      have hf := (hwf.listener_latest t (by rw [hq]; exact List.mem_cons_self ..)).1
      rw [hf] at hb
      exact absurd rfl hb
  | announce j =>
    simp only [step]
    rcases announce_cases j st with h | ⟨_, _, _, _, -, h⟩ <;> rw [h]
  | subscribe =>
    simp only [step]
    unfold Live.subscribeListener
    split
    · rename_i hidle
      rw [hidle] at hb
      exact absurd rfl hb
    · rfl
  | firstRead =>
    simp only [step]
    unfold Live.firstRead
    split
    · rename_i hsub
      rw [hsub] at hb
      exact absurd rfl hb
    · rfl
  | receive =>
    simp only [step]
    rcases receive_cases st with h | ⟨_, hwait, -, -⟩
    · rw [h]
    · rw [hwait] at hb
      exact absurd rfl hb

/-- A served caller's state moves only by its own announcements. -/
theorem calls_step_of_served (hwf : Wf w st) {i : ι} {t : Nat} {r : Reply} {left : List Scope}
    (hc : st.calls i = .served t r left) {b : Act ι} (hb : b ≠ .announce i) :
    (step job ops w st b).calls i = st.calls i := by
  cases b with
  | submit j =>
    simp only [step]
    rcases submit_cases ops j st with h | ⟨hready, _, h⟩ | ⟨hready, h⟩ <;> rw [h]
    all_goals
      have hji : i ≠ j := by
        rintro rfl
        rw [hc] at hready
        cases hready
      exact Function.update_of_ne hji _ _
  | serve =>
    simp only [step]
    unfold Live.serve
    split
    · rfl
    · -- the caller served now was queued, so it is not `i`
      rename_i t' j rest hq
      have hj := hwf.caller_queued t' j (by rw [hq]; exact List.mem_cons_self ..)
      have hji : i ≠ j := by
        rintro rfl
        rw [hc] at hj
        cases hj
      exact Function.update_of_ne hji _ _
    · rfl
  | announce j =>
    simp only [step]
    rcases announce_cases j st with h | ⟨_, _, _, _, -, h⟩ <;> rw [h]
    have hji : i ≠ j := by
      rintro rfl
      exact hb rfl
    exact Function.update_of_ne hji _ _
  | subscribe =>
    simp only [step]
    unfold Live.subscribeListener
    split <;> rfl
  | firstRead =>
    simp only [step]
    unfold Live.firstRead
    split <;> rfl
  | receive =>
    simp only [step]
    rcases receive_cases st with h | ⟨_, -, -, ⟨-, h⟩ | ⟨_, _, -, -, -, h⟩ | ⟨_, _, -, -, -, h⟩⟩ <;> rw [h] <;>
      rfl

/-- Past its first read, the listener as the store holds it changes only when it receives or
hears an announcement. -/
theorem receiver_step (hidle : st.task ≠ .idle) {b : Act ι} (hb : b = .receive → st.task ≠ .waiting) :
    (step job ops w st b).receiver = st.receiver ∨
      ∃ cap s, (step job ops w st b).receiver = st.receiver.map (Listener.notify cap s) := by
  cases b with
  | submit j =>
    simp only [step]
    rcases submit_cases ops j st with h | ⟨-, _, h⟩ | ⟨-, h⟩ <;> rw [h] <;> exact .inl rfl
  | serve =>
    simp only [step]
    unfold Live.serve
    split <;> exact .inl rfl
  | announce j =>
    simp only [step]
    rcases announce_cases j st with h | ⟨_, _, s, _, -, h⟩ <;> rw [h]
    · exact .inl rfl
    · exact .inr ⟨_, s, receiver_emit st s _⟩
  | subscribe =>
    simp only [step]
    unfold Live.subscribeListener
    split
    · exact absurd ‹_› hidle
    · exact .inl rfl
  | firstRead =>
    simp only [step]
    unfold Live.firstRead
    split <;> exact .inl rfl
  | receive =>
    simp only [step]
    rcases receive_cases st with h | ⟨_, hwait, -, -⟩
    · rw [h]
      exact .inl rfl
    · exact absurd hwait (hb rfl)

/-- The listener's latest read changes only when it queues one, which it does not while its read
is queued. -/
theorem latest_step_of_ne {b : Act ι} (hb : b ≠ st.task.leaving ∨ st.task = .fetching) :
    (step job ops w st b).latest = st.latest := by
  cases b with
  | submit j =>
    simp only [step]
    rcases submit_cases ops j st with h | ⟨-, _, h⟩ | ⟨-, h⟩ <;> rw [h]
  | serve =>
    simp only [step]
    unfold Live.serve
    split <;> rfl
  | announce j =>
    simp only [step]
    rcases announce_cases j st with h | ⟨_, _, _, _, -, h⟩ <;> rw [h]
  | subscribe =>
    simp only [step]
    unfold Live.subscribeListener
    split <;> rfl
  | firstRead =>
    simp only [step]
    unfold Live.firstRead
    split
    · rename_i hsub
      rw [hsub] at hb
      simp [Task.leaving] at hb
    · rfl
  | receive =>
    simp only [step]
    rcases receive_cases st with h | ⟨_, hwait, -, -⟩
    · rw [h]
    · rw [hwait] at hb
      simp [Task.leaving] at hb

/-- Apart from the worker, every step only adds to the queue. -/
theorem queue_step_of_ne_serve {b : Act ι} (hb : b ≠ .serve) :
    ∃ xs, (step job ops w st b).queue = st.queue ++ xs := by
  cases b with
  | submit j =>
    simp only [step]
    rcases submit_cases ops j st with h | ⟨-, _, h⟩ | ⟨-, h⟩ <;> rw [h]
    · exact ⟨[], (List.append_nil _).symm⟩
    · exact ⟨[], (List.append_nil _).symm⟩
    · exact ⟨_, rfl⟩
  | serve => exact absurd rfl hb
  | announce j =>
    simp only [step]
    rcases announce_cases j st with h | ⟨_, _, _, _, -, h⟩ <;> rw [h] <;>
      exact ⟨[], (List.append_nil _).symm⟩
  | subscribe =>
    simp only [step]
    unfold Live.subscribeListener
    split <;> exact ⟨[], (List.append_nil _).symm⟩
  | firstRead =>
    simp only [step]
    unfold Live.firstRead
    split
    · exact ⟨_, rfl⟩
    · exact ⟨[], (List.append_nil _).symm⟩
  | receive =>
    simp only [step]
    rcases receive_cases st with h | ⟨_, -, -, ⟨-, h⟩ | ⟨_, _, -, -, -, h⟩ | ⟨_, _, -, -, -, h⟩⟩ <;> rw [h]
    · exact ⟨[], (List.append_nil _).symm⟩
    · exact ⟨_, rfl⟩
    · exact ⟨_, rfl⟩
    · exact ⟨[], (List.append_nil _).symm⟩

/-- The listener waiting with a debt takes one notification: it queues a re-read, or takes a
notification out of its scope and comes one closer to it. -/
theorem receive_owed {l : Listener} (htask : st.task = .waiting) (hl : st.receiver = some l)
    (ho : l.Owed) :
    (∃ l', receive st = (st.setReceiver l').queueRead) ∨
      ∃ l', receive st = st.setReceiver l' ∧ l'.Owed ∧ l'.backlog < l.backlog := by
  unfold Live.receive
  simp only [htask, hl]
  by_cases hlag : l.lagging = true
  · exact .inl ⟨{ l with lagging := false }, by simp [hlag]⟩
  · -- not lagging, it holds a notification in scope, so its queue is not empty
    obtain ⟨n, hn, -⟩ := ho.resolve_left hlag
    have hlag' : l.lagging = false := by simpa using hlag
    simp only [hlag', Bool.false_eq_true, if_false]
    cases hp : l.pending with
    | nil =>
      rw [hp] at hn
      cases hn
    | cons n' rest =>
      by_cases hn' : l.watch.scope.covers n' = true
      · exact .inl ⟨{ l with pending := rest }, by simp [hn', hlag']⟩
      · have hn'' : l.watch.scope.covers n' = false := by simpa using hn'
        obtain ⟨ho', hlt⟩ := ho.skip hlag' hp hn''
        exact .inr ⟨{ l with pending := rest }, by simp [hn'', hlag'], ho', hlt⟩

end Frame

/-! ## Progress along a fair schedule -/

/-- One phase of progress: what holds at time `n` and, step after step, holds again unless `Q`
does, and becomes `Q` at the step of time `m₀`, is followed by `Q`. -/
theorem eventually_of_unless {P Q : Nat → Prop} {n m₀ : Nat} (hn : n ≤ m₀) (hP : P n)
    (hstay : ∀ m, P m → P (m + 1) ∨ Q (m + 1)) (hgo : P m₀ → Q (m₀ + 1)) : ∃ m ≥ n, Q m := by
  -- up to time `m₀`, `P` holds unless `Q` already did
  have hkeep : ∀ k, (∃ m ≥ n, Q m) ∨ P (n + k) := by
    intro k
    induction k with
    | zero => exact .inr hP
    | succ k ih =>
      rcases ih with hq | hp
      · exact .inl hq
      · rcases hstay (n + k) hp with hp' | hq'
        · exact .inr hp'
        · exact .inl ⟨n + k + 1, by omega, hq'⟩
  obtain ⟨k, rfl⟩ := Nat.exists_eq_add_of_le hn
  rcases hkeep k with hq | hp
  · exact hq
  · exact ⟨n + k + 1, by omega, hgo hp⟩

/-- What is always followed by `Q` or by itself with a smaller measure is followed by `Q`. -/
theorem eventually_of_measure {P Q : Nat → Prop} (μ : Nat → Nat)
    (h : ∀ n, P n → ∃ m ≥ n, Q m ∨ (P m ∧ μ m < μ n)) : ∀ n, P n → ∃ m ≥ n, Q m := by
  -- induction on a bound of the measure
  have key : ∀ k n, μ n ≤ k → P n → ∃ m ≥ n, Q m := by
    intro k
    induction k with
    | zero =>
      intro n hμ hP
      obtain ⟨m, hm, hq | ⟨-, hlt⟩⟩ := h n hP
      · exact ⟨m, hm, hq⟩
      · omega
    | succ k ih =>
      intro n hμ hP
      obtain ⟨m, hm, hq | ⟨hp, hlt⟩⟩ := h n hP
      · exact ⟨m, hm, hq⟩
      · obtain ⟨m', hm', hq⟩ := ih m (by omega) hp
        exact ⟨m', Nat.le_trans hm hm', hq⟩
  exact fun n => key (μ n) n (Nat.le_refl _)

section Progress

variable {job : StoreOp → StateM Session Reply} {ops : ι → StoreOp} {w : Watch} {st₀ : Live ι}
  {sched : Nat → Act ι}

/-- A phase of the system measured by `μ`: while `P` holds, no step raises the measure unless it
reaches `Q`, and step `a` lowers it or reaches `Q`. Along a fair schedule, `P` is then followed
by `Q`. -/
theorem reaches_of_decreasing (hfair : Fair sched) (hwf : Wf w st₀) {P Q : Live ι → Prop}
    (μ : Live ι → Nat) (a : Act ι)
    (hstay : ∀ st b, b ≠ a → Wf w st → P st →
      Q (step job ops w st b) ∨ (P (step job ops w st b) ∧ μ (step job ops w st b) ≤ μ st))
    (hgo : ∀ st, Wf w st → P st →
      Q (step job ops w st a) ∨ (P (step job ops w st a) ∧ μ (step job ops w st a) < μ st)) :
    ∀ n, P (trace job ops w st₀ sched n) → ∃ m ≥ n, Q (trace job ops w st₀ sched m) := by
  refine eventually_of_measure (fun m => μ (trace job ops w st₀ sched m)) fun n hP => ?_
  obtain ⟨m₀, hm₀, ha⟩ := hfair a n
  -- until the schedule takes `a`, `P` holds with a measure no larger than now, or `Q` is reached
  refine eventually_of_unless (P := fun m => P (trace job ops w st₀ sched m) ∧
      μ (trace job ops w st₀ sched m) ≤ μ (trace job ops w st₀ sched n)) hm₀ ⟨hP, Nat.le_refl _⟩
    (fun m ⟨hp, hle⟩ => ?_) (fun ⟨hp, hle⟩ => ?_)
  · have hstep : trace job ops w st₀ sched (m + 1) =
        step job ops w (trace job ops w st₀ sched m) (sched m) := rfl
    rw [hstep]
    by_cases hb : sched m = a
    · rw [hb]
      rcases hgo _ (hwf.trace sched m) hp with hq | ⟨hp', hlt⟩
      · exact .inr (.inl hq)
      · exact .inl ⟨hp', Nat.le_trans (Nat.le_of_lt hlt) hle⟩
    · rcases hstay _ _ hb (hwf.trace sched m) hp with hq | ⟨hp', hle'⟩
      · exact .inr (.inl hq)
      · exact .inl ⟨hp', Nat.le_trans hle' hle⟩
  · have hstep : trace job ops w st₀ sched (m₀ + 1) =
        step job ops w (trace job ops w st₀ sched m₀) (sched m₀) := rfl
    rw [hstep, ha]
    rcases hgo _ (hwf.trace sched m₀) hp with hq | ⟨hp', hlt⟩
    · exact .inl hq
    · exact .inr ⟨hp', Nat.lt_of_lt_of_le hlt hle⟩

/-- The listener's latest read comes after ticket `t`. -/
def ReadAfter (t : Nat) (st : Live ι) : Prop := ∃ t', st.latest = some t' ∧ t < t'

/-- A read queued now comes after every ticket issued so far. -/
theorem readAfter_queueRead {st : Live ι} {t : Nat} (ht : t < st.issued) : ReadAfter t st.queueRead :=
  ⟨_, rfl, ht⟩

section Phases

variable (hfair : Fair sched) (hwf : Wf w st₀) {t : Nat}
include hfair hwf

/-- Not yet subscribed, the listener subscribes. -/
theorem idle_subscribes : ∀ n,
    ((trace job ops w st₀ sched n).task = .idle ∧ t < (trace job ops w st₀ sched n).issued) →
    ∃ m ≥ n, (trace job ops w st₀ sched m).task = .subscribed ∧
      t < (trace job ops w st₀ sched m).issued := by
  refine reaches_of_decreasing hfair hwf (P := fun st => st.task = .idle ∧ t < st.issued)
    (Q := fun st => st.task = .subscribed ∧ t < st.issued) (fun _ => 0) .subscribe
    (fun st b hb hst ⟨hidle, ht⟩ => ?_)
    (fun st _ ⟨hidle, ht⟩ => .inl ⟨?_, Nat.lt_of_lt_of_le ht (issued_le_step _)⟩)
  · refine .inr ⟨⟨?_, Nat.lt_of_lt_of_le ht (issued_le_step b)⟩, Nat.le_refl _⟩
    rw [task_step_of_ne hst (by rwa [hidle]), hidle]
  · simp only [step]
    unfold Live.subscribeListener
    rw [hidle]

/-- Subscribed, the listener queues its first read, after every write served so far. -/
theorem subscribed_reads : ∀ n,
    ((trace job ops w st₀ sched n).task = .subscribed ∧ t < (trace job ops w st₀ sched n).issued) →
    ∃ m ≥ n, ReadAfter t (trace job ops w st₀ sched m) := by
  refine reaches_of_decreasing hfair hwf (P := fun st => st.task = .subscribed ∧ t < st.issued)
    (Q := ReadAfter t) (fun _ => 0) .firstRead (fun st b hb hst ⟨hsub, ht⟩ => ?_)
    (fun st _ ⟨hsub, ht⟩ => .inl ?_)
  · refine .inr ⟨⟨?_, Nat.lt_of_lt_of_le ht (issued_le_step b)⟩, Nat.le_refl _⟩
    rw [task_step_of_ne hst (by rwa [hsub]), hsub]
  · simp only [step]
    unfold Live.firstRead
    rw [hsub]
    exact readAfter_queueRead ht

/-- A listener waiting for its read, with a fact `R` that no step undoes while it waits, gets
its read served with `R` still holding. -/
theorem fetching_served {R : Live ι → Prop}
    (hR : ∀ st b, Wf w st → st.task = .fetching → R st → R (step job ops w st b)) : ∀ n,
    ((trace job ops w st₀ sched n).task = .fetching ∧ R (trace job ops w st₀ sched n)) →
    ∃ m ≥ n, (trace job ops w st₀ sched m).task = .waiting ∧ R (trace job ops w st₀ sched m) := by
  refine reaches_of_decreasing hfair hwf (P := fun st => st.task = .fetching ∧ R st)
    (Q := fun st => st.task = .waiting ∧ R st) placeOf .serve (fun st b hb hst ⟨hf, hr⟩ => ?_)
    (fun st hst ⟨hf, hr⟩ => ?_)
  · -- other steps only add behind the listener's read
    obtain ⟨t', ht'⟩ := hst.fetching_queued hf
    obtain ⟨xs, hxs⟩ : ∃ xs, (step job ops w st b).queue = st.queue ++ xs := queue_step_of_ne_serve hb
    have hlt : st.queue.findIdx (·.2.isListener) < st.queue.length :=
      List.findIdx_lt_length_of_exists ⟨_, ht', rfl⟩
    refine .inr ⟨⟨?_, hR st b hst hf hr⟩, ?_⟩
    · rw [task_step_of_ne hst (by rw [hf]; exact hb), hf]
    · simp [placeOf, hxs, List.findIdx_append, hlt]
  · -- the worker serves the queue's head: the listener's read, or a job ahead of it
    have hr' := hR st .serve hst hf hr
    simp only [step] at hr' ⊢
    revert hr'
    unfold Live.serve
    split
    · rename_i hq
      obtain ⟨t', ht'⟩ := hst.fetching_queued hf
      rw [hq] at ht'
      cases ht'
    · rename_i t' j rest hq
      intro hr'
      refine .inr ⟨⟨hf, hr'⟩, ?_⟩
      simp [placeOf, hq, List.findIdx_cons, Owner.isListener]
    · intro hr'
      exact .inl ⟨rfl, hr'⟩

/-- A listener waiting for notifications with a debt re-reads. -/
theorem waiting_rereads : ∀ n,
    ((trace job ops w st₀ sched n).task = .waiting ∧
      (∃ l, (trace job ops w st₀ sched n).receiver = some l ∧ l.Owed) ∧
      t < (trace job ops w st₀ sched n).issued) →
    ∃ m ≥ n, ReadAfter t (trace job ops w st₀ sched m) := by
  refine reaches_of_decreasing hfair hwf
    (P := fun st => st.task = .waiting ∧ (∃ l, st.receiver = some l ∧ l.Owed) ∧ t < st.issued)
    (Q := ReadAfter t) backlogOf .receive
    (fun st b hb hst ⟨hwait, ⟨l, hl, ho⟩, ht⟩ => ?_) (fun st hst ⟨hwait, ⟨l, hl, ho⟩, ht⟩ => ?_)
  · -- other steps leave the listener waiting, and an announcement only adds behind its debt
    have htask : (step job ops w st b).task = st.task := task_step_of_ne hst (by rw [hwait]; exact hb)
    have ht' : t < (step job ops w st b).issued := Nat.lt_of_lt_of_le ht (issued_le_step b)
    rcases (receiver_step (by rw [hwait]; decide) (fun h => absurd h hb) :
        (step job ops w st b).receiver = _ ∨ _) with hr | ⟨cap, s, hr⟩
    · exact .inr ⟨⟨htask.trans hwait, ⟨l, hr.trans hl, ho⟩, ht'⟩, by simp [backlogOf, hr]⟩
    · rw [hl] at hr
      exact .inr ⟨⟨htask.trans hwait, ⟨_, hr, ho.notify⟩, ht'⟩,
        by simp [backlogOf, hr, hl, Listener.backlog_notify_le ho]⟩
  · simp only [step]
    rcases receive_owed hwait hl ho with ⟨l', h⟩ | ⟨l', h, ho', hlt⟩ <;> rw [h]
    · exact .inl (readAfter_queueRead ht)
    · exact .inr ⟨⟨hwait, ⟨l', receiver_setReceiver hl l', ho'⟩, ht⟩,
        by simp [backlogOf, receiver_setReceiver hl l', hl, hlt]⟩

/-- Past its first read and owing a re-read, the listener re-reads. -/
theorem owing_rereads : ∀ n,
    (Owing (trace job ops w st₀ sched n) ∧ t < (trace job ops w st₀ sched n).issued) →
    ∃ m ≥ n, ReadAfter t (trace job ops w st₀ sched m) := by
  intro n ⟨⟨htask, howe⟩, ht⟩
  rcases htask with hf | hwait
  · -- its read is served first; the debt and the issued ticket survive the wait
    have hR : ∀ (st : Live ι) b, Wf w st → st.task = .fetching →
        (∃ l, st.receiver = some l ∧ l.Owed) ∧ t < st.issued →
        (∃ l, (step job ops w st b).receiver = some l ∧ l.Owed) ∧ t < (step job ops w st b).issued := by
      intro st b _ hf ⟨⟨l, hl, ho⟩, ht⟩
      refine ⟨?_, Nat.lt_of_lt_of_le ht (issued_le_step b)⟩
      rcases (receiver_step (by rw [hf]; decide) (fun _ => by rw [hf]; decide) :
          (step job ops w st b).receiver = _ ∨ _) with hr | ⟨cap, s, hr⟩
      · exact ⟨l, hr.trans hl, ho⟩
      · rw [hl] at hr
        exact ⟨_, hr, ho.notify⟩
    obtain ⟨m, hm, hwait, howe', ht'⟩ := fetching_served hfair hwf hR n ⟨hf, howe, ht⟩
    obtain ⟨m', hm', hread⟩ := waiting_rereads hfair hwf m ⟨hwait, howe', ht'⟩
    exact ⟨m', Nat.le_trans hm hm', hread⟩
  · exact waiting_rereads hfair hwf n ⟨hwait, howe, ht⟩

/-- With no read yet, the listener subscribes and reads. -/
theorem none_reads : ∀ n,
    ((trace job ops w st₀ sched n).latest = none ∧ t < (trace job ops w st₀ sched n).issued) →
    ∃ m ≥ n, ReadAfter t (trace job ops w st₀ sched m) := by
  intro n ⟨hnone, ht⟩
  rcases ((hwf.trace sched n).latest_none.1 hnone) with hidle | hsub
  · obtain ⟨m, hm, hsub, ht'⟩ := idle_subscribes hfair hwf n ⟨hidle, ht⟩
    obtain ⟨m', hm', hread⟩ := subscribed_reads hfair hwf m ⟨hsub, ht'⟩
    exact ⟨m', Nat.le_trans hm hm', hread⟩
  · exact subscribed_reads hfair hwf n ⟨hsub, ht⟩

/-- A caller with an announcement in the listener's scope makes it: after it the listener has
no read yet or owes a re-read. -/
theorem unannounced_heard {i : ι} : ∀ n,
    (Unannounced w i (trace job ops w st₀ sched n) ∧ t < (trace job ops w st₀ sched n).issued) →
    ∃ m ≥ n, (Later t (trace job ops w st₀ sched m) ∨ Owing (trace job ops w st₀ sched m)) ∧
      t < (trace job ops w st₀ sched m).issued := by
  refine reaches_of_decreasing hfair hwf (P := fun st => Unannounced w i st ∧ t < st.issued)
    (Q := fun st => (Later t st ∨ Owing st) ∧ t < st.issued) (leftOf i) (.announce i)
    (fun st b hb hst ⟨⟨t', r, left, hc, hs⟩, ht⟩ => ?_) (fun st hst ⟨⟨t', r, left, hc, s', hs', hcov⟩, ht⟩ => ?_)
  · -- other steps leave the caller alone
    have hc' : (step job ops w st b).calls i = st.calls i := calls_step_of_served hst hc hb
    refine .inr ⟨⟨⟨t', r, left, hc'.trans hc, hs⟩, Nat.lt_of_lt_of_le ht (issued_le_step b)⟩, ?_⟩
    simp [leftOf, hc', hc]
  · cases left with
    | nil => cases hs'
    | cons s rest =>
      have hann : announce i st = { st with store := ((emit s).run st.store).2,
                                            calls := Function.update st.calls i (.served t' r rest) } := by
        unfold Live.announce
        rw [hc]
      simp only [step, hann]
      by_cases hcs : w.scope.covers s = true
      · exact .inl ⟨hst.emit_in_scope hcs _ t, ht⟩
      · -- the announcement made is out of scope; the one in scope is still to come
        have hs'' : s' ∈ rest := (List.mem_cons.1 hs').resolve_left (by rintro rfl; exact hcs hcov)
        refine .inr ⟨⟨⟨t', r, rest, Function.update_self .., s', hs'', hcov⟩, ht⟩, ?_⟩
        simp [leftOf, hc]

/-- A read after a write is served: the listener then waits for notifications with it. -/
theorem readAfter_served : ∀ n, ReadAfter t (trace job ops w st₀ sched n) →
    ∃ m ≥ n, ReadAfter t (trace job ops w st₀ sched m) ∧
      (trace job ops w st₀ sched m).task = .waiting := by
  intro n hread
  obtain ⟨t', hl, htt⟩ := hread
  have hwfn : Wf w (trace job ops w st₀ sched n) := hwf.trace sched n
  -- with a read, the listener is past its first: waiting for the read or for notifications
  have htask : (trace job ops w st₀ sched n).task = .fetching ∨
      (trace job ops w st₀ sched n).task = .waiting := by
    have := hwfn.latest_none
    rw [hl] at this
    cases ht : (trace job ops w st₀ sched n).task <;> simp_all
  rcases htask with hf | hwait
  · obtain ⟨m, hm, hwait, hread⟩ := fetching_served hfair hwf (R := ReadAfter t)
      (fun st b _ hf ⟨t', hl, htt⟩ => ⟨t', (latest_step_of_ne (.inr hf)).trans hl, htt⟩) n ⟨hf, t', hl, htt⟩
    exact ⟨m, hm, hread, hwait⟩
  · exact ⟨n, Nat.le_refl _, ⟨t', hl, htt⟩, hwait⟩

end Phases

end Progress

/-! ## Listeners never miss a write -/

/-- Along a schedule in which every kind of step recurs, once caller `i`'s operation, which
writes a document that the listener reads, has been served and succeeded under ticket `t`, the
listener later has a read served whose ticket comes after `t`: its first read, when that was
queued after the write, or a re-read. The engine's work on each job, `job`, is arbitrary; the
store's own is `StoreOp.slot`'s. -/
theorem rereads_after_write (job : StoreOp → StateM Session Reply) (ops : ι → StoreOp) (w : Watch)
    (db : Database) {sched : Nat → Act ι} (hfair : Fair sched) {i : ι} {d : DocumentRef}
    (hw : (ops i).Writes d) (hr : w.Reads d) {n t : Nat} {r : Reply} {left : List Scope}
    (hn : (trace job ops w (start db) sched n).calls i = .served t r left) (hok : r.isOk = true) :
    ∃ m ≥ n, ∃ t', t < t' ∧ (trace job ops w (start db) sched m).latest = some t' ∧
      (trace job ops w (start db) sched m).task = .waiting := by
  have hwf := wf_start (ι := ι) w db
  have ht := (hwf.trace sched n).served_lt i t r left hn
  -- the listener reads after the write, in each of the three ways the write is covered
  have hlater : ∀ k, (Later t (trace job ops w (start db) sched k) ∧
      t < (trace job ops w (start db) sched k).issued) →
      ∃ m ≥ k, ReadAfter t (trace job ops w (start db) sched m) := by
    intro k ⟨hlat, htk⟩
    cases hl : (trace job ops w (start db) sched k).latest with
    | none => exact none_reads hfair hwf k ⟨hl, htk⟩
    | some t' => exact ⟨k, Nat.le_refl _, t', hl, hlat t' hl⟩
  obtain ⟨m, hm, hread⟩ : ∃ m ≥ n, ReadAfter t (trace job ops w (start db) sched m) := by
    rcases safe_trace hw hr db sched n t r left hn hok with hlat | hun | howe
    · exact hlater n ⟨hlat, ht⟩
    · obtain ⟨k, hk, hcov, htk⟩ := unannounced_heard hfair hwf n ⟨hun, ht⟩
      rcases hcov with hlat | howe
      · obtain ⟨m, hm, hread⟩ := hlater k ⟨hlat, htk⟩
        exact ⟨m, Nat.le_trans hk hm, hread⟩
      · obtain ⟨m, hm, hread⟩ := owing_rereads hfair hwf k ⟨howe, htk⟩
        exact ⟨m, Nat.le_trans hk hm, hread⟩
    · exact owing_rereads hfair hwf n ⟨howe, ht⟩
  obtain ⟨m', hm', ⟨t', hl, htt⟩, hwait⟩ := readAfter_served hfair hwf m hread
  exact ⟨m', Nat.le_trans hm hm', t', htt, hl, hwait⟩

/-- A delete of `c/a` by one caller, under an engine that answers every job at once, is
followed by a served read of a listener on `c/a` that comes after it. -/
theorem delete_reaches_document_listener :
    ∃ m ≥ 2, ∃ t', 0 < t' ∧
      (trace (fun _ => pure (.done (.ok ()))) (fun _ => StoreOp.delete ⟨"c", "a"⟩)
        (.document ⟨"c", "a"⟩ none) (start default) roundRobin m).latest = some t' ∧
      (trace (fun _ => pure (.done (.ok ()))) (fun _ => StoreOp.delete ⟨"c", "a"⟩)
        (.document ⟨"c", "a"⟩ none) (start default) roundRobin m).task = .waiting :=
  @rereads_after_write Unit _ (fun _ => pure (.done (.ok ()))) (fun _ => StoreOp.delete ⟨"c", "a"⟩)
    (.document ⟨"c", "a"⟩ none) default roundRobin fair_roundRobin () ⟨"c", "a"⟩ rfl rfl 2 0
    (.done (.ok ())) [.collection "c"] rfl rfl

end Live

end DocStore
