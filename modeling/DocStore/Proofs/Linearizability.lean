import DocStore.Proofs.CallTrace
import DocStore.Proofs.WriteBatches
import Mathlib
/-!
# Operations through the queue are linearizable

Callers reach the store's session only through the queue. Each operation puts at most one job on
a FIFO channel, and one worker takes the jobs off the channel one at a time and runs each to its
end, crash retries included, before it takes the next. What a caller does around its job
(validating, building the payload, announcing the change) touches only its own values and the
listeners.

`Shared` is that system: callers with programs of operations, the channel, and the worker's
session. A run interleaves the callers' sends with the worker's turns in any order.
`Shared.Serial` is what every run keeps (`Shared.Serial.run`):

* the operations served so far, each run alone on the session the ones before it left, give
  exactly the replies their callers got, and leave the session the worker holds;
* each caller's operations are served in the order it issued them;
* what has been served at some point stays first in the order (`Shared.served_run_append`).

`StoreOp` lists the operations of the store: the document reads and writes, counts, batch
commits, index creation, the file operations, and the exports and imports. `StoreOp.slot` is the
one job each puts on the queue, or the answer it gives before the queue. A patch, for instance,
reads, patches and writes its document in one job (`patchJob`). `StoreOp.run_announcing` shows
that an operation is its job followed by its announcements, which follow a success only; so the
job is all the operation does to the session and all its reply depends on
(`StoreOp.run_onSession`). The main statement, `store_linearizable`, replays the served
operations with the store's own code.
-/

namespace DocStore

/-! ## Callers sharing one queue -/

/-- Callers sharing one queue. The worker owns the session. The channel holds the operations sent
and not yet served, in the order they were sent. Each caller has the operations it has still to
send. The served operations are listed in the order served, with their callers and replies. -/
structure Shared (ι ω ρ : Type) where
  session : Session
  channel : List (ι × ω)
  todo : ι → List ω
  served : List (ι × ω × ρ)

/-- A turn of the system: a caller sends the job of its next operation, or the worker serves the
operation at the head of the channel. -/
inductive Turn (ι : Type) where
  | send (i : ι)
  | serve

namespace Shared

variable {ι ω ρ : Type} [DecidableEq ι]

/-- Callers with their programs, before anything was sent. -/
def start (s : Session) (progs : ι → List ω) : Shared ι ω ρ := ⟨s, [], progs, []⟩

variable (job : ω → StateM Session ρ)

/-- One turn. The worker runs an operation's job to its end on the session it owns. -/
def step (w : Shared ι ω ρ) : Turn ι → Shared ι ω ρ
  | .send i =>
    match w.todo i with
    | [] => w
    | op :: rest =>
      { w with channel := w.channel ++ [(i, op)], todo := Function.update w.todo i rest }
  | .serve =>
    match w.channel with
    | [] => w
    | (i, op) :: rest =>
      { w with session := ((job op).run w.session).2, channel := rest,
               served := w.served ++ [(i, op, ((job op).run w.session).1)] }

theorem step_send {w : Shared ι ω ρ} {i : ι} {op : ω} {rest : List ω}
    (h : w.todo i = op :: rest) : step job w (.send i) =
      { w with channel := w.channel ++ [(i, op)], todo := Function.update w.todo i rest } := by
  simp [step, h]

theorem step_send_nil {w : Shared ι ω ρ} {i : ι} (h : w.todo i = []) :
    step job w (.send i) = w := by
  simp [step, h]

theorem step_serve {w : Shared ι ω ρ} {i : ι} {op : ω} {rest : List (ι × ω)}
    (h : w.channel = (i, op) :: rest) : step job w .serve =
      { w with session := ((job op).run w.session).2, channel := rest,
               served := w.served ++ [(i, op, ((job op).run w.session).1)] } := by
  simp [step, h]

theorem step_serve_nil {w : Shared ι ω ρ} (h : w.channel = []) : step job w .serve = w := by
  simp [step, h]

/-- Turns one after another. -/
def run (w : Shared ι ω ρ) (turns : List (Turn ι)) : Shared ι ω ρ := turns.foldl (step job) w

@[simp] theorem run_nil (w : Shared ι ω ρ) : run job w [] = w := rfl

@[simp] theorem run_cons (w : Shared ι ω ρ) (t : Turn ι) (turns : List (Turn ι)) :
    run job w (t :: turns) = run job (step job w t) turns := rfl

theorem run_append (w : Shared ι ω ρ) (turns₁ turns₂ : List (Turn ι)) :
    run job w (turns₁ ++ turns₂) = run job (run job w turns₁) turns₂ := by
  simp [run, List.foldl_append]

/-- The operations of one caller in a list of sent or served ones. -/
def ofCaller {β : Type} (i : ι) (l : List (ι × β)) : List β :=
  (l.filter fun e => e.1 = i).map Prod.snd

@[simp] theorem ofCaller_nil {β : Type} (i : ι) : ofCaller i ([] : List (ι × β)) = [] := rfl

@[simp] theorem ofCaller_append {β : Type} (i : ι) (l l' : List (ι × β)) :
    ofCaller i (l ++ l') = ofCaller i l ++ ofCaller i l' := by
  simp [ofCaller, List.filter_append]

@[simp] theorem ofCaller_cons_self {β : Type} (i : ι) (b : β) (l : List (ι × β)) :
    ofCaller i ((i, b) :: l) = b :: ofCaller i l := by
  simp [ofCaller]

theorem ofCaller_cons_ne {β : Type} {i j : ι} (h : j ≠ i) (b : β) (l : List (ι × β)) :
    ofCaller i ((j, b) :: l) = ofCaller i l := by
  simp [ofCaller, h]

/-- The served operations, without their callers and replies. -/
def servedOps (w : Shared ι ω ρ) : List ω := w.served.map fun e => e.2.1

/-- The replies of the served operations. -/
def replies (w : Shared ι ω ρ) : List ρ := w.served.map fun e => e.2.2

/-- What every run keeps, from a start in `s₀` with programs `progs`: the served operations, run
alone one after another from `s₀`, give the replies they got and the session the worker holds;
each caller's served operations, then those it sent, then those it has still to send, are its
program. -/
structure Serial (s₀ : Session) (progs : ι → List ω) (w : Shared ι ω ρ) : Prop where
  replay : (w.servedOps.mapM job).run s₀ = (w.replies, w.session)
  order : ∀ i, ofCaller i (w.served.map fun e => (e.1, e.2.1)) ++ ofCaller i w.channel ++
      w.todo i = progs i

theorem serial_start (s₀ : Session) (progs : ι → List ω) :
    Serial job s₀ progs (start s₀ progs : Shared ι ω ρ) :=
  ⟨rfl, fun _ => rfl⟩

/-- Running one more operation after others: the replies grow by its reply. -/
theorem mapM_snoc_run (ops : List ω) (op : ω) (s : Session) :
    ((ops ++ [op]).mapM job).run s =
      (((ops.mapM job).run s).1 ++ [((job op).run ((ops.mapM job).run s).2).1],
        ((job op).run ((ops.mapM job).run s).2).2) := by
  simp [List.mapM_append]
  rfl

/-- Every turn keeps `Serial`. -/
theorem Serial.step {s₀ : Session} {progs : ι → List ω} {w : Shared ι ω ρ}
    (h : Serial job s₀ progs w) (t : Turn ι) : Serial job s₀ progs (step job w t) := by
  cases t with
  | send i =>
    rcases hi : w.todo i with _ | ⟨op, rest⟩
    · rwa [step_send_nil job hi]
    · -- the operation moves from the caller's program to the end of the channel
      rw [step_send job hi]
      refine ⟨h.replay, fun j => ?_⟩
      have hj := h.order j
      by_cases hji : j = i
      · subst hji
        rw [hi] at hj
        simp only [Function.update_self, ofCaller_append, ofCaller_cons_self, ofCaller_nil]
        rw [← hj]
        simp
      · have hne : i ≠ j := fun h => hji h.symm
        simp only [Function.update_of_ne hji, ofCaller_append, ofCaller_cons_ne hne,
          ofCaller_nil, List.append_nil]
        exact hj
  | serve =>
    rcases hc : w.channel with _ | ⟨⟨i, op⟩, rest⟩
    · rwa [step_serve_nil job hc]
    · -- the operation at the head moves from the channel to the end of the served ones
      rw [step_serve job hc]
      refine ⟨?_, fun j => ?_⟩
      · have hrep := h.replay
        simp only [servedOps, replies, List.map_append, List.map_cons, List.map_nil] at hrep ⊢
        rw [mapM_snoc_run, hrep]
      · have hj := h.order j
        rw [hc] at hj
        by_cases hji : i = j
        · subst hji
          simp only [List.map_append, List.map_cons, List.map_nil, ofCaller_append,
            ofCaller_cons_self, ofCaller_nil] at hj ⊢
          rw [← hj]
          simp
        · simp only [List.map_append, List.map_cons, List.map_nil, ofCaller_append,
            ofCaller_cons_ne hji, ofCaller_nil, List.append_nil] at hj ⊢
          exact hj

theorem Serial.run {s₀ : Session} {progs : ι → List ω} {w : Shared ι ω ρ}
    (h : Serial job s₀ progs w) : ∀ turns, Serial job s₀ progs (Shared.run job w turns)
  | [] => h
  | t :: turns => (h.step job t).run turns

/-- The served operations only grow: a turn serves one more operation or none. -/
theorem served_step (w : Shared ι ω ρ) (t : Turn ι) :
    ∃ l, (step job w t).served = w.served ++ l := by
  cases t with
  | send i =>
    rcases hi : w.todo i with _ | ⟨op, rest⟩
    · exact ⟨[], by rw [step_send_nil job hi, List.append_nil]⟩
    · exact ⟨[], by rw [step_send job hi, List.append_nil]⟩
  | serve =>
    rcases hc : w.channel with _ | ⟨⟨i, op⟩, rest⟩
    · exact ⟨[], by rw [step_serve_nil job hc, List.append_nil]⟩
    · exact ⟨_, by rw [step_serve job hc]⟩

/-- What has been served by some point stays first in the order of service. -/
theorem served_run_append (w : Shared ι ω ρ) (turns₁ turns₂ : List (Turn ι)) :
    ∃ l, (run job w (turns₁ ++ turns₂)).served = (run job w turns₁).served ++ l := by
  rw [run_append]
  induction turns₂ generalizing w turns₁ with
  | nil => exact ⟨[], by simp⟩
  | cons t turns ih =>
    obtain ⟨l₁, h₁⟩ := served_step job (run job w turns₁) t
    obtain ⟨l₂, h₂⟩ := ih w (turns₁ ++ [t])
    rw [run_append] at h₂
    refine ⟨l₁ ++ l₂, ?_⟩
    rw [run_cons, ← List.append_assoc, ← h₁]
    simpa [run_append] using h₂

end Shared

/-! ## What an operation puts on the queue -/

/-- What one operation puts on the queue: nothing, when it is answered before reaching it, or one
job, queued plainly or crash-safe, whose outcome its reply is made from. -/
inductive Slot (ρ : Type) : Type 1 where
  | answer (r : ρ)
  | plain {β : Type} (j : Job β) (reply : Outcome β → ρ)
  | safe {β : Type} (j : Job β) (reply : Outcome β → ρ)

/-- The work of a slot on the session, as the worker does it. -/
def Slot.run {ρ : Type} : Slot ρ → StateM Session ρ
  | .answer r => pure r
  | .plain j reply => do return reply (← submit j)
  | .safe j reply => do return reply (← submitSafe j)

/-! ## A job, then announcements -/

theorem onSession_pure {α : Type} (a : α) : Database.onSession (Pure.pure a : StateM Session α) = Pure.pure a :=
  rfl

theorem onSession_bind_pure {α β : Type} (m : StateM Session α) (f : α → β) :
    Database.onSession (m >>= fun a => Pure.pure (f a)) = Database.onSession m >>= fun a => Pure.pure (f a) :=
  rfl

/-- A store operation is a computation of the session followed by announcements chosen by its
result: the computation is all it does to the session and all its answer depends on. -/
def Announcing {α : Type} (x : StoreM α) (m : StateM Session α) (ann : α → List Scope) : Prop :=
  x = do
    let a ← Database.onSession m
    forM (ann a) Database.emit
    return a

namespace Announcing

variable {α β : Type}

/-- An answer given before the queue: no computation, no announcement. -/
theorem answer {a : α} {ann : α → List Scope} (h : ann a = []) :
    Announcing (Pure.pure a) (Pure.pure a) ann := by
  simp [Announcing, onSession_pure, h]

/-- A computation on the queue whose result decides what comes after it: the answer made from the
result, announced as `ann` says. -/
theorem after {m : StateM Session α} {k : α → StoreM β} (g : α → β) (ann : β → List Scope)
    (hk : ∀ a, k a = do forM (ann (g a)) Database.emit; return g a) :
    Announcing (Database.onSession m >>= k) (m >>= fun a => Pure.pure (g a)) ann := by
  simp only [Announcing, onSession_bind_pure, bind_assoc, pure_bind]
  exact congrArg _ (funext hk)

/-- An operation that is another one with its answer changed, announcing the same. -/
theorem map {x : StoreM α} {m : StateM Session α} {ann : α → List Scope} (h : Announcing x m ann)
    (f : α → β) {ann' : β → List Scope} (hann : ∀ a, ann' (f a) = ann a) :
    Announcing (x >>= fun a => Pure.pure (f a)) (m >>= fun a => Pure.pure (f a)) ann' := by
  rw [h]
  simp only [bind_assoc, pure_bind]
  exact after f ann' fun a => by rw [hann]

/-- Announcements reach only the listeners. -/
theorem forM_emit_run (scopes : List Scope) (db : Database) :
    ((forM scopes Database.emit).run db).1 = () ∧
      ((forM scopes Database.emit).run db).2.session = db.session := by
  induction scopes generalizing db with
  | nil => exact ⟨rfl, rfl⟩
  | cons s rest ih =>
    rw [List.forM_cons, stateRun_bind]
    exact ⟨(ih _).1, (ih _).2⟩

end Announcing

/-- A store operation does to the session, and answers, what a computation of the session does;
the rest of what it does touches only the listeners. -/
def OnSession {α : Type} (x : StoreM α) (m : StateM Session α) : Prop :=
  ∀ db, ((x.run db).1, (x.run db).2.session) = m.run db.session

namespace OnSession

variable {α β : Type}

theorem pure (a : α) : OnSession (Pure.pure a) (Pure.pure a) := fun _ => rfl

theorem bind {x : StoreM α} {m : StateM Session α} {f : α → StoreM β} {g : α → StateM Session β}
    (hx : OnSession x m) (hf : ∀ a, OnSession (f a) (g a)) : OnSession (x >>= f) (m >>= g) := by
  intro db
  have h := hx db
  rw [stateRun_bind, stateRun_bind]
  rcases hrun : x.run db with ⟨a, db'⟩
  rw [hrun] at h
  rw [← h]
  exact hf a db'

/-- A computation followed by announcements does to the session what the computation does. -/
theorem of_announcing {x : StoreM α} {m : StateM Session α} {ann : α → List Scope}
    (h : Announcing x m ann) : OnSession x m := by
  intro db
  obtain ⟨-, h₂⟩ := Announcing.forM_emit_run (ann (m.run db.session).1)
    { db with session := (m.run db.session).2 }
  rw [h, stateRun_bind, onSession_run, stateRun_bind, stateRun_pure]
  dsimp only
  rw [h₂]
  rfl

/-- Operations one after another: each reaches the session as its computation does. -/
theorem mapM {ω : Type} {f : ω → StoreM α} {g : ω → StateM Session α}
    (h : ∀ op, OnSession (f op) (g op)) : ∀ ops : List ω, OnSession (ops.mapM f) (ops.mapM g)
  | [] => OnSession.pure []
  | op :: ops => by
    simp only [List.mapM_cons]
    exact (h op).bind fun _ => (mapM h ops).bind fun _ => OnSession.pure _

end OnSession

/-! ## The operations of a store -/

/-- A reply of the store to an operation. -/
inductive Reply where
  | doc (o : Outcome DocumentSnapshot)
  | docs (o : Outcome (List QueryDocument))
  | number (o : Outcome Nat)
  | ref (o : Outcome DocumentRef)
  | done (o : Outcome Unit)
  | rows (o : Outcome (List BackupRow))
  | image (o : Outcome (List UInt8))
  | name (o : Outcome String)
  | file (o : Outcome (Option StoredFile))

/-- Whether a reply reports a success. -/
def Reply.isOk : Reply → Bool
  | .doc o => o.isOk
  | .docs o => o.isOk
  | .number o => o.isOk
  | .ref o => o.isOk
  | .done o => o.isOk
  | .rows o => o.isOk
  | .image o => o.isOk
  | .name o => o.isOk
  | .file o => o.isOk

/-- An operation a caller issues on the store. -/
inductive StoreOp where
  | get (r : DocumentRef)
  | query (q : Query)
  | count (q : Query)
  | set (r : DocumentRef) (data : Value) (now : Instant)
  | add (c : CollectionRef) (id : String) (data : Value) (now : Instant)
  | update (r : DocumentRef) (data : Value) (now : Instant)
  | patch (collectionId docId : String) (patch : Value)
  | delete (r : DocumentRef)
  | commit (b : WriteBatch)
  | createIndex (collectionId field : String)
  | uploadFile (path : String) (data : List UInt8) (contentType : String) (now : Instant)
  | getFile (path : String)
  | deleteFile (path : String)
  | exportJson
  | importJson (backup : Value)
  | exportBinary
  | importBinary (image : List UInt8)

namespace StoreOp

open Database

/-- Run an operation with the store's own code. -/
def run : StoreOp → StoreM Reply
  | .get r => do return .doc (← getDoc r)
  | .query q => do return .docs (← getDocs q)
  | .count q => do return .number (← Database.count q)
  | .set r data now => do return .done (← setDoc r data now)
  | .add c id data now => do return .ref (← addDoc c id data now)
  | .update r data now => do return .done (← updateDoc r data now)
  | .patch c d p => do return .done (← patchDoc c d p)
  | .delete r => do return .done (← deleteDoc r)
  | .commit b => do return .done (← Database.commit b).1
  | .createIndex c field => do return .name (← Database.createIndex c field)
  | .uploadFile path data contentType now =>
    do return .done (← Database.uploadFile path data contentType now)
  | .getFile path => do return .file (← Database.getFile path)
  | .deleteFile path => do return .done (← Database.deleteFile path)
  | .exportJson => do return .rows (← Database.exportJson)
  | .importJson backup => do return .number (← Database.importJson backup)
  | .exportBinary => do return .image (← Database.exportBinary)
  | .importBinary image => do return .done (← Database.importBinary image)

/-- The one job an operation puts on the queue, after what it decides before. A patch reads,
patches and writes its document in one job. -/
def slot : StoreOp → Slot Reply
  | .get r => .safe (Session.run ⟨.selectData, keyBindings r⟩) fun rows => .doc (do
      match (← rows).head? with
      | none => return ⟨r, none⟩
      | some row => return ⟨r, some (← parseData (← row.text "data"))⟩)
  | .query q =>
    match q.compile with
    | .error e => .answer (.docs (.error e))
    | .ok c => .safe (Session.run ⟨c.statement, c.bindings⟩) fun rows => .docs (do
        c.documents (← rows))
  | .count q =>
    match q.compileCount with
    | .error e => .answer (.number (.error e))
    | .ok c => .safe (Session.run ⟨c.statement, c.bindings⟩) fun rows => .number (do
        countOfRows (← rows))
  | .set r data now =>
    match prepareWrite data now with
    | .error e => .answer (.done (.error e))
    | .ok payload => .safe (do let _ ← Session.run (setStatement r payload); pure ()) .done
  | .add c id data now =>
    match c.doc id with
    | .error e => .answer (.ref (.error e))
    | .ok r =>
      match prepareWrite data now with
      | .error e => .answer (.ref (.error e))
      | .ok payload => .safe (do let _ ← Session.run (setStatement r payload); pure ())
          fun o => .ref (o.map fun _ => r)
  | .update r data now =>
    match prepareWrite data now with
    | .error e => .answer (.done (.error e))
    | .ok payload => .safe (do let _ ← Session.run (updateStatement r payload); pure ()) .done
  | .patch cid did p =>
    match CollectionRef.parse cid >>= (·.doc did) with
    | .error e => .answer (.done (.error e))
    | .ok r =>
      match Patch.ofJson p with
      | .error e => .answer (.done (.error (.patch ("Malformed patch document: " ++ e))))
      | .ok ops => .safe (patchJob r ops) .done
  | .delete r => .safe (do let _ ← Session.run (deleteStatement r); pure ()) .done
  | .commit b =>
    match b.checkOpen with
    | .error e => .answer (.done (.error e))
    | .ok () =>
      if b.statements.isEmpty then .answer (.done (.ok ()))
      else .safe (Session.runTransaction b.statements) .done
  | .createIndex cid field =>
    match CollectionRef.parse cid with
    | .error e => .answer (.name (.error e))
    | .ok c =>
      match FieldPath.parse field with
      | .error e => .answer (.name (.error e))
      | .ok p => .safe (do let _ ← Session.run ⟨.createIndex (indexName c.id field) p c.id, []⟩; pure ())
          fun o => .name (o.map fun _ => indexName c.id field)
  | .uploadFile path data contentType now =>
    if path.isEmpty then .answer (.done (.error (.invalid .emptyFilePath)))
    else .safe (do
      let _ ← Session.run ⟨.upsertFile, [.ofString path, .blob data, .ofString contentType,
        .integer data.length, .ofString (formatTimestamp now)]⟩
      pure ()) .done
  | .getFile path => .safe (Session.run ⟨.selectFile, [.ofString path]⟩) fun rows => .file (do
      match (← rows).head? with
      | none => return none
      | some row => return some (← StoredFile.ofRow row))
  | .deleteFile path => .safe (do let _ ← Session.run ⟨.deleteFile, [.ofString path]⟩; pure ()) .done
  | .importJson backup =>
    match parseBackup backup with
    | .error e => .answer (.number (.error e))
    | .ok rows =>
      .safe (Session.runTransaction (⟨.deleteAllDocuments, []⟩ :: rows.map (fun r =>
        ⟨.insertDocument,
          [.ofString r.collectionId, .ofString r.docId, .ofString r.data.compact]⟩)))
        fun o => .number (match o with
          | .error e => .error e
          | .ok () => .ok rows.length)
  | .exportJson => .safe (Session.run ⟨.exportDocuments, []⟩) fun rows => .rows (do
      (← rows).mapM (fun row => do
        let c ← row.text "collection_id"
        let d ← row.text "doc_id"
        let data ← parseData (← row.text "data")
        return ⟨c, d, data⟩))
  | .exportBinary => .plain exportJob .image
  | .importBinary image =>
    match Image.checkHeader image with
    | .error e => .answer (.done (.error e))
    | .ok () => .plain (importJob image) .done

/-- What an operation announces when it succeeds: the collection of the document it writes, each
collection a batch touches, or the whole store for an import. Reads announce nothing, and neither
do an index or a file, which no listener watches. -/
def scopes : StoreOp → List Scope
  | .set r _ _ | .update r _ _ | .delete r => [.collection r.collectionId]
  | .add c id _ _ =>
    match c.doc id with
    | .ok r => [.collection r.collectionId]
    | .error _ => []
  | .patch cid did _ =>
    match CollectionRef.parse cid >>= (·.doc did) with
    | .ok r => [.collection r.collectionId]
    | .error _ => []
  | .commit b => if b.statements.isEmpty then [] else b.collections.map .collection
  | .importJson _ | .importBinary _ => [.wildcard]
  | .get _ | .query _ | .count _ | .createIndex _ _ | .uploadFile _ _ _ _ | .getFile _
  | .deleteFile _ | .exportJson | .exportBinary => []

/-- The announcements that follow an operation's job, given its reply: its scopes after a
success, nothing after a failure. -/
def announcements (op : StoreOp) (r : Reply) : List Scope := if r.isOk then op.scopes else []

/-- Every operation is its job on the queue followed by its announcements, as the store's code
runs it: validation before the queue answers alone, and a write announces only once its job has
succeeded. -/
theorem run_announcing : ∀ op : StoreOp, Announcing op.run op.slot.run op.announcements
  -- each case first splits on what the operation decides from its arguments alone; where that
  -- answers without reaching the queue, both sides are the same answer; otherwise the rest of
  -- the operation, after its job, announces exactly its scopes when the job succeeded
  | .get r => by
    simp only [StoreOp.run, slot, getDoc, bind_assoc]
    -- a read announces nothing; the answer is the same term up to how its match was compiled
    exact Announcing.after _ _ fun _ => by
      dsimp only [announcements, scopes]
      rw [ite_self]
      rfl
  | .query q => by
    simp only [StoreOp.run, slot, getDocs]
    rcases h : q.compile with e | c
    · exact Announcing.answer rfl
    · simp only [bind_assoc]
      exact Announcing.after _ _ fun _ => by simp [announcements, scopes]
  | .count q => by
    simp only [StoreOp.run, slot, Database.count]
    rcases h : q.compileCount with e | c
    · exact Announcing.answer rfl
    · simp only [bind_assoc]
      exact Announcing.after _ _ fun _ => by simp [announcements, scopes]
  | .set r data now => by
    simp only [StoreOp.run, slot, setDoc]
    rcases h : prepareWrite data now with e | payload
    · exact Announcing.answer rfl
    · simp only [execute, bind_assoc]
      exact Announcing.after _ _ fun res => by
        cases res <;> simp [announcements, Reply.isOk, Except.toBool, scopes]
  | .add c id data now => by
    simp only [StoreOp.run, slot, addDoc, setDoc]
    rcases hr : c.doc id with e | r
    · exact Announcing.answer rfl
    · rcases h : prepareWrite data now with e | payload
      · exact Announcing.answer rfl
      · simp only [execute, bind_assoc]
        exact Announcing.after _ _ fun res => by
          cases res <;> simp [announcements, Reply.isOk, Except.toBool, Except.map, scopes, hr]
  | .update r data now => by
    simp only [StoreOp.run, slot, updateDoc]
    rcases h : prepareWrite data now with e | payload
    · exact Announcing.answer rfl
    · simp only [execute, bind_assoc]
      exact Announcing.after _ _ fun res => by
        cases res <;> simp [announcements, Reply.isOk, Except.toBool, scopes]
  | .patch cid did p => by
    simp only [StoreOp.run, slot, patchDoc]
    rcases hr : CollectionRef.parse cid >>= (·.doc did) with e | r
    · exact Announcing.answer rfl
    · rcases h : Patch.ofJson p with e | ops
      · exact Announcing.answer rfl
      · simp only [bind_assoc]
        exact Announcing.after _ _ fun res => by
          cases res <;> simp [announcements, Reply.isOk, Except.toBool, scopes, hr]
  | .delete r => by
    simp only [StoreOp.run, slot, deleteDoc, execute, bind_assoc]
    exact Announcing.after _ _ fun res => by
      cases res <;> simp [announcements, Reply.isOk, Except.toBool, scopes]
  | .commit b => by
    simp only [StoreOp.run, slot, Database.commit]
    rcases h : b.checkOpen with e | ⟨⟩
    · exact Announcing.answer rfl
    · by_cases hempty : b.statements.isEmpty = true
      · simp only [hempty, if_true]
        exact Announcing.answer (by simp [announcements, scopes, hempty])
      · simp only [hempty, Bool.false_eq_true, ↓reduceIte, submitTransaction, bind_assoc]
        -- after a success each collection the batch touches is announced, in the batch's order
        refine Announcing.after _ _ fun o => ?_
        cases o with
        | error e => simp [announcements, Reply.isOk, Except.toBool]
        | ok u =>
          simp only [forIn_yield_eq_forM]
          simp [announcements, Reply.isOk, Except.toBool, scopes, hempty, List.forM_map]
  | .createIndex cid field => by
    simp only [StoreOp.run, slot, Database.createIndex]
    rcases hc : CollectionRef.parse cid with e | c
    · exact Announcing.answer rfl
    · rcases hp : FieldPath.parse field with e | p
      · exact Announcing.answer rfl
      · simp only [execute, bind_assoc]
        exact Announcing.after _ _ fun _ => by simp [announcements, scopes]
  | .uploadFile path data contentType now => by
    simp only [StoreOp.run, slot, Database.uploadFile]
    by_cases hp : path.isEmpty = true
    · simp only [hp, if_true]
      exact Announcing.answer rfl
    · simp only [hp, Bool.false_eq_true, ↓reduceIte, execute]
      exact Announcing.after _ _ fun _ => by simp [announcements, scopes]
  | .getFile path => by
    simp only [StoreOp.run, slot, Database.getFile, bind_assoc]
    exact Announcing.after _ _ fun _ => by
      dsimp only [announcements, scopes]
      rw [ite_self]
      rfl
  | .deleteFile path => by
    simp only [StoreOp.run, slot, Database.deleteFile, execute]
    exact Announcing.after _ _ fun _ => by simp [announcements, scopes]
  | .exportJson => by
    simp only [StoreOp.run, slot, Database.exportJson, bind_assoc]
    exact Announcing.after _ _ fun _ => by simp [announcements, scopes]
  | .importJson backup => by
    simp only [StoreOp.run, slot, Database.importJson]
    rcases h : parseBackup backup with e | rows
    · exact Announcing.answer rfl
    · simp only [submitTransaction, bind_assoc]
      exact Announcing.after _ _ fun o => by
        cases o <;> simp [announcements, Reply.isOk, Except.toBool, scopes]
  | .exportBinary => by
    simp only [StoreOp.run, slot, Database.exportBinary]
    exact Announcing.after _ _ fun _ => by simp [announcements, scopes]
  | .importBinary image => by
    simp only [StoreOp.run, slot, Database.importBinary]
    rcases h : Image.checkHeader image with e | ⟨⟩
    · exact Announcing.answer rfl
    · simp only [bind_assoc]
      exact Announcing.after _ _ fun res => by
        cases res <;> simp [announcements, Reply.isOk, Except.toBool, scopes]

theorem run_onSession (op : StoreOp) : OnSession op.run op.slot.run :=
  OnSession.of_announcing (run_announcing op)

end StoreOp

/-! ## Linearizability -/

/-- Callers sharing the store's queue, as the worker serves them. -/
abbrev StoreWorld (ι : Type) := Shared ι StoreOp Reply

/-- Any number of callers, each with a program of store operations, sharing one queue, in any
interleaving of their sends and the worker's turns. The order in which the worker served their
operations is a linearization:

* run alone one after another from the start, with the store's own code, the served operations
  answer what their callers were answered and leave the session the worker holds;
* each caller's served operations are the first ones of its program, in its order;
* what had been served at any point of the run comes first in that order. -/
theorem store_linearizable {ι : Type} [DecidableEq ι] (db : Database)
    (progs : ι → List StoreOp) (turns : List (Turn ι)) :
    let w := (Shared.start db.session progs : StoreWorld ι).run (·.slot.run) turns
    ((w.servedOps.mapM StoreOp.run).run db).1 = w.replies ∧
      ((w.servedOps.mapM StoreOp.run).run db).2.session = w.session ∧
      (∀ i, Shared.ofCaller i (w.served.map fun e => (e.1, e.2.1)) <+: progs i) ∧
      (∀ turns₁ turns₂, turns = turns₁ ++ turns₂ →
        ((Shared.start db.session progs : StoreWorld ι).run (·.slot.run) turns₁).served <+:
          w.served) := by
  intro w
  have hser : Shared.Serial (·.slot.run) db.session progs w :=
    (Shared.serial_start _ db.session progs).run _ turns
  -- the replay of the served operations reaches the session only through their jobs
  have hreplay := (OnSession.mapM StoreOp.run_onSession w.servedOps db).trans hser.replay
  obtain ⟨hreplies, hsession⟩ := Prod.mk.inj hreplay
  refine ⟨hreplies, hsession, fun i => ⟨Shared.ofCaller i w.channel ++ w.todo i, ?_⟩, ?_⟩
  · rw [← hser.order i, List.append_assoc]
  · rintro turns₁ turns₂ rfl
    obtain ⟨l, hl⟩ := Shared.served_run_append (fun op : StoreOp => op.slot.run) _ turns₁ turns₂
    exact ⟨l, hl.symm⟩

end DocStore
