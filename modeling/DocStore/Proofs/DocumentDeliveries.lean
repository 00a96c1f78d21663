import DocStore.Proofs.QueryDiffs
/-!
# A document listener delivers exactly the changes

A document listener hands out the snapshot it read at registration. After that, each time it
re-reads the document it compares the data it read with the data it handed out last, a missing
document having none (`sameData`, equality as JSON data with member order ignored): it hands the
snapshot out, and takes its data as the new baseline, only when the two differ. A re-read that
fails hands out nothing and keeps the baseline (`Database.refresh_document`).

`changedReads` says which of a sequence of reads are handed out: each one whose data is not the
same as that of the snapshot handed out before it (`changedReads_concat` reads this off one read
at a time). A listener re-reading at any sequence of stores hands out exactly the changed reads
among the reads that succeed (`Database.refreshAll_document`), so no two deliveries in a row carry
the same data (`isChain_changedReads`), and the listener ends with the data it handed out last
(`Database.listenDoc_delivers_changes`).
-/

namespace DocStore

/-! ## The changes among successive reads -/

/-- The snapshots among successive reads of a document that a listener hands out, when the data it
handed out last is `last`: each read whose data is not the same as that of the snapshot handed out
before it. -/
def changedReads : Option Value → List DocumentSnapshot → List DocumentSnapshot
  | _, [] => []
  | last, s :: ss =>
    if sameData s.data last then changedReads last ss else s :: changedReads s.data ss

/-- The data handed out last: that of the last snapshot, or `last` when there is none. -/
def lastData (last : Option Value) (snaps : List DocumentSnapshot) : Option Value :=
  (snaps.getLast?.map DocumentSnapshot.data).getD last

@[simp] theorem lastData_nil (last : Option Value) : lastData last [] = last := rfl

@[simp] theorem lastData_cons (last : Option Value) (s : DocumentSnapshot)
    (snaps : List DocumentSnapshot) : lastData last (s :: snaps) = lastData s.data snaps := by
  cases snaps with
  | nil => rfl
  | cons t ts =>
    simp only [lastData, List.getLast?_cons_cons,
      List.getLast?_eq_some_getLast (List.cons_ne_nil t ts), Option.map_some, Option.getD_some]

/-- One more read is handed out exactly when its data is not the same as the data handed out
last. -/
theorem changedReads_concat (last : Option Value) (ss : List DocumentSnapshot)
    (s : DocumentSnapshot) :
    changedReads last (ss ++ [s]) = changedReads last ss ++
      (if sameData s.data (lastData last (changedReads last ss)) then [] else [s]) := by
  induction ss generalizing last with
  | nil => by_cases h : sameData s.data last <;> simp [changedReads, h]
  | cons t ts ih =>
    by_cases ht : sameData t.data last
    · simp only [List.cons_append, changedReads, ht, if_true]
      exact ih last
    · simp only [List.cons_append, changedReads, ht, Bool.false_eq_true, if_false, lastData_cons,
        List.cons_append]
      rw [ih t.data]

/-- No two snapshots in a row among those handed out carry the same data. -/
theorem isChain_changedReads (a : DocumentSnapshot) (ss : List DocumentSnapshot) :
    (a :: changedReads a.data ss).IsChain fun x y => sameData y.data x.data = false := by
  induction ss generalizing a with
  | nil => exact List.IsChain.singleton a
  | cons t ts ih =>
    by_cases ht : sameData t.data a.data
    · simp only [changedReads, ht, if_true]
      exact ih a
    · simp only [changedReads, ht, Bool.false_eq_true, if_false]
      exact List.IsChain.cons_cons (by simpa using ht) (ih t)

/-- The data handed out last, after a first snapshot, is that of the last snapshot. -/
theorem lastData_eq_getLast (a : DocumentSnapshot) (snaps : List DocumentSnapshot) :
    lastData a.data snaps = ((a :: snaps).getLast (List.cons_ne_nil _ _)).data := by
  induction snaps generalizing a with
  | nil => rfl
  | cons t ts ih => rw [lastData_cons, ih t, List.getLast_cons_cons]

/-! ## A listener's run -/

namespace Database

/-- Reading a document only reads: the listeners are left as they were. -/
theorem getDoc_listeners (ref : DocumentRef) (db : Database) :
    ((getDoc ref).run db).2.listeners = db.listeners := by
  unfold getDoc
  rw [stateRun_bind, onSession_run]
  rfl

/-- A document listener re-reads its document: when the read succeeds with data that is not the
same as what it handed out last, it hands the snapshot out and keeps its data; otherwise it hands
out nothing and stays as it was. -/
theorem refresh_document {l : Listener} {ref : DocumentRef} {last : Option Value}
    (hl : l.watch = .document ref last) (db : Database) :
    ((refresh l).run db).1 = match ((getDoc ref).run db).1 with
      | .ok snap =>
        if sameData snap.data last then (none, l)
        else (some (.document snap), { l with watch := .document ref snap.data })
      | .error _ => (none, l) := by
  unfold refresh
  rw [hl]
  dsimp only
  rw [stateRun_bind]
  rcases ((getDoc ref).run db).1 with _ | snap
  · rfl
  · dsimp only
    split <;> rfl

/-- The snapshots a document reads successfully at the stores `dbs`, in order. -/
def readSnapshots (ref : DocumentRef) (dbs : List Database) : List DocumentSnapshot :=
  dbs.filterMap fun db => ((getDoc ref).run db).1.toOption

/-- A document listener re-reading at each of the stores `dbs` hands out exactly the changed reads
among those that succeed, and ends with the data it handed out last. -/
theorem refreshAll_document (ref : DocumentRef) :
    ∀ (dbs : List Database) {l : Listener} {last : Option Value}, l.watch = .document ref last →
      (refreshAll l dbs).1 = (changedReads last (readSnapshots ref dbs)).map .document ∧
        (refreshAll l dbs).2.watch =
          .document ref (lastData last (changedReads last (readSnapshots ref dbs)))
  | [], _, _, hl => ⟨rfl, hl⟩
  | db :: dbs, l, last, hl => by
    have hstep := refresh_document hl db
    simp only [refreshAll, readSnapshots, List.filterMap_cons]
    rw [hstep]
    rcases ((getDoc ref).run db).1 with _ | snap
    · exact refreshAll_document ref dbs hl
    · dsimp only [Except.toOption]
      by_cases hsame : sameData snap.data last
      · -- the same data again: nothing is handed out and the baseline stays
        simp only [hsame, if_true, Option.toList_none, List.nil_append, changedReads]
        exact refreshAll_document ref dbs hl
      · -- new data: the snapshot is handed out and becomes the baseline
        simp only [hsame, Bool.false_eq_true, if_false, Option.toList_some, List.singleton_append,
          changedReads, List.map_cons, lastData_cons]
        obtain ⟨hds, hw⟩ :=
          refreshAll_document ref dbs (l := { l with watch := .document ref snap.data }) rfl
        exact ⟨congrArg _ hds, hw⟩

/-- A document listener delivers exactly the changes. Registering it reads the document once: a
failed read registers nothing; otherwise the listener is registered with the snapshot's data and
hands the snapshot out. Re-reading at any sequence of stores then hands out, after that first
snapshot, exactly the successful reads whose data is not the same (as JSON data, member order
ignored, a missing document having none) as that of the snapshot handed out before them; so no two
deliveries in a row carry the same data, and the listener ends with the data it handed out last.
A read that fails hands out nothing and leaves the baseline. -/
theorem listenDoc_delivers_changes (name : String) (ref : DocumentRef) (db₀ : Database)
    (dbs : List Database) :
    match (listenDoc name ref).run db₀ with
    | (.error _, db₁) => db₁.listeners = db₀.listeners
    | (.ok s₀, db₁) =>
      let l : Listener := { name := name, watch := .document ref s₀.data }
      let snaps := s₀ :: changedReads s₀.data (readSnapshots ref dbs)
      db₁.listeners = db₀.listeners ++ [l] ∧
        Delivery.document s₀ :: (refreshAll l dbs).1 = snaps.map .document ∧
        snaps.IsChain (fun x y => sameData y.data x.data = false) ∧
        (refreshAll l dbs).2.watch = .document ref (snaps.getLast (List.cons_ne_nil _ _)).data := by
  unfold listenDoc
  rw [register_run _ _ _ _ (getDoc_listeners ref)]
  rcases (getDoc ref).run
      { db₀ with listeners := db₀.listeners ++ [{ name := name, watch := .document ref none }] }
    with ⟨_ | s₀, db'⟩
  · rfl
  · dsimp only [id]
    obtain ⟨hds, hw⟩ :=
      refreshAll_document ref dbs (l := { name := name, watch := .document ref s₀.data }) rfl
    refine ⟨rfl, by rw [hds, List.map_cons], isChain_changedReads s₀ _, ?_⟩
    rw [hw, lastData_eq_getLast]

end Database

end DocStore
