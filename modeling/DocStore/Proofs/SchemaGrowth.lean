import DocStore.Proofs.Statements
/-!
# Statements never drop a relation

The schema of a database changes only when a statement records a change (`Exec.record`), and
of the changes only creating a table or an index touches it: `Schema.add` appends one
definition to one of its lists. So whatever a statement does, its triggers included at every
depth, a table or view it found is still there when it ends (`Tables.execute_keeps`). This is
what makes reopening a store idempotent: the statement that creates the store's tables finds
them and changes nothing.

The proof follows the code. `Work.Grows` relates two states of a statement at work when the
second keeps every relation of the first, and `Exec.KeepsSchema x` says that `x` keeps it; it is
found by instance search for the monad's combinators and for each step already shown to keep
it. A function whose body branches is followed down its binds, loops and conditionals by their
lemmas and its matches by `split`, and what is left at each branch goes to instance search. A
join point of the do block is inlined when it is small; when it is the rest of a long function
it is named, proved once for every argument, and then stands as an instance for the branches
that reach it. The trigger functions are mutually recursive on a fuel: each has a step
lemma that takes the calls one level down as instances, and an induction on the fuel joins them
(`Exec.triggers_keep`).
-/

namespace DocStore

open Sql

/-! ## Schemas that keep their relations -/

namespace Sql.Schema

/-- Every table, view or virtual table of `s` is one of `s'`. -/
def Keeps (s s' : Schema) : Prop := ∀ n, s.hasRelation n = true → s'.hasRelation n = true

theorem keeps_refl (s : Schema) : Keeps s s := fun _ h => h

/-- A schema whose lists of relations only grew at their ends keeps its relations. -/
theorem keeps_of_prefix {s s' : Schema} (ht : s.tables <+: s'.tables) (hv : s.views <+: s'.views)
    (hx : s.virtuals <+: s'.virtuals) : Keeps s s' := by
  intro n h
  simp only [hasRelation, table?, view?, List.find?_isSome, List.any_eq_true,
    decide_eq_true_eq] at h ⊢
  rcases h with ⟨t, hmem, hp⟩ | ⟨v, hmem, hp⟩ | ⟨x, hmem, hp⟩
  · exact .inl ⟨t, ht.subset hmem, hp⟩
  · exact .inr (.inl ⟨v, hv.subset hmem, hp⟩)
  · exact .inr (.inr ⟨x, hx.subset hmem, hp⟩)

theorem add_keeps {s s' : Schema} {d : Definition} {root : Nat} (h : s.add d root = .ok s') :
    Keeps s s' := by
  -- each definition appends to one list of the schema, so a relation of it stays one
  cases d <;> simp only [add, bind, Except.bind, pure, Except.pure] at h <;> repeat' split at h
  -- a failed check leaves no schema; a new one extends the old
  all_goals cases h <;> exact keeps_of_prefix (by simp) (by simp) (by simp)

end Sql.Schema

namespace Tables

@[simp] theorem schema_putRow (t : Tables) (table : String) (rowid : Int) (vals : List SqlValue) :
    (t.putRow table rowid vals).schema = t.schema := by
  unfold putRow; split <;> (try split) <;> simp

theorem schema_foldl_setKeys (t : Tables) (made : List Index) :
    (made.foldl (fun t i => t.setKeys i.name []) t).schema = t.schema := by
  induction made generalizing t with
  | nil => rfl
  | cons i rest ih => rw [List.foldl_cons, ih, schema_setKeys]

/-- A change never takes a relation out of the schema. -/
theorem keeps_of_add {t : Tables} {d : Definition} {s : Schema}
    (h : (t.schema.add d 0).mapError (engineError .error) = .ok s) : t.schema.Keeps s := by
  cases hadd : t.schema.add d 0 with
  | error msg => rw [hadd] at h; cases h
  | ok s₀ =>
    rw [hadd] at h
    cases h
    exact Sql.Schema.add_keeps hadd

/-- A change never takes a relation out of the schema. -/
theorem apply_keeps {t t' : Tables} {c : Change} (h : t.apply c = .ok t') :
    t.schema.Keeps t'.schema := by
  cases c with
  | createTable name sql d =>
    simp only [apply, bind, Except.bind] at h
    split at h
    · cases h
    · rename_i s hadd
      cases h
      rw [schema_foldl_setKeys, schema_setRows]
      exact keeps_of_add hadd
  | createIndex name sql d keys =>
    simp only [apply, bind, Except.bind] at h
    split at h
    · cases h
    · rename_i s hadd
      cases h
      rw [schema_setKeys]
      exact keeps_of_add hadd
  | deleteKey index key =>
    simp only [apply] at h
    split at h
    · cases h; simpa using Sql.Schema.keeps_refl t.schema
    · cases h
  | dropKey index key =>
    simp only [apply] at h
    split at h
    · cases h; simpa using Sql.Schema.keeps_refl t.schema
    · cases h
  | _ => cases h; simpa using Sql.Schema.keeps_refl t.schema

end Tables

/-! ## Steps of a statement that keep the schema -/

/-- A statement at work kept every relation of the schema. -/
def Work.Grows (w w' : Work) : Prop := w.tables.schema.Keeps w'.tables.schema

instance : Std.Refl Work.Grows := ⟨fun _ _ h => h⟩
instance : Trans Work.Grows Work.Grows Work.Grows := ⟨fun h₁ h₂ n h => h₂ n (h₁ n h)⟩

namespace Exec

/-- A step of a statement that keeps every relation of the schema, found by instance search. -/
class KeepsSchema {α : Type} (x : Exec α) : Prop where
  keeps : Holds Work.Grows x

theorem modify_grows {f : Work → Work} (hf : ∀ w, (f w).tables = w.tables) :
    Holds Work.Grows (modify f : Exec Unit) := by
  intro w n h
  change (f w).tables.schema.hasRelation n = true
  rw [hf]; exact h

theorem record_grows (c : Change) : Holds Work.Grows (record c) := by
  intro w
  unfold record
  rw [runFrom_bind, runFrom_get]
  dsimp only
  split
  · rename_i t ht
    exact Tables.apply_keeps ht
  · exact Std.Refl.refl w

instance {α : Type} (a : α) : KeepsSchema (pure a : Exec α) := ⟨Holds.pure a⟩
instance {α : Type} (e : Stop) : KeepsSchema (throw e : Exec α) := ⟨Holds.throw e⟩
instance : KeepsSchema (get : Exec Work) := ⟨Holds.get⟩
instance {α β : Type} {x : Exec α} {f : α → Exec β} [hx : KeepsSchema x] [hf : ∀ a, KeepsSchema (f a)] :
    KeepsSchema (x >>= f) := ⟨Holds.bind hx.keeps fun a => (hf a).keeps⟩
instance {α : Type} {c : Prop} [Decidable c] {x y : Exec α} [hx : KeepsSchema x] [hy : KeepsSchema y] :
    KeepsSchema (if c then x else y) := ⟨Holds.ite hx.keeps hy.keeps⟩
instance {α β : Type} {l : List α} {b : β} {f : α → β → Exec (ForInStep β)}
    [hf : ∀ a b, KeepsSchema (f a b)] : KeepsSchema (forIn l b f) :=
  ⟨Holds.forIn fun a b => (hf a b).keeps⟩
instance {α : Type} {x : Exec α} {h : Stop → Exec α} [hx : KeepsSchema x]
    [hh : ∀ e, KeepsSchema (h e)] : KeepsSchema (tryCatch x h) :=
  ⟨Holds.tryCatch hx.keeps fun e => (hh e).keeps⟩
instance {α β : Type} {f : α → Exec β} [hf : ∀ a, KeepsSchema (f a)] (l : List α) :
    KeepsSchema (l.mapM f) := ⟨Holds.mapM (fun a => (hf a).keeps) l⟩
instance {α β : Type} (g : α → β) {x : Exec α} [hx : KeepsSchema x] : KeepsSchema (g <$> x) :=
  ⟨Holds.map g hx.keeps⟩
instance (c : Change) : KeepsSchema (record c) := ⟨record_grows c⟩
instance {α : Type} (r : Eval α) : KeepsSchema (ofEval r) := by
  unfold ofEval; split <;> infer_instance
instance {α : Type} (text : String) : KeepsSchema (fail text : Exec α) := by
  unfold fail; infer_instance
instance : KeepsSchema encoding := by unfold encoding; infer_instance
instance : KeepsSchema schema := by unfold schema; infer_instance
instance : KeepsSchema content := by unfold content; infer_instance
instance (sc : Sql.Scope) (c : Expr) : KeepsSchema (holds sc c) := by unfold holds; infer_instance
instance (sc : Sql.Scope) (e : Expr) : KeepsSchema (value sc e) := by unfold value; infer_instance
instance : KeepsSchema beginWrite := by unfold beginWrite; infer_instance
instance {x : Exec Unit} [KeepsSchema x] : KeepsSchema (ignoring x) :=
  ⟨Holds.tryCatch KeepsSchema.keeps fun _ => by split <;> exact KeepsSchema.keeps⟩
instance {α : Type} {x : Exec α} [KeepsSchema x] : KeepsSchema (discard x) :=
  ⟨Holds.map _ KeepsSchema.keeps⟩

/-! ## The row-level steps

Each step is unfolded and followed down its binds, loops and conditionals to the matches of its
do block; what is left at each branch is closed by the instances. Their join points are small
and inlined first (`dsimp only`), so a continuation shared by two branches is followed in
each. -/

theorem putRow_keeps (t : Table) (rowid : Int) (vals : List SqlValue) :
    Holds Work.Grows (putRow t rowid vals) := by
  unfold putRow
  dsimp only
  refine Holds.bind KeepsSchema.keeps fun s =>
    Holds.bind (Holds.forIn fun i _ => ?_) fun _ => KeepsSchema.keeps
  -- each index takes the row's key, when it has one
  refine Holds.bind KeepsSchema.keeps fun enc => Holds.bind KeepsSchema.keeps fun key => ?_
  split <;> exact KeepsSchema.keeps

theorem checkRow_keeps (t : Table) (rowid : Int) (cols : List SqlValue) (changed : Option (List Nat)) :
    Holds Work.Grows (checkRow t rowid cols changed) := by
  unfold checkRow
  dsimp only
  exact KeepsSchema.keeps

theorem checkTypes_keeps (t : Table) (cols : List SqlValue) : Holds Work.Grows (checkTypes t cols) := by
  unfold checkTypes
  dsimp only
  refine Holds.ite KeepsSchema.keeps
    (Holds.bind (Holds.forIn fun c _ => ?_) fun _ => KeepsSchema.keeps)
  -- a column is checked against its type when it has one
  split <;> exact KeepsSchema.keeps

theorem conflictIn_keeps (i : Index) (t : Table) (rowid : Int) (vals : List SqlValue) (updating : Bool) :
    Holds Work.Grows (conflictIn i t rowid vals updating) := by
  unfold conflictIn
  dsimp only
  refine Holds.bind KeepsSchema.keeps fun enc => Holds.bind KeepsSchema.keeps fun key => ?_
  split
  · exact KeepsSchema.keeps
  · refine Holds.ite KeepsSchema.keeps
      (Holds.bind KeepsSchema.keeps fun _ => Holds.bind KeepsSchema.keeps fun _ => ?_)
    -- the entry found with the key, and the rowid it ends with
    split
    · split <;> exact KeepsSchema.keeps
    · exact KeepsSchema.keeps

theorem dropRow_keeps (t : Table) (rowid : Int) (vals : List SqlValue)
    (found : Option (String × List SqlValue)) : Holds Work.Grows (dropRow t rowid vals found) := by
  unfold dropRow
  dsimp only
  refine Holds.bind KeepsSchema.keeps fun s =>
    Holds.bind (Holds.forIn fun i _ => Holds.ite KeepsSchema.keeps ?_) fun _ =>
    Holds.bind KeepsSchema.keeps fun _ => Holds.bind (Holds.forIn fun i _ => ?_) fun _ => ?_
  · -- the row's key leaves each index it was not found through
    refine Holds.bind KeepsSchema.keeps fun _ => Holds.bind KeepsSchema.keeps fun _ => ?_
    split <;> exact KeepsSchema.keeps
  · -- and each index that holds the rows
    refine Holds.bind KeepsSchema.keeps fun _ => Holds.bind KeepsSchema.keeps fun _ => ?_
    split <;> exact KeepsSchema.keeps
  · -- last, the entry it was found by
    split <;> exact KeepsSchema.keeps

theorem rewriteRow_keeps (t : Table) (rowid : Int) (old new : List SqlValue) (changed : List Nat) :
    Holds Work.Grows (rewriteRow t rowid old new changed) := by
  unfold rewriteRow
  dsimp only
  refine Holds.bind KeepsSchema.keeps fun s =>
    Holds.bind (Holds.forIn fun i _ => Holds.ite KeepsSchema.keeps ?_) fun _ => Holds.ite ?_ ?_
  · -- the old key leaves each affected index
    refine Holds.bind KeepsSchema.keeps fun _ => Holds.bind KeepsSchema.keeps fun _ => ?_
    split <;> exact KeepsSchema.keeps
  · -- a row whose key changed leaves every index that holds it, then comes back
    refine Holds.bind KeepsSchema.keeps fun _ => Holds.bind (Holds.forIn fun i _ => ?_) fun _ =>
      Holds.bind (Holds.forIn fun i _ => Holds.ite KeepsSchema.keeps ?_) fun _ => KeepsSchema.keeps
    · refine Holds.bind KeepsSchema.keeps fun _ => Holds.bind KeepsSchema.keeps fun _ => ?_
      split <;> exact KeepsSchema.keeps
    · refine Holds.bind KeepsSchema.keeps fun _ => Holds.bind KeepsSchema.keeps fun _ => ?_
      split <;> exact KeepsSchema.keeps
  · -- otherwise the new key enters each affected index
    refine Holds.bind (Holds.forIn fun i _ => Holds.ite KeepsSchema.keeps ?_) fun _ => KeepsSchema.keeps
    refine Holds.bind KeepsSchema.keeps fun _ => Holds.bind KeepsSchema.keeps fun _ => ?_
    split <;> exact KeepsSchema.keeps

theorem counterOf_keeps (t : Table) : Holds Work.Grows (counterOf t) := by
  unfold counterOf
  dsimp only
  refine Holds.bind KeepsSchema.keeps fun w => ?_
  split
  · exact KeepsSchema.keeps
  · refine Holds.bind KeepsSchema.keeps fun s => ?_
    split
    · -- the counter's row of the sequence table, if the table is sound
      refine Holds.ite (Holds.bind KeepsSchema.keeps fun _ => Holds.bind KeepsSchema.keeps fun _ => ?_)
        (Holds.bind KeepsSchema.keeps fun _ => ?_)
      · split <;> exact KeepsSchema.keeps
      · split <;> exact KeepsSchema.keeps
    · exact KeepsSchema.keeps

theorem setCounter_keeps (t : Table) (c : Counter) : Holds Work.Grows (setCounter t c) :=
  modify_grows fun _ => rfl

theorem saveCounters_keeps : Holds Work.Grows saveCounters := by
  unfold saveCounters
  dsimp only
  refine Holds.bind KeepsSchema.keeps fun w =>
    Holds.bind (Holds.forIn fun x _ => Holds.ite ?_ KeepsSchema.keeps) fun _ => KeepsSchema.keeps
  -- a counter that grew goes over its row, or into a new one
  split <;> exact KeepsSchema.keeps

theorem firing_keeps (t : Table) (timing : TriggerTiming) (event : TriggerEvent) :
    Holds Work.Grows (firing t timing event) := by
  unfold firing
  exact KeepsSchema.keeps

theorem target_keeps (name : String) (event : TriggerEvent) : Holds Work.Grows (target name event) := by
  unfold target
  dsimp only
  refine Holds.bind KeepsSchema.keeps fun s => ?_
  split
  · exact KeepsSchema.keeps
  · -- a view takes the write through its triggers, with its rows read first
    split
    · exact KeepsSchema.keeps
    · exact KeepsSchema.keeps

theorem positionsOf_keeps (t : Table) (names : List String) (missing : String → String) :
    Holds Work.Grows (positionsOf t names missing) := by
  unfold positionsOf
  refine Holds.mapM (fun n => ?_) names
  split <;> exact KeepsSchema.keeps

instance (t : Table) (rowid : Int) (vals : List SqlValue) : KeepsSchema (putRow t rowid vals) :=
  ⟨putRow_keeps t rowid vals⟩
instance (t : Table) (rowid : Int) (cols : List SqlValue) (changed : Option (List Nat)) :
    KeepsSchema (checkRow t rowid cols changed) := ⟨checkRow_keeps t rowid cols changed⟩
instance (t : Table) (cols : List SqlValue) : KeepsSchema (checkTypes t cols) :=
  ⟨checkTypes_keeps t cols⟩
instance (i : Index) (t : Table) (rowid : Int) (vals : List SqlValue) (updating : Bool) :
    KeepsSchema (conflictIn i t rowid vals updating) := ⟨conflictIn_keeps i t rowid vals updating⟩
instance (t : Table) (rowid : Int) (vals : List SqlValue) (found : Option (String × List SqlValue)) :
    KeepsSchema (dropRow t rowid vals found) := ⟨dropRow_keeps t rowid vals found⟩
instance (t : Table) (rowid : Int) (old new : List SqlValue) (changed : List Nat) :
    KeepsSchema (rewriteRow t rowid old new changed) := ⟨rewriteRow_keeps t rowid old new changed⟩
instance (t : Table) : KeepsSchema (counterOf t) := ⟨counterOf_keeps t⟩
instance (t : Table) (c : Counter) : KeepsSchema (setCounter t c) := ⟨setCounter_keeps t c⟩
instance : KeepsSchema saveCounters := ⟨saveCounters_keeps⟩
instance (t : Table) (timing : TriggerTiming) (event : TriggerEvent) :
    KeepsSchema (firing t timing event) := ⟨firing_keeps t timing event⟩
instance (name : String) (event : TriggerEvent) : KeepsSchema (target name event) :=
  ⟨target_keeps name event⟩
instance (t : Table) (names : List String) (missing : String → String) :
    KeepsSchema (positionsOf t names missing) := ⟨positionsOf_keeps t names missing⟩

/-! ## Triggers

Each trigger function, one level of fuel up, keeps the relations when the calls one level down
do; those calls are instance arguments, so instance search finds them like any other step. -/

section Step

variable {fuel : Nat}

/-- Firing keeps the relations, one level up: each trigger whose condition holds runs its steps,
marked as running, and then rethrows what stopped them. -/
theorem fire_keeps_step [∀ sc step, KeepsSchema (runStep fuel sc step)]
    (t : Table) (timing : TriggerTiming) (event : TriggerEvent) (old new : Option (Int × List SqlValue)) :
    Holds Work.Grows (fire (fuel + 1) t timing event old new) := by
  unfold fire
  dsimp only
  refine Holds.bind KeepsSchema.keeps fun gs =>
    Holds.bind (Holds.forIn fun g _ => ?_) fun _ => KeepsSchema.keeps
  split
  · refine Holds.bind KeepsSchema.keeps fun _ =>
      Holds.bind KeepsSchema.keeps fun go => Holds.ite ?_ KeepsSchema.keeps
    refine Holds.bind (modify_grows fun _ => rfl) fun _ => Holds.bind KeepsSchema.keeps fun outcome =>
      Holds.bind (modify_grows fun _ => rfl) fun _ => ?_
    split <;> exact KeepsSchema.keeps
  · refine Holds.bind KeepsSchema.keeps fun go => Holds.ite ?_ KeepsSchema.keeps
    refine Holds.bind (modify_grows fun _ => rfl) fun _ => Holds.bind KeepsSchema.keeps fun outcome =>
      Holds.bind (modify_grows fun _ => rfl) fun _ => ?_
    split <;> exact KeepsSchema.keeps

/-- Deleting a row keeps the relations, one level up: the row is read again after the triggers
before the delete. -/
theorem deleteRow_keeps_step [∀ t timing event old new, KeepsSchema (fire fuel t timing event old new)]
    (t : Table) (rowid : Int) (vals : List SqlValue)
    (found : Option (String × List SqlValue)) : Holds Work.Grows (deleteRow (fuel + 1) t rowid vals found) := by
  unfold deleteRow
  dsimp only
  refine Holds.bind KeepsSchema.keeps fun enc =>
    Holds.bind KeepsSchema.keeps fun fs => Holds.ite ?_ KeepsSchema.keeps
  refine Holds.bind KeepsSchema.keeps fun _ => Holds.bind KeepsSchema.keeps fun _ => ?_
  split <;> exact KeepsSchema.keeps

/-- Updating a row keeps the relations, one level up. -/
theorem updateRow_keeps_step
    [∀ t timing event old new, KeepsSchema (fire fuel t timing event old new)] (t : Table) (rowid : Int) (old computed : List SqlValue)
    (changed : List Nat) (action : ConflictAction) :
    Holds Work.Grows (updateRow (fuel + 1) t rowid old computed changed action) := by
  unfold updateRow
  dsimp only
  refine Holds.bind KeepsSchema.keeps fun enc => Holds.bind KeepsSchema.keeps fun fs => Holds.ite ?_ ?_
  · -- after the triggers before the update, the row is read again
    refine Holds.bind KeepsSchema.keeps fun _ => Holds.bind KeepsSchema.keeps fun _ => ?_
    split
    · exact KeepsSchema.keeps
    · refine Holds.bind KeepsSchema.keeps fun _ => Holds.bind KeepsSchema.keeps fun _ =>
        Holds.bind KeepsSchema.keeps fun _ => Holds.bind KeepsSchema.keeps fun _ =>
        Holds.bind (Holds.forIn fun i _ => ?_) fun r => ?_
      · -- a conflict on a unique index ends the update, quietly or not
        refine Holds.bind KeepsSchema.keeps fun _ => ?_
        split
        · exact KeepsSchema.keeps
        · split <;> exact KeepsSchema.keeps
      · split <;> exact KeepsSchema.keeps
  · refine Holds.bind KeepsSchema.keeps fun _ => Holds.bind KeepsSchema.keeps fun _ =>
      Holds.bind KeepsSchema.keeps fun _ => Holds.bind (Holds.forIn fun i _ => ?_) fun r => ?_
    · refine Holds.bind KeepsSchema.keeps fun _ => ?_
      split
      · exact KeepsSchema.keeps
      · split <;> exact KeepsSchema.keeps
    · split <;> exact KeepsSchema.keeps

theorem runStep_keeps_step
    [∀ t timing event old new, KeepsSchema (fire fuel t timing event old new)]
    [∀ t given action upsert, KeepsSchema (insertRow fuel t given action upsert)]
    [∀ t rowid old computed changed action,
      KeepsSchema (updateRow fuel t rowid old computed changed action)]
    [∀ t rowid vals found, KeepsSchema (deleteRow fuel t rowid vals found)]
    (sc : Sql.Scope) (step : TriggerStep) : Holds Work.Grows (runStep (fuel + 1) sc step) := by
  unfold runStep
  -- the rows a step changes are chosen by its condition first, then changed one by one
  cases step with
  | select q => exact KeepsSchema.keeps
  | update name action sets cond =>
    dsimp only
    refine Holds.bind KeepsSchema.keeps fun tg => ?_
    split
    · -- a view's chosen rows go through its triggers
      refine Holds.bind (Holds.mapM (fun x => ?_) _) fun targets =>
        Holds.bind (Holds.forIn fun x _ => ?_) fun chosen => KeepsSchema.keeps
      · split <;> exact KeepsSchema.keeps
      · split <;> exact KeepsSchema.keeps
    · -- a table's chosen rows, read again, are updated
      refine Holds.bind (Holds.mapM (fun x => ?_) _) fun targets => Holds.bind KeepsSchema.keeps fun c =>
        Holds.bind (Holds.forIn fun x _ => ?_) fun chosen =>
        Holds.bind (Holds.forIn fun rowid _ => ?_) fun _ => KeepsSchema.keeps
      · split <;> exact KeepsSchema.keeps
      · refine Holds.bind KeepsSchema.keeps fun _ => ?_
        split <;> exact KeepsSchema.keeps
      · refine Holds.bind KeepsSchema.keeps fun _ => ?_
        split <;> exact KeepsSchema.keeps
  | insert name action columns source =>
    dsimp only
    refine Holds.bind KeepsSchema.keeps fun tg => ?_
    -- the rows come from values, a query or the defaults, into a view's triggers or a table
    split
    all_goals
      refine Holds.ite (Holds.bind KeepsSchema.keeps fun positions => ?_)
        (Holds.bind KeepsSchema.keeps fun positions => ?_)
    all_goals
      split
      · exact KeepsSchema.keeps
      · exact Holds.bind KeepsSchema.keeps fun _ => Holds.bind KeepsSchema.keeps fun _ =>
          Holds.bind KeepsSchema.keeps fun _ => KeepsSchema.keeps
      · exact KeepsSchema.keeps
  | delete name cond =>
    dsimp only
    refine Holds.bind KeepsSchema.keeps fun tg => ?_
    split
    · refine Holds.bind (Holds.forIn fun x _ => ?_) fun chosen => KeepsSchema.keeps
      split <;> exact KeepsSchema.keeps
    · refine Holds.bind KeepsSchema.keeps fun c => Holds.bind (Holds.forIn fun x _ => ?_) fun chosen =>
        Holds.bind (Holds.forIn fun rowid _ => ?_) fun _ => KeepsSchema.keeps
      · refine Holds.bind KeepsSchema.keeps fun _ => ?_
        split <;> exact KeepsSchema.keeps
      · refine Holds.bind KeepsSchema.keeps fun _ => ?_
        split <;> exact KeepsSchema.keeps

theorem insertRow_keeps_step
    [∀ t timing event old new, KeepsSchema (fire fuel t timing event old new)]
    [∀ t rowid old computed changed action,
      KeepsSchema (updateRow fuel t rowid old computed changed action)]
    (t : Table) (given : List (Nat × SqlValue)) (action : ConflictAction) (upsert : Option Upsert) :
    Holds Work.Grows (insertRow (fuel + 1) t given action upsert) := by
  rw [insertRow]
  refine Holds.bind KeepsSchema.keeps fun enc => ?_
  extract_lets +onlyGivenNames -underBinder columnsFor
  refine Holds.bind KeepsSchema.keeps fun fs => ?_
  -- each join point of the insert is the rest of it after a branch: the rest is proved first,
  -- then stands as an instance for the branches that reach it
  extract_lets +onlyGivenNames -underBinder afterTriggers
  have hafter : ∀ u, Holds Work.Grows (afterTriggers u) := by
    intro u
    unfold afterTriggers
    extract_lets +onlyGivenNames -underBinder afterRowid
    have hrowid : ∀ rowid, Holds Work.Grows (afterRowid rowid) := by
      intro rowid
      unfold afterRowid
      extract_lets +onlyGivenNames -underBinder afterCounter
      have hcounter : ∀ u, Holds Work.Grows (afterCounter u) := by
        intro u
        unfold afterCounter
        extract_lets +onlyGivenNames -underBinder cols
        refine Holds.bind KeepsSchema.keeps fun _ => ?_
        extract_lets +onlyGivenNames -underBinder vals
        refine Holds.bind KeepsSchema.keeps fun c => ?_
        extract_lets +onlyGivenNames -underBinder afterUnique
        have hunique : ∀ u, Holds Work.Grows (afterUnique u) := by
          intro u
          unfold afterUnique
          refine Holds.bind KeepsSchema.keeps fun sch => ?_
          extract_lets +onlyGivenNames -underBinder uniques ordered
          refine Holds.bind (Holds.forIn fun i r => ?_) fun r => ?_
          · -- a conflict on a unique index is ignored, fails, or updates the other row
            refine Holds.bind KeepsSchema.keeps fun found => ?_
            split
            · exact KeepsSchema.keeps
            · split
              · refine Holds.ite ?_ KeepsSchema.keeps
                split
                · exact KeepsSchema.keeps
                · refine Holds.bind KeepsSchema.keeps fun c => ?_
                  split
                  · exact KeepsSchema.keeps
                  · refine Holds.bind KeepsSchema.keeps fun _ => Holds.bind KeepsSchema.keeps fun _ =>
                      Holds.bind (Holds.forIn fun x s => ?_) fun newCols => KeepsSchema.keeps
                    split
                    exact KeepsSchema.keeps
              · split <;> exact KeepsSchema.keeps
          · -- a loop that stopped early ends the insert there
            dsimp only
            split <;> exact KeepsSchema.keeps
        clear_value afterUnique
        refine Holds.ite ?_ (hunique ())
        split
        · exact KeepsSchema.keeps
        · exact Holds.bind KeepsSchema.keeps hunique
      clear_value afterCounter
      exact Holds.ite (Holds.bind KeepsSchema.keeps fun c => Holds.bind KeepsSchema.keeps hcounter)
        (hcounter ())
    clear_value afterRowid
    have : ∀ rowid, KeepsSchema (afterRowid rowid) := fun rowid => ⟨hrowid rowid⟩
    -- the row's id: given, or the next free one
    split <;> exact KeepsSchema.keeps
  clear_value afterTriggers
  exact Holds.ite (Holds.bind KeepsSchema.keeps fun _ => hafter ()) (hafter ())

end Step

/-- Trigger programs keep every relation, at every depth of recursion. -/
theorem triggers_keep : ∀ fuel,
    (∀ t timing event old new, KeepsSchema (fire fuel t timing event old new)) ∧
    (∀ sc step, KeepsSchema (runStep fuel sc step)) ∧
    (∀ t given action upsert, KeepsSchema (insertRow fuel t given action upsert)) ∧
    (∀ t rowid old computed changed action, KeepsSchema (updateRow fuel t rowid old computed changed action)) ∧
    (∀ t rowid vals found, KeepsSchema (deleteRow fuel t rowid vals found))
  | 0 => by
    refine ⟨fun _ _ _ _ _ => ?_, fun _ _ => ?_, fun _ _ _ _ => ?_, fun _ _ _ _ _ _ => ?_,
      fun _ _ _ _ => ?_⟩
    all_goals
      simp only [fire, runStep, insertRow, updateRow, deleteRow]
      infer_instance
  | fuel + 1 => by
    -- the calls one level down keep the relations: they become instances for the step lemmas
    obtain ⟨_, _, _, _, _⟩ := triggers_keep fuel
    exact ⟨fun t timing event old new => ⟨fire_keeps_step t timing event old new⟩,
      fun sc step => ⟨runStep_keeps_step sc step⟩,
      fun t given action upsert => ⟨insertRow_keeps_step t given action upsert⟩,
      fun t rowid old computed changed action => ⟨updateRow_keeps_step t rowid old computed changed action⟩,
      fun t rowid vals found => ⟨deleteRow_keeps_step t rowid vals found⟩⟩

instance (fuel : Nat) (t : Table) (timing : TriggerTiming) (event : TriggerEvent)
    (old new : Option (Int × List SqlValue)) : KeepsSchema (fire fuel t timing event old new) :=
  (triggers_keep fuel).1 t timing event old new
instance (fuel : Nat) (t : Table) (given : List (Nat × SqlValue)) (action : ConflictAction)
    (upsert : Option Upsert) : KeepsSchema (insertRow fuel t given action upsert) :=
  (triggers_keep fuel).2.2.1 t given action upsert
instance (fuel : Nat) (t : Table) (rowid : Int) (old computed : List SqlValue) (changed : List Nat)
    (action : ConflictAction) : KeepsSchema (updateRow fuel t rowid old computed changed action) :=
  (triggers_keep fuel).2.2.2.1 t rowid old computed changed action
instance (fuel : Nat) (t : Table) (rowid : Int) (vals : List SqlValue)
    (found : Option (String × List SqlValue)) : KeepsSchema (deleteRow fuel t rowid vals found) :=
  (triggers_keep fuel).2.2.2.2 t rowid vals found

end Exec

namespace Tables

open Exec

/-! ## The writes of the statements

The checks before a write only read; the writes change rows and indexes, through the triggers of
a view or a table, and only the creating ones add a relation. -/

theorem insertColumns_keeps (t : Table) (names : List String) :
    Holds Work.Grows (insertColumns t names) :=
  Holds.mapM (fun n => by split <;> exact KeepsSchema.keeps) names

instance (t : Table) (names : List String) : KeepsSchema (insertColumns t names) :=
  ⟨insertColumns_keeps t names⟩

theorem viewRowsWhere_keeps (subject : Table) (rows : List (Int × List SqlValue))
    (terms : List (String × SqlValue)) : Holds Work.Grows (viewRowsWhere subject rows terms) := by
  unfold viewRowsWhere
  dsimp only
  refine Holds.bind KeepsSchema.keeps fun _ =>
    Holds.bind (Holds.forIn fun row _ => ?_) fun _ => KeepsSchema.keeps
  -- a row is chosen when each term holds of it
  refine Holds.bind (Holds.forIn fun term _ => ?_) fun ok => ?_
  · refine Holds.bind KeepsSchema.keeps fun enc => Holds.bind KeepsSchema.keeps fun v => ?_
    split <;> exact KeepsSchema.keeps
  · split <;> exact KeepsSchema.keeps

instance (subject : Table) (rows : List (Int × List SqlValue)) (terms : List (String × SqlValue)) :
    KeepsSchema (viewRowsWhere subject rows terms) := ⟨viewRowsWhere_keeps subject rows terms⟩

theorem checkReads_keeps (s : Statement) (t : Table) : Holds Work.Grows (checkReads s t) := by
  unfold checkReads
  split <;> exact KeepsSchema.keeps

instance (s : Statement) (t : Table) : KeepsSchema (checkReads s t) := ⟨checkReads_keeps s t⟩

theorem checkFiring_keeps (table : String) (plan : List (TriggerEvent × List TriggerTiming)) :
    Holds Work.Grows (checkFiring table plan) := by
  unfold checkFiring
  refine Holds.bind KeepsSchema.keeps fun sch => ?_
  split <;> exact KeepsSchema.keeps

instance (table : String) (plan : List (TriggerEvent × List TriggerTiming)) :
    KeepsSchema (checkFiring table plan) := ⟨checkFiring_keeps table plan⟩

/-- Inserting through a view runs its triggers instead; into a table, the row goes in with the
table's own triggers, or updates the row it conflicts with. -/
theorem insertInto_keeps (name : String) (names : List String) (vals : List SqlValue)
    (target : Option (List String × List String)) :
    Holds Work.Grows (insertInto name names vals target) := by
  unfold insertInto
  dsimp only
  refine Holds.bind KeepsSchema.keeps fun tg => ?_
  split
  · exact KeepsSchema.keeps
  · refine Holds.bind KeepsSchema.keeps fun ks => ?_
    -- the target of an upsert is one of the table's unique indexes
    split
    · exact KeepsSchema.keeps
    · refine Holds.bind KeepsSchema.keeps fun tk => Holds.bind KeepsSchema.keeps fun sch => ?_
      split <;> exact KeepsSchema.keeps

instance (name : String) (names : List String) (vals : List SqlValue)
    (target : Option (List String × List String)) : KeepsSchema (insertInto name names vals target) :=
  ⟨insertInto_keeps name names vals target⟩

/-- Merging a patch into the chosen documents: through a view's triggers, or row by row in the
table, each row read again before it is updated. -/
theorem mergeDocument_keeps (s : Statement) (patch c d : SqlValue) :
    Holds Work.Grows (mergeDocument s patch c d) := by
  unfold mergeDocument
  dsimp only
  refine Holds.bind KeepsSchema.keeps fun tg => ?_
  split
  · refine Holds.bind KeepsSchema.keeps fun _ => ?_
    split <;> exact KeepsSchema.keeps
  · refine Holds.bind KeepsSchema.keeps fun _ => Holds.bind KeepsSchema.keeps fun dataAt =>
      Holds.bind KeepsSchema.keeps fun tables => Holds.bind KeepsSchema.keeps fun found => ?_
    refine Holds.bind KeepsSchema.keeps fun _ => Holds.bind KeepsSchema.keeps fun _ =>
      Holds.bind (Holds.forIn fun r _ => ?_) fun chosen =>
      Holds.bind (Holds.forIn fun r _ => ?_) fun _ => KeepsSchema.keeps
    · refine Holds.bind KeepsSchema.keeps fun held => ?_
      split <;> exact KeepsSchema.keeps
    · refine Holds.bind KeepsSchema.keeps fun now => ?_
      split <;> exact KeepsSchema.keeps

instance (s : Statement) (patch c d : SqlValue) : KeepsSchema (mergeDocument s patch c d) :=
  ⟨mergeDocument_keeps s patch c d⟩

/-- Deleting the chosen rows: through a view's triggers, or row by row in the table. -/
theorem deleteWhere_keeps (s : Statement) (name : String) (terms : List (String × SqlValue)) :
    Holds Work.Grows (deleteWhere s name terms) := by
  unfold deleteWhere
  dsimp only
  refine Holds.bind KeepsSchema.keeps fun tg => ?_
  split
  · refine Holds.bind KeepsSchema.keeps fun _ => Holds.bind KeepsSchema.keeps fun chosen =>
      Holds.bind KeepsSchema.keeps fun _ => Holds.bind KeepsSchema.keeps fun _ =>
      Holds.bind (Holds.forIn fun row _ => KeepsSchema.keeps) fun _ => KeepsSchema.keeps
  · refine Holds.bind KeepsSchema.keeps fun _ => Holds.bind KeepsSchema.keeps fun tables =>
      Holds.bind KeepsSchema.keeps fun found => ?_
    refine Holds.bind KeepsSchema.keeps fun _ => Holds.bind KeepsSchema.keeps fun _ =>
      Holds.bind (Holds.forIn fun r _ => ?_) fun chosen =>
      Holds.bind (Holds.forIn fun r _ => ?_) fun _ => KeepsSchema.keeps
    · refine Holds.bind KeepsSchema.keeps fun held => ?_
      split <;> exact KeepsSchema.keeps
    · refine Holds.bind KeepsSchema.keeps fun now => ?_
      split <;> exact KeepsSchema.keeps

instance (s : Statement) (name : String) (terms : List (String × SqlValue)) :
    KeepsSchema (deleteWhere s name terms) := ⟨deleteWhere_keeps s name terms⟩

/-- Deleting every document: through the triggers of a view or a table, or by clearing the table
and its indexes. -/
theorem deleteAll_keeps : Holds Work.Grows deleteAll := by
  unfold deleteAll
  dsimp only
  refine Holds.bind KeepsSchema.keeps fun tg => ?_
  split
  · exact KeepsSchema.keeps
  · refine Holds.bind KeepsSchema.keeps fun s => Holds.bind KeepsSchema.keeps fun _ =>
      Holds.bind KeepsSchema.keeps fun _ => Holds.ite ?_ KeepsSchema.keeps
    refine Holds.bind KeepsSchema.keeps fun c =>
      Holds.bind (Holds.forIn fun row _ => ?_) fun _ => KeepsSchema.keeps
    refine Holds.bind KeepsSchema.keeps fun now => ?_
    split <;> exact KeepsSchema.keeps

instance : KeepsSchema deleteAll := ⟨deleteAll_keeps⟩

/-- Creating an index adds it to the schema after the checks; the table it indexes stays. -/
theorem createIndex_keeps (st : Statement) (name sql : String) :
    Holds Work.Grows (createIndex st name sql) := by
  unfold createIndex
  refine Holds.bind KeepsSchema.keeps fun s => ?_
  split
  · exact KeepsSchema.keeps
  · -- the checks of the name and the definition lead, by join points, to the build itself
    extract_lets +onlyGivenNames -underBinder afterName
    have hname : ∀ u, Holds Work.Grows (afterName u) := by
      intro u
      unfold afterName
      refine Holds.ite KeepsSchema.keeps (Holds.bind KeepsSchema.keeps fun _ => ?_)
      extract_lets +onlyGivenNames -underBinder afterParse
      have hparse : ∀ d, Holds Work.Grows (afterParse d) := by
        intro d
        unfold afterParse
        extract_lets +onlyGivenNames -underBinder build
        have hbuild : ∀ i, Holds Work.Grows (build i) := by
          intro i
          unfold build
          dsimp only
          refine Holds.bind KeepsSchema.keeps fun _ => Holds.bind KeepsSchema.keeps fun c =>
            Holds.bind (Holds.forIn fun row keys => ?_) fun keys => KeepsSchema.keeps
          refine Holds.bind KeepsSchema.keeps fun enc => Holds.bind KeepsSchema.keeps fun key => ?_
          split <;> exact KeepsSchema.keeps
        clear_value build
        have : ∀ i, KeepsSchema (build i) := fun i => ⟨hbuild i⟩
        split
        · split <;> exact KeepsSchema.keeps
        · exact KeepsSchema.keeps
      clear_value afterParse
      have : ∀ d, KeepsSchema (afterParse d) := fun d => ⟨hparse d⟩
      split <;> exact KeepsSchema.keeps
    clear_value afterName
    exact Holds.ite (Holds.bind KeepsSchema.keeps hname) (hname ())

instance (st : Statement) (name sql : String) : KeepsSchema (createIndex st name sql) :=
  ⟨createIndex_keeps st name sql⟩

theorem createTableIfMissing_keeps (name sql : String) :
    Holds Work.Grows (createTableIfMissing name sql) := by
  unfold createTableIfMissing
  dsimp only
  -- a relation already there is kept as it is; a new one is added
  refine Holds.bind KeepsSchema.keeps fun s => Holds.ite KeepsSchema.keeps
    (Holds.ite (Holds.bind KeepsSchema.keeps fun _ => ?_) ?_)
  · split <;> exact KeepsSchema.keeps
  · split <;> exact KeepsSchema.keeps

instance (name sql : String) : KeepsSchema (createTableIfMissing name sql) :=
  ⟨createTableIfMissing_keeps name sql⟩

instance (s : Statement) (bs : List SqlValue) : KeepsSchema (write s bs) := by
  unfold write
  split <;> infer_instance

/-- Every write of a statement keeps every relation. -/
theorem writeAll_keeps (s : Statement) (bs : List SqlValue) : Holds Work.Grows (writeAll s bs) := by
  unfold writeAll
  refine Holds.bind (Holds.tryCatch KeepsSchema.keeps fun e => ?_) fun _ => KeepsSchema.keeps
  split <;> exact KeepsSchema.keeps

/-- A statement never takes a relation out of the schema. -/
theorem execute_keeps {t t' : Tables} {s : Statement} {bs : List SqlValue} {readOnly : Bool}
    {changes : List Change} {rows : List Row} (h : t.execute s bs readOnly = .ok (t', changes, rows)) :
    t.schema.Keeps t'.schema := by
  unfold execute at h
  dsimp only at h
  split at h
  · rcases hrun : (writeAll s (bs.map t.encoding.conformValue)).run.run { tables := t, readOnly } with
      ⟨r, w⟩
    have hw : Work.Grows { tables := t, readOnly } w := by
      have hk := writeAll_keeps s (bs.map t.encoding.conformValue) { tables := t, readOnly }
      rwa [show runFrom _ _ = (r, w) from hrun] at hk
    rw [hrun] at h
    dsimp only at h
    split at h <;> cases h <;> exact hw
  · split at h <;> cases h <;> exact Sql.Schema.keeps_refl t.schema

end Tables

end DocStore
