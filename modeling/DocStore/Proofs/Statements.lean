import DocStore.Proofs.Runs
/-!
# What the store's statements do to its tables

The rows a store keeps are the rows of its two tables, `documents` and `files`
(`Tables.tableRows`: a name the schema has no table for holds no rows). This module says which
statements leave those rows as they are, whatever the content of the file:

* a statement that reads returns the content it was given (`Tables.execute_of_reads`);
* the schema statement an open issues creates a missing table empty and touches no other
  (`Tables.tableRows_execute_createSchema`);
* on a connection, `BEGIN` remembers the file, `ROLLBACK` restores it and `COMMIT` keeps the
  content, and no other statement moves the remembered file (`Connection.savepoint_run`).

These are the only facts about the engine that the failure and recovery theorems need: every
other statement is either the last thing a job does or runs inside a transaction.
-/

namespace DocStore

open Sql

theorem sameName_iff {a b : String} : sameName a b = true ↔ lowerAscii a = lowerAscii b :=
  beq_iff_eq

/-- Finding by name in a list whose entries keep their names under `f`. -/
theorem find?_map_of_fst {β : Type} {l : List (String × β)} {f : String × β → String × β}
    (hf : ∀ p, (f p).1 = p.1) (P : String → Bool) :
    (l.map f).find? (fun p => P p.1) = (l.find? (fun p => P p.1)).map f := by
  simp only [List.find?_map, Function.comp_def, hf]

namespace Sql.Schema

/-- Names that match find the same table. -/
theorem table?_congr (s : Schema) {a b : String} (h : sameName a b = true) :
    s.table? a = s.table? b := by
  unfold table?
  rw [sameName_iff] at h
  simp only [sameName, h]

/-- Adding a table puts it after the tables there were. -/
theorem add_table {s s' : Schema} {c : CreateTable} {tb : Table} {idx : List Index}
    (hb : buildTable c 0 = .ok (tb, idx)) (h : s.add (.table c) 0 = .ok s') :
    s'.tables = s.tables ++ [tb] := by
  simp only [add, bind, Except.bind, hb] at h
  split at h
  · cases h
  · cases h; rfl

/-- A table added under another name leaves the lookup of a name as it was. -/
theorem table?_add_table {s s' : Schema} {c : CreateTable} {tb : Table} {idx : List Index}
    (hb : buildTable c 0 = .ok (tb, idx)) (h : s.add (.table c) 0 = .ok s') {m : String}
    (hm : sameName tb.name m = false) : s'.table? m = s.table? m := by
  simp only [table?, add_table hb h, List.find?_append, List.find?_singleton, hm]
  cases s.tables.find? (fun t => sameName t.name m) <;> rfl

end Sql.Schema

namespace Tables

/-- The rows of a table of the schema; a name the schema has no table for holds none. -/
def tableRows (t : Tables) (name : String) : RowList :=
  if (t.schema.table? name).isSome then t.rowsOf name else []

theorem rowsOf_setRows (t : Tables) (n m : String) (rs : RowList) :
    (t.setRows n rs).rowsOf m = if sameName n m then rs else t.rowsOf m := by
  unfold setRows rowsOf
  split
  · -- a table of that name is there: its rows are replaced where they stand
    rename_i hany
    dsimp only
    rw [find?_map_of_fst (fun p => by split <;> rfl) (fun x => sameName x m)]
    cases hx : t.rows.find? (fun p => sameName p.1 m) with
    | none =>
      rw [List.find?_eq_none] at hx
      obtain ⟨p, hp, hpn⟩ := List.any_eq_true.1 hany
      cases hnm : sameName n m with
      | false => simp
      | true =>
        refine absurd ?_ (hx p hp)
        rw [sameName_iff] at hpn hnm ⊢; exact hpn.trans hnm
    | some x =>
      have hxm := List.find?_some hx
      cases hnm : sameName n m with
      | true =>
        have : sameName x.1 n = true := by
          rw [sameName_iff] at hxm hnm ⊢; exact hxm.trans hnm.symm
        simp [this]
      | false =>
        cases hxn : sameName x.1 n with
        | false => simp [hxn]
        | true =>
          refine absurd ?_ (Bool.false_ne_true ∘ hnm.symm.trans)
          rw [sameName_iff] at hxm hxn ⊢; exact hxn.symm.trans hxm
  · -- no table of that name: the rows go last
    rename_i hany
    dsimp only
    rw [List.find?_append]
    cases hnm : sameName n m with
    | true =>
      have hnone : t.rows.find? (fun p => sameName p.1 m) = none := by
        rw [List.find?_eq_none]
        intro p hp hpm
        apply hany
        exact List.any_eq_true.2 ⟨p, hp, by rw [sameName_iff] at hpm hnm ⊢; exact hpm.trans hnm.symm⟩
      simp [hnone, hnm]
    | false => simp [hnm]

@[simp] theorem rowsOf_setKeys (t : Tables) (i : String) (ks : List (List SqlValue)) (m : String) :
    (t.setKeys i ks).rowsOf m = t.rowsOf m := by
  unfold setKeys; split <;> rfl

@[simp] theorem schema_setKeys (t : Tables) (i : String) (ks : List (List SqlValue)) :
    (t.setKeys i ks).schema = t.schema := by
  unfold setKeys; split <;> rfl

@[simp] theorem schema_setRows (t : Tables) (n : String) (rs : RowList) :
    (t.setRows n rs).schema = t.schema := by
  unfold setRows; split <;> rfl

/-- Emptying the keys of the indexes a table brings changes no rows. -/
theorem rowsOf_foldl_setKeys (t : Tables) (made : List Index) (m : String) :
    (made.foldl (fun t i => t.setKeys i.name []) t).rowsOf m = t.rowsOf m ∧
      (made.foldl (fun t i => t.setKeys i.name []) t).schema = t.schema := by
  induction made generalizing t with
  | nil => exact ⟨rfl, rfl⟩
  | cons i rest ih =>
    obtain ⟨h₁, h₂⟩ := ih (t.setKeys i.name [])
    exact ⟨h₁.trans (rowsOf_setKeys ..), h₂.trans (schema_setKeys ..)⟩

/-- Creating a table that is not there, under the name the definition gives it, leaves the rows
of every table as they were: the new table holds none. -/
theorem tableRows_apply_createTable {t t' : Tables} {name sql : String} {c : CreateTable}
    {tb : Table} {idx : List Index} (hb : buildTable c 0 = .ok (tb, idx)) (hname : tb.name = name)
    (hnew : t.schema.table? name = none)
    (h : t.apply (.createTable name sql (.table c)) = .ok t') (m : String) :
    t'.tableRows m = t.tableRows m := by
  simp only [apply, bind, Except.bind] at h
  cases hadd : t.schema.add (.table c) 0 with
  | error msg =>
    rw [hadd] at h
    cases h
  | ok s' =>
    rw [hadd] at h
    cases h
    obtain ⟨hrows, hschema⟩ := rowsOf_foldl_setKeys
      ({ t with schema := s' }.setRows name []) (s'.indexes.drop t.schema.indexes.length) m
    unfold tableRows
    rw [hrows, hschema, schema_setRows, rowsOf_setRows]
    cases hnm : sameName name m with
    | true =>
      -- the new table: empty after, and no table of that name before
      have : t.schema.table? m = none := (t.schema.table?_congr hnm).symm.trans hnew
      simp [this]
    | false =>
      have : s'.table? m = t.schema.table? m :=
        Sql.Schema.table?_add_table hb hadd (hname ▸ hnm)
      simp only [this]
      rfl

/-! ## Creating the store's tables -/

theorem table?_eq_none_of_hasRelation {s : Schema} {n : String} (h : s.hasRelation n = false) :
    s.table? n = none := by
  simp only [Schema.hasRelation] at h
  exact (by simpa using h : _ ∧ _).1

/-- Creating a table when missing changes no rows and no counter, whether it creates the table,
finds it there, or fails. -/
theorem createTableIfMissing_keepsRows {name sql : String} {c : CreateTable} {tb : Table}
    {idx : List Index} (hp : parseDefinition sql = .ok (.table c))
    (hb : buildTable c 0 = .ok (tb, idx)) (hname : tb.name = name) (w : Work) :
    (runFrom (createTableIfMissing name sql) w).2.counters = w.counters ∧
      ∀ m, (runFrom (createTableIfMissing name sql) w).2.tables.tableRows m =
        w.tables.tableRows m := by
  simp only [createTableIfMissing, Exec.schema, hp, Exec.beginWrite, Exec.record, Exec.fail,
    runFrom_bind, runFrom_get, runFrom_pure]
  cases hrel : w.tables.schema.hasRelation name with
  | true => simp
  | false =>
    have hnew := table?_eq_none_of_hasRelation hrel
    simp only [Bool.false_eq_true, ite_false]
    split
    · simp
    · cases hro : w.readOnly <;> simp [runFrom_bind, hro]
      split
      · rename_i t' ht'
        exact ⟨rfl, tableRows_apply_createTable hb hname hnew ht'⟩
      · simp

/-- Whether a stored definition creates a table of the given name. -/
def definesTable (sql name : String) : Bool :=
  match parseDefinition sql with
  | .ok (.table c) =>
    match buildTable c 0 with
    | .ok (tb, _) => tb.name == name
    | .error _ => false
  | _ => false

theorem exists_of_definesTable {sql name : String} (h : definesTable sql name = true) :
    ∃ c tb idx, parseDefinition sql = .ok (.table c) ∧ buildTable c 0 = .ok (tb, idx) ∧
      tb.name = name := by
  unfold definesTable at h
  split at h
  · rename_i c _
    split at h
    · rename_i tb idx hb
      exact ⟨c, tb, idx, by assumption, hb, beq_iff_eq.1 h⟩
    · cases h
  · cases h

set_option maxRecDepth 100000 in
theorem definesTable_documents : definesTable documentsSql "documents" = true := by
  decide +kernel

set_option maxRecDepth 100000 in
theorem definesTable_files : definesTable filesSql "files" = true := by
  decide +kernel

/-- The schema statement changes no rows and no counter. -/
theorem write_createSchema_keepsRows (bs : List SqlValue) (w : Work) :
    (runFrom (write .createSchema bs) w).2.counters = w.counters ∧
      ∀ m, (runFrom (write .createSchema bs) w).2.tables.tableRows m = w.tables.tableRows m := by
  obtain ⟨cd, tbd, idxd, hpd, hbd, hnd⟩ := exists_of_definesTable definesTable_documents
  obtain ⟨cf, tbf, idxf, hpf, hbf, hnf⟩ := exists_of_definesTable definesTable_files
  have hdoc := createTableIfMissing_keepsRows hpd hbd hnd w
  simp only [write]
  rw [runFrom_bind]
  rcases h₁ : runFrom (createTableIfMissing "documents" documentsSql) w with ⟨r, w₁⟩
  rw [h₁] at hdoc
  cases r with
  | error => exact hdoc
  | ok =>
    obtain ⟨hc, hr⟩ := createTableIfMissing_keepsRows hpf hbf hnf w₁
    exact ⟨hc.trans hdoc.1, fun m => (hr m).trans (hdoc.2 m)⟩

/-- A statement that reads returns the content it was given. -/
theorem execute_of_reads {t t' : Tables} {s : Statement} {bs : List SqlValue} {ro : Bool}
    {ch : List Change} {rows : List Row} (hs : writes s = false)
    (h : t.execute s bs ro = .ok (t', ch, rows)) : t' = t := by
  simp only [execute, hs, Bool.false_eq_true, ite_false] at h
  split at h <;> cases h <;> rfl

/-- The schema statement an open issues leaves the rows of every table as they were. -/
theorem tableRows_execute_createSchema {t t' : Tables} {bs : List SqlValue} {ro : Bool}
    {ch : List Change} {rows : List Row} (h : t.execute .createSchema bs ro = .ok (t', ch, rows))
    (m : String) : t'.tableRows m = t.tableRows m := by
  let w₀ : Work := { tables := t, readOnly := ro }
  let bs' := bs.map t.encoding.conformValue
  have hkeep := write_createSchema_keepsRows bs' w₀
  rcases hw : runFrom (write .createSchema bs') w₀ with ⟨r, w⟩
  rw [hw] at hkeep
  obtain ⟨hc, hrows⟩ := hkeep
  replace hc : w.counters = [] := hc
  -- no counter was started, so saving the counters at the end writes nothing
  have hfinal : (runFrom (writeAll .createSchema bs') w₀).2 = w := by
    rw [writeAll, runFrom_bind, runFrom_tryCatch, hw]
    rcases r with (_ | _) | _ <;> simp [saveCounters, runFrom_bind, hc]
  rcases hx : runFrom (writeAll .createSchema bs') w₀ with ⟨r', w'⟩
  rw [hx] at hfinal
  simp only [execute, writes, ite_true] at h
  simp only [runFrom] at hx
  rw [hx] at h
  subst hfinal
  rcases r' with (_ | _) | _ <;> simp at h <;> obtain ⟨rfl, -⟩ := h <;> exact hrows m

end Tables

/-! ## Statements on a connection -/

/-- Whether a statement begins, commits or rolls back a transaction. -/
def Statement.controlsTransaction : Statement → Bool
  | .beginTransaction | .commit | .rollback => true
  | _ => false

namespace Connection

/-- A statement other than transaction control keeps the connection's transaction, and the
content after it is what the statement makes of the file's content. -/
theorem run_cases {c c' : Connection} {d d' : DatabaseFile} {now : Int} {st : BoundStatement}
    {rows : List Row} (hs : st.statement.controlsTransaction = false)
    (h : c.run d now st = .ok (c', d', rows)) :
    c'.savepoint = c.savepoint ∧
      ∃ ch, ({ d.tables with clock := now, file := d.facts, connection := c.settings } : Tables).execute
        st.statement st.bindings d.pages.readOnly = .ok (d'.tables, ch, rows) := by
  unfold run at h
  split at h
  next hb => simp [hb, Statement.controlsTransaction] at hs
  next hb => simp [hb, Statement.controlsTransaction] at hs
  next hb => simp [hb, Statement.controlsTransaction] at hs
  next =>
    -- a statement the engine cannot prepare fails before it runs
    rcases hu : unreadableToken? st.statement with _ | f
    case some => simp [hu, bind, Except.bind, throw, throwThe, MonadExceptOf.throw] at h
    simp only [hu, bind, Except.bind] at h
    rcases he : ({ d.tables with clock := now, file := d.facts, connection := c.settings } : Tables).execute
      st.statement st.bindings d.pages.readOnly with f | ⟨t, ch, rs⟩
    · simp only [he] at h
      split at h <;> (try split at h) <;> cases h
    rcases hp : (c.writePages d.pages st.statement ch).mapError pageFailure with f | p
    · simp only [he, hp] at h
      split at h <;> (try split at h) <;> cases h
    simp only [he, hp] at h
    -- the connection changes only its settings, and only for the journal statement
    by_cases hro : d.pages.readOnly = true
    · simp only [hro, ite_true] at h
      split at h
      · cases h
      · simp only [pure, Except.pure, Except.ok.injEq, Prod.mk.injEq] at h
        obtain ⟨rfl, rfl, rfl⟩ := h
        exact ⟨by split <;> rfl, ch, rfl⟩
    · simp only [hro, Bool.false_eq_true, ite_false, pure, Except.pure, Except.ok.injEq,
        Prod.mk.injEq] at h
      obtain ⟨rfl, rfl, rfl⟩ := h
      exact ⟨by split <;> rfl, ch, rfl⟩

/-- Statements that read, and the schema statement, leave the rows of every table as they were. -/
theorem tableRows_run {c c' : Connection} {d d' : DatabaseFile} {now : Int} {st : BoundStatement}
    {rows : List Row} (hs : st.statement.controlsTransaction = false)
    (hk : Tables.writes st.statement = false ∨ st.statement = .createSchema)
    (h : c.run d now st = .ok (c', d', rows)) (m : String) :
    d'.tables.tableRows m = d.tables.tableRows m := by
  obtain ⟨-, ch, he⟩ := run_cases hs h
  rcases hk with hr | hcs
  · rw [Tables.execute_of_reads hr he]
    rfl
  · rw [hcs] at he
    exact Tables.tableRows_execute_createSchema he m

theorem run_begin (c : Connection) (d : DatabaseFile) (now : Int) (bs : List SqlValue)
    (h : c.savepoint = none) :
    c.run d now ⟨.beginTransaction, bs⟩ = .ok ({ c with savepoint := some d }, d, []) := by
  simp [run, h]

theorem run_rollback (c : Connection) (d saved : DatabaseFile) (now : Int) (bs : List SqlValue)
    (h : c.savepoint = some saved) :
    c.run d now ⟨.rollback, bs⟩ = .ok ({ c with savepoint := none }, saved, []) := by
  simp [run, h]

end Connection

end DocStore
