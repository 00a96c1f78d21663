import DocStore.Proofs.SortedReads
import Mathlib
/-!
# Limits cut the unlimited result

`Query.compile` turns the last `limit` of a query into a `LIMIT` on its sorted rows. A
`limitToLast` without a `limit` becomes a `LIMIT` on the rows sorted the other way, every sort key
and the tie break on collection and id flipped, and the rows it reads are put back in order
(`CompiledQuery.reverse`). This module compares reading a query with reading its unlimited form
(`Query.unlimited`); the main statement is `limits_keep_unlimited_result`:

* with a `limit`, the query reads the first documents of the unlimited result, as many as its
  last `limit` says, bound by the largest 64-bit integer;
* with a `limitToLast` and no `limit`, it reads the last ones, as many as its last `limitToLast`
  says, provided no two rows of the unlimited result name the same document. The tie break makes
  the order of rows strict only where the table keeps collection and id apart: of two rows with
  one collection and id, the flipped read keeps the first where the last of the unlimited result
  is the second;
* with neither, it reads the unlimited result.

What compiling does with the limits is `Query.compile_eq_ok`, through `Query.effectiveLimits_eq`;
the engine side is `Tables.execute_limited` and `Tables.execute_reversed`.
-/

namespace DocStore

open Sql

/-- Whether a constraint is a `limit` or a `limitToLast`. -/
def Constraint.isLimit : Constraint → Bool
  | .limit _ | .limitToLast _ => true
  | _ => false

/-- The argument of a `limit`. -/
def Constraint.limit? : Constraint → Option Nat
  | .limit n => some n
  | _ => none

/-- The argument of a `limitToLast`. -/
def Constraint.limitToLast? : Constraint → Option Nat
  | .limitToLast n => some n
  | _ => none

namespace Query

/-- A query without its limits: its source, its `where` and its `orderBy` constraints. -/
def unlimited (q : Query) : Query :=
  { q with constraints := q.constraints.filter (!·.isLimit) }

/-- The argument of the last `limit` of a query. -/
def lastLimit (q : Query) : Option Nat := (q.constraints.filterMap Constraint.limit?).getLast?

/-- The argument of the last `limitToLast` of a query. -/
def lastLimitToLast (q : Query) : Option Nat :=
  (q.constraints.filterMap Constraint.limitToLast?).getLast?

/-- What a query keeps of the documents its unlimited form reads: the first ones, as many as its
last `limit` says; without a `limit`, the last ones, as many as its last `limitToLast` says; and
all of them without either. A count is bound by the largest 64-bit integer. -/
def keepLimited {α : Type} (q : Query) (docs : List α) : List α :=
  match q.lastLimit, q.lastLimitToLast with
  | some n, _ => docs.take (min n maxInt64)
  | none, some n => docs.drop (docs.length - min n maxInt64)
  | none, none => docs

/-! ## The limits a query compiles to -/

/-- The limits that compiling reads are the last `limit` and the last `limitToLast`. -/
theorem effectiveLimits_eq (q : Query) : q.effectiveLimits = (q.lastLimit, q.lastLimitToLast) := by
  unfold effectiveLimits lastLimit lastLimitToLast
  rw [List.foldl_eq_foldr_reverse, ← List.head?_reverse, ← List.head?_reverse,
    ← List.filterMap_reverse, ← List.filterMap_reverse]
  -- read from the end, the fold keeps the first limit of each kind
  induction q.constraints.reverse with
  | nil => rfl
  | cons c l ih =>
    cases c <;> simp only [List.foldr_cons, ih, List.filterMap_cons, Constraint.limit?,
      Constraint.limitToLast?, List.head?_cons]

/-- The unlimited query selects nothing with a function that selects only from limits. -/
theorem filterMap_unlimited (q : Query) {f : Constraint → Option Nat}
    (hf : ∀ c, c.isLimit = false → f c = none) : q.unlimited.constraints.filterMap f = [] :=
  List.filterMap_eq_nil_iff.2 fun c hc => hf c (by simpa using (List.mem_filter.1 hc).2)

theorem lastLimit_unlimited (q : Query) : q.unlimited.lastLimit = none := by
  unfold lastLimit
  rw [filterMap_unlimited q fun c hc => ?_]
  · rfl
  · cases c <;> simp_all [Constraint.isLimit, Constraint.limit?]

theorem lastLimitToLast_unlimited (q : Query) : q.unlimited.lastLimitToLast = none := by
  unfold lastLimitToLast
  rw [filterMap_unlimited q fun c hc => ?_]
  · rfl
  · cases c <;> simp_all [Constraint.isLimit, Constraint.limitToLast?]

/-! ## Selections in `Except` -/

section Traversal

variable {α β γ ε : Type}

/-- The first value found among the elements a predicate keeps is the first found among all,
when the function finds nothing in the others. -/
theorem findSome?_filter {f : α → Option β} {p : α → Bool} (h : ∀ a, p a = false → f a = none) :
    ∀ l : List α, (l.filter p).findSome? f = l.findSome? f
  | [] => rfl
  | a :: l => by
    by_cases ha : p a = true
    · rw [List.filter_cons_of_pos ha, List.findSome?_cons, List.findSome?_cons, findSome?_filter h l]
    · rw [List.filter_cons_of_neg ha, List.findSome?_cons, h a (by simpa using ha),
        findSome?_filter h l]

/-- A selection whose function maps every selected value selects the mapped values. -/
theorem filterMapM_map {g : α → Except ε (Option β)} {g' : α → Except ε (Option γ)} {k : β → γ}
    (h : ∀ a, g' a = Option.map k <$> g a) :
    ∀ l : List α, l.filterMapM g' = List.map k <$> l.filterMapM g
  | [] => rfl
  | a :: l => by
    rw [List.filterMapM_cons, List.filterMapM_cons, h a, filterMapM_map h l]
    rcases g a with e | (_ | b) <;> rcases l.filterMapM g with e' | bs <;> rfl

/-- A selection that selects nothing found nothing in any element. -/
theorem filterMapM_eq_ok_nil {g : α → Except ε (Option β)} :
    ∀ {l : List α}, l.filterMapM g = .ok [] → ∀ a ∈ l, g a = .ok none
  | [], _ => by simp
  | a :: l, h => by
    rw [List.filterMapM_cons] at h
    rcases hg : g a with e | (_ | b)
    · simp [hg, bind, Except.bind] at h
    · rw [hg] at h
      intro a' ha'
      rcases List.mem_cons.1 ha' with rfl | ha'
      · exact hg
      · exact filterMapM_eq_ok_nil h a' ha'
    · rw [hg] at h
      rcases hl : l.filterMapM g with e | bs <;> simp [hl, bind, Except.bind, pure, Except.pure] at h

/-- Each value a selection selects comes from an element. -/
theorem mem_filterMapM {g : α → Except ε (Option β)} :
    ∀ {l : List α} {bs : List β}, l.filterMapM g = .ok bs → ∀ b ∈ bs, ∃ a ∈ l, g a = .ok (some b)
  | [], bs, h => by
    simp only [List.filterMapM_nil, pure, Except.pure, Except.ok.injEq] at h
    simp [← h]
  | a :: l, bs, h => by
    rw [List.filterMapM_cons] at h
    rcases hg : g a with e | (_ | b)
    · simp [hg, bind, Except.bind] at h
    · rw [hg] at h
      intro b hb
      obtain ⟨a', ha', hb'⟩ := mem_filterMapM h b hb
      exact ⟨a', List.mem_cons_of_mem _ ha', hb'⟩
    · rw [hg] at h
      rcases hl : l.filterMapM g with e | bs'
      · simp [hl, bind, Except.bind] at h
      · simp only [hl, bind, Except.bind, pure, Except.pure, Except.ok.injEq] at h
        subst h
        intro b' hb'
        rcases List.mem_cons.1 hb' with rfl | hb'
        · exact ⟨a, List.mem_cons_self, hg⟩
        · obtain ⟨a', ha', hb''⟩ := mem_filterMapM hl b' hb'
          exact ⟨a', List.mem_cons_of_mem _ ha', hb''⟩

end Traversal

/-! ## The unlimited query -/

theorem firstOrder?_unlimited (q : Query) : q.unlimited.firstOrder? = q.firstOrder? := by
  unfold firstOrder? unlimited
  refine findSome?_filter (fun c hc => ?_) _
  cases c <;> simp_all [Constraint.isLimit]

/-- Dropping the limits keeps a query valid: the rules of its other constraints read only its
first ordering, which stays. -/
theorem valid_unlimited {q : Query} (h : q.Valid) : q.unlimited.Valid := by
  have hmem : ∀ {c}, c ∈ q.unlimited.constraints → c ∈ q.constraints := fun hc =>
    (List.mem_filter.1 hc).1
  refine ⟨fun f op v hc => h.filterPaths f op v (hmem hc), fun f d hc => h.orderPaths f d (hmem hc),
    fun f v hc => h.inOperands f v (hmem hc), fun f op v g hc hi hg => ?_, fun n hc => ?_⟩
  · rw [firstOrder?_unlimited] at hg
    exact h.inequalities f op v g (hmem hc) hi hg
  · simp [unlimited, Constraint.isLimit] at hc

theorem predicates_unlimited (q : Query) : q.unlimited.predicates = q.predicates := by
  unfold predicates unlimited
  dsimp only
  rw [filterMapM_filter]
  intro c hc
  cases c with
  | filter => cases hc
  | _ => rfl

theorem sortKeys_unlimited (q : Query) (reverse : Bool) :
    q.unlimited.sortKeys reverse = q.sortKeys reverse := by
  unfold sortKeys unlimited
  rw [filterMapM_filter]
  intro c hc
  cases c with
  | orderBy => cases hc
  | _ => rfl

/-- The reversed sort keys of a query are its sort keys, each flipped. -/
theorem sortKeys_flipped (q : Query) :
    q.sortKeys true = List.map SortKey.reversed <$> q.sortKeys false := by
  unfold sortKeys
  refine filterMapM_map (fun c => ?_) _
  cases c with
  | orderBy field dir =>
    dsimp only
    rcases FieldPath.parse field with e | p <;> rfl
  | _ => rfl

/-- A valid query with a `limitToLast` has an ordering, so it has sort keys. -/
theorem sortKeys_ne_nil {q : Query} (hv : q.Valid) {n : Nat} (hn : q.lastLimitToLast = some n)
    {reverse : Bool} {keys : List SortKey} (hk : q.sortKeys reverse = .ok keys) : keys ≠ [] := by
  rintro rfl
  have hmem : Constraint.limitToLast n ∈ q.constraints := by
    obtain ⟨c, hc, hcn⟩ := List.mem_filterMap.1 (List.mem_of_getLast? hn)
    cases c <;> simp_all [Constraint.limitToLast?]
  obtain ⟨f, d, hf⟩ := hv.ordered n hmem
  have hnone := filterMapM_eq_ok_nil hk _ hf
  simp only [FieldPath.parse_eq, if_pos (hv.orderPaths f d hf)] at hnone
  cases hnone

/-! ## The bindings of the filters -/

theorem sourceFilter_arity (s : Source) : (sourceFilter s).2.length = (sourceFilter s).1.arity := by
  cases s <;> rfl

theorem whereFilter_arity {field : String} {op : WhereOp} {value : Value} {flt : Filter}
    {bs : List SqlValue} (h : whereFilter field op value = .ok (flt, bs)) : bs.length = flt.arity := by
  unfold whereFilter at h
  rcases hp : FieldPath.parse field with e | path
  · simp [hp, bind, Except.bind] at h
  · simp only [hp, bind, Except.bind] at h
    split at h
    case h_10 =>
      -- an `in` takes one binding per element of its operand
      split at h
      · cases h
      · simp only [pure, Except.pure, Except.ok.injEq, Prod.mk.injEq] at h
        obtain ⟨rfl, rfl⟩ := h
        simp [Filter.arity]
    all_goals
      simp only [pure, Except.pure, Except.ok.injEq, Prod.mk.injEq] at h
      obtain ⟨rfl, rfl⟩ := h
      rfl

/-- Each `where` filter of a query takes as many bindings as its arity. -/
theorem whereFilters_arity {cs : List Constraint} {rest : List (Filter × List SqlValue)}
    (hrest : cs.filterMapM (fun c => match c with
      | .filter field op value => some <$> whereFilter field op value
      | _ => pure none) = .ok rest) : ∀ r ∈ rest, r.2.length = r.1.arity := by
  intro r hr
  obtain ⟨c, -, hc⟩ := mem_filterMapM hrest r hr
  cases c with
  | filter field op value =>
    rcases hw : whereFilter field op value with e | r'
    · simp [hw, Functor.map, Except.map] at hc
    · simp only [hw, Functor.map, Except.map, Except.ok.injEq, Option.some.injEq] at hc
      subst hc
      exact whereFilter_arity hw
  | _ => cases hc

/-- The filters of a query take as many bindings as their arities add up to. -/
theorem predicates_length {q : Query} {fs : List Filter} {bs : List SqlValue}
    (h : q.predicates = .ok (fs, bs)) : bs.length = (fs.map Filter.arity).sum := by
  unfold predicates at h
  simp only [bind, Except.bind] at h
  split at h
  · cases h
  · rename_i rest hrest
    simp only [pure, Except.pure, Except.ok.injEq, Prod.mk.injEq] at h
    obtain ⟨rfl, rfl⟩ := h
    simp only [List.length_append, sourceFilter_arity, List.length_flatten, List.map_map,
      List.map_cons, List.sum_cons]
    congr 2
    exact List.map_congr_left (whereFilters_arity hrest)

/-- The unlimited form of a valid query compiles to the unlimited `SELECT` of its filters and
sort keys. -/
theorem compile_unlimited {q : Query} (hv : q.Valid) {fs : List Filter} {bs : List SqlValue}
    {keys : List SortKey} (hp : q.predicates = .ok (fs, bs)) (hk : q.sortKeys false = .ok keys) :
    q.unlimited.compile = .ok ⟨.selectDocuments fs keys .asc false, bs, false⟩ := by
  have hv' : q.unlimited.validate = .ok () := validate_eq_ok_iff.2 (valid_unlimited hv)
  simp [compile, effectiveLimits_eq, lastLimit_unlimited, lastLimitToLast_unlimited,
    predicates_unlimited, sortKeys_unlimited, hv', hp, hk, bind, Except.bind, pure, Except.pure]

/-- What a query compiles to: the `SELECT` of its filters and sort keys, with a `LIMIT` by its
last `limit`; without one, by its last `limitToLast`, on the flipped sort keys and tie break and
with the rows to be put back in order; and with no `LIMIT` without either. -/
theorem compile_eq_ok {q : Query} {c : CompiledQuery} (h : q.compile = .ok c) :
    q.Valid ∧ ∃ fs bs keys, q.predicates = .ok (fs, bs) ∧ q.sortKeys false = .ok keys ∧
      c = match q.lastLimit, q.lastLimitToLast with
        | some n, _ =>
          ⟨.selectDocuments fs keys .asc true, bs ++ [.integer (min n maxInt64)], false⟩
        | none, some n =>
          ⟨.selectDocuments fs (keys.map SortKey.reversed) .desc true,
            bs ++ [.integer (min n maxInt64)], true⟩
        | none, none => ⟨.selectDocuments fs keys .asc false, bs, false⟩ := by
  rcases hv : q.validate with e | ⟨⟩
  · simp [compile, hv, bind, Except.bind] at h
  have hvalid := validate_eq_ok_iff.1 hv
  have hb := breaches_eq_none_iff.2 hvalid
  obtain ⟨⟨fs, bs⟩, hp⟩ := predicates_ok hb
  obtain ⟨keys, hk⟩ := sortKeys_ok hb false
  refine ⟨hvalid, fs, bs, keys, hp, hk, ?_⟩
  have hk' : q.sortKeys true = .ok (keys.map SortKey.reversed) := by
    rw [sortKeys_flipped, hk]
    rfl
  unfold compile at h
  rw [effectiveLimits_eq] at h
  rcases hl : q.lastLimit with _ | n <;> rcases hll : q.lastLimitToLast with _ | n' <;>
    simp [hl, hll, hv, hp, hk, hk', bind, Except.bind, pure, Except.pure] at h ⊢ <;> exact h.symm

end Query

/-! ## Reading the documents -/

/-- The documents of a query's rows, put back in order when the query reads them reversed. -/
theorem CompiledQuery.documents_eq (c : CompiledQuery) (rows : List Row) :
    c.documents rows = (fun docs => if c.reverse then docs.reverse else docs) <$> rows.mapM rowDocument := by
  unfold CompiledQuery.documents
  rcases rows.mapM rowDocument with e | docs <;> rfl

/-! ## A documents table with no rows -/

theorem Tables.applyLimit_nil {α : Type} (limited : Bool) (leftover : List SqlValue) :
    Tables.applyLimit ([] : List α) limited leftover = [] := by
  unfold Tables.applyLimit
  split
  · split
    · split <;> simp
    · rfl
  · rfl

theorem seekEntries_nil (enc : TextEncoding) (order : List (Collation × Bool)) (probe : List SqlValue)
    (backwards : Bool) : seekEntries enc order [] probe backwards = [] := by
  simp [seekEntries, searchPath]

/-- Content with no rows and no index entries reaches no row of a table, by any access. -/
theorem Tables.reach_of_empty (tables : Tables) (hr : tables.rows = []) (hk : tables.keys = [])
    (t : Table) : ∀ a, tables.reach t a = [] := by
  intro a
  cases a <;> simp [Tables.reach, Tables.rowsOf, Tables.keysOf, hr, hk, seekEntries_nil]

/-- A table of which no access reaches a row answers every document query with no rows. -/
theorem Tables.selectFromTable_unreached {tables : Tables} {t : Table}
    (h : ∀ a, tables.reach t a = []) (fs : List Filter) (keys : List SortKey) (tiebreak : Direction)
    (limited : Bool) (bs : List SqlValue) :
    tables.selectFromTable t fs keys tiebreak limited bs = .ok [] := by
  unfold Tables.selectFromTable
  simp [h, Tables.applyLimit_nil]
  rfl

/-- Limits cut the result of the unlimited query. A query that compiles has an unlimited form
that compiles; whenever the engine runs that form on a database whose documents are a table, to
rows that read as documents, it runs the query itself, with the same outcome for the database,
to rows whose documents are those its limits keep of them (`Query.keepLimited`). For a
`limitToLast` without a `limit` this needs the rows of the unlimited form to name different
documents. -/
theorem limits_keep_unlimited_result (q : Query) (tables : Tables) (readOnly : Bool) {t : Table}
    (ht : tables.schema.table? "documents" = some t) :
    ∀ c, q.compile = .ok c → ∃ c₀, q.unlimited.compile = .ok c₀ ∧
      ∀ t' changes rows₀ docs₀,
        tables.execute c₀.statement c₀.bindings readOnly = .ok (t', changes, rows₀) →
        c₀.documents rows₀ = .ok docs₀ →
        (q.lastLimit = none → q.lastLimitToLast.isSome →
          rows₀.Pairwise (t.KeysApart tables.encoding)) →
        ∃ rows, tables.execute c.statement c.bindings readOnly = .ok (t', changes, rows) ∧
          c.documents rows = .ok (q.keepLimited docs₀) := by
  intro c hc
  obtain ⟨hv, fs, bs, keys, hp, hk, hcq⟩ := Query.compile_eq_ok hc
  refine ⟨_, Query.compile_unlimited hv hp hk, ?_⟩
  intro t' changes rows₀ docs₀ hrun hdocs hapart
  have hlen := Query.predicates_length hp
  have hread : rows₀.mapM rowDocument = .ok docs₀ := by
    rw [CompiledQuery.documents_eq] at hdocs
    rcases hm : rows₀.mapM rowDocument with e | ds
    · simp [hm, Functor.map, Except.map] at hdocs
    · simpa [hm, Functor.map, Except.map] using hdocs
  -- a count is bound as a nonnegative 64-bit integer, which counts rows as the count does
  have hm : ∀ n : Nat, (0 : Int) ≤ min (n : Int) Query.maxInt64 := fun n => by omega
  have hcount : ∀ n : Nat, (min (n : Int) Query.maxInt64).toNat = min n Query.maxInt64 := fun n => by
    omega
  unfold Query.keepLimited
  cases hl : q.lastLimit with
  | some n =>
    -- the first rows, as many as the last `limit` says
    rw [hl] at hcq
    subst hcq
    refine ⟨_, Tables.execute_limited ht hlen (hm n) hrun, ?_⟩
    rw [CompiledQuery.documents_eq, hcount, mapM_take _ hread]
    rfl
  | none =>
    cases hll : q.lastLimitToLast with
    | none =>
      rw [hl, hll] at hcq
      subst hcq
      exact ⟨rows₀, hrun, hdocs⟩
    | some n =>
      -- the first rows of the flipped order, which are the last ones reversed
      rw [hl, hll] at hcq
      subst hcq
      have hkeys := Query.sortKeys_ne_nil hv hll hk
      refine ⟨_, Tables.execute_reversed ht hkeys hlen (hm n) hrun (hapart hl (by simp [hll])), ?_⟩
      rw [CompiledQuery.documents_eq, hcount, mapM_take _ (mapM_reverse hread)]
      simp only [Functor.map, Except.map, ite_true, List.take_reverse, List.reverse_reverse]

/-- A documents table declared without its key, as a file made elsewhere may hold it. -/
def unkeyedDocuments : Table :=
  let text : String → Column := fun n =>
    { name := n, typeName := "TEXT", affinity := .text, notNull := true }
  { name := "documents", columns := [text "collection_id", text "doc_id", text "data"] }

/-- Content whose documents table has no key and no rows. -/
def unkeyedTables : Tables := { schema := { tables := [unkeyedDocuments] } }

/-- The last document of collection `c` in the order of field `x`. -/
def lastByX : Query := ⟨.collection ⟨"c"⟩, [.orderBy "x" .asc, .limitToLast 1]⟩

/-- The statement at the last document of a collection by a field, on an empty documents table
without its key: the query compiles, and runs to rows whose documents are those its limits keep
of the unlimited result. -/
theorem limits_keep_unlimited_result_on_unkeyed_table :
    ∃ c rows, lastByX.compile = .ok c ∧
      unkeyedTables.execute c.statement c.bindings false = .ok (unkeyedTables, [], rows) ∧
      c.documents rows = .ok (lastByX.keepLimited []) := by
  have ht : unkeyedTables.schema.table? "documents" = some unkeyedDocuments := by
    simp [unkeyedTables, unkeyedDocuments, Schema.table?, sameName]
  -- the query and its unlimited form, compiled
  have hc : lastByX.compile = .ok ⟨.selectDocuments [.collectionIs] [⟨⟨"x", ["x"]⟩, .desc⟩] .desc true,
      [.ofString "c", .integer 1], true⟩ := by
    have hv : lastByX.validate = .ok () := by cbv
    have hp : lastByX.predicates = .ok ([.collectionIs], [.ofString "c"]) := by cbv
    have hk : lastByX.sortKeys true = .ok [⟨⟨"x", ["x"]⟩, .desc⟩] := by cbv
    have hl : lastByX.effectiveLimits = (none, some 1) := rfl
    simp [Query.compile, hv, hp, hk, hl, bind, Except.bind, pure, Except.pure, Query.maxInt64]
  have hc₀ : lastByX.unlimited.compile =
      .ok ⟨.selectDocuments [.collectionIs] [⟨⟨"x", ["x"]⟩, .asc⟩] .asc false, [.ofString "c"], false⟩ := by
    cbv
  -- the unlimited form reads no row of the empty table
  have hrun : unkeyedTables.execute (.selectDocuments [.collectionIs] [⟨⟨"x", ["x"]⟩, .asc⟩] .asc false)
      [.ofString "c"] false = .ok (unkeyedTables, [], []) := by
    have hres : unkeyedTables.resolveNames "documents"
        (.selectDocuments [.collectionIs] [⟨⟨"x", ["x"]⟩, .asc⟩] .asc false) = .ok () := by cbv
    have hrel : unkeyedTables.relation "documents" = .ok (.table unkeyedDocuments) := by cbv
    simp [Tables.execute, Tables.read, Tables.writes, Tables.readTable, hres, hrel,
      Tables.selectFromTable_unreached (Tables.reach_of_empty unkeyedTables rfl rfl unkeyedDocuments),
      bind, Except.bind]
  obtain ⟨c₀, hc₀', hkeep⟩ := limits_keep_unlimited_result lastByX unkeyedTables false ht _ hc
  rw [hc₀] at hc₀'
  cases hc₀'
  obtain ⟨rows, hrows, hdocs⟩ := hkeep unkeyedTables [] [] [] hrun rfl fun _ _ => List.Pairwise.nil
  exact ⟨_, rows, hc, hrows, hdocs⟩

end DocStore
