import DocStore.Proofs.QueryCounts
import DocStore.Proofs.ValueOrder
/-!
# How a document query reads, sorts and cuts its rows

`Tables.selectFromTable` reads the rows of the documents table that an access path reaches,
keeps those that pass the filters, gives each its sort values and its document columns, sorts
them under `compareSortKeys` and cuts them by the `LIMIT` binding. This module compares two
runs of it on the same filters and the same sort fields:

* with a limit and without, the limited run keeps the first rows of the other
  (`Tables.execute_limited`);
* with every direction and the tie break flipped and a limit, and with neither, the flipped run
  keeps the first rows of the reverse of the other (`Tables.execute_reversed`), provided no two
  rows of the other name the same document: they differ on the collection or on the id, as the
  table's collations compare them (`Sql.Table.KeysApart`).

The second rests on three facts. The values of a row, once read, stay what the row holds however
much more of it is read (`Reached.Settled`), so the last two sort values of a row are the
collection and id it is read with. Its other sort values come from `json_extract` and carry no
collation (`field_collation`). So the sort values of all rows are compared under the same
collations (`Tables.SortRow`), where the order of rows is a total preorder in which the rows have
no ties, and sorting by the flipped order reverses the sort (`mergeSort_opposite`).
-/

namespace DocStore

open Sql

/-! ## Outcomes -/

section Outcomes

variable {α β ε : Type}

theorem bind_eq_ok {x : Except ε α} {f : α → Except ε β} {b : β} (h : x >>= f = .ok b) :
    ∃ a, x = .ok a ∧ f a = .ok b := by
  rcases x with e | a
  · cases h
  · exact ⟨a, rfl, h⟩

theorem liftFailure_eq_ok {x : Except EngineFailure α} {a : α} (h : liftFailure x = .ok a) :
    x = .ok a := by
  rcases x with f | a'
  · cases h
  · cases h
    rfl

theorem mapM_take {f : α → Except ε β} :
    ∀ {l : List α} {ys : List β} (n : Nat), l.mapM f = .ok ys → (l.take n).mapM f = .ok (ys.take n)
  | [], ys, n, h => by
    simp only [List.mapM_nil, pure, Except.pure, Except.ok.injEq] at h
    subst h
    simp only [List.take_nil]
    rfl
  | a :: l, ys, n, h => by
    rw [List.mapM_cons] at h
    obtain ⟨b, hb, h⟩ := bind_eq_ok h
    obtain ⟨bs, hbs, h⟩ := bind_eq_ok h
    cases h
    cases n with
    | zero => rfl
    | succ n =>
      rw [List.take_succ_cons, List.take_succ_cons, List.mapM_cons, hb, mapM_take n hbs]
      rfl

theorem mapM_reverse {f : α → Except ε β} :
    ∀ {l : List α} {ys : List β}, l.mapM f = .ok ys → l.reverse.mapM f = .ok ys.reverse
  | [], ys, h => by
    simp only [List.mapM_nil, pure, Except.pure, Except.ok.injEq] at h
    subst h
    rfl
  | a :: l, ys, h => by
    rw [List.mapM_cons] at h
    obtain ⟨b, hb, h⟩ := bind_eq_ok h
    obtain ⟨bs, hbs, h⟩ := bind_eq_ok h
    cases h
    simp only [List.reverse_cons]
    rw [List.mapM_append, mapM_reverse hbs, List.mapM_cons, hb]
    rfl

theorem mapM_mem {f : α → Except ε β} :
    ∀ {l : List α} {ys : List β}, l.mapM f = .ok ys → ∀ b ∈ ys, ∃ a ∈ l, f a = .ok b
  | [], ys, h, b, hb => by
    simp only [List.mapM_nil, pure, Except.pure, Except.ok.injEq] at h
    subst h
    cases hb
  | a :: l, ys, h, b, hb => by
    rw [List.mapM_cons] at h
    obtain ⟨b', hb', h⟩ := bind_eq_ok h
    obtain ⟨bs, hbs, h⟩ := bind_eq_ok h
    cases h
    rcases List.mem_cons.1 hb with rfl | hb
    · exact ⟨a, List.mem_cons_self, hb'⟩
    · obtain ⟨a', ha', h'⟩ := mapM_mem hbs b hb
      exact ⟨a', List.mem_cons_of_mem _ ha', h'⟩

/-- A computation agrees with itself under a relation that holds of each value it can give with
itself. -/
theorem Tally.self {R : α → α → Prop} {x : Eval α} (h : ∀ a, x = .ok a → R a a) : Tally R x x := by
  rcases x with (f | _) | a
  · exact .fail f _
  · exact .ignore
  · exact .ok (h a rfl)

end Outcomes

/-! ## Reading a row: what is read stays

A reached row is read lazily: its index entry gives some columns, and the record is read when a
column it does not give is needed. Either way a column reads the value the row holds, its
`final` value. -/

/-- The value a column of a reached row reads as: the value its index entry holds, or else the
value its record gives. -/
def Reached.final (r : Reached) (t : Table) (k : Nat) : SqlValue :=
  ((r.covered.find? (·.1 == k)).map (·.2)).getD
    ((t.columnValues r.encoding r.rowid (r.record.getD [])).getD k .null)

/-- A reading of a reached row holds the final value of every column it can read without
reading more: all of them once the row is complete, and those the entry holds before. -/
def Reached.Settled (r : Reached) (t : Table) (rd : Reading) : Prop :=
  ∀ k < t.columns.length, (rd.complete = true ∨ (r.covered.find? (·.1 == k)).isSome = true) →
    rd.values.getD k .null = r.final t k

theorem foldl_length_eq {γ δ : Type} {f : List γ → δ → List γ}
    (h : ∀ acc a, (f acc a).length = acc.length) :
    ∀ (l : List δ) (init : List γ), (l.foldl f init).length = init.length
  | [], _ => rfl
  | a :: l, init => by rw [List.foldl_cons, foldl_length_eq h l, h]

theorem Table.length_columnValues (t : Table) (enc : TextEncoding) (rowid : Int)
    (vals : List SqlValue) : (t.columnValues enc rowid vals).length = t.columns.length := by
  unfold Table.columnValues Table.columnValuesWith Table.computeGeneratedWith
  dsimp only
  -- computing the generated columns only sets columns
  split
  · rw [foldl_length_eq (fun _ _ => foldl_length_eq (fun _ _ => List.length_set) _ _)]
    simp
  · simp

/-- The value at a position of a list built position by position. -/
theorem getD_map_zipIdx {γ δ : Type} (l : List γ) (f : γ × Nat → δ) (d : δ) {k : Nat}
    (hk : k < l.length) : (l.zipIdx.map f).getD k d = f (l[k], k) := by
  simp [List.getD_eq_getElem?_getD, hk]

section Reading

variable {r : Reached} {t : Table} {rd rd' : Reading}

/-- Reading starts settled on a row reached without an entry that holds no column: a row of a
scan. -/
theorem Reached.settled_start (hr : r.entry = none → r.covered = []) : r.Settled t (r.start t) := by
  intro k hk hread
  cases he : r.entry with
  | none => simp [Reached.start, Reached.final, he, hr he]
  | some e =>
    -- a row reached by an index is read from its entry first
    have hcov : (r.covered.find? (·.1 == k)).isSome = true := by
      rcases hread with hc | hc
      · simp [Reached.start, he] at hc
      · exact hc
    obtain ⟨p, hp⟩ := Option.isSome_iff_exists.1 hcov
    simp only [Reached.start, he]
    rw [getD_map_zipIdx _ _ _ hk]
    simp [Reached.final, hp]

theorem Reached.complete_complete (h : r.complete t rd = .ok rd') : rd'.complete = true := by
  unfold Reached.complete at h
  split at h
  · cases h
    assumption
  · split at h
    · cases h
      rfl
    · cases h

theorem Reached.settled_complete (h : r.complete t rd = .ok rd') (hs : r.Settled t rd) :
    r.Settled t rd' := by
  unfold Reached.complete at h
  split at h
  · cases h
    exact hs
  · -- the record is read, and the entry's columns keep their values
    split at h
    · rename_i vals hrec
      cases h
      intro k hk _
      have hk' : k < (t.columnValues r.encoding r.rowid vals).length := by
        rwa [Table.length_columnValues]
      rw [getD_map_zipIdx _ _ _ hk', Reached.final, hrec, Option.getD_some,
        List.getD_eq_getElem?_getD, List.getElem?_eq_getElem hk', Option.getD_some]
    · cases h

theorem Reached.settled_need {ns : List String} (h : r.need t rd ns = .ok rd')
    (hs : r.Settled t rd) : r.Settled t rd' := by
  unfold Reached.need at h
  dsimp only at h
  split at h
  · cases h
    exact hs
  · exact Reached.settled_complete h hs

/-- After making sure a column can be read, it can be read without reading more. -/
theorem Reached.need_single {n : String} {k : Nat} (h : r.need t rd [n] = .ok rd')
    (hk : t.columnIndex? n = some k) :
    rd'.complete = true ∨ (r.covered.find? (·.1 == k)).isSome = true := by
  unfold Reached.need at h
  dsimp only at h
  split at h
  · cases h
    rename_i hheld
    rcases hheld with hc | hheld
    · exact .inl hc
    · simp only [List.all_cons, List.all_nil, Bool.and_true, hk] at hheld
      exact .inr (List.find?_isSome.2 (by simpa using hheld))
  · exact .inl (Reached.complete_complete h)

theorem Sql.Table.columnIndex?_lt {n : String} {k : Nat} (hk : t.columnIndex? n = some k) :
    k < t.columns.length :=
  (List.findIdx?_eq_some_iff_getElem.1 hk).1

/-- A column read from a settled reading reads its final value. -/
theorem readColumn_final {n : String} {v : SqlValue} (h : readColumn t r rd n = .ok (v, rd'))
    (hs : r.Settled t rd) : ∃ k, t.columnIndex? n = some k ∧ v = r.final t k ∧ r.Settled t rd' := by
  unfold readColumn at h
  obtain ⟨rd₁, hneed, h⟩ := bind_eq_ok h
  have hneed := liftFailure_eq_ok hneed
  cases hk : t.columnIndex? n with
  | none => simp [hk, throw, throwThe, MonadExceptOf.throw] at h
  | some k =>
    simp only [hk, pure, Except.pure, Except.ok.injEq, Prod.mk.injEq] at h
    obtain ⟨rfl, rfl⟩ := h
    have hs₁ := Reached.settled_need hneed hs
    exact ⟨k, rfl, hs₁ k (Sql.Table.columnIndex?_lt hk) (Reached.need_single hneed hk), hs₁⟩

/-- Columns read from a settled reading read their final values. -/
theorem readColumns_final :
    ∀ {rd : Reading} {ns : List String} {vs : List SqlValue} {rd' : Reading},
      readColumns t r rd ns = .ok (vs, rd') → r.Settled t rd →
      List.Forall₂ (fun n v => ∃ k, t.columnIndex? n = some k ∧ v = r.final t k) ns vs ∧
        r.Settled t rd'
  | rd, [], vs, rd', h, hs => by
    cases h
    exact ⟨.nil, hs⟩
  | rd, n :: ns, vs, rd', h, hs => by
    rw [readColumns] at h
    obtain ⟨⟨v, rd₁⟩, hv, h⟩ := bind_eq_ok h
    obtain ⟨⟨vs', rd₂⟩, hvs, h⟩ := bind_eq_ok h
    cases h
    obtain ⟨k, hk, rfl, hs₁⟩ := readColumn_final hv hs
    obtain ⟨hall, hs₂⟩ := readColumns_final hvs hs₁
    exact ⟨.cons ⟨k, hk, rfl⟩ hall, hs₂⟩

/-- Testing filters keeps a reading settled. -/
theorem filtersOn_settled {tables : Tables} :
    ∀ {rd : Reading} {fs : List (Filter × List SqlValue)} {ok : Bool} {rd' : Reading},
      filtersOn tables t r rd fs = .ok (ok, rd') → r.Settled t rd → r.Settled t rd'
  | rd, [], ok, rd', h, hs => by
    cases h
    exact hs
  | rd, (f, bs) :: fs, ok, rd', h, hs => by
    rw [filtersOn] at h
    obtain ⟨rd₁, hneed, h⟩ := bind_eq_ok h
    have hs₁ := Reached.settled_need (liftFailure_eq_ok hneed) hs
    obtain ⟨b, -, h⟩ := bind_eq_ok h
    cases b
    · cases h
      exact hs₁
    · exact filtersOn_settled h hs₁

end Reading

/-- Every row an access path reaches without an index entry is a row of a scan, whose entry
holds no column. -/
theorem Tables.reach_covered {tables : Tables} {t : Table} {a : Access} {r : Reached}
    (hr : r ∈ tables.reach t a) : r.entry = none → r.covered = [] := by
  intro he
  cases a with
  | scan =>
    obtain ⟨_, -, rfl⟩ := List.mem_map.1 hr
    rfl
  | seek i values oneRow backwards =>
    obtain ⟨e, -, hsome⟩ := List.mem_filterMap.1 hr
    split at hsome
    · cases hsome
      cases he
    · cases hsome
  | walk i reverse =>
    obtain ⟨e, -, hsome⟩ := List.mem_filterMap.1 hr
    split at hsome
    · cases hsome
      cases he
    · cases hsome

/-! ## The sort values of a row -/

/-- The collation of a named column of a table. -/
def Sql.Table.collationOf (t : Table) (n : String) : Collation :=
  (((t.columnIndex? n).bind t.column?).map (·.collation)).getD .binary

/-- A named column of a row being read reads the value the reading holds, with the column's
affinity and collation. -/
theorem column_rowScope_eq {t : Table} {r : Reached} {rd : Reading} {n : String} {k : Nat}
    {c : Column} (hk : t.columnIndex? n = some k) (hc : t.columns[k]? = some c) :
    (rowScope t r rd).column none n =
      .ok ⟨rd.values.getD k .null, some c.affinity, some c.collation, false, false⟩ := by
  have hidx : t.frameColumns.findIdx? (fun c => sameName c.1 n) = some k := by
    rw [Table.frameColumns, List.findIdx?_map]
    exact hk
  have hany : t.frameColumns.any (fun c => sameName c.1 n) = true := by
    rw [← List.findIdx?_isSome, hidx]
    rfl
  have hframe : t.frameColumns[k]? = some (c.name, some c.affinity, c.collation) := by
    simp [Table.frameColumns, hc]
  -- the row's one frame has the column, and no other frame competes for the name
  simp [rowScope, Sql.Scope.column, Sql.Scope.levels, Sql.Scope.unqualified, Sql.Scope.readers,
    Table.frame, Table.frameWith, hany, Frame.lookup, hidx, hframe]

/-- A named column of a row being read reads the value the reading holds, under the column's
collation. -/
theorem column_rowScope {t : Table} {n : String} {k : Nat} (hk : t.columnIndex? n = some k)
    (r : Reached) (rd : Reading) :
    ∃ aff, (rowScope t r rd).column none n =
      .ok ⟨rd.values.getD k .null, aff, some (t.collationOf n), false, false⟩ := by
  have hlt := Sql.Table.columnIndex?_lt hk
  have hcoll : t.collationOf n = t.columns[k].collation := by
    simp [Table.collationOf, hk, Table.column?, hlt]
  rw [hcoll]
  exact ⟨_, column_rowScope_eq hk (List.getElem?_eq_getElem hlt)⟩

theorem jsonFunction_extract (written : String) (args : List SqlJson.JsonArg) :
    SqlJson.jsonFunction "JSON_EXTRACT" written args = some (SqlJson.extract .value false args) :=
  rfl

/-- A field of a document, as `json_extract` gives it, carries no collation. -/
theorem field_collation {sc : Sql.Scope} {enc : TextEncoding} {p : FieldPath} {x : Typed}
    (h : sc.evalTyped enc (Filter.field p) = .ok x) : x.collation = none := by
  unfold Sql.Scope.evalTyped at h
  rw [show Tables.evalFuel = 99999 + 1 from rfl, Tables.evalTyped.eq_def] at h
  have hname : upperAscii "json_extract" = "JSON_EXTRACT" := by decide
  have hagg : Aggregate.ofCall "JSON_EXTRACT" 2 false = none := by decide
  simp only [Filter.field, hname, List.length_cons, List.length_nil, Nat.reduceAdd, hagg,
    Bool.false_eq_true, if_false] at h
  -- `json_extract` is no aggregate and none of the functions the engine evaluates itself
  split at h
  all_goals first
    | (rename_i heq; exact absurd heq (by decide))
    | skip
  simp only [jsonFunction_extract] at h
  obtain ⟨typed, -, h⟩ := bind_eq_ok h
  obtain ⟨r, -, h⟩ := bind_eq_ok h
  cases h
  rfl

namespace Tables

/-- A row of a document query as the loop over the reached rows gathers it: a sort value for
each of `n` fields, under no collation, then the collection and the id under their columns'
collations; and the document columns, whose collection and id are those two sort values. -/
def SortRow (t : Table) (n : Nat) (row : List Typed × List SqlValue) : Prop :=
  ∃ fields c d data, row.1 = fields ++ [c, d] ∧ fields.length = n ∧
    (∀ f ∈ fields, f.collation = none) ∧ c.collation = some (t.collationOf "collection_id") ∧
    d.collation = some (t.collationOf "doc_id") ∧ row.2 = [c.value, d.value, data]

/-- A row read from a settled reading, completed and given its sort values, has the shape of a
row of a document query: the collection and id it is sorted by are those it is read with. -/
theorem sortRow_of_read {t : Table} {r : Reached} {keys : List SortKey} {rd rd₁ rd₂ : Reading}
    {vals : List SqlValue} {sk : List Typed} (hs : r.Settled t rd)
    (hread : readColumns t r rd documentColumns = .ok (vals, rd₁))
    (hcomplete : r.complete t rd₁ = .ok rd₂)
    (hsort : sortKeys (rowScope t r rd₂) r.encoding keys = .ok sk) :
    SortRow t keys.length (sk, vals) := by
  obtain ⟨hcols, hs₁⟩ := readColumns_final hread hs
  unfold documentColumns at hcols
  obtain _ | ⟨⟨kc, hkc, rfl⟩, hcols⟩ := hcols
  obtain _ | ⟨⟨kd, hkd, rfl⟩, hcols⟩ := hcols
  obtain _ | ⟨⟨ka, -, rfl⟩, hcols⟩ := hcols
  cases hcols
  have hs₂ := Reached.settled_complete hcomplete hs₁
  have hc₂ := Reached.complete_complete hcomplete
  unfold sortKeys at hsort
  obtain ⟨fields, hfields, hsort⟩ := bind_eq_ok hsort
  obtain ⟨c, hc, hsort⟩ := bind_eq_ok hsort
  obtain ⟨d, hd, hsort⟩ := bind_eq_ok hsort
  cases hsort
  -- the collection and the id are read from the completed row
  obtain ⟨affc, hcol⟩ := column_rowScope hkc r rd₂
  obtain ⟨affd, hdol⟩ := column_rowScope hkd r rd₂
  rw [hcol] at hc
  rw [hdol] at hd
  cases hc
  cases hd
  refine ⟨fields, _, _, r.final t ka, rfl, Query.mapM_length hfields, fun f hf => ?_, rfl, rfl, ?_⟩
  · obtain ⟨k, -, hk⟩ := mapM_mem hfields f hf
    exact field_collation hk
  · rw [hs₂ kc (Sql.Table.columnIndex?_lt hkc) (.inl hc₂),
      hs₂ kd (Sql.Table.columnIndex?_lt hkd) (.inl hc₂)]

theorem SortRow.collations {t : Table} {n : Nat} {row : List Typed × List SqlValue}
    (h : SortRow t n row) : collations row.1 =
      List.replicate n .binary ++ [t.collationOf "collection_id", t.collationOf "doc_id"] := by
  obtain ⟨fields, c, d, data, h₁, hlen, hnone, hc, hd, -⟩ := h
  -- the fields carry no collation, and so are compared as bytes
  have hfields : fields.map (fun x => x.collation.getD .binary) = List.replicate n .binary := by
    refine List.eq_replicate_iff.2 ⟨by rw [List.length_map, hlen], fun x hx => ?_⟩
    obtain ⟨f, hf, rfl⟩ := List.mem_map.1 hx
    simp [hnone f hf]
  rw [h₁, Sql.collations, List.map_append, hfields]
  simp [hc, hd]

end Tables

/-! ## Rows that name different documents -/

/-- Two result rows name different documents of a table: they differ on the collection or on the
id, as the table's collations order those columns. -/
def Sql.Table.KeysApart (t : Table) (enc : TextEncoding) (a b : Row) : Prop :=
  SqlValue.compareIn enc (t.collationOf "collection_id") ((a.get? "collection_id").getD .null)
      ((b.get? "collection_id").getD .null) ≠ .eq ∨
    SqlValue.compareIn enc (t.collationOf "doc_id") ((a.get? "doc_id").getD .null)
      ((b.get? "doc_id").getD .null) ≠ .eq

theorem Sql.Table.KeysApart.symm {t : Table} {enc : TextEncoding} {a b : Row}
    (h : t.KeysApart enc a b) : t.KeysApart enc b a := by
  unfold Sql.Table.KeysApart at h ⊢
  rw [SqlValue.compareIn_swap enc _ ((b.get? "collection_id").getD _),
    SqlValue.compareIn_swap enc _ ((b.get? "doc_id").getD _),
    Ne, Ne, Ordering.swap_eq_eq, Ordering.swap_eq_eq]
  exact h

namespace Tables

theorem orderTerms_nullsFirst (keys : List SortKey) (tiebreak : Direction) :
    ∀ o ∈ orderTerms keys tiebreak, o.nullsFirst = none := by
  intro o ho
  simp only [orderTerms, List.mem_append, List.mem_map, List.mem_cons, List.not_mem_nil,
    or_false] at ho
  rcases ho with ⟨k, -, rfl⟩ | rfl | rfl <;> rfl

/-- Rows of a document query that name different documents never tie: their last two sort values
differ. -/
theorem compareSortKeys_ne_eq {t : Table} {keys : List SortKey} {tiebreak : Direction}
    {enc : TextEncoding} {x y : List Typed × List SqlValue} (hx : SortRow t keys.length x)
    (hy : SortRow t keys.length y)
    (h : t.KeysApart enc (resultRow documentColumns x.2) (resultRow documentColumns y.2)) :
    compareSortKeys enc (orderTerms keys tiebreak) x.1 y.1 ≠ .eq := by
  obtain ⟨fx, cx, dx, ax, hx₁, hxl, -, hcx, hdx, hx₂⟩ := hx
  obtain ⟨fy, cy, dy, ay, hy₁, hyl, -, hcy, hdy, hy₂⟩ := hy
  rw [hx₂, hy₂] at h
  simp only [Sql.Table.KeysApart, resultRow, documentColumns, Row.get?, List.zip_cons_cons,
    List.zip_nil_right, List.find?_cons, beq_self_eq_true, Option.getD_some] at h
  rw [hx₁, hy₁, orderTerms, compareSortKeys_append (by simp [hxl]) (by simp [hyl]),
    compareSortKeys_cons, compareSortKeys_cons, compareSortKeys_nil_left,
    termOrder_eq_directed rfl, termOrder_eq_directed rfl, hcx, hdx]
  -- a tie would need both the collection and the id to tie
  intro heq
  simp only [Ordering.then_eq_eq, Option.getD_some, directed_eq_eq_iff] at heq
  rcases h with h | h
  · exact h heq.2.1
  · have hne : ("collection_id" == "doc_id") = false := by decide
    simp only [hne] at h
    exact h heq.2.2.1

/-! ## The plan and the bindings of a document query -/

/-- The access path of a query that is not ordered by its tie break alone does not depend on the
direction of the tie break, and never gives the rows in order. -/
theorem documentAccess_unordered (tables : Tables) (t : Table)
    (src : Option (Filter × List SqlValue)) (d : Direction) :
    tables.documentAccess t src false false d = tables.documentAccess t src false false .asc ∧
      (tables.documentAccess t src false false .asc).inOrder = false := by
  unfold documentAccess
  dsimp only
  rcases src with _ | ⟨f, bs⟩
  · exact ⟨rfl, rfl⟩
  cases hci : t.columnIndex? "collection_id" with
  | none => cases f <;> exact ⟨rfl, rfl⟩
  | some c =>
    cases f with
    | collectionIs =>
      dsimp only
      cases lookupIndex tables.schema t [c] with
      | none => exact ⟨rfl, rfl⟩
      | some im =>
        dsimp only
        split
        · -- an unordered query never reads the index in order
          rename_i heq
          split at heq <;> simp at heq
        · exact ⟨rfl, rfl⟩
    | inGroup => exact ⟨rfl, rfl⟩
    | _ => exact ⟨rfl, rfl⟩

theorem splitBindings_append (extra : List SqlValue) :
    ∀ {fs : List Filter} {bs : List SqlValue}, (fs.map Filter.arity).sum ≤ bs.length →
      splitBindings fs (bs ++ extra) = ((splitBindings fs bs).1, (splitBindings fs bs).2 ++ extra)
  | [], bs, _ => rfl
  | f :: fs, bs, h => by
    rw [List.map_cons, List.sum_cons] at h
    have hf : f.arity ≤ bs.length := by omega
    rw [splitBindings, splitBindings, List.take_append_of_le_length hf,
      List.drop_append_of_le_length hf, splitBindings_append extra (by simp; omega)]

theorem splitBindings_snd : ∀ (fs : List Filter) (bs : List SqlValue),
    (splitBindings fs bs).2 = bs.drop (fs.map Filter.arity).sum
  | [], bs => rfl
  | f :: fs, bs => by
    rw [splitBindings, splitBindings_snd fs, List.drop_drop, List.map_cons, List.sum_cons,
      Nat.add_comm]

/-- The bindings of a document query's filters, followed by more: each filter takes its own, and
the rest are left over. -/
theorem splitBindings_exact {fs : List Filter} {bs : List SqlValue}
    (hlen : bs.length = (fs.map Filter.arity).sum) (extra : List SqlValue) :
    splitBindings fs (bs ++ extra) = ((splitBindings fs bs).1, extra) ∧
      splitBindings fs bs = ((splitBindings fs bs).1, []) := by
  have hnil : (splitBindings fs bs).2 = [] := by
    rw [splitBindings_snd, ← hlen, List.drop_length]
  refine ⟨?_, ?_⟩
  · rw [splitBindings_append extra hlen.ge, hnil, List.nil_append]
  · rw [← hnil]

end Tables

/-- The sort key with the other direction. -/
def SortKey.reversed (k : SortKey) : SortKey := ⟨k.path, k.direction.flipped⟩

namespace Tables

/-- The sort values of a row depend on the fields of the keys only. -/
theorem sortKeys_reversed (sc : Sql.Scope) (enc : TextEncoding) (keys : List SortKey) :
    sortKeys sc enc (keys.map SortKey.reversed) = sortKeys sc enc keys := by
  unfold sortKeys
  rw [List.mapM_map]
  rfl

/-- Flipping every key and the tie break flips every ordering term. -/
theorem orderTerms_reversed (keys : List SortKey) :
    orderTerms (keys.map SortKey.reversed) .desc = (orderTerms keys .asc).map OrderTerm.reversed := by
  simp only [orderTerms, List.map_map, List.map_append, List.map_cons, List.map_nil]
  congr 1
  refine List.map_congr_left fun k _ => ?_
  cases hd : k.direction <;> simp [SortKey.reversed, OrderTerm.reversed, Direction.flipped, hd]

/-! ## Reading the documents: limited, and in reverse -/

variable {tables : Tables} {t : Table}

/-- The loop of a document query gathers rows of the shape `SortRow`. -/
theorem gather_sortRow {keys : List SortKey} {filters : List (Filter × List SqlValue)}
    {r : Reached} {a : Access} (hr : r ∈ tables.reach t a)
    {rows : List (List Typed × List SqlValue)} (hrows : ∀ y ∈ rows, SortRow t keys.length y)
    {s : ForInStep (List (List Typed × List SqlValue))}
    (hs : (do
        let x ← filtersOn tables t r (r.start t) filters
        if x.1 = true then do
            let x ← readColumns t r x.2 documentColumns
            let rd ← liftFailure (r.complete t x.2)
            let sk ← sortKeys (rowScope t r rd) r.encoding keys
            pure (ForInStep.yield (rows ++ [(sk, x.1)]))
          else pure (ForInStep.yield rows)) = Except.ok s) :
    ∃ rows', s = .yield rows' ∧ ∀ y ∈ rows', SortRow t keys.length y := by
  obtain ⟨⟨ok, rd⟩, hf, hs⟩ := bind_eq_ok hs
  have hsettled := filtersOn_settled hf (Reached.settled_start (reach_covered hr))
  cases ok
  · cases hs
    exact ⟨rows, rfl, hrows⟩
  · obtain ⟨⟨vals, rd₁⟩, hread, hs⟩ := bind_eq_ok hs
    obtain ⟨rd₂, hcomplete, hs⟩ := bind_eq_ok hs
    obtain ⟨sk, hsort, hs⟩ := bind_eq_ok hs
    cases hs
    refine ⟨_, rfl, fun y hy => ?_⟩
    rcases List.mem_append.1 hy with hy | hy
    · exact hrows y hy
    · rw [List.mem_singleton.1 hy]
      exact sortRow_of_read hsettled hread (liftFailure_eq_ok hcomplete) hsort

/-- A limited read of the documents keeps the first rows of the unlimited read. -/
theorem selectFromTable_limited {fs : List Filter} {keys : List SortKey} {bs : List SqlValue}
    (hlen : bs.length = (fs.map Filter.arity).sum) {m : Int} (hm : 0 ≤ m) :
    Tally (fun rows rows' => rows' = rows.take m.toNat)
      (tables.selectFromTable t fs keys .asc false bs)
      (tables.selectFromTable t fs keys .asc true (bs ++ [.integer m])) := by
  obtain ⟨happ, hexact⟩ := splitBindings_exact hlen [.integer m]
  unfold selectFromTable
  rw [happ, hexact]
  dsimp only
  -- both gather and sort the same rows; only the limit cuts
  refine (Tally.refl _).bind fun rows rows' h => ?_
  subst h
  have hm' : ¬m < 0 := by omega
  exact .ok (by simp [applyLimit, bindingAt, hm', List.map_take])

/-- A read of the documents with every direction and the tie break flipped, and a limit, keeps the
first rows of the reverse of the read with neither, when those name different documents. -/
theorem selectFromTable_reversed {fs : List Filter} {keys : List SortKey} {bs : List SqlValue}
    (hkeys : keys ≠ []) (hlen : bs.length = (fs.map Filter.arity).sum) {m : Int} (hm : 0 ≤ m) :
    Tally (fun rows rows' => rows.Pairwise (t.KeysApart tables.encoding) →
        rows' = rows.reverse.take m.toNat)
      (tables.selectFromTable t fs keys .asc false bs)
      (tables.selectFromTable t fs (keys.map SortKey.reversed) .desc true (bs ++ [.integer m])) := by
  obtain ⟨happ, hexact⟩ := splitBindings_exact hlen [.integer m]
  have hne : keys.isEmpty = false := List.isEmpty_eq_false_iff.2 hkeys
  have hts := orderTerms_nullsFirst keys .asc
  obtain ⟨hacc, hin⟩ := documentAccess_unordered tables t (splitBindings fs bs).1.head? .desc
  unfold selectFromTable
  rw [happ, hexact]
  dsimp only
  rw [List.isEmpty_map, hne, hacc]
  simp only [sortKeys_reversed, orderTerms_reversed, compareSortKeys_reversed hts, hin]
  -- both gather the same rows, each of the shape of a document row
  refine (Tally.forIn (R := fun rows rows' => rows = rows' ∧ ∀ y ∈ rows, SortRow t keys.length y)
    _ ?_ ⟨rfl, by simp⟩).bind fun rows rows' hrows => ?_
  · intro r hr rows rows' hrel
    obtain ⟨rfl, hrows⟩ := hrel
    refine Tally.self fun s hs => ?_
    obtain ⟨rows', rfl, hrows'⟩ := gather_sortRow hr hrows hs
    exact .yield ⟨rfl, hrows'⟩
  obtain ⟨rfl, hrows⟩ := hrows
  refine .ok fun hapart => ?_
  have hm' : ¬m < 0 := by omega
  simp only [applyLimit, Bool.false_eq_true, if_false, if_true, bindingAt, List.getD_cons_zero,
    hm'] at hapart ⊢
  -- the rows are ordered by a total preorder, and no two of them tie
  have hcoll : ∀ a ∈ rows, ∀ b ∈ rows, collations a.1 = collations b.1 := fun a ha b hb => by
    rw [(hrows a ha).collations, (hrows b hb).collations]
  have hswap : ∀ a ∈ rows, ∀ b ∈ rows, compareSortKeys tables.encoding (orderTerms keys .asc) b.1 a.1 =
      (compareSortKeys tables.encoding (orderTerms keys .asc) a.1 b.1).swap :=
    fun a ha b hb => compareSortKeys_swap hts (hcoll a ha b hb)
  have htrans : ∀ a ∈ rows, ∀ b ∈ rows, ∀ c ∈ rows,
      (compareSortKeys tables.encoding (orderTerms keys .asc) a.1 b.1).isLE →
      (compareSortKeys tables.encoding (orderTerms keys .asc) b.1 c.1).isLE →
      (compareSortKeys tables.encoding (orderTerms keys .asc) a.1 c.1).isLE :=
    fun a ha b hb c hc => compareSortKeys_isLE_trans hts (hcoll a ha b hb) (hcoll b hb c hc)
  have hapart' : rows.Pairwise fun a b =>
      t.KeysApart tables.encoding (resultRow documentColumns a.2) (resultRow documentColumns b.2) :=
    ((List.mergeSort_perm rows _).pairwise_iff fun h => h.symm).1 (List.pairwise_map.1 hapart)
  have hdistinct : rows.Pairwise fun a b =>
      compareSortKeys tables.encoding (orderTerms keys .asc) a.1 b.1 ≠ .eq :=
    hapart'.imp_of_mem fun ha hb h => compareSortKeys_ne_eq (hrows _ ha) (hrows _ hb) h
  rw [@mergeSort_opposite _ (fun a b => compareSortKeys tables.encoding (orderTerms keys .asc) a.1 b.1)
    rows hswap htrans hdistinct]
  simp [List.map_take, List.map_reverse]

/-! ## Reading and running the statements

The statements with and without a limit, or with their sort keys and tie break flipped, name the
same columns: the document columns and those of the filters. -/

theorem Piece.column_mem_sepBy {n sep : String} :
    ∀ {gs : List (List Piece)}, Piece.column n ∈ Piece.sepBy sep gs ↔ ∃ g ∈ gs, Piece.column n ∈ g
  | [] => by simp [Piece.sepBy]
  | [g] => by simp [Piece.sepBy]
  | g :: g' :: gs => by
    simp only [Piece.sepBy, List.mem_append, @column_mem_sepBy n sep (g' :: gs)]
    simp

theorem column_mem_selectDocuments_iff {fs : List Filter} {keys : List SortKey}
    {tiebreak : Direction} {limited : Bool} {n : String} :
    Piece.column n ∈ (Statement.selectDocuments fs keys tiebreak limited).pieces ↔
      Piece.column n ∈ Statement.documentList ∨
        Piece.column n ∈ Piece.sepBy " AND " (fs.map Filter.pieces) := by
  simp only [Statement.pieces, List.mem_append, Piece.column_mem_sepBy, Statement.documentList]
  -- a sort key reads only the data column, and the tie break only the key columns
  constructor
  · rintro ((((h | h) | h) | ⟨g, hg, hn⟩) | h)
    all_goals grind [FieldPath.pieces]
  · rintro (h | h) <;> simp_all

section Running

variable {fs : List Filter} {bs : List SqlValue} {m : Int}

theorem relation_of_table (ht : tables.schema.table? "documents" = some t) :
    tables.relation "documents" = .ok (.table t) := by
  simp [relation, ht]

theorem read_limited (ht : tables.schema.table? "documents" = some t) {keys : List SortKey}
    (hlen : bs.length = (fs.map Filter.arity).sum) (hm : 0 ≤ m) :
    Tally (fun rows rows' => rows' = rows.take m.toNat)
      (tables.read (.selectDocuments fs keys .asc false) bs)
      (tables.read (.selectDocuments fs keys .asc true) (bs ++ [.integer m])) := by
  unfold read
  dsimp only
  refine (resolveNames_agrees fun n h => ?_).bind fun _ _ _ => ?_
  · exact column_mem_selectDocuments_iff.2 (column_mem_selectDocuments_iff.1 h)
  · simp only [relation_of_table ht, ok_bind]
    exact selectFromTable_limited hlen hm

theorem read_reversed (ht : tables.schema.table? "documents" = some t) {keys : List SortKey}
    (hkeys : keys ≠ []) (hlen : bs.length = (fs.map Filter.arity).sum) (hm : 0 ≤ m) :
    Tally (fun rows rows' => rows.Pairwise (t.KeysApart tables.encoding) →
        rows' = rows.reverse.take m.toNat)
      (tables.read (.selectDocuments fs keys .asc false) bs)
      (tables.read (.selectDocuments fs (keys.map SortKey.reversed) .desc true)
        (bs ++ [.integer m])) := by
  unfold read
  dsimp only
  refine (resolveNames_agrees fun n h => ?_).bind fun _ _ _ => ?_
  · exact column_mem_selectDocuments_iff.2 (column_mem_selectDocuments_iff.1 h)
  · simp only [relation_of_table ht, ok_bind]
    exact selectFromTable_reversed hkeys hlen hm

variable {readOnly : Bool} {t' : Tables} {changes : List Change} {rows : List Row}

theorem conformValue_append_integer (enc : TextEncoding) (bs : List SqlValue) (m : Int) :
    (bs ++ [SqlValue.integer m]).map enc.conformValue = bs.map enc.conformValue ++ [.integer m] := by
  simp [TextEncoding.conformValue]

/-- Two reading statements whose reads agree run alike: the rows of the first relate to those of
the second, or a trigger ended both with no rows. -/
theorem execute_of_tally {s s' : Statement} (hs : writes s = false) (hs' : writes s' = false)
    {bs bs' : List SqlValue} {R : List Row → List Row → Prop}
    (hag : Tally R (tables.read s (bs.map tables.encoding.conformValue))
      (tables.read s' (bs'.map tables.encoding.conformValue)))
    (h : tables.execute s bs readOnly = .ok (t', changes, rows)) :
    ∃ rows', tables.execute s' bs' readOnly = .ok (t', changes, rows') ∧
      (R rows rows' ∨ rows = [] ∧ rows' = []) := by
  unfold execute at h ⊢
  simp only [hs, hs', Bool.false_eq_true, if_false] at h ⊢
  rcases hr : tables.read s (bs.map tables.encoding.conformValue) with (f | _) | rows₀
  · rw [hr] at h
    cases h
  · -- ignored: no rows on either side
    rw [hr] at h hag
    cases h
    exact ⟨[], by rw [hag.ignore_left], .inr ⟨rfl, rfl⟩⟩
  · rw [hr] at h hag
    cases h
    obtain ⟨rows', hrows, hrel⟩ := hag.ok_left
    exact ⟨rows', by rw [hrows], .inl hrel⟩

/-- When the engine runs the unlimited query to rows, it runs the limited one to their first
rows. -/
theorem execute_limited (ht : tables.schema.table? "documents" = some t) {keys : List SortKey}
    (hlen : bs.length = (fs.map Filter.arity).sum) (hm : 0 ≤ m)
    (h : tables.execute (.selectDocuments fs keys .asc false) bs readOnly = .ok (t', changes, rows)) :
    tables.execute (.selectDocuments fs keys .asc true) (bs ++ [.integer m]) readOnly =
      .ok (t', changes, rows.take m.toNat) := by
  have hag : Tally _ (tables.read (.selectDocuments fs keys .asc false)
      (bs.map tables.encoding.conformValue)) (tables.read (.selectDocuments fs keys .asc true)
      (bs.map tables.encoding.conformValue ++ [.integer m])) :=
    read_limited ht (by simpa using hlen) hm
  rw [← conformValue_append_integer] at hag
  obtain ⟨rows', hrun, rfl | ⟨rfl, rfl⟩⟩ := execute_of_tally rfl rfl hag h
  · exact hrun
  · simpa using hrun

/-- When the engine runs the unlimited query to rows that name different documents, it runs the
flipped and limited one to the first rows of their reverse. -/
theorem execute_reversed (ht : tables.schema.table? "documents" = some t) {keys : List SortKey}
    (hkeys : keys ≠ []) (hlen : bs.length = (fs.map Filter.arity).sum) (hm : 0 ≤ m)
    (h : tables.execute (.selectDocuments fs keys .asc false) bs readOnly = .ok (t', changes, rows))
    (hapart : rows.Pairwise (t.KeysApart tables.encoding)) :
    tables.execute (.selectDocuments fs (keys.map SortKey.reversed) .desc true) (bs ++ [.integer m])
      readOnly = .ok (t', changes, rows.reverse.take m.toNat) := by
  have hag : Tally _ (tables.read (.selectDocuments fs keys .asc false)
      (bs.map tables.encoding.conformValue))
      (tables.read (.selectDocuments fs (keys.map SortKey.reversed) .desc true)
      (bs.map tables.encoding.conformValue ++ [.integer m])) :=
    read_reversed ht hkeys (by simpa using hlen) hm
  rw [← conformValue_append_integer] at hag
  obtain ⟨rows', hrun, hcut | ⟨rfl, rfl⟩⟩ := execute_of_tally rfl rfl hag h
  · rw [hrun, hcut hapart]
  · simpa using hrun

end Running

end Tables

end DocStore
