import DocStore.Proofs.StatementLayouts
import DocStore.Proofs.QueryLimits
import Mathlib.Data.List.Forall2
/-!
# Statements read as built

What the engine reads from a statement the store builds out of caller text, with each `?` standing
for the value bound to it (`BoundLexeme`), is given here in the terms of the store:
`selectLexemes` for a query, `countLexemes` for a count and `indexLexemes` for an index. In them a
field of the caller appears only as a string literal whose text is the field's JSON path
(`extractLexemes`), a collection path only as a binding (in an index, as a string literal), a
compared value only as a binding, and the values are bound in the order the `?` stand: the
source's, each `where` constraint's, then the limit's. The main statement is
`statements_read_as_built`: the engine reads every such statement as these lexemes
(`ReadsAs`), as long as no field or collection path holds a NUL.

The proof relates the layouts of `StatementLayouts` to the lexemes (`StandsFor`): one lemma per
filter (`sourceFilter_standsFor`, `whereFilter_standsFor`), lifted to all the filters of a query
through the selection of its `where` constraints (`forall₂_filterMapM`, `predicates_standsFor`).
-/

namespace DocStore

open Sql

/-! ## Statements with their values in place -/

namespace Sql

/-- A lexeme of a statement as the engine reads it, or a value bound to one of its `?` markers. -/
inductive BoundLexeme where
  | lexeme (kind : TokenKind) (text : String)
  | binding (v : SqlValue)
deriving DecidableEq, Repr

namespace BoundLexeme

/-- The lexeme the text shows: `?` for a binding. -/
def written : BoundLexeme → TokenKind × String
  | lexeme kind text => (kind, text)
  | binding _ => (.variable, "?")

/-- The value bound, if any. -/
def bound? : BoundLexeme → Option SqlValue
  | lexeme _ _ => none
  | binding v => some v

/-- A bare word. -/
def word (w : String) : BoundLexeme := lexeme .word w

/-- An operator or punctuation. -/
def op (o : String) : BoundLexeme := lexeme .op o

/-- A string literal, by the text it stands for. -/
def literal (v : String) : BoundLexeme := lexeme .string v

end BoundLexeme

/-- The engine reads `text`, bound to `bindings`, as the lexemes `ls`: the lexemes of the text are
those of `ls` with a `?` for each value, and the bindings are the values of `ls` in order. -/
structure ReadsAs (text : String) (bindings : List SqlValue) (ls : List BoundLexeme) : Prop where
  lexemes_eq : lexemes text = ls.map BoundLexeme.written
  bindings_eq : bindings = ls.filterMap BoundLexeme.bound?

end Sql

open Sql.BoundLexeme

/-- `json_extract(data, '<path>')`: the field's JSON path as one string literal. -/
def extractLexemes (field : String) : List BoundLexeme :=
  [word "json_extract", op "(", word "data", op ",", literal (dottedJsonPath field), op ")"]

/-- A `where` constraint with its values in place: none for a comparison with null, one for each
element of an `in` operand (an operand that is no array is refused), one otherwise. -/
def whereLexemes (field : String) : WhereOp → Value → List BoundLexeme
  | .eq, .null => extractLexemes field ++ [word "IS", word "NULL"]
  | .ne, .null => extractLexemes field ++ [word "IS", word "NOT", word "NULL"]
  | .eq, v => extractLexemes field ++ [op "=", binding v.toSql]
  | .ne, v => extractLexemes field ++ [op "!=", binding v.toSql]
  | .lt, v => extractLexemes field ++ [op "<", binding v.toSql]
  | .le, v => extractLexemes field ++ [op "<=", binding v.toSql]
  | .gt, v => extractLexemes field ++ [op ">", binding v.toSql]
  | .ge, v => extractLexemes field ++ [op ">=", binding v.toSql]
  | .arrayContains, v =>
    [op "(", word "json_type", op "(", word "data", op ",", literal (dottedJsonPath field), op ")",
      op "=", literal "array", word "AND", word "EXISTS", op "(", word "SELECT", lexeme .integer "1",
      word "FROM", word "json_each", op "(", word "data", op ",", literal (dottedJsonPath field),
      op ")", word "WHERE", word "json_each", op ".", word "value", op "=", binding v.toSql, op ")",
      op ")"]
  | .isIn, .arr vs =>
    extractLexemes field ++ [word "IN", op "("] ++
      List.intercalate [op ","] (vs.map fun v => [binding v.toSql]) ++ [op ")"]
  | .isIn, _ => []

/-- The source of a query with its values in place: the collection's path; or the group id, the
length of `/` and the id, and `/` followed by the id. -/
def sourceLexemes : Source → List BoundLexeme
  | .collection c => [word "collection_id", op "=", binding (.ofString c.id)]
  | .group g =>
    [op "(", word "collection_id", op "=", binding (.ofString g.id), word "OR", word "substr", op "(",
      word "collection_id", op ",", op "-", binding (.integer ("/" ++ g.id).length), op ")", op "=",
      binding (.ofString ("/" ++ g.id)), op ")"]

namespace Query

/-- The conditions of a query with their values in place: its source, then each `where` in
order. -/
def conditionLexemes (q : Query) : List (List BoundLexeme) :=
  sourceLexemes q.source :: q.constraints.filterMap fun c => match c with
    | .filter field op value => some (whereLexemes field op value)
    | _ => none

/-- The fields of the `where` constraints, in order. -/
def whereFields (q : Query) : List String :=
  q.constraints.filterMap fun c => match c with
    | .filter field _ _ => some field
    | _ => none

/-- The fields of the `orderBy` constraints, in order. -/
def orderFields (q : Query) : List String :=
  q.constraints.filterMap fun c => match c with
    | .orderBy field _ => some field
    | _ => none

end Query

/-- A document `SELECT` with its values in place. -/
def selectLexemes (conditions : List (List BoundLexeme)) (keys : List (String × Direction))
    (tiebreak : Direction) (limit : Option SqlValue) : List BoundLexeme :=
  [word "SELECT", word "collection_id", op ",", word "doc_id", op ",", word "data", word "FROM",
    word "documents", word "WHERE"] ++
  List.intercalate [word "AND"] conditions ++ [word "ORDER", word "BY"] ++
  List.intercalate [op ","] (keys.map (fun k => extractLexemes k.1 ++ [word k.2.sqlText]) ++
    [[word "collection_id", word tiebreak.sqlText], [word "doc_id", word tiebreak.sqlText]]) ++
  match limit with
  | some n => [word "LIMIT", binding n]
  | none => []

/-- A document count with its values in place. -/
def countLexemes (conditions : List (List BoundLexeme)) : List BoundLexeme :=
  [word "SELECT", word "COUNT", op "(", op "*", op ")", word "AS", word "count", word "FROM",
    word "documents", word "WHERE"] ++ List.intercalate [word "AND"] conditions

/-- A partial index: its name quoted, the field's JSON path and the collection as literals. -/
def indexLexemes (name field coll : String) : List BoundLexeme :=
  [word "CREATE", word "INDEX", word "IF", word "NOT", word "EXISTS", lexeme .quoted name, word "ON",
    word "documents", op "("] ++ extractLexemes field ++
  [op ")", word "WHERE", word "collection_id", op "=", literal coll]

/-! ## Layouts with their values in place -/

/-- A layout stands for lexemes with values: its lexemes are theirs with a `?` for each value,
and `bindings` are the values in order. -/
structure StandsFor (lay : List Layout) (bindings : List SqlValue) (ls : List BoundLexeme) : Prop where
  lexemes_eq : lay.filterMap Layout.lexeme = ls.map written
  bindings_eq : bindings = ls.filterMap bound?

namespace StandsFor

theorem append {lay lay' : List Layout} {bs bs' : List SqlValue} {ls ls' : List BoundLexeme}
    (h : StandsFor lay bs ls) (h' : StandsFor lay' bs' ls') : StandsFor (lay ++ lay') (bs ++ bs') (ls ++ ls') :=
  ⟨by rw [List.filterMap_append, List.map_append, h.lexemes_eq, h'.lexemes_eq],
    by rw [List.filterMap_append, h.bindings_eq, h'.bindings_eq]⟩

/-- Groups joined by a separator without values, each group with its own values. -/
theorem intercalate {sep : List Layout} {sepLs : List BoundLexeme} (hsep : StandsFor sep [] sepLs) :
    ∀ (gs : List (List Layout × List SqlValue)) (lss : List (List BoundLexeme)),
      List.Forall₂ (fun g ls => StandsFor g.1 g.2 ls) gs lss →
      StandsFor (List.intercalate sep (gs.map Prod.fst)) (gs.map Prod.snd).flatten
        (List.intercalate sepLs lss)
  | [], [], .nil => ⟨rfl, rfl⟩
  | [_], [_], .cons h .nil => by simpa using h
  | g :: g' :: gs, ls :: ls' :: lss, .cons h (.cons h' hs) => by
    have hrest := intercalate hsep (g' :: gs) (ls' :: lss) (.cons h' hs)
    simp only [List.map_cons, List.intercalate_cons_cons, List.flatten_cons] at hrest ⊢
    have := (h.append hsep).append hrest
    simpa [List.append_assoc] using this

end StandsFor

theorem sourceFilter_standsFor (s : Source) :
    StandsFor (Query.sourceFilter s).1.layout (Query.sourceFilter s).2 (sourceLexemes s) := by
  cases s <;> exact ⟨rfl, rfl⟩

theorem markers_standsFor (vs : List SqlValue) :
    StandsFor (markersLayout vs.length) vs (List.intercalate [op ","] (vs.map fun v => [binding v])) := by
  have h := StandsFor.intercalate (⟨rfl, rfl⟩ : StandsFor [.punct .comma, .blank] [] [op ","])
    (vs.map fun v => ([.param], [v])) (vs.map fun v => [binding v]) (by
      rw [List.forall₂_map_left_iff, List.forall₂_map_right_iff]
      exact List.forall₂_same.2 fun v _ => ⟨rfl, rfl⟩)
  have hflat : (vs.map fun v => [v]).flatten = vs := by
    rw [← List.flatMap_def, List.flatMap_singleton']
  simpa [markersLayout, Function.comp_def, List.map_const', hflat] using h

theorem whereFilter_standsFor {field : String} {op : WhereOp} {value : Value} {flt : Filter}
    {bs : List SqlValue} (h : Query.whereFilter field op value = .ok (flt, bs)) :
    StandsFor flt.layout bs (whereLexemes field op value) ∧
      ∀ p ∈ flt.path?, p = ⟨field, dotSegments field⟩ := by
  unfold Query.whereFilter at h
  rcases hp : FieldPath.parse field with e | path
  · simp [hp, bind, Except.bind] at h
  obtain rfl := FieldPath.eq_of_parse hp
  simp only [hp, bind, Except.bind] at h
  cases op <;> cases value <;>
    simp only [Query.inOperand, pure, Except.pure, Except.ok.injEq, Prod.mk.injEq, reduceCtorEq] at h
  case isIn.arr vs =>
    -- an `in` binds each element of its operand, which is not empty
    cases vs with
    | nil => simp at h
    | cons v vs =>
      simp only [Except.ok.injEq, Prod.mk.injEq] at h
      obtain ⟨rfl, rfl⟩ := h
      refine ⟨?_, by simp [Filter.path?]⟩
      have hm := markers_standsFor ((v :: vs).map Value.toSql)
      rw [List.length_map, List.map_map] at hm
      have hopen : StandsFor (FieldPath.layout ⟨field, dotSegments field⟩ ++
          [.blank, .word "IN", .blank, .punct .lparen]) [] (extractLexemes field ++ [word "IN", op "("]) :=
        ⟨rfl, rfl⟩
      have hclose : StandsFor [.punct .rparen] [] [op ")"] := ⟨rfl, rfl⟩
      simpa [Filter.layout, whereLexemes, Function.comp_def] using (hopen.append hm).append hclose
  all_goals
    obtain ⟨rfl, rfl⟩ := h
    exact ⟨⟨rfl, rfl⟩, by simp [Filter.path?]⟩

theorem ReadsAs.of_layout {text : String} {lay : List Layout} {bs : List SqlValue}
    {ls : List BoundLexeme} (htext : text.toList = lay.flatMap Layout.chars)
    (hsp : Layout.spaced lay none = true) (hm : StandsFor lay bs ls) : ReadsAs text bs ls :=
  ⟨by rw [lexemes_of_layout htext hsp, hm.lexemes_eq], hm.bindings_eq⟩

/-- What a selection in `Except` selects, element by element, against a selection by a pure
function: both pick the same elements, and each pair is related. -/
theorem forall₂_filterMapM {α β γ ε : Type} {g : α → Except ε (Option β)} {h : α → Option γ}
    {R : β → γ → Prop} :
    ∀ {l : List α} {bs : List β},
      (∀ a ∈ l, ∀ b, g a = .ok (some b) → ∃ y, h a = some y ∧ R b y) →
      (∀ a ∈ l, g a = .ok none → h a = none) →
      l.filterMapM g = .ok bs → List.Forall₂ R bs (l.filterMap h)
  | [], bs, _, _, hl => by
    simp only [List.filterMapM_nil, pure, Except.pure, Except.ok.injEq] at hl
    subst hl
    exact .nil
  | a :: l, bs, hs, hn, hl => by
    have hs' : ∀ a ∈ l, ∀ b, g a = .ok (some b) → ∃ y, h a = some y ∧ R b y :=
      fun a ha => hs a (List.mem_cons_of_mem _ ha)
    have hn' : ∀ a ∈ l, g a = .ok none → h a = none := fun a ha => hn a (List.mem_cons_of_mem _ ha)
    rw [List.filterMapM_cons] at hl
    rcases hg : g a with e | (_ | b)
    · simp [hg, bind, Except.bind] at hl
    · rw [hg] at hl
      rw [List.filterMap_cons, hn a List.mem_cons_self hg]
      exact forall₂_filterMapM hs' hn' hl
    · rw [hg] at hl
      rcases hrest : l.filterMapM g with e | bs'
      · simp [hrest, bind, Except.bind] at hl
      · simp only [hrest, bind, Except.bind, pure, Except.pure, Except.ok.injEq] at hl
        subst hl
        obtain ⟨y, hy, hR⟩ := hs a List.mem_cons_self b hg
        rw [List.filterMap_cons, hy]
        exact .cons hR (forall₂_filterMapM hs' hn' hrest)

/-- The conditions of a query's filters stand for its conditions with their values in place,
and every path they read is the dotted path of one of its `where` fields. -/
theorem predicates_standsFor {q : Query} {fs : List Filter} {bs : List SqlValue}
    (h : q.predicates = .ok (fs, bs)) :
    StandsFor (List.intercalate [.blank, .word "AND", .blank] (fs.map Filter.layout)) bs
        (List.intercalate [word "AND"] q.conditionLexemes) ∧
      ∀ f ∈ fs, ∀ p ∈ f.path?, ∃ field ∈ q.whereFields, p = ⟨field, dotSegments field⟩ := by
  unfold Query.predicates at h
  simp only [bind, Except.bind] at h
  split at h
  · cases h
  rename_i rest hrest
  simp only [pure, Except.pure, Except.ok.injEq, Prod.mk.injEq] at h
  obtain ⟨rfl, rfl⟩ := h
  -- each `where` constraint compiles to a filter that stands for its lexemes
  have hwhere := forall₂_filterMapM (R := fun r ls => StandsFor r.1.layout r.2 ls)
    (h := fun c => match c with
      | .filter field op value => some (whereLexemes field op value)
      | _ => none) (fun c _ b hb => ?_) (fun c _ hb => ?_) hrest
  · refine ⟨?_, ?_⟩
    · have hall := StandsFor.intercalate
        (⟨rfl, rfl⟩ : StandsFor [.blank, .word "AND", .blank] [] [word "AND"])
        ((Query.sourceFilter q.source :: rest).map fun r => (r.1.layout, r.2)) q.conditionLexemes (by
          rw [List.forall₂_map_left_iff, Query.conditionLexemes]
          exact .cons (sourceFilter_standsFor q.source) hwhere)
      simpa [Function.comp_def] using hall
    · intro f hf p hp
      rcases List.mem_cons.1 hf with rfl | hf
      · cases hs : q.source <;> simp [Query.sourceFilter, hs, Filter.path?] at hp
      · obtain ⟨r, hr, rfl⟩ := List.mem_map.1 hf
        obtain ⟨c, hc, hcr⟩ := Query.mem_filterMapM hrest r hr
        cases c with
        | filter field op value =>
          rcases hw : Query.whereFilter field op value with e | r'
          · simp [hw, Functor.map, Except.map] at hcr
          · simp only [hw, Functor.map, Except.map, Except.ok.injEq, Option.some.injEq] at hcr
            subst hcr
            exact ⟨field, List.mem_filterMap.2 ⟨_, hc, rfl⟩, (whereFilter_standsFor hw).2 p hp⟩
        | _ => cases hcr
  · cases c with
    | filter field op value =>
      rcases hw : Query.whereFilter field op value with e | r
      · simp [hw, Functor.map, Except.map] at hb
      · simp only [hw, Functor.map, Except.map, Except.ok.injEq, Option.some.injEq] at hb
        subst hb
        exact ⟨_, rfl, (whereFilter_standsFor hw).1⟩
    | _ => cases hb
  · cases c with
    | filter field op value =>
      rcases hw : Query.whereFilter field op value with e | r <;>
        simp [hw, Functor.map, Except.map] at hb
    | _ => rfl

theorem sortKey_of_ok {field : String} {dir : Direction} {reverse : Bool} {k : SortKey}
    (h : (do
      let p ← FieldPath.parse field
      return some ⟨p, if reverse then dir.flipped else dir⟩ : Outcome (Option SortKey)) = .ok (some k)) :
    k.path = ⟨field, dotSegments field⟩ := by
  rcases hp : FieldPath.parse field with e | p
  · simp [hp, bind, Except.bind] at h
  · simp only [hp, bind, Except.bind, pure, Except.pure, Except.ok.injEq, Option.some.injEq] at h
    subst h
    exact FieldPath.eq_of_parse hp

/-- The sort keys of a query read the dotted paths of its `orderBy` fields, in order. -/
theorem sortKeys_paths {q : Query} {reverse : Bool} {keys : List SortKey}
    (h : q.sortKeys reverse = .ok keys) :
    keys.map (·.path.field) = q.orderFields ∧
      ∀ k ∈ keys, k.path = ⟨k.path.field, dotSegments k.path.field⟩ := by
  unfold Query.sortKeys at h
  have hfields := forall₂_filterMapM (R := fun k f => k.path.field = f)
    (h := fun c => match c with
      | .orderBy field _ => some field
      | _ => none) (fun c _ k hk => ?_) (fun c _ hk => ?_) h
  · refine ⟨?_, fun k hk => ?_⟩
    · rw [← List.forall₂_eq_eq_eq, List.forall₂_map_left_iff]
      exact hfields
    · obtain ⟨c, -, hc⟩ := Query.mem_filterMapM h k hk
      cases c with
      | orderBy field dir =>
        have := sortKey_of_ok hc
        rw [this]
      | _ => cases hc
  · cases c with
    | orderBy field dir => exact ⟨field, rfl, by rw [sortKey_of_ok hk]⟩
    | _ => cases hk
  · cases c with
    | orderBy field dir =>
      rcases hp : FieldPath.parse field with e | p <;>
        simp [hp, bind, Except.bind, pure, Except.pure] at hk
    | _ => rfl

theorem SortKey.standsFor {k : SortKey} (hk : k.path = ⟨k.path.field, dotSegments k.path.field⟩) :
    StandsFor k.layout [] (extractLexemes k.path.field ++ [word k.direction.sqlText]) := by
  rw [SortKey.layout, hk]
  exact ⟨rfl, rfl⟩

/-- The sort keys and the tie break stand for their lexemes, without values. -/
theorem sortKeys_standsFor {keys : List SortKey}
    (hkeys : ∀ k ∈ keys, k.path = ⟨k.path.field, dotSegments k.path.field⟩) (tiebreak : Direction) :
    StandsFor (List.intercalate [.punct .comma, .blank] (keys.map SortKey.layout ++
        [[.word "collection_id", .blank, .word tiebreak.sqlText],
         [.word "doc_id", .blank, .word tiebreak.sqlText]])) []
      (List.intercalate [op ","] ((keys.map fun k => (k.path.field, k.direction)).map
        (fun k => extractLexemes k.1 ++ [word k.2.sqlText]) ++
        [[word "collection_id", word tiebreak.sqlText], [word "doc_id", word tiebreak.sqlText]])) := by
  let items : List (List Layout × List BoundLexeme) :=
    keys.map (fun k => (k.layout, extractLexemes k.path.field ++ [word k.direction.sqlText])) ++
      [([.word "collection_id", .blank, .word tiebreak.sqlText],
          [word "collection_id", word tiebreak.sqlText]),
        ([.word "doc_id", .blank, .word tiebreak.sqlText], [word "doc_id", word tiebreak.sqlText])]
  have hitems : ∀ i ∈ items, StandsFor i.1 [] i.2 := by
    intro i hi
    rcases List.mem_append.1 hi with hi | hi
    · obtain ⟨k, hk, rfl⟩ := List.mem_map.1 hi
      exact SortKey.standsFor (hkeys k hk)
    · simp only [List.mem_cons, List.not_mem_nil, or_false] at hi
      rcases hi with rfl | rfl <;> exact ⟨rfl, rfl⟩
  have h := StandsFor.intercalate (⟨rfl, rfl⟩ : StandsFor [.punct .comma, .blank] [] [op ","])
    (items.map fun i => (i.1, [])) (items.map Prod.snd) (by
      rw [List.forall₂_map_left_iff, List.forall₂_map_right_iff]
      exact List.forall₂_same.2 hitems)
  simpa [items, Function.comp_def] using h

theorem selectDocuments_readsAs {fs : List Filter} {bs : List SqlValue}
    {conds : List (List BoundLexeme)} {keys : List SortKey} (tiebreak : Direction)
    (limit : Option SqlValue)
    (hm : StandsFor (List.intercalate [.blank, .word "AND", .blank] (fs.map Filter.layout)) bs
      (List.intercalate [word "AND"] conds))
    (hfs : ∀ f ∈ fs, ∀ p ∈ f.path?, '\x00' ∉ p.jsonPath.toList)
    (hkeys : ∀ k ∈ keys, k.path = ⟨k.path.field, dotSegments k.path.field⟩)
    (hnul : ∀ k ∈ keys, '\x00' ∉ k.path.field.toList) :
    ReadsAs (Statement.selectDocuments fs keys tiebreak limit.isSome).text (bs ++ limit.toList)
      (selectLexemes conds (keys.map fun k => (k.path.field, k.direction)) tiebreak limit) := by
  have hkeyNul : ∀ k ∈ keys, '\x00' ∉ k.path.jsonPath.toList := fun k hk => by
    rw [hkeys k hk]
    exact nul_not_mem_dottedJsonPath (hnul k hk)
  refine ReadsAs.of_layout (Statement.toList_text_selectDocuments ..)
    (spaced_selectLayout hfs hkeyNul ..) ?_
  have hpre : StandsFor [.word "SELECT", .blank, .word "collection_id", .punct .comma, .blank,
      .word "doc_id", .punct .comma, .blank, .word "data", .blank, .word "FROM", .blank,
      .word "documents", .blank, .word "WHERE", .blank] []
      [word "SELECT", word "collection_id", op ",", word "doc_id", op ",", word "data", word "FROM",
        word "documents", word "WHERE"] := ⟨rfl, rfl⟩
  have hmid : StandsFor [.blank, .word "ORDER", .blank, .word "BY", .blank] [] [word "ORDER", word "BY"] :=
    ⟨rfl, rfl⟩
  have hlimit : StandsFor (if limit.isSome then [.blank, .word "LIMIT", .blank, .param] else [])
      limit.toList (match limit with
        | some n => [word "LIMIT", binding n]
        | none => []) := by
    cases limit <;> exact ⟨rfl, rfl⟩
  simpa [selectLayout, selectLexemes] using
    (((hpre.append hm).append hmid).append (sortKeys_standsFor hkeys tiebreak)).append hlimit

theorem countDocuments_readsAs {fs : List Filter} {bs : List SqlValue}
    {conds : List (List BoundLexeme)}
    (hm : StandsFor (List.intercalate [.blank, .word "AND", .blank] (fs.map Filter.layout)) bs
      (List.intercalate [word "AND"] conds))
    (hfs : ∀ f ∈ fs, ∀ p ∈ f.path?, '\x00' ∉ p.jsonPath.toList) :
    ReadsAs (Statement.countDocuments fs).text bs (countLexemes conds) := by
  refine ReadsAs.of_layout (Statement.toList_text_countDocuments fs) (spaced_countLayout hfs) ?_
  have hpre : StandsFor [.word "SELECT", .blank, .word "COUNT", .punct .lparen, .punct .star,
      .punct .rparen, .blank, .word "AS", .blank, .word "count", .blank, .word "FROM", .blank,
      .word "documents", .blank, .word "WHERE", .blank] []
      [word "SELECT", word "COUNT", op "(", op "*", op ")", word "AS", word "count", word "FROM",
        word "documents", word "WHERE"] := ⟨rfl, rfl⟩
  simpa [countLayout, countLexemes] using hpre.append hm

theorem createIndex_readsAs {coll field : String} {p : FieldPath}
    (hp : FieldPath.parse field = .ok p) (hfield : '\x00' ∉ field.toList)
    (hcoll : '\x00' ∉ coll.toList) :
    ReadsAs (Statement.createIndex (indexName coll field) p coll).text []
      (indexLexemes (indexName coll field) field coll) := by
  obtain rfl := FieldPath.eq_of_parse hp
  exact ReadsAs.of_layout (Statement.toList_text_createIndex ..)
    (spaced_indexLayout (isNameChar_indexName coll field) (nul_not_mem_dottedJsonPath hfield) hcoll)
    ⟨rfl, rfl⟩

/-- The filters of a query whose `where` fields hold no NUL read paths without NUL. -/
theorem filters_nul_free {q : Query} {fs : List Filter}
    (hpaths : ∀ f ∈ fs, ∀ p ∈ f.path?, ∃ field ∈ q.whereFields, p = ⟨field, dotSegments field⟩)
    (hnul : ∀ f ∈ q.whereFields, '\x00' ∉ f.toList) :
    ∀ f ∈ fs, ∀ p ∈ f.path?, '\x00' ∉ p.jsonPath.toList := by
  intro f hf p hp
  obtain ⟨field, hfield, rfl⟩ := hpaths f hf p hp
  exact nul_not_mem_dottedJsonPath (hnul field hfield)

theorem compile_readsAs {q : Query} {c : CompiledQuery} (hc : q.compile = .ok c)
    (hnul : ∀ f ∈ q.whereFields ++ q.orderFields, '\x00' ∉ f.toList) :
    ∃ keys tiebreak, keys.map Prod.fst = q.orderFields ∧
      ReadsAs c.sql c.bindings (selectLexemes q.conditionLexemes keys tiebreak
        ((q.lastLimit.or q.lastLimitToLast).map fun n => .integer (min n Query.maxInt64))) := by
  obtain ⟨-, fs, bs, keys, hp, hk, rfl⟩ := Query.compile_eq_ok hc
  obtain ⟨hm, hpaths⟩ := predicates_standsFor hp
  obtain ⟨hfields, hkeys⟩ := sortKeys_paths hk
  have hfs := filters_nul_free hpaths fun f hf => hnul f (List.mem_append_left _ hf)
  have hknul : ∀ k ∈ keys, '\x00' ∉ k.path.field.toList := fun k hk =>
    hnul _ (List.mem_append_right _ (hfields ▸ List.mem_map_of_mem hk))
  -- flipping the sort keys for a `limitToLast` keeps their paths
  have hrev : ∀ k ∈ keys.map SortKey.reversed, k.path = ⟨k.path.field, dotSegments k.path.field⟩ := by
    intro k hk
    obtain ⟨k', hk', rfl⟩ := List.mem_map.1 hk
    exact hkeys k' hk'
  have hrevnul : ∀ k ∈ keys.map SortKey.reversed, '\x00' ∉ k.path.field.toList := by
    intro k hk
    obtain ⟨k', hk', rfl⟩ := List.mem_map.1 hk
    exact hknul k' hk'
  have hrevfields : (keys.map SortKey.reversed).map (·.path.field) = q.orderFields := by
    rw [List.map_map, ← hfields]
    rfl
  rcases hl : q.lastLimit with _ | n <;> rcases hll : q.lastLimitToLast with _ | n'
  · refine ⟨keys.map fun k => (k.path.field, k.direction), .asc, by rw [List.map_map]; exact hfields, ?_⟩
    simpa [hl, hll, CompiledQuery.sql] using selectDocuments_readsAs .asc none hm hfs hkeys hknul
  · refine ⟨(keys.map SortKey.reversed).map fun k => (k.path.field, k.direction), .desc,
      by rw [List.map_map]; exact hrevfields, ?_⟩
    simpa [hl, hll, CompiledQuery.sql] using
      selectDocuments_readsAs .desc (some (.integer (min n' Query.maxInt64))) hm hfs hrev hrevnul
  · refine ⟨keys.map fun k => (k.path.field, k.direction), .asc, by rw [List.map_map]; exact hfields, ?_⟩
    simpa [hl, hll, CompiledQuery.sql] using
      selectDocuments_readsAs .asc (some (.integer (min n Query.maxInt64))) hm hfs hkeys hknul
  · refine ⟨keys.map fun k => (k.path.field, k.direction), .asc, by rw [List.map_map]; exact hfields, ?_⟩
    simpa [hl, hll, CompiledQuery.sql] using
      selectDocuments_readsAs .asc (some (.integer (min n Query.maxInt64))) hm hfs hkeys hknul

theorem compileCount_readsAs {q : Query} {c : CompiledQuery} (hc : q.compileCount = .ok c)
    (hnul : ∀ f ∈ q.whereFields, '\x00' ∉ f.toList) :
    ReadsAs c.sql c.bindings (countLexemes q.conditionLexemes) := by
  unfold Query.compileCount at hc
  rcases hp : q.predicates with e | ⟨fs, bs⟩
  · simp [hp, bind, Except.bind] at hc
  · simp only [hp, bind, Except.bind, pure, Except.pure, Except.ok.injEq] at hc
    subst hc
    obtain ⟨hm, hpaths⟩ := predicates_standsFor hp
    exact countDocuments_readsAs hm (filters_nul_free hpaths hnul)

/-- The engine reads every statement the store builds from caller text as built: a field reaches
the text only as the string literal of its JSON path, a collection path only as a binding or (in an
index) as a string literal, an index name only as a quoted name of `[A-Za-z0-9_]`, and every value
only as a binding, each `?` taking its value in order: the source's, then each `where` constraint's,
then the limit's. This holds of texts without NUL, where the engine stops reading. -/
theorem statements_read_as_built (q : Query) (coll field : String) (p : FieldPath) :
    (∀ c, q.compile = .ok c → (∀ f ∈ q.whereFields ++ q.orderFields, '\x00' ∉ f.toList) →
      ∃ keys tiebreak, keys.map Prod.fst = q.orderFields ∧
        ReadsAs c.sql c.bindings (selectLexemes q.conditionLexemes keys tiebreak
          ((q.lastLimit.or q.lastLimitToLast).map fun n => .integer (min n Query.maxInt64)))) ∧
    (∀ c, q.compileCount = .ok c → (∀ f ∈ q.whereFields, '\x00' ∉ f.toList) →
      ReadsAs c.sql c.bindings (countLexemes q.conditionLexemes)) ∧
    (FieldPath.parse field = .ok p → '\x00' ∉ field.toList → '\x00' ∉ coll.toList →
      ReadsAs (Statement.createIndex (indexName coll field) p coll).text []
          (indexLexemes (indexName coll field) field coll) ∧
        ∀ c ∈ (indexName coll field).toList, isNameChar c) :=
  ⟨fun _ hc hnul => compile_readsAs hc hnul, fun _ hc hnul => compileCount_readsAs hc hnul,
    fun hp hfield hcoll => ⟨createIndex_readsAs hp hfield hcoll, isNameChar_indexName coll field⟩⟩

/-- An index on a field with a quote in it: the quote is doubled in the text and read back
single, and the name replaces it by `_`. -/
theorem statements_read_as_built_quote :
    FieldPath.parse "it's" = .ok ⟨"it's", ["it's"]⟩ ∧
      ReadsAs (Statement.createIndex (indexName "posts" "it's") ⟨"it's", ["it's"]⟩ "posts").text []
          (indexLexemes (indexName "posts" "it's") "it's" "posts") ∧
        ∀ c ∈ (indexName "posts" "it's").toList, isNameChar c := by
  have hparse : FieldPath.parse "it's" = .ok ⟨"it's", ["it's"]⟩ := by
    unfold FieldPath.parse
    rw [splitOn_dot]
    rfl
  exact ⟨hparse, (statements_read_as_built ⟨.collection ⟨"posts"⟩, []⟩ "posts" "it's" _).2.2 hparse
    (by decide) (by decide)⟩

end DocStore
