import DocStore.Proofs.Lexemes
import DocStore.Store.Database
import Mathlib.Data.String.Basic
/-!
# The layout of the store's statements

The statements the store builds from caller text, the document `SELECT`s and counts and the
partial indexes, are laid out here as `Layout` pieces, so that `lexemes_of_layout` reads them.
`Statement.toList_text_selectDocuments` and its siblings say that a statement's text is the
characters of its layout; `spaced_selectLayout` and its siblings, that the engine reads the layout
back piece by piece. The second needs the JSON paths and the collection path to hold no NUL, and the
index name to be made of `[A-Za-z0-9_]` (`isNameChar_indexName`).

A field's JSON path is taken over its `.`-segments (`dottedJsonPath`). Parsing a field splits it
with the string splitter; `splitOn_dot` shows that on a dot it cuts where `dotSegments` cuts, so the
segments, and with them the path, hold only characters of the field
(`nul_not_mem_dottedJsonPath`).
-/

/-! ## Splitting on a dot -/

namespace String


/-- Splitting on a one-byte dot: the loop over the characters from `r` on, with `m` read since
the last dot. -/
theorem splitOnAux_dot (l m r : List Char) (acc : List String) :
    splitOnAux (ofList (l ++ m ++ r)) "." ⟨utf8Len l⟩ ⟨utf8Len l + utf8Len m⟩ 0 acc =
      acc.reverse ++ (List.splitOnPPrepend (· == '.') r m.reverse).map ofList := by
  unfold splitOnAux
  simp only [List.append_assoc, atEnd_iff, rawEndPos_ofList, utf8Len_append, Pos.Raw.mk_le_mk,
    Nat.add_le_add_iff_left, (by omega : utf8Len m + utf8Len r ≤ utf8Len m ↔ utf8Len r = 0),
    utf8Len_eq_zero, List.reverse_cons]
  split
  · subst r
    simpa using extract_of_valid l m []
  · obtain ⟨c, r, rfl⟩ := r.exists_cons_of_ne_nil ‹_›
    have hget : Pos.Raw.get (ofList (l ++ (m ++ c :: r))) ⟨utf8Len l + utf8Len m⟩ = c := by
      simpa using get_of_valid (l ++ m) (c :: r)
    have hnext : Pos.Raw.next (ofList (l ++ (m ++ c :: r))) ⟨utf8Len l + utf8Len m⟩ =
        ⟨utf8Len l + utf8Len m + c.utf8Size⟩ := by
      simpa using next_of_valid (l ++ m) c r
    have hdot : Pos.Raw.get "." 0 = '.' := by decide
    have hdot1 : Pos.Raw.next "." 0 = ⟨1⟩ := by decide
    have hend : ".".rawEndPos ≤ ⟨1⟩ := by decide
    have hzero : (⟨utf8Len l + utf8Len m⟩ : Pos.Raw).unoffsetBy 0 = ⟨utf8Len l + utf8Len m⟩ := by
      simp [Pos.Raw.unoffsetBy]
    simp only [hget, hdot, hdot1, hend, if_true, hzero, hnext]
    by_cases hc : c = '.'
    · subst hc
      have hsize : Char.utf8Size '.' = 1 := by decide
      have hback : (⟨utf8Len l + utf8Len m + Char.utf8Size '.'⟩ : Pos.Raw).unoffsetBy ⟨1⟩ =
          ⟨utf8Len l + utf8Len m⟩ := by
        simp [Pos.Raw.unoffsetBy, hsize]
      have hext := extract_of_valid l m ('.' :: r)
      rw [List.append_assoc] at hext
      rw [hback, hext]
      simpa [Nat.add_assoc, List.splitOnPPrepend_cons_eq_if] using
        splitOnAux_dot (l ++ m ++ ['.']) [] r (ofList m :: acc)
    · simpa [Nat.add_assoc, List.splitOnPPrepend_cons_eq_if, hc] using
        splitOnAux_dot l (m ++ [c]) r acc

end String

namespace DocStore

open Sql

/-- Splitting on a dot cuts a field at every dot. -/
theorem splitOn_dot (field : String) : field.splitOn "." = dotSegments field := by
  have h := String.splitOnAux_dot [] [] field.toList []
  simp only [List.nil_append, String.ofList_toList, String.utf8Len_nil, List.reverse_nil] at h
  simp only [String.splitOn, dotSegments, List.splitOn]
  exact h

theorem FieldPath.eq_of_parse {field : String} {p : FieldPath} (h : FieldPath.parse field = .ok p) :
    p = ⟨field, dotSegments field⟩ := by
  unfold FieldPath.parse at h
  dsimp only at h
  split at h
  · cases h
    rw [splitOn_dot]
  · cases h

/-- The JSON path `$."s1"."s2"…` of a dotted field, over its `.`-segments. -/
def dottedJsonPath (field : String) : String := (FieldPath.mk field (dotSegments field)).jsonPath

theorem subset_intercalate {α : Type} (sep : List α) {w : List α} :
    ∀ {ws : List (List α)}, w ∈ ws → w ⊆ List.intercalate sep ws
  | [_], h => by
    rw [List.mem_singleton.1 h, List.intercalate_singleton]
    exact List.Subset.refl _
  | _ :: _ :: _, h => by
    rw [List.intercalate_cons_cons]
    rcases List.mem_cons.1 h with rfl | h
    · exact List.subset_append_of_subset_left _ (List.subset_append_left _ _)
    · exact List.subset_append_of_subset_right _ (subset_intercalate sep h)

theorem subset_of_mem_dotSegments {field s : String} (h : s ∈ dotSegments field) :
    s.toList ⊆ field.toList := by
  obtain ⟨w, hw, rfl⟩ := List.mem_map.1 h
  rw [String.toList_ofList]
  have hsub := subset_intercalate ['.'] hw
  rwa [List.intercalate_splitOn] at hsub

/-- The JSON path of a dotted field holds a NUL only where the field does. -/
theorem nul_not_mem_dottedJsonPath {field : String} (h : '\x00' ∉ field.toList) :
    '\x00' ∉ (dottedJsonPath field).toList := by
  simp only [dottedJsonPath, FieldPath.jsonPath, String.toList_append, String.toList_join,
    List.flatMap_map, List.mem_append, List.mem_flatMap, not_or, not_exists, not_and]
  exact ⟨by decide, fun s hs => ⟨⟨by decide, fun h2 => h (subset_of_mem_dotSegments hs h2)⟩,
    by decide⟩⟩

/-! ## Layouts of the store's statements -/

section Layouts

open Layout

/-- `json_extract(data, '<path>')`. -/
def FieldPath.layout (p : FieldPath) : List Layout :=
  [word "json_extract", punct .lparen, word "data", punct .comma, blank, string p.jsonPath,
    punct .rparen]

/-- The punctuation of a comparison. -/
def Comparison.punct : Comparison → Punct
  | .eq => .eq
  | .ne => .ne
  | .lt => .lt
  | .le => .le
  | .gt => .gt
  | .ge => .ge

/-- `?, ?, …, ?`, with `n` markers. -/
def markersLayout (n : Nat) : List Layout :=
  List.intercalate [punct .comma, blank] (List.replicate n [param])

namespace Filter

/-- The layout of a filter's text. -/
def layout : Filter → List Layout
  | .collectionIs => [word "collection_id", blank, punct .eq, blank, param]
  | .inGroup =>
    [punct .lparen, word "collection_id", blank, punct .eq, blank, param, blank, word "OR",
      blank, word "substr", punct .lparen, word "collection_id", punct .comma, blank,
      punct .minus, param, punct .rparen, blank, punct .eq, blank, param, punct .rparen]
  | .fieldIsNull p => p.layout ++ [blank, word "IS", blank, word "NULL"]
  | .fieldIsNotNull p => p.layout ++ [blank, word "IS", blank, word "NOT", blank, word "NULL"]
  | .fieldCompare p op => p.layout ++ [blank, punct op.punct, blank, param]
  | .fieldArrayContains p =>
    [punct .lparen, word "json_type", punct .lparen, word "data", punct .comma, blank,
      string p.jsonPath, punct .rparen, blank, punct .eq, blank, string "array", blank,
      word "AND", blank, word "EXISTS", blank, punct .lparen, word "SELECT", blank,
      digit '1', blank, word "FROM", blank, word "json_each", punct .lparen, word "data",
      punct .comma, blank, string p.jsonPath, punct .rparen, blank, word "WHERE", blank,
      word "json_each", punct .dot, word "value", blank, punct .eq, blank, param,
      punct .rparen, punct .rparen]
  | .fieldIn p n =>
    p.layout ++ [blank, word "IN", blank, punct .lparen] ++ markersLayout n ++ [punct .rparen]

end Filter

/-- `<field> ASC` or `<field> DESC`. -/
def SortKey.layout (k : SortKey) : List Layout := k.path.layout ++ [blank, word k.direction.sqlText]

/-- The layout of a document `SELECT`. -/
def selectLayout (fs : List Filter) (keys : List SortKey) (tiebreak : Direction) (limited : Bool) :
    List Layout :=
  [word "SELECT", blank, word "collection_id", punct .comma, blank, word "doc_id",
    punct .comma, blank, word "data", blank, word "FROM", blank, word "documents", blank,
    word "WHERE", blank] ++
  List.intercalate [blank, word "AND", blank] (fs.map Filter.layout) ++
  [blank, word "ORDER", blank, word "BY", blank] ++
  List.intercalate [punct .comma, blank] (keys.map SortKey.layout ++
    [[word "collection_id", blank, word tiebreak.sqlText],
     [word "doc_id", blank, word tiebreak.sqlText]]) ++
  (if limited then [blank, word "LIMIT", blank, param] else [])

/-- The layout of a document count. -/
def countLayout (fs : List Filter) : List Layout :=
  [word "SELECT", blank, word "COUNT", punct .lparen, punct .star, punct .rparen, blank,
    word "AS", blank, word "count", blank, word "FROM", blank, word "documents", blank,
    word "WHERE", blank] ++
  List.intercalate [blank, word "AND", blank] (fs.map Filter.layout)

/-- The layout of a partial index on one field of one collection. -/
def indexLayout (name : String) (p : FieldPath) (coll : String) : List Layout :=
  [word "CREATE", blank, word "INDEX", blank, word "IF", blank, word "NOT", blank,
    word "EXISTS", blank, quoted name, blank, word "ON", blank, word "documents", blank,
    punct .lparen] ++ p.layout ++
  [punct .rparen, blank, word "WHERE", blank, word "collection_id", blank, punct .eq, blank,
    string coll]

end Layouts

/-- The field path a filter reads, if any. -/
def Filter.path? : Filter → Option FieldPath
  | .fieldIsNull p | .fieldIsNotNull p | .fieldCompare p _ | .fieldArrayContains p | .fieldIn p _ =>
    some p
  | .collectionIs | .inGroup => none

/-! ## The characters of a layout -/

namespace Piece

theorem toList_join (ps : List Piece) : (join ps).toList = ps.flatMap fun p => p.text.toList := by
  simp [join, String.toList_join, List.flatMap_map]

theorem toList_join_append (ps qs : List Piece) :
    (join (ps ++ qs)).toList = (join ps).toList ++ (join qs).toList := by
  simp [toList_join]

theorem toList_join_sepBy (sep : String) :
    ∀ gs : List (List Piece),
      (join (sepBy sep gs)).toList = List.intercalate sep.toList (gs.map fun g => (join g).toList)
  | [] => rfl
  | [g] => by simp [sepBy]
  | g :: g' :: gs => by
    simp only [sepBy, toList_join_append, toList_join_sepBy sep (g' :: gs)]
    simp [toList_join, text]

end Piece

theorem flatMap_intercalate {α β : Type} (f : α → List β) (sep : List α) :
    ∀ gs : List (List α),
      (List.intercalate sep gs).flatMap f = List.intercalate (sep.flatMap f) (gs.map (·.flatMap f))
  | [] => rfl
  | [g] => by simp
  | g :: g' :: gs => by
    rw [List.intercalate_cons_cons, List.flatMap_append, List.flatMap_append,
      flatMap_intercalate f sep (g' :: gs)]
    simp

theorem FieldPath.toList_join_pieces (p : FieldPath) :
    (Piece.join p.pieces).toList = p.layout.flatMap Layout.chars := by
  simp [Piece.toList_join, FieldPath.pieces, FieldPath.layout, Piece.text, Layout.chars, sqlLiteral,
    Punct.text]

theorem toList_markers (n : Nat) :
    (", ".intercalate (List.replicate n "?")).toList = (markersLayout n).flatMap Layout.chars := by
  simp [markersLayout, flatMap_intercalate, Layout.chars, Punct.text]

theorem Filter.toList_join_pieces (f : Filter) :
    (Piece.join f.pieces).toList = f.layout.flatMap Layout.chars := by
  cases f with
  | fieldIn p n =>
    simp [Filter.pieces, Filter.layout, Piece.toList_join, FieldPath.pieces,
      FieldPath.layout, Piece.text, Layout.chars, sqlLiteral, Punct.text, ← toList_markers]
  | fieldCompare p op =>
    cases op <;>
    simp [Filter.pieces, Filter.layout, Piece.toList_join, FieldPath.pieces,
      FieldPath.layout, Piece.text, Layout.chars, sqlLiteral, Punct.text, Comparison.sqlText,
      Comparison.punct]
  | _ =>
    simp [Filter.pieces, Filter.layout, Piece.toList_join, FieldPath.pieces,
      FieldPath.layout, Piece.text, Layout.chars, sqlLiteral, Punct.text, quoteSqlChars]

namespace Statement

theorem toList_text_selectDocuments (fs : List Filter) (keys : List SortKey) (tiebreak : Direction)
    (limited : Bool) :
    (selectDocuments fs keys tiebreak limited).text.toList =
      (selectLayout fs keys tiebreak limited).flatMap Layout.chars := by
  simp only [text, pieces, Piece.toList_join_append, Piece.toList_join_sepBy, List.map_append,
    List.map_map, Function.comp_def, Filter.toList_join_pieces, FieldPath.toList_join_pieces]
  cases limited <;>
  simp [selectLayout, SortKey.layout, flatMap_intercalate, documentList, Piece.toList_join,
    Piece.text, Layout.chars, Punct.text, Function.comp_def]

theorem toList_text_countDocuments (fs : List Filter) :
    (countDocuments fs).text.toList = (countLayout fs).flatMap Layout.chars := by
  simp only [text, pieces, Piece.toList_join_append, Piece.toList_join_sepBy, List.map_map,
    Function.comp_def, Filter.toList_join_pieces]
  simp [countLayout, flatMap_intercalate, Piece.toList_join, Piece.text, Layout.chars, Punct.text,
    Function.comp_def]

theorem toList_text_createIndex (name : String) (p : FieldPath) (coll : String) :
    (createIndex name p coll).text.toList = (indexLayout name p coll).flatMap Layout.chars := by
  simp only [text, pieces, Piece.toList_join_append, FieldPath.toList_join_pieces]
  simp [indexLayout, Piece.toList_join, Piece.text, Layout.chars, Punct.text, sqlLiteral]

end Statement

/-! ## Reading a layout back -/

theorem FieldPath.spaced_layout {p : FieldPath} (hp : '\x00' ∉ p.jsonPath.toList)
    (next : Option Char) : Layout.spaced p.layout next = true := by
  simp +decide [FieldPath.layout, Layout.spaced, Layout.valid, Layout.closedBy, Layout.chars,
    Punct.text, Punct.joins, hp]

theorem spaced_markersLayout (n : Nat) {x : Option Char} (hx : Layout.Breaks x) :
    Layout.spaced (markersLayout n) x = true := by
  refine Layout.spaced_intercalate (c := ',') (Or.inr (Or.inr (Or.inl rfl))) rfl (fun _ => rfl)
    ?_ x hx
  intro g hg y hy
  rw [List.eq_of_mem_replicate hg]
  simp [Layout.spaced, Layout.valid, Layout.closedBy_of_breaks _ hy]

theorem Filter.spaced_layout {f : Filter} (hf : ∀ p ∈ f.path?, '\x00' ∉ p.jsonPath.toList)
    {next : Option Char} (hx : Layout.Breaks next) : Layout.spaced f.layout next = true := by
  cases f with
  | collectionIs => rcases hx with rfl | rfl | rfl | rfl <;> decide
  | inGroup => rcases hx with rfl | rfl | rfl | rfl <;> decide
  | fieldIsNull p =>
    rw [layout, Layout.spaced_append, FieldPath.spaced_layout (hf p rfl)]
    rcases hx with rfl | rfl | rfl | rfl <;> decide
  | fieldIsNotNull p =>
    rw [layout, Layout.spaced_append, FieldPath.spaced_layout (hf p rfl)]
    rcases hx with rfl | rfl | rfl | rfl <;> decide
  | fieldCompare p op =>
    rw [layout, Layout.spaced_append, FieldPath.spaced_layout (hf p rfl)]
    cases op <;> rcases hx with rfl | rfl | rfl | rfl <;> decide
  | fieldArrayContains p =>
    have hp := hf p rfl
    simp +decide [layout, Layout.spaced, Layout.valid, Layout.closedBy, Layout.chars, Punct.text,
      Punct.joins, hp]
  | fieldIn p n =>
    rw [layout, List.append_assoc, List.append_assoc, Layout.spaced_append,
      FieldPath.spaced_layout (hf p rfl), Layout.spaced_append, Layout.spaced_append]
    have hr : (List.flatMap Layout.chars [Layout.punct .rparen]).head?.or next = some ')' := rfl
    rw [hr, spaced_markersLayout n (Or.inr (Or.inr (Or.inr rfl)))]
    simp +decide [Layout.spaced, Layout.valid, Layout.closedBy, Layout.chars, Punct.text, Punct.joins]

theorem spaced_filters {fs : List Filter}
    (hfs : ∀ f ∈ fs, ∀ p ∈ f.path?, '\x00' ∉ p.jsonPath.toList) {x : Option Char}
    (hx : Layout.Breaks x) :
    Layout.spaced (List.intercalate [.blank, .word "AND", .blank] (fs.map Filter.layout)) x = true := by
  refine Layout.spaced_intercalate (c := ' ') (Or.inr (Or.inl rfl)) rfl (fun y => ?_) ?_ x hx
  · simp +decide [Layout.spaced, Layout.valid, Layout.closedBy, Layout.chars]
  · intro g hg y hy
    obtain ⟨f, hf, rfl⟩ := List.mem_map.1 hg
    exact Filter.spaced_layout (hfs f hf) hy

theorem spaced_sortKeys {keys : List SortKey} (hkeys : ∀ k ∈ keys, '\x00' ∉ k.path.jsonPath.toList)
    (tiebreak : Direction) {x : Option Char} (hx : Layout.Breaks x) :
    Layout.spaced (List.intercalate [.punct .comma, .blank] (keys.map SortKey.layout ++
      [[.word "collection_id", .blank, .word tiebreak.sqlText],
       [.word "doc_id", .blank, .word tiebreak.sqlText]])) x = true := by
  refine Layout.spaced_intercalate (c := ',') (Or.inr (Or.inr (Or.inl rfl))) rfl (fun y => ?_) ?_ x
    hx
  · simp +decide [Layout.spaced, Layout.valid, Layout.closedBy, Layout.chars, Punct.joins]
  · intro g hg y hy
    rcases List.mem_append.1 hg with hg | hg
    · obtain ⟨k, hk, rfl⟩ := List.mem_map.1 hg
      rw [SortKey.layout, Layout.spaced_append, FieldPath.spaced_layout (hkeys k hk)]
      cases k.direction <;> rcases hy with rfl | rfl | rfl | rfl <;> decide
    · simp only [List.mem_cons, List.not_mem_nil, or_false] at hg
      rcases hg with rfl | rfl <;> cases tiebreak <;> rcases hy with rfl | rfl | rfl | rfl <;> decide

theorem spaced_selectLayout {fs : List Filter} {keys : List SortKey}
    (hfs : ∀ f ∈ fs, ∀ p ∈ f.path?, '\x00' ∉ p.jsonPath.toList)
    (hkeys : ∀ k ∈ keys, '\x00' ∉ k.path.jsonPath.toList) (tiebreak : Direction) (limited : Bool) :
    Layout.spaced (selectLayout fs keys tiebreak limited) none = true := by
  have hpre : ∀ x, Layout.spaced [.word "SELECT", .blank, .word "collection_id", .punct .comma,
      .blank, .word "doc_id", .punct .comma, .blank, .word "data", .blank, .word "FROM", .blank,
      .word "documents", .blank, .word "WHERE", .blank] x = true := fun x => by
    simp +decide [Layout.spaced, Layout.valid, Layout.closedBy, Layout.chars, Punct.joins]
  have hmid : ∀ x, Layout.spaced [.blank, .word "ORDER", .blank, .word "BY", .blank] x = true :=
    fun x => by simp +decide [Layout.spaced, Layout.valid, Layout.closedBy, Layout.chars]
  simp only [selectLayout, List.append_assoc, Layout.spaced_append, hpre, hmid, Bool.true_and]
  simp only [List.flatMap_append, List.flatMap_cons, Layout.chars, List.cons_append,
    List.head?_cons, Option.some_or, spaced_filters hfs (Or.inr (Or.inl rfl)), Bool.true_and]
  cases limited
  · simp [spaced_sortKeys hkeys tiebreak (Or.inl rfl), Layout.spaced]
  · have hlimit : (List.flatMap Layout.chars [.blank, .word "LIMIT", .blank, .param]).head?.or none =
        some ' ' := rfl
    rw [if_pos rfl, hlimit, spaced_sortKeys hkeys tiebreak (Or.inr (Or.inl rfl)), Bool.true_and]
    decide

theorem spaced_countLayout {fs : List Filter}
    (hfs : ∀ f ∈ fs, ∀ p ∈ f.path?, '\x00' ∉ p.jsonPath.toList) :
    Layout.spaced (countLayout fs) none = true := by
  have hpre : ∀ x, Layout.spaced [.word "SELECT", .blank, .word "COUNT", .punct .lparen, .punct .star,
      .punct .rparen, .blank, .word "AS", .blank, .word "count", .blank, .word "FROM", .blank,
      .word "documents", .blank, .word "WHERE", .blank] x = true := fun x => by
    simp +decide [Layout.spaced, Layout.valid, Layout.closedBy, Layout.chars, Punct.joins]
  rw [countLayout, Layout.spaced_append, hpre, spaced_filters hfs (Or.inl rfl)]
  rfl

/-- The characters an index name is made of: `[A-Za-z0-9_]`. -/
def isNameChar (c : Char) : Prop :=
  ('a' ≤ c ∧ c ≤ 'z') ∨ ('A' ≤ c ∧ c ≤ 'Z') ∨ ('0' ≤ c ∧ c ≤ '9') ∨ c = '_'

instance decidableNameChar (c : Char) : Decidable (isNameChar c) :=
  inferInstanceAs (Decidable (('a' ≤ c ∧ c ≤ 'z') ∨ ('A' ≤ c ∧ c ≤ 'Z') ∨ ('0' ≤ c ∧ c ≤ '9') ∨
    c = '_'))

theorem spaced_indexLayout {name coll : String} {p : FieldPath}
    (hname : ∀ c ∈ name.toList, isNameChar c) (hp : '\x00' ∉ p.jsonPath.toList)
    (hcoll : '\x00' ∉ coll.toList) : Layout.spaced (indexLayout name p coll) none = true := by
  have hnul : '\x00' ∉ name.toList := fun h => absurd (hname _ h) (by decide)
  have hquote : '"' ∉ name.toList := fun h => absurd (hname _ h) (by decide)
  have hpre : ∀ x, Layout.spaced [.word "CREATE", .blank, .word "INDEX", .blank, .word "IF", .blank,
      .word "NOT", .blank, .word "EXISTS", .blank, .quoted name, .blank, .word "ON", .blank,
      .word "documents", .blank, .punct .lparen] x = true := fun x => by
    simp +decide [Layout.spaced, Layout.valid, Layout.closedBy, Layout.chars, Punct.joins, hnul,
      hquote]
  rw [indexLayout, Layout.spaced_append, Layout.spaced_append, hpre, FieldPath.spaced_layout hp]
  simp +decide [Layout.spaced, Layout.valid, Layout.closedBy, Layout.chars, Punct.joins, hcoll]

theorem isNameChar_indexName (coll field : String) : ∀ c ∈ (indexName coll field).toList, isNameChar c := by
  intro c hc
  simp only [indexName, String.toList_ofList, List.mem_map] at hc
  obtain ⟨d, -, rfl⟩ := hc
  unfold isNameChar
  split
  · rename_i h
    rcases h with h | h | h
    · exact .inl h
    · exact .inr (.inl h)
    · exact .inr (.inr (.inl h))
  · exact .inr (.inr (.inr rfl))

end DocStore
