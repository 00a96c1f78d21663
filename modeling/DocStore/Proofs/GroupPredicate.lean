import DocStore.Proofs.WriteBatches
import DocStore.Proofs.DocumentKeys
import Mathlib.Data.List.TakeWhile
/-!
# The group predicate of a compiled query

A query over a collection group filters the documents table with
`(collection_id = ? OR substr(collection_id, -?) = ?)`, bound to the group id, the number of
characters of `/` and the id, and `/` followed by the id (`Query.sourceFilter`).

A collection belongs to a group when its path is the id or ends with `/` and the id
(`GroupRef.includes_iff`). For a path built from its segments that is exactly when its last
segment is the id (`includes_joinSegments`).

The engine evaluates the predicate as `GroupRef.includes` on every collection path without a
NUL character, in a database that keeps its text in UTF-8 (`holdsIn_inGroup`). `substr` reads
the characters of a text only up to its first NUL (`Sql.textView`); a path with a NUL before its
last segment is cut there, and its document is left out of the group. Everything else rests on
one fact about text: the engine's characters of a string's UTF-8 bytes are the string's own
characters (`Sql.chars_toUTF8`).
-/

namespace DocStore

open Sql

/-! ## Characters of UTF-8 text -/

namespace Sql

/-- A character is one byte below `0x80`, or a lead byte from `0xC0` up followed by continuation
bytes. -/
theorem utf8EncodeChar_cases (c : Char) :
    (c.toNat < 0x80 ∧ String.utf8EncodeChar c = [UInt8.ofNat c.toNat]) ∨
      ∃ b conts, String.utf8EncodeChar c = b :: conts ∧ 0xC0 ≤ b.toNat ∧
        ∀ x ∈ conts, 0x80 ≤ x.toNat ∧ x.toNat < 0xC0 := by
  have hv : c.toNat = c.val.toNat := rfl
  unfold String.utf8EncodeChar
  dsimp only
  -- one case per length of the encoding: one byte, then two, three and four
  split
  · exact .inl ⟨by omega, by rw [hv]⟩
  split
  · refine .inr ⟨_, _, rfl, ?_, ?_⟩ <;>
      simp only [List.mem_singleton, forall_eq, UInt8.toNat_ofNat', Nat.reducePow] <;> omega
  split
  · refine .inr ⟨_, _, rfl, ?_, ?_⟩ <;>
      simp only [List.mem_cons, List.not_mem_nil, or_false, forall_eq_or_imp, forall_eq,
        UInt8.toNat_ofNat', Nat.reducePow] <;> omega
  · refine .inr ⟨_, _, rfl, ?_, ?_⟩ <;>
      simp only [List.mem_cons, List.not_mem_nil, or_false, forall_eq_or_imp, forall_eq,
        UInt8.toNat_ofNat', Nat.reducePow] <;> omega

/-- The first byte of a character continues no other. -/
theorem head_utf8EncodeChar_not_continuation (c : Char) :
    ∀ b ∈ (String.utf8EncodeChar c).head?, isContinuation b = false := by
  rcases utf8EncodeChar_cases c with ⟨hc, he⟩ | ⟨b, conts, he, hb, -⟩
  · simp only [he, List.head?_cons, Option.mem_def, Option.some.injEq, forall_eq', isContinuation,
      UInt8.toNat_ofNat', Nat.reducePow, decide_eq_false_iff_not]
    omega
  · simp only [he, List.head?_cons, Option.mem_def, Option.some.injEq, forall_eq', isContinuation,
      decide_eq_false_iff_not]
    omega

/-- The first byte of the UTF-8 bytes of characters continues no other. -/
theorem head_flatMap_not_continuation :
    ∀ (l : List Char), ∀ b ∈ (l.flatMap String.utf8EncodeChar).head?, isContinuation b = false
  | [] => by simp
  | c :: _ => by
    rcases utf8EncodeChar_cases c with ⟨-, he⟩ | ⟨b, conts, he, -, -⟩ <;>
      · rw [List.flatMap_cons, he, List.cons_append, List.head?_cons]
        have := head_utf8EncodeChar_not_continuation c
        rwa [he, List.head?_cons] at this

/-- Skipping a character skips exactly its bytes. -/
theorem skipChar_utf8EncodeChar (c : Char) {rest : List UInt8}
    (hrest : ∀ b ∈ rest.head?, isContinuation b = false) :
    skipChar (String.utf8EncodeChar c ++ rest) = rest := by
  rcases utf8EncodeChar_cases c with ⟨hc, he⟩ | ⟨b, conts, he, hb, hconts⟩
  · rw [he, List.singleton_append, skipChar, if_neg (by simp only [UInt8.toNat_ofNat', Nat.reducePow]; omega)]
  · rw [he, List.cons_append, skipChar, if_pos hb]
    -- the continuation bytes go, and the next character's first byte stops the skipping
    have hdrop : ∀ ys : List UInt8, (∀ x ∈ ys, 0x80 ≤ x.toNat ∧ x.toNat < 0xC0) →
        (ys ++ rest).dropWhile isContinuation = rest := by
      intro ys hys
      induction ys with
      | nil =>
        cases rest with
        | nil => rfl
        | cons r rs =>
          rw [List.nil_append, List.dropWhile_cons, if_neg (by simpa using hrest r rfl)]
      | cons y ys ih =>
        have hy := hys y (.head _)
        rw [List.cons_append, List.dropWhile_cons,
          if_pos (by simp only [isContinuation, decide_eq_true_eq]; omega)]
        exact ih fun x hx => hys x (.tail _ hx)
    exact hdrop conts hconts

/-- The engine's characters of the UTF-8 bytes of characters are those characters' bytes. -/
theorem chars_flatMap_utf8EncodeChar :
    ∀ l : List Char, chars (l.flatMap String.utf8EncodeChar) = l.map String.utf8EncodeChar
  | [] => by simp [chars]
  | c :: l => by
    have hskip := skipChar_utf8EncodeChar c (head_flatMap_not_continuation l)
    obtain ⟨b, conts, he⟩ : ∃ b conts, String.utf8EncodeChar c = b :: conts := by
      rcases utf8EncodeChar_cases c with ⟨-, he⟩ | ⟨b, conts, he, -⟩
      · exact ⟨_, _, he⟩
      · exact ⟨b, conts, he⟩
    rw [he] at hskip
    rw [List.flatMap_cons, List.map_cons, he, List.cons_append, chars, ← List.cons_append, hskip,
      chars_flatMap_utf8EncodeChar l, ← he, List.length_append, Nat.add_sub_cancel, List.take_left']
    rfl

/-- The UTF-8 bytes of a string are those of its characters in turn. -/
theorem toUTF8_toList (s : String) : s.toUTF8.toList = s.toList.flatMap String.utf8EncodeChar := by
  rw [ByteArray.toList_eq, String.toUTF8_eq_toByteArray, ← String.utf8Encode_toList,
    List.utf8Encode, List.toList_data_toByteArray]

/-- Only the NUL character has a zero byte. -/
theorem ne_zero_of_mem_utf8EncodeChar {c : Char} (hc : c ≠ '\x00') {x : UInt8}
    (hx : x ∈ String.utf8EncodeChar c) : x ≠ 0 := by
  have hc' : c.toNat ≠ 0 := fun h => hc (Char.toNat_inj.mp h)
  rcases utf8EncodeChar_cases c with ⟨hlt, he⟩ | ⟨b, conts, he, hb, hconts⟩
  · rw [he, List.mem_singleton] at hx
    subst hx
    intro h
    have := congrArg UInt8.toNat h
    simp only [UInt8.toNat_ofNat', Nat.reducePow, UInt8.toNat_zero] at this
    omega
  · rw [he, List.mem_cons] at hx
    rcases hx with rfl | hx
    · intro h
      subst h
      simp at hb
    · intro h
      subst h
      simpa using (hconts 0 hx).1

/-- The engine's characters of a string without NUL are the string's characters. -/
theorem chars_toUTF8 {s : String} (hs : '\x00' ∉ s.toList) :
    chars (textView s.toUTF8.toList) = s.toList.map String.utf8EncodeChar := by
  have hview : textView s.toUTF8.toList = s.toUTF8.toList := by
    refine List.takeWhile_eq_self_iff.2 fun x hx => ?_
    rw [toUTF8_toList, List.mem_flatMap] at hx
    obtain ⟨c, hc, hx⟩ := hx
    simpa using ne_zero_of_mem_utf8EncodeChar (fun h => hs (h ▸ hc)) hx
  rw [hview, toUTF8_toList, chars_flatMap_utf8EncodeChar]

/-! ## The last characters of a text -/

/-- A negative count within 32 bits reads back as itself. -/
theorem toInt32_neg {n : Nat} (h : n ≤ 2147483648) : toInt32 (-n) = -n := by
  unfold toInt32
  simp only [Nat.pow_eq, Nat.reducePow]
  split <;> omega

/-- `substr(X, -n)` with `0 < n` is the last `n` characters of `X`, or all of them when it has
fewer. -/
theorem substrValue_neg (s : List UInt8) {n : Nat} (hn0 : 0 < n) (hn : (n : Int) ≤ maxLength) :
    substrValue (.text s) (.integer (-n)) none =
      .text (((chars (textView s)).drop ((chars (textView s)).length - n)).flatten) := by
  have h32 : n ≤ 2147483648 := by unfold maxLength at hn; omega
  have hneg : -(n : Int) < 0 := by omega
  have hnull : ¬((SqlValue.integer (-n) == SqlValue.null) = true ∨
      (none == some SqlValue.null) = true) := by simp
  have hmax : maxLength = 1000000000 := rfl
  unfold substrValue
  simp only [textBytes, toInt32_neg h32, intValue, if_neg hnull, if_pos hneg, Bool.false_eq_true,
    if_false]
  congr 1
  -- a count past the start of the text takes all of it
  split
  · rw [Int.toNat_zero, List.drop_zero, Nat.sub_eq_zero_of_le (by omega), List.drop_zero,
      List.take_of_length_le (by omega)]
  · have hk : (-(n : Int) + (chars (textView s)).length).toNat = (chars (textView s)).length - n := by
      omega
    rw [hk, List.take_of_length_le (by rw [List.length_drop]; omega)]

/-- On a string without NUL, `substr(X, -n)` is the string's last `n` characters. -/
theorem substrValue_ofString_neg {s : String} (hs : '\x00' ∉ s.toList) {n : Nat} (hn0 : 0 < n)
    (hn : (n : Int) ≤ maxLength) :
    substrValue (.ofString s) (.integer (-n)) none =
      .ofString (String.ofList (s.toList.drop (s.toList.length - n))) := by
  rw [SqlValue.ofString, substrValue_neg _ hn0 hn, chars_toUTF8 hs, List.length_map,
    SqlValue.ofString, toUTF8_toList, String.toList_ofList, ← List.map_drop, List.flatMap_def]

/-! ## Comparing texts under `BINARY` -/

/-- A value a comparison reads as the UTF-8 bytes of a string: no numeric affinity converts it,
and it brings no collation but `BINARY`, none of it from `COLLATE`. -/
structure Typed.BinaryText (x : Typed) (s : String) : Prop where
  value : x.value = .ofString s
  affinity : ∀ a ∈ x.affinity, a.isNumeric = false
  collation : x.collation.getD .binary = .binary
  implicit : x.explicit = false

/-- A bare text, as a parameter or a function gives it, compares as its bytes. -/
theorem Typed.binaryText_ofString (s : String) : Typed.BinaryText { value := .ofString s } s :=
  ⟨rfl, by simp, rfl, rfl⟩

theorem comparisonAffinity_not_numeric {a b : Option Affinity}
    (ha : ∀ f ∈ a, f.isNumeric = false) (hb : ∀ f ∈ b, f.isNumeric = false) :
    ∀ f ∈ comparisonAffinity a b, f.isNumeric = false := by
  intro f hf
  cases a with
  | none =>
    cases b with
    | none => simp [comparisonAffinity] at hf
    | some b => exact hb f hf
  | some a =>
    cases b with
    | none => exact ha f hf
    | some b =>
      -- two affinities, neither numeric, meet as `BLOB`
      have hnum : ¬(a.isNumeric = true ∨ b.isNumeric = true) := by simp [ha a rfl, hb b rfl]
      rw [comparisonAffinity, if_neg hnum, Option.mem_def, Option.some.injEq] at hf
      rw [← hf]
      rfl

/-- Without a numeric affinity, texts enter a comparison as they are. -/
theorem comparisonOperands_text {aff : Option Affinity} (h : ∀ f ∈ aff, f.isNumeric = false)
    (a b : List UInt8) : comparisonOperands aff (.text a) (.text b) = (.text a, .text b) := by
  cases aff with
  | none => rfl
  | some f =>
    simp only [comparisonOperands, h f rfl, Bool.false_eq_true, if_false]
    split <;> rfl

theorem comparisonCollation_binary {x y : Typed} {a b : String} (hx : x.BinaryText a)
    (hy : y.BinaryText b) : comparisonCollation x y = .binary := by
  unfold comparisonCollation
  rw [hx.implicit, hy.implicit]
  have hcx := hx.collation
  cases hxc : x.collation with
  | none => exact hy.collation
  | some c => rw [hxc] at hcx; exact hcx

/-- Byte comparison finds two strings equal exactly when they are. -/
theorem compareBytes_eq_eq_iff (a b : String) :
    SqlValue.compareBytes a.toUTF8.toList b.toUTF8.toList = .eq ↔ a = b := by
  refine ⟨eq_of_compareBytes_eq, ?_⟩
  rintro rfl
  rw [SqlValue.compareBytes_eq]
  exact Std.ReflCmp.compare_self

/-- In a UTF-8 database, `=` on two texts read as bytes is string equality. -/
theorem comparisonValue_eq_binaryText {x y : Typed} {a b : String} (hx : x.BinaryText a)
    (hy : y.BinaryText b) : comparisonValue .utf8 .eq x y = truthValue (some (a == b)) := by
  have haff := comparisonAffinity_not_numeric hx.affinity hy.affinity
  simp only [comparisonValue, compareTyped, hx.value, hy.value, SqlValue.ofString,
    comparisonOperands_text haff, comparisonCollation_binary hx hy, SqlValue.compareIn,
    Collation.normalize, Option.map_some]
  congr 2
  rw [Bool.eq_iff_iff, beq_iff_eq, beq_iff_eq, compareBytes_eq_eq_iff]

theorem truth_truthValue (enc : TextEncoding) (p : Bool) : truth enc (truthValue (some p)) = some p := by
  cases p <;> rfl

end Sql

/-! ## Evaluating the group predicate -/

namespace Tables

variable {t : Tables} {fuel : Nat} {sc : Sql.Scope}

theorem evalTyped_param (i : Nat) :
    t.evalTyped (fuel + 1) sc (.param i) = .ok { value := sc.params.getD (i - 1) .null } := by
  rw [Tables.evalTyped.eq_def]

/-- A name that no result column aliases reads the column. -/
theorem evalTyped_column {n : String} (h : sc.aliasOf? n = none) :
    t.evalTyped (fuel + 1) sc (.column none n) = sc.column none n := by
  rw [Tables.evalTyped.eq_def]
  simp only [Option.isNone_none, h]

theorem evalTyped_neg_param (i : Nat) :
    t.evalTyped (fuel + 2) sc (.unary .neg (.param i)) =
      .ok { value := arithmetic .sub (.integer 0) (t.encoding.blobAsText (sc.params.getD (i - 1) .null)) } := by
  rw [Tables.evalTyped.eq_def]
  simp only [evalTyped_param]
  rfl

/-! The two comparisons of the predicate, a column and a call against a parameter, take the same
step; the evaluator's test for row values is a match on the operand's shape, so each shape has
its lemma. -/

theorem evalTyped_eq_column_param {q : Option String} {n : String} {x : Typed} (i : Nat)
    (hx : t.evalTyped (fuel + 1) sc (.column q n) = .ok x) :
    t.evalTyped (fuel + 2) sc (.binary .eq (.column q n) (.param i)) =
      .ok { value := comparisonValue t.encoding .eq x { value := sc.params.getD (i - 1) .null } } := by
  rw [Tables.evalTyped.eq_def]
  simp only [evalTyped_param, hx]
  rfl

theorem evalTyped_eq_call_param {f : String} {args : List Expr} {d s : Bool} {x : Typed} (i : Nat)
    (hx : t.evalTyped (fuel + 1) sc (.call f args d s) = .ok x) :
    t.evalTyped (fuel + 2) sc (.binary .eq (.call f args d s) (.param i)) =
      .ok { value := comparisonValue t.encoding .eq x { value := sc.params.getD (i - 1) .null } } := by
  rw [Tables.evalTyped.eq_def]
  simp only [evalTyped_param, hx]
  rfl

/-- `OR` of two known truths is their disjunction. -/
theorem evalTyped_or {a b : Expr} {xa xb : Typed} {p q : Bool}
    (ha : t.evalTyped fuel sc a = .ok xa) (hb : t.evalTyped fuel sc b = .ok xb)
    (hxa : xa.value = truthValue (some p)) (hxb : xb.value = truthValue (some q)) :
    t.evalTyped (fuel + 1) sc (.binary .or a b) = .ok { value := truthValue (some (p || q)) } := by
  rw [Tables.evalTyped.eq_def]
  simp only [ha, hb, bind, Except.bind, pure, Except.pure, hxa, hxb]
  cases p <;> cases q <;> rfl

/-- `substr` with two arguments, neither with a `COLLATE`. -/
theorem evalTyped_substr {a b : Expr} {xa xb : Typed}
    (ha : t.evalTyped fuel sc a = .ok xa) (hb : t.evalTyped fuel sc b = .ok xb)
    (hxa : xa.explicit = false) (hxb : xb.explicit = false) :
    t.evalTyped (fuel + 1) sc (.call "substr" [a, b] false false) =
      .ok { value := t.encoding.conformValue (substrValue xa.value (t.encoding.blobAsText xb.value) none) } := by
  rw [Tables.evalTyped.eq_def]
  have hname : upperAscii "substr" = "SUBSTR" := by decide
  have hagg : Aggregate.ofCall "SUBSTR" 2 false = none := by decide
  simp only [hname, List.length_cons, List.length_nil, Nat.reduceAdd, hagg, Bool.false_eq_true,
    if_false]
  -- the names the evaluator treats apart from the table of functions are not this one
  split
  · rename_i h; exact absurd h (by decide)
  · rename_i h; exact absurd h (by decide)
  · rename_i h; exact absurd h (by decide)
  · rename_i h; exact absurd h (by decide)
  · rename_i h; exact absurd h (by decide)
  · rename_i h; exact absurd h (by decide)
  · simp only [List.mapM_cons, List.mapM_nil, ha, hb, bind, Except.bind, pure, Except.pure]
    have hjson : ∀ args, SqlJson.jsonFunction "SUBSTR" "substr" args = none := fun _ => rfl
    have hfind : List.find? (fun x : Typed => x.explicit) [xa, xb] = none := by
      simp [hxa, hxb]
    rw [hjson]
    dsimp only
    rw [hfind]
    rfl

end Tables

/-! ## Membership in a group -/

namespace GroupRef

/-- The parser accepts exactly the non-empty ids without `/`. -/
theorem parse_eq_ok {id : String} {g : GroupRef} :
    GroupRef.parse id = .ok g ↔ id ≠ "" ∧ '/' ∉ id.toList ∧ g = ⟨id⟩ := by
  unfold GroupRef.parse
  split
  · rename_i h
    simp only [reduceCtorEq, false_iff, not_and]
    rintro hne hslash -
    rcases h with h | h
    · exact hne h
    · exact hslash (List.contains_iff_mem.1 h)
  · rename_i h
    simp only [not_or, List.contains_iff_mem] at h
    simp only [Except.ok.injEq, h.1, ne_eq, not_false_eq_true, true_and]
    refine ⟨fun e => ⟨fun hm => ?_, e.symm⟩, fun e => e.2.symm⟩
    have := List.contains_iff_mem.2 hm
    simp_all

/-- A collection belongs to a group when its path is the id, or ends with `/` and the id. -/
theorem includes_iff (g : GroupRef) (c : String) :
    g.includes c = true ↔ c = g.id ∨ ∃ pre, c.toList = pre ++ '/' :: g.id.toList := by
  unfold includes
  simp only [Bool.or_eq_true, beq_iff_eq, String.toList_inj, Bool.and_eq_true,
    List.isSuffixOf_iff_suffix]
  refine or_congr_right ⟨?_, ?_⟩
  · rintro ⟨⟨pre, hpre⟩, hlast⟩
    -- what stands before the id ends with `/`
    rw [← hpre, List.length_append, Nat.add_sub_cancel, List.take_left] at hlast
    obtain ⟨ys, rfl⟩ := List.getLast?_eq_some_iff.1 hlast
    exact ⟨ys, by rw [← hpre, List.append_assoc, List.singleton_append]⟩
  · rintro ⟨pre, hc⟩
    have hsplit : c.toList = (pre ++ ['/']) ++ g.id.toList := by
      rw [hc, List.append_assoc, List.singleton_append]
    refine ⟨⟨pre ++ ['/'], hsplit.symm⟩, ?_⟩
    rw [hsplit, List.length_append, Nat.add_sub_cancel, List.take_left, List.getLast?_concat]

/-- Membership as the engine tests it: the path is the id, or its last characters, as many as
`/` and the id have, are `/` and the id. -/
theorem includes_eq_or_drop (g : GroupRef) (c : String) :
    g.includes c = (c == g.id ||
      String.ofList (c.toList.drop (c.toList.length - ("/" ++ g.id).length)) == "/" ++ g.id) := by
  rw [Bool.eq_iff_iff, includes_iff, Bool.or_eq_true, beq_iff_eq, beq_iff_eq]
  refine or_congr_right ?_
  have hslash : ("/" ++ g.id).toList = '/' :: g.id.toList := by
    rw [String.toList_append]
    rfl
  rw [← String.toList_inj, String.toList_ofList, hslash, ← String.length_toList, hslash,
    @eq_comm _ (List.drop _ _), ← List.suffix_iff_eq_drop]
  constructor <;> rintro ⟨pre, h⟩ <;> exact ⟨pre, h.symm⟩

variable {g : GroupRef}

/-- A path in a group ends with the group's id as its last segment. -/
theorem getLast?_pathSegments_of_includes (hne : g.id ≠ "") (hslash : '/' ∉ g.id.toList)
    {c : String} (h : g.includes c = true) : (pathSegments c).getLast? = some g.id := by
  have hid : (g.id.toList.splitOn '/').map String.ofList = [g.id] := by
    rw [List.splitOn_eq_singleton hslash, List.map_singleton, String.ofList_toList]
  rcases (includes_iff g c).1 h with rfl | ⟨pre, hc⟩
  · rw [pathSegments, hid]
    simp [hne]
  · rw [pathSegments, hc, List.splitOn_append_cons_self, List.map_append, hid, List.filter_append]
    simp [hne]

/-- The canonical path of segments is in the group exactly when its last segment is the id. -/
theorem includes_joinSegments (hne : g.id ≠ "") (hslash : '/' ∉ g.id.toList) {segs : List String}
    (hsegs : segs ≠ []) (hs : ∀ s ∈ segs, s ≠ "" ∧ '/' ∉ s.toList) :
    g.includes (joinSegments segs) = true ↔ segs.getLast? = some g.id := by
  constructor
  · intro h
    rw [← pathSegments_joinSegments hsegs hs]
    exact getLast?_pathSegments_of_includes hne hslash h
  · intro h
    obtain ⟨init, rfl⟩ := List.getLast?_eq_some_iff.1 h
    rw [includes_iff]
    cases init with
    | nil => exact .inl String.intercalate_singleton
    | cons s rest =>
      -- the segments before the last are joined, then `/` and the id
      refine .inr ⟨(joinSegments (s :: rest)).toList, ?_⟩
      rw [joinSegments, String.intercalate_append_of_ne_nil (List.cons_ne_nil _ _)
        (List.cons_ne_nil _ _), String.intercalate_singleton, String.toList_append,
        String.toList_append, joinSegments, List.append_assoc]
      rfl

end GroupRef

/-! ## The compiled filter -/

theorem TextEncoding.blobAsText_integer (enc : TextEncoding) (i : Int) :
    enc.blobAsText (.integer i) = .integer i := rfl

namespace Tables

variable {t : Tables} {sc : Sql.Scope} {c : String} {x : Typed} {g : GroupRef}

/-- `-?` bound to a count within the engine's limits is that count negated. -/
theorem arithmetic_neg_count {m : Nat} (hm : (m : Int) ≤ maxLength) :
    arithmetic .sub (.integer 0) (.integer m) = .integer (-m) := by
  have hmax : maxLength = 1000000000 := rfl
  have hfits : fits64 (-m) = true := by
    simp only [fits64, Nat.pow_eq, Nat.reducePow, decide_eq_true_eq]
    omega
  simp only [arithmetic, numericOperand, Int.zero_sub, hfits, if_true]

/-- With the group's bindings, the predicate `collection_id = ?1 OR substr(collection_id, -?2) = ?3`
evaluates to `GroupRef.includes` on the row's collection. -/
theorem evalTyped_inGroup (fuel : Nat) (henc : t.encoding = .utf8)
    (hparams : sc.params = (Query.sourceFilter (.group g)).2)
    (halias : sc.aliasOf? "collection_id" = none) (hcol : sc.column none "collection_id" = .ok x)
    (hx : x.BinaryText c) (hc : '\x00' ∉ c.toList) (hg : (g.id.length : Int) < maxLength) :
    t.evalTyped (fuel + 5) sc Filter.inGroup.condition =
      .ok { value := truthValue (some (g.includes c)) } := by
  have hcol' : ∀ k, t.evalTyped (k + 1) sc (.column none "collection_id") = .ok x :=
    fun _ => (evalTyped_column halias).trans hcol
  have hm : ("/" ++ g.id).length = g.id.length + 1 := by
    rw [String.length_append, Nat.add_comm]
    rfl
  have hp1 : sc.params.getD (1 - 1) .null = .ofString g.id := by rw [hparams]; rfl
  have hp2 : sc.params.getD (2 - 1) .null = .integer ("/" ++ g.id).length := by rw [hparams]; rfl
  have hp3 : sc.params.getD (3 - 1) .null = .ofString ("/" ++ g.id) := by rw [hparams]; rfl
  -- `collection_id = ?1`: the path is the id
  have hsame : t.evalTyped (fuel + 4) sc (.binary .eq (Filter.col "collection_id") (.param 1)) =
      .ok { value := truthValue (some (c == g.id)) } := by
    rw [Filter.col, evalTyped_eq_column_param 1 (hcol' _), henc, hp1,
      comparisonValue_eq_binaryText hx (Typed.binaryText_ofString _)]
  -- `-?2`: minus the number of characters of `/` and the id
  have hneg : t.evalTyped (fuel + 2) sc (.unary .neg (.param 2)) =
      .ok { value := .integer (-(("/" ++ g.id).length : Nat)) } := by
    rw [evalTyped_neg_param, hp2, TextEncoding.blobAsText_integer,
      arithmetic_neg_count (m := ("/" ++ g.id).length) (by rw [hm]; omega)]
  -- `substr(collection_id, -?2)`: the last characters of the path
  have hsub : t.evalTyped (fuel + 3) sc
      (.call "substr" [Filter.col "collection_id", .unary .neg (.param 2)] false false) =
      .ok { value := .ofString (String.ofList
        (c.toList.drop (c.toList.length - ("/" ++ g.id).length))) } := by
    rw [Filter.col, evalTyped_substr (hcol' _) hneg hx.implicit rfl, henc, hx.value]
    dsimp only
    rw [TextEncoding.blobAsText_integer, substrValue_ofString_neg hc (by omega) (by rw [hm]; omega)]
    rfl
  -- `substr(...) = ?3`: those characters are `/` and the id
  have hsuffix : t.evalTyped (fuel + 4) sc (.binary .eq
      (.call "substr" [Filter.col "collection_id", .unary .neg (.param 2)] false false) (.param 3)) =
      .ok { value := truthValue (some (String.ofList
        (c.toList.drop (c.toList.length - ("/" ++ g.id).length)) == "/" ++ g.id)) } := by
    rw [evalTyped_eq_call_param 3 hsub, henc, hp3,
      comparisonValue_eq_binaryText (Typed.binaryText_ofString _) (Typed.binaryText_ofString _)]
  rw [Filter.condition, evalTyped_or hsame hsuffix rfl rfl, GroupRef.includes_eq_or_drop]

/-- The group filter of a compiled query holds of a row exactly when the group includes the row's
collection. -/
theorem holdsIn_inGroup (henc : t.encoding = .utf8) (halias : sc.aliasOf? "collection_id" = none)
    (hcol : sc.column none "collection_id" = .ok x) (hx : x.BinaryText c) (hc : '\x00' ∉ c.toList)
    (hg : (g.id.length : Int) < maxLength) :
    Filter.inGroup.holdsIn t sc (Query.sourceFilter (.group g)).2 = .ok (g.includes c) := by
  -- the filter reads the row's scope with the group's bindings in place of its own
  have halias' : ({ sc with params := (Query.sourceFilter (.group g)).2 } : Sql.Scope).aliasOf?
      "collection_id" = none := halias
  have hcol'' : ({ sc with params := (Query.sourceFilter (.group g)).2 } : Sql.Scope).column none
      "collection_id" = .ok x := hcol
  have heval := evalTyped_inGroup 99995 henc rfl halias' hcol'' hx hc hg
  unfold Filter.holdsIn Tables.holds Tables.eval
  dsimp only
  rw [show evalFuel = 99995 + 5 from rfl, heval]
  simp only [bind, Except.bind, pure, Except.pure, truth_truthValue]
  cases g.includes c <;> rfl

end Tables

/-! ## The group filter decides membership -/

/-- A collection reference the parser accepts is the canonical path of the segments given. -/
theorem CollectionRef.parse_id {path : String} {cr : CollectionRef}
    (h : CollectionRef.parse path = .ok cr) :
    pathSegments path ≠ [] ∧ cr.id = joinSegments (pathSegments path) := by
  unfold CollectionRef.parse splitPath at h
  split at h
  · cases h
  · rename_i hne
    by_cases hodd : (pathSegments path).length % 2 = 0
    · simp [hodd, bind, Except.bind, throw, throwThe, MonadExceptOf.throw] at h
    · simp only [hodd, bind, Except.bind, pure, Except.pure, if_false, Except.ok.injEq] at h
      exact ⟨hne, by rw [← h]⟩

/-- What the compiled filter of a group query decides. On a row whose collection path has no NUL
it holds exactly when the group includes the path; a path is included when it is the id or ends
with `/` and the id; and for a collection the parser built from a path, that is when the path's
last segment is the id. -/
structure DecidesGroup (t : Tables) (g : GroupRef) : Prop where
  filter : ∀ (sc : Sql.Scope) (c : String) (x : Typed), sc.aliasOf? "collection_id" = none →
    sc.column none "collection_id" = .ok x → x.BinaryText c → '\x00' ∉ c.toList →
    Filter.inGroup.holdsIn t sc (Query.sourceFilter (.group g)).2 = .ok (g.includes c)
  includes : ∀ c : String,
    g.includes c = true ↔ c = g.id ∨ ∃ pre, c.toList = pre ++ '/' :: g.id.toList
  lastSegment : ∀ (path : String) (cr : CollectionRef), CollectionRef.parse path = .ok cr →
    (g.includes cr.id = true ↔ (pathSegments path).getLast? = some g.id)

/-- In a database that keeps its text in UTF-8, the filter compiled for a group id the parser
accepts decides membership in the group, for an id shorter than the engine's longest text. -/
theorem groupFilter_decides {t : Tables} (henc : t.encoding = .utf8) {id : String} {g : GroupRef}
    (hg : GroupRef.parse id = .ok g) (hlen : (id.length : Int) < maxLength) : DecidesGroup t g := by
  obtain ⟨hne, hslash, rfl⟩ := GroupRef.parse_eq_ok.1 hg
  refine ⟨fun sc c x halias hcol hx hc => Tables.holdsIn_inGroup henc halias hcol hx hc hlen,
    GroupRef.includes_iff _, fun path cr hcr => ?_⟩
  obtain ⟨hsegs, hid⟩ := CollectionRef.parse_id hcr
  rw [hid]
  exact GroupRef.includes_joinSegments hne hslash hsegs fun _ hs => mem_pathSegments hs

theorem groupFilter_decides_posts :
    (Tables.bare .utf8).encoding = .utf8 ∧ GroupRef.parse "posts" = .ok ⟨"posts"⟩ ∧
      (("posts".length : Nat) : Int) < maxLength ∧ DecidesGroup (Tables.bare .utf8) ⟨"posts"⟩ :=
  ⟨rfl, rfl, by decide, @groupFilter_decides _ rfl "posts" _ rfl (by decide)⟩

end DocStore
