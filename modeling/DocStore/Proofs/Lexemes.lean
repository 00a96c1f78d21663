import DocStore.Sql.Lexer
import DocStore.Field
/-!
# Reading statement text back into lexemes

The engine reads the text of a statement with `tokenize`. This module says when that reading gives
back the pieces the text was written from. A text is laid out as a list of `Layout` pieces:
blanks, bare words, punctuation, `?` markers, one-digit numbers, string literals (with each quote
doubled) and quoted names. The main statement is `lexemes_of_layout`: when every piece is well
formed and the character after it does not extend it (`Layout.spaced`), the tokenizer returns the
lexemes of the pieces in order, with the blanks dropped.

It rests on `SourceText.lexemesFrom_item`: at the first character of a piece the tokenizer reads
exactly that piece, by one lemma about `tokenAt` per kind of piece (`tokenAt_word`,
`tokenAt_string`, ...). A position is described by the text that follows it
(`s.chars.toList.drop i`), so each lemma reads a piece where it stands. The tokenizer stops at a
NUL, so a string literal or a quoted name holds none.
-/

namespace DocStore
namespace Sql

/-- A token as the statement that holds it sees it: its kind and its value. -/
def Token.lexeme (t : Token) : TokenKind × String := (t.kind, t.value)

namespace SourceText

variable (s : SourceText)

/-- The lexemes the engine reads from a position of a text on. -/
def lexemesFrom (i : Nat) : List (TokenKind × String) :=
  (tokenize.go s (s.chars.size + 1) i #[]).toList.map Token.lexeme

variable {s}

theorem skipWhile_go_ge (p : Char → Bool) : ∀ (f j : Nat), j ≤ skipWhile.go s p f j
  | 0, _ => Nat.le_refl _
  | f + 1, j => by
    simp only [skipWhile.go]
    split
    · exact Nat.le_trans (Nat.le_succ j) (skipWhile_go_ge p f (j + 1))
    · exact Nat.le_refl _

/-- A run of characters that pass `p` is skipped past its first one. -/
theorem lt_skipWhile {p : Char → Bool} {i : Nat} (hi : i < s.chars.size) (hp : p (s.get i) = true) :
    i < s.skipWhile p i := by
  unfold skipWhile
  simp only [skipWhile.go, if_pos (And.intro hi hp)]
  exact Nat.lt_of_lt_of_le (Nat.lt_succ_self i) (skipWhile_go_ge p _ _)

theorem commentEnd_go_ge : ∀ (f j : Nat), min j s.chars.size ≤ commentEnd.go s f j
  | 0, _ => Nat.min_le_left _ _
  | f + 1, j => by
    simp only [commentEnd.go]
    split
    · exact Nat.min_le_right _ _
    · split
      · omega
      · have := commentEnd_go_ge f (j + 1)
        omega

theorem lt_commentEnd {i : Nat} (hi : i < s.chars.size) : i < s.commentEnd i := by
  have := commentEnd_go_ge (s := s) (s.chars.size + 1) (i + 2)
  unfold commentEnd
  omega

theorem go_acc : ∀ (f i : Nat) (acc : Array Token),
    (tokenize.go s f i acc).toList = acc.toList ++ (tokenize.go s f i #[]).toList
  | 0, _, _ => by simp [tokenize.go]
  | f + 1, i, acc => by
    simp only [tokenize.go]
    split
    · simp
    · split
      · exact go_acc f _ acc
      · split
        · exact go_acc f _ acc
        · split
          · exact go_acc f _ acc
          · split
            · simp
            · rw [go_acc f _ (acc.push _), go_acc f _ (#[].push _)]
              simp

/-- With fuel enough to reach the end of the text, the tokenizer reads the same tokens: every
step moves past at least one character. -/
theorem go_fuel : ∀ (f f' i : Nat) (acc : Array Token), s.chars.size < i + f →
    s.chars.size < i + f' → tokenize.go s f i acc = tokenize.go s f' i acc
  | 0, f', i, acc, h, _ => by
    cases f' with
    | zero => rfl
    | succ f' => simp only [tokenize.go, if_pos (Or.inl (show i ≥ s.chars.size by omega))]
  | f + 1, 0, i, acc, _, h => by
    simp only [tokenize.go, if_pos (Or.inl (show i ≥ s.chars.size by omega))]
  | f + 1, f' + 1, i, acc, h, h' => by
    simp only [tokenize.go]
    split
    · rfl
    · rename_i hend
      have hi : i < s.chars.size := by omega
      split
      · exact go_fuel f f' _ acc (by omega) (by omega)
      · split
        · rename_i hdash
          have := lt_skipWhile (p := fun d => d ≠ '\n' ∧ d.toNat ≠ 0) hi (by
            simp only [hdash.1, decide_eq_true_eq]; decide)
          exact go_fuel f f' _ acc (by omega) (by omega)
        · split
          · have := lt_commentEnd (s := s) hi
            exact go_fuel f f' _ acc (by omega) (by omega)
          · split
            · rfl
            · exact go_fuel f f' _ _ (by omega) (by omega)

/-! ## One step of the tokenizer -/

theorem lexemesFrom_step (i : Nat) : s.lexemesFrom i =
    if i ≥ s.chars.size ∨ (s.get i).toNat = 0 then []
    else if isBlank (s.get i) then s.lexemesFrom (i + 1)
    else if s.get i = '-' ∧ s.get (i + 1) = '-' then
      s.lexemesFrom (s.skipWhile (fun d => d ≠ '\n' ∧ d.toNat ≠ 0) i)
    else if s.get i = '/' ∧ s.get (i + 1) = '*' then s.lexemesFrom (s.commentEnd i)
    else
      let (kind, j, value) := s.tokenAt i
      (kind, value) :: if kind = .illegal then [] else s.lexemesFrom (max j (i + 1)) := by
  have hfuel : ∀ j acc, i < j → tokenize.go s s.chars.size j acc =
      tokenize.go s (s.chars.size + 1) j acc := fun j acc hj =>
    go_fuel _ _ j acc (by omega) (by omega)
  unfold lexemesFrom
  rw [tokenize.go]
  split
  · rfl
  · rename_i hend
    have hi : i < s.chars.size := by omega
    split
    · rw [hfuel _ _ (by omega)]
    · split
      · rename_i hdash
        have := lt_skipWhile (p := fun d => d ≠ '\n' ∧ d.toNat ≠ 0) hi (by
          simp only [hdash.1, decide_eq_true_eq]; decide)
        rw [hfuel _ _ this]
      · split
        · rw [hfuel _ _ (lt_commentEnd hi)]
        · split
          rename_i kind j v htok
          split
          · rename_i hill
            simp [Token.lexeme, hill, htok]
          · rename_i hill
            rw [go_acc, hfuel _ _ (by omega)]
            simp [Token.lexeme, hill, htok]

/-! ## Reading a text at a position -/

theorem get_of_drop {i : Nat} {l : List Char} (hs : s.chars.toList.drop i = l) (n : Nat) :
    s.get (i + n) = l.getD n (Char.ofNat 0) := by
  rw [← hs]
  simp only [get, Array.getD_eq_getD_getElem?, List.getD_eq_getElem?_getD, List.getElem?_drop,
    Array.getElem?_toList]

theorem lt_size_of_drop {i : Nat} {c : Char} {l : List Char}
    (hs : s.chars.toList.drop i = c :: l) : i < s.chars.size := by
  have := congrArg List.length hs
  simp only [List.length_drop, Array.length_toList, List.length_cons] at this
  omega

theorem drop_add_of_drop {i : Nat} {w rest : List Char} (hs : s.chars.toList.drop i = w ++ rest) :
    s.chars.toList.drop (i + w.length) = rest := by
  rw [← List.drop_drop, hs, List.drop_left]

theorem skipWhile_go_of_drop {p : Char → Bool} {rest : List Char}
    (hr : ∀ c ∈ rest.head?, p c = false) :
    ∀ (w : List Char) (i f : Nat), s.chars.toList.drop i = w ++ rest → (∀ c ∈ w, p c = true) →
      w.length < f → skipWhile.go s p f i = i + w.length
  | [], i, f, hs, _, hf => by
    obtain ⟨f, rfl⟩ : ∃ f', f = f' + 1 := ⟨f - 1, by simp at hf; omega⟩
    simp only [skipWhile.go, List.length_nil, Nat.add_zero]
    rw [if_neg]
    rintro ⟨hi, hp⟩
    rw [List.nil_append] at hs
    cases rest with
    | nil =>
      have := congrArg List.length hs
      simp only [List.length_drop, Array.length_toList, List.length_nil] at this
      omega
    | cons c rest =>
      have hc := get_of_drop hs 0
      rw [Nat.add_zero, List.getD_cons_zero] at hc
      rw [hc, hr c rfl] at hp
      exact Bool.false_ne_true hp
  | c :: w, i, f, hs, hw, hf => by
    obtain ⟨f, rfl⟩ : ∃ f', f = f' + 1 := ⟨f - 1, by simp at hf; omega⟩
    rw [List.cons_append] at hs
    have hc := get_of_drop hs 0
    rw [Nat.add_zero, List.getD_cons_zero] at hc
    simp only [skipWhile.go]
    rw [if_pos ⟨lt_size_of_drop hs, hc ▸ hw c (List.mem_cons_self ..)⟩]
    have hs' : s.chars.toList.drop (i + 1) = w ++ rest := by
      rw [← List.drop_drop, hs, List.drop_one, List.tail_cons]
    rw [skipWhile_go_of_drop hr w (i + 1) f hs' (fun d hd => hw d (List.mem_cons_of_mem _ hd))
      (by simp at hf; omega), List.length_cons]
    omega

/-- A run of characters that pass `p`, followed by one that fails it or by the end, is skipped
whole. -/
theorem skipWhile_of_drop {p : Char → Bool} {i : Nat} {w rest : List Char}
    (hs : s.chars.toList.drop i = w ++ rest) (hw : ∀ c ∈ w, p c = true)
    (hr : ∀ c ∈ rest.head?, p c = false) : s.skipWhile p i = i + w.length := by
  have := congrArg List.length hs
  simp only [List.length_drop, Array.length_toList, List.length_append] at this
  exact skipWhile_go_of_drop hr w i _ hs hw (by omega)

theorem span_of_drop {i : Nat} {w rest : List Char} (hs : s.chars.toList.drop i = w ++ rest) :
    s.span i (i + w.length) = String.ofList w := by
  simp only [span, Array.toList_extract, List.extract_eq_take_drop, hs, Nat.add_sub_cancel_left,
    List.take_left]

/-! ## Quoted runs -/

/-- The characters of a quoted run's body: every delimiter doubled. -/
def quoteWith (d : Char) (body : List Char) : List Char :=
  body.flatMap fun c => if c = d then [d, d] else [c]

theorem quotedEnd_go_of_drop {d : Char} (hd : d.toNat ≠ 0) {rest : List Char}
    (hr : ∀ c ∈ rest.head?, c ≠ d) :
    ∀ (body : List Char) (j f : Nat) (acc : List Char),
      s.chars.toList.drop j = quoteWith d body ++ d :: rest → (∀ c ∈ body, c.toNat ≠ 0) →
      (quoteWith d body).length < f →
      quotedEnd.go s d f j acc =
        some (j + (quoteWith d body).length + 1, String.ofList (acc.reverse ++ body))
  | [], j, f, acc, hs, _, hf => by
    obtain ⟨f, rfl⟩ : ∃ f', f = f' + 1 := ⟨f - 1, by simp [quoteWith] at hf; omega⟩
    simp only [quoteWith, List.flatMap_nil, List.nil_append] at hs
    have h0 := get_of_drop hs 0
    have h1 := get_of_drop hs 1
    rw [Nat.add_zero, List.getD_cons_zero] at h0
    rw [List.getD_cons_succ] at h1
    have hnext : s.get (j + 1) ≠ d := by
      rw [h1]
      cases rest with
      | nil => exact fun h => hd (by rw [← h]; rfl)
      | cons c rest => exact hr c rfl
    simp only [quotedEnd.go, h0, hd, or_false, if_neg (Nat.not_le.2 (lt_size_of_drop hs)),
      if_true, if_neg hnext]
    simp [quoteWith]
  | c :: body, j, f, acc, hs, hnul, hf => by
    obtain ⟨f, rfl⟩ : ∃ f', f = f' + 1 := ⟨f - 1, by omega⟩
    have hc0 : c.toNat ≠ 0 := hnul c (List.mem_cons_self ..)
    have hbody : ∀ c ∈ body, c.toNat ≠ 0 := fun c h => hnul c (List.mem_cons_of_mem _ h)
    by_cases hcd : c = d
    · -- a doubled delimiter stands for one
      subst hcd
      have hq : quoteWith c (c :: body) = c :: c :: quoteWith c body := by simp [quoteWith]
      rw [hq] at hs hf
      have h0 := get_of_drop hs 0
      have h1 := get_of_drop hs 1
      simp only [Nat.add_zero, List.cons_append, List.getD_cons_zero, List.getD_cons_succ] at h0 h1
      have hs' : s.chars.toList.drop (j + 2) = quoteWith c body ++ c :: rest := by
        rw [← List.drop_drop, hs]
        rfl
      simp only [quotedEnd.go, h0, h1, hc0, or_false, if_neg (Nat.not_le.2 (lt_size_of_drop hs)),
        if_true]
      rw [quotedEnd_go_of_drop hd hr body (j + 2) f (c :: acc) hs' hbody (by simp at hf; omega), hq]
      simp only [List.reverse_cons, List.append_assoc, List.singleton_append, List.length_cons]
      congr 2
      omega
    · have hq : quoteWith d (c :: body) = c :: quoteWith d body := by simp [quoteWith, hcd]
      rw [hq] at hs hf
      have h0 := get_of_drop hs 0
      simp only [Nat.add_zero, List.cons_append, List.getD_cons_zero] at h0
      have hs' : s.chars.toList.drop (j + 1) = quoteWith d body ++ d :: rest := by
        rw [← List.drop_drop, hs]
        rfl
      simp only [quotedEnd.go, h0, hc0, or_false, if_neg (Nat.not_le.2 (lt_size_of_drop hs)),
        if_neg hcd]
      rw [quotedEnd_go_of_drop hd hr body (j + 1) f (c :: acc) hs' hbody (by simp at hf; omega), hq]
      simp only [List.reverse_cons, List.append_assoc, List.singleton_append, List.length_cons]
      congr 2
      omega

end SourceText

/-! ## Layouts of statement text -/

/-- Punctuation the store writes between the names and literals of its statements. -/
inductive Punct where
  | lparen | rparen | comma | star | dot | eq | ne | lt | le | gt | ge | minus
deriving DecidableEq, Repr

namespace Punct

/-- The text of the punctuation. -/
def text : Punct → String
  | lparen => "(" | rparen => ")" | comma => "," | star => "*" | dot => "." | eq => "="
  | ne => "!=" | lt => "<" | le => "<=" | gt => ">" | ge => ">=" | minus => "-"

/-- Whether a character after the punctuation would make the engine read a longer token. -/
def joins : Punct → Char → Bool
  | dot, c => c.isDigit
  | eq, c => c = '='
  | lt, c => c = '=' || c = '>' || c = '<'
  | gt, c => c = '=' || c = '>'
  | minus, c => c = '>' || c = '-'
  | _, _ => false

end Punct

/-- A piece of statement text as the engine reads it: a blank, or one token. -/
inductive Layout where
  | blank
  | word (w : String)
  | punct (p : Punct)
  | param
  | digit (d : Char)
  | string (v : String)
  | quoted (v : String)
deriving DecidableEq, Repr

namespace Layout

/-- The characters of a piece. -/
def chars : Layout → List Char
  | blank => [' ']
  | word w => w.toList
  | punct p => p.text.toList
  | param => ['?']
  | digit d => [d]
  | string v => '\'' :: quoteSqlChars v.toList ++ ['\'']
  | quoted v => '"' :: v.toList ++ ['"']

/-- The lexeme the engine reads from a piece; none from a blank. -/
def lexeme : Layout → Option (TokenKind × String)
  | blank => none
  | word w => some (.word, w)
  | punct p => some (.op, p.text)
  | param => some (.variable, "?")
  | digit d => some (.integer, String.ofList [d])
  | string v => some (.string, v)
  | quoted v => some (.quoted, v)

/-- Whether the engine reads the piece back as its lexeme: a word of identifier characters, a
digit, text without NUL, a quoted name without its quote. -/
def valid : Layout → Bool
  | word w => match w.toList with
    | c :: cs => isIdStart c && cs.all isIdChar
    | [] => false
  | digit d => d.isDigit
  | string v => !v.toList.contains '\x00'
  | quoted v => !v.toList.contains '\x00' && !v.toList.contains '"'
  | _ => true

/-- Whether the character after a piece (none at the end) leaves it whole. -/
def closedBy : Layout → Option Char → Bool
  | blank, _ => true
  | word _, next => next.all fun c => !isIdChar c && c != '\''
  | punct p, next => next.all fun c => !p.joins c
  | param, next => next.all fun c => !c.isDigit
  | digit _, next => next.all fun c => !c.isDigit && !isIdChar c && c != '.'
  | string _, next => next.all (· != '\'')
  | quoted _, next => next.all (· != '"')

/-- Whether the engine reads a layout back piece by piece: every piece is valid and left whole by
the character after it, the first of the next piece or, after the last, `next`. -/
def spaced : List Layout → Option Char → Bool
  | [], _ => true
  | l :: ls, next => l.valid && l.closedBy (((ls.flatMap chars).head?).or next) && spaced ls next

end Layout

namespace SourceText

variable {s : SourceText}

theorem next_of_drop {i : Nat} {w rest : List Char} (hs : s.chars.toList.drop i = w ++ rest) :
    s.get (i + w.length) = rest.head?.getD (Char.ofNat 0) := by
  have h := get_of_drop (drop_add_of_drop hs) 0
  rw [Nat.add_zero] at h
  rw [h]
  cases rest <;> rfl

theorem isDigit_eq_false_of_isIdStart {c : Char} (h : isIdStart c = true) : c.isDigit = false := by
  have h0 : '0'.val.toNat = 48 := rfl
  have h9 : '9'.val.toNat = 57 := rfl
  have hA : 'A'.val.toNat = 65 := rfl
  have ha : 'a'.val.toNat = 97 := rfl
  have hu : '_'.val.toNat = 95 := rfl
  -- the letter classes of the core library, read off their definitions
  change ((decide (c.val ≥ 'A'.val ∧ c.val ≤ 'Z'.val) ||
    (decide (c.val ≥ 'a'.val) && decide (c.val ≤ 'z'.val))) || decide (c = '_') ||
    decide (c.toNat ≥ 0x80)) = true at h
  simp only [Bool.or_eq_true, Bool.and_eq_true, decide_eq_true_eq, UInt32.le_iff_toNat_le] at h
  simp only [Char.isDigit, Bool.and_eq_false_iff, decide_eq_false_iff_not,
    UInt32.le_iff_toNat_le, h0, h9]
  have hv : c.toNat = c.val.toNat := rfl
  rcases h with ((⟨h1, -⟩ | ⟨h1, -⟩) | h) | h
  · rw [hA] at h1; omega
  · rw [ha] at h1; omega
  · subst h; rw [hu]; omega
  · omega

theorem isIdChar_of_isIdStart {c : Char} (h : isIdStart c = true) : isIdChar c = true := by
  simp only [isIdStart, isIdChar, Bool.or_eq_true, decide_eq_true_eq] at h ⊢
  rcases h with (h | h) | h
  · exact .inl (.inl (.inl (by simp [Char.isAlphanum, h])))
  · exact .inl (.inl (.inr h))
  · exact .inr h

/-- A word: an identifier start, identifier characters, and then none. -/
theorem tokenAt_word {i : Nat} {c : Char} {cs rest : List Char}
    (hs : s.chars.toList.drop i = (c :: cs) ++ rest) (hc : isIdStart c = true)
    (hcs : ∀ d ∈ cs, isIdChar d = true)
    (hr : ∀ d ∈ rest.head?, isIdChar d = false ∧ d ≠ '\'') :
    s.tokenAt i = (.word, i + (c :: cs).length, String.ofList (c :: cs)) := by
  have h0 := get_of_drop hs 0
  simp only [Nat.add_zero, List.cons_append, List.getD_cons_zero] at h0
  -- the branches before words need a character that is no identifier start
  have hne : ∀ d, isIdStart d = false → c ≠ d := fun d hd h => by rw [h, hd] at hc; cases hc
  have hdigit := isDigit_eq_false_of_isIdStart hc
  have hx : ¬((c = 'x' ∨ c = 'X') ∧ s.get (i + 1) = '\'') := by
    rintro ⟨-, h1⟩
    have h1' := get_of_drop hs 1
    rw [h1] at h1'
    cases cs with
    | cons d ds =>
      have := hcs d (List.mem_cons_self ..)
      simp only [List.cons_append, List.getD_cons_succ, List.getD_cons_zero] at h1'
      rw [← h1'] at this
      exact absurd this (by decide)
    | nil =>
      cases rest with
      | nil =>
        simp only [List.cons_append, List.nil_append, List.getD_cons_succ, List.getD_nil] at h1'
        exact absurd h1' (by decide)
      | cons d ds =>
        simp only [List.cons_append, List.nil_append, List.getD_cons_succ, List.getD_cons_zero] at h1'
        exact (hr d rfl).2 h1'.symm
  have hrun := skipWhile_of_drop (p := isIdChar) hs
    (fun d hd => (List.mem_cons.1 hd).elim (fun e => e ▸ isIdChar_of_isIdStart hc) (hcs d))
    (fun d hd => (hr d hd).1)
  unfold tokenAt
  simp only [h0, hne '\'' rfl, hne '"' rfl, hne '`' rfl, hne '[' rfl, hne '.' rfl, hdigit,
    Bool.false_eq_true, false_and, or_self, if_false, hx, hc, if_true, hrun,
    span_of_drop hs]

/-- Punctuation, followed by a character that does not lengthen it. -/
theorem tokenAt_punct {i : Nat} {rest : List Char} (p : Punct)
    (hs : s.chars.toList.drop i = p.text.toList ++ rest)
    (hr : ∀ d ∈ rest.head?, p.joins d = false) :
    s.tokenAt i = (.op, i + p.text.toList.length, p.text) := by
  have hj : p.joins (s.get (i + p.text.toList.length)) = false := by
    rw [next_of_drop hs]
    cases rest with
    | nil => cases p <;> rfl
    | cons d _ => exact hr d rfl
  have hspan := span_of_drop hs
  have h0 := get_of_drop hs 0
  have h1 := get_of_drop hs 1
  rw [String.ofList_toList] at hspan
  cases p <;>
  · simp only [Punct.text, Punct.joins] at hj hspan h0 h1 ⊢
    unfold tokenAt
    simp_all +decide

/-- A `?` not followed by a digit. -/
theorem tokenAt_param {i : Nat} {rest : List Char} (hs : s.chars.toList.drop i = ['?'] ++ rest)
    (hr : ∀ d ∈ rest.head?, d.isDigit = false) : s.tokenAt i = (.variable, i + 1, "?") := by
  have h0 := get_of_drop hs 0
  simp only [Nat.add_zero, List.cons_append, List.nil_append, List.getD_cons_zero] at h0
  have hrun := skipWhile_of_drop (p := Char.isDigit) (drop_add_of_drop hs) (w := [])
    (by simp) hr
  have hspan := span_of_drop hs
  simp only [List.length_cons, List.length_nil, Nat.zero_add, Nat.add_zero] at hrun hspan
  unfold tokenAt
  simp_all +decide

theorem ne_of_isDigit {c d : Char} (hc : c.isDigit = true) (hd : d.isDigit = false) : c ≠ d :=
  fun h => by rw [h, hd] at hc; cases hc

/-- A one-digit number, followed by no digit, point or identifier character. -/
theorem tokenAt_digit {i : Nat} {d : Char} {rest : List Char}
    (hs : s.chars.toList.drop i = [d] ++ rest) (hd : d.isDigit = true)
    (hr : ∀ c ∈ rest.head?, c.isDigit = false ∧ isIdChar c = false ∧ c ≠ '.') :
    s.tokenAt i = (.integer, i + 1, String.ofList [d]) := by
  have h0 := get_of_drop hs 0
  simp only [Nat.add_zero, List.cons_append, List.nil_append, List.getD_cons_zero] at h0
  have hnext := next_of_drop hs
  simp only [List.length_cons, List.length_nil, Nat.zero_add] at hnext
  -- the character after the digit, or NUL at the end, is none that continues a number
  have hn : (s.get (i + 1)).isDigit = false ∧ isIdChar (s.get (i + 1)) = false ∧
      s.get (i + 1) ≠ '.' := by
    rw [hnext]
    cases rest with
    | nil => exact ⟨rfl, rfl, by decide⟩
    | cons c _ => exact hr c rfl
  have hx : s.get (i + 1) ≠ 'x' ∧ s.get (i + 1) ≠ 'X' ∧ s.get (i + 1) ≠ 'e' ∧
      s.get (i + 1) ≠ 'E' := by
    refine ⟨?_, ?_, ?_, ?_⟩ <;> intro h <;> rw [h] at hn <;> exact absurd hn.2.1 (by decide)
  have hdigits := skipWhile_of_drop (p := Char.isDigit) hs (by simpa using hd)
    (fun c hc => (hr c hc).1)
  have hid := skipWhile_of_drop (p := isIdChar) (drop_add_of_drop hs) (w := [])
    (by simp) (fun c hc => (hr c hc).2.1)
  have hspan := span_of_drop hs
  simp only [List.length_cons, List.length_nil, Nat.zero_add, Nat.add_zero]
    at hdigits hid hspan
  unfold tokenAt numberEnd
  simp only [h0, hd, hdigits, hid, hspan, hx, hn.2.2, ne_of_isDigit hd (show '\''.isDigit = false by decide),
    ne_of_isDigit hd (show '"'.isDigit = false by decide), ne_of_isDigit hd (show '`'.isDigit = false by decide),
    ne_of_isDigit hd (show '['.isDigit = false by decide), true_or, false_and,
    and_false, if_true, if_false, ne_eq, not_true_eq_false, Bool.false_eq_true, or_self]

theorem quoteSqlChars_eq_quoteWith : ∀ l : List Char, quoteSqlChars l = quoteWith '\'' l
  | [] => rfl
  | c :: l => by
    by_cases h : c = '\''
    · simp [quoteSqlChars, quoteWith, h, quoteSqlChars_eq_quoteWith l]
    · simp [quoteSqlChars, quoteWith, h, quoteSqlChars_eq_quoteWith l]

theorem quoteWith_of_not_mem {d : Char} {l : List Char} (h : d ∉ l) : quoteWith d l = l := by
  induction l with
  | nil => rfl
  | cons c l ih =>
    have hc : c ≠ d := fun e => h (e ▸ List.mem_cons_self ..)
    simp only [quoteWith, List.flatMap_cons, if_neg hc, List.singleton_append] at ih ⊢
    rw [ih fun hm => h (List.mem_cons_of_mem _ hm)]

/-- A quoted run: the engine reads its body back, with each doubled delimiter as one. -/
theorem quotedEnd_of_drop {i : Nat} {d : Char} (hd : d.toNat ≠ 0) {body rest : List Char}
    (hs : s.chars.toList.drop i = d :: quoteWith d body ++ d :: rest)
    (hnul : ∀ c ∈ body, c.toNat ≠ 0) (hr : ∀ c ∈ rest.head?, c ≠ d) :
    s.quotedEnd d i = some (i + (quoteWith d body).length + 2, String.ofList body) := by
  have hs' : s.chars.toList.drop (i + 1) = quoteWith d body ++ d :: rest := by
    rw [← List.drop_drop, hs]
    rfl
  have hlen := congrArg List.length hs
  simp only [List.length_drop, Array.length_toList, List.length_cons, List.length_append] at hlen
  unfold quotedEnd
  rw [quotedEnd_go_of_drop hd hr body (i + 1) _ [] hs' hnul (by omega)]
  simp only [List.reverse_nil, List.nil_append]
  congr 2
  omega

theorem toNat_ne_zero_of_mem {l : List Char} (h : '\x00' ∉ l) : ∀ c ∈ l, c.toNat ≠ 0 :=
  fun c hc hz => h (by rwa [show c = '\x00' from Char.toNat_inj.mp hz] at hc)

/-- A string literal: the engine reads back the text it quotes. -/
theorem tokenAt_string {i : Nat} {v : String} {rest : List Char}
    (hs : s.chars.toList.drop i = ('\'' :: quoteSqlChars v.toList ++ ['\'']) ++ rest)
    (hv : '\x00' ∉ v.toList) (hr : ∀ c ∈ rest.head?, c ≠ '\'') :
    s.tokenAt i = (.string, i + ('\'' :: quoteSqlChars v.toList ++ ['\'']).length, v) := by
  rw [quoteSqlChars_eq_quoteWith] at hs ⊢
  have hs' : s.chars.toList.drop i = '\'' :: quoteWith '\'' v.toList ++ '\'' :: rest := by
    rw [hs]; simp
  have h0 := get_of_drop hs' 0
  simp only [Nat.add_zero, List.cons_append, List.getD_cons_zero] at h0
  have hq := quotedEnd_of_drop (by decide) hs' (toNat_ne_zero_of_mem hv) hr
  rw [String.ofList_toList] at hq
  unfold tokenAt
  simp only [h0, true_or, if_true, hq, List.length_cons, List.length_append, List.length_nil]
  congr 2

/-- A quoted name without its quote inside: the engine reads back the name. -/
theorem tokenAt_quoted {i : Nat} {v : String} {rest : List Char}
    (hs : s.chars.toList.drop i = ('"' :: v.toList ++ ['"']) ++ rest)
    (hv : '\x00' ∉ v.toList) (hq : '"' ∉ v.toList) (hr : ∀ c ∈ rest.head?, c ≠ '"') :
    s.tokenAt i = (.quoted, i + ('"' :: v.toList ++ ['"']).length, v) := by
  have hs' : s.chars.toList.drop i = '"' :: quoteWith '"' v.toList ++ '"' :: rest := by
    rw [hs, quoteWith_of_not_mem hq]; simp
  have h0 := get_of_drop hs' 0
  simp only [Nat.add_zero, List.cons_append, List.getD_cons_zero] at h0
  have hend := quotedEnd_of_drop (by decide) hs' (toNat_ne_zero_of_mem hv) hr
  rw [String.ofList_toList, quoteWith_of_not_mem hq] at hend
  unfold tokenAt
  simp only [h0, true_or, or_true, if_true, hend, List.length_cons, List.length_append,
    List.length_nil]
  simp +decide only [if_false]
  congr 2

/-! ## Reading a layout -/

theorem mem_of_all {p : Char → Bool} {o : Option Char} (h : o.all p = true) : ∀ d ∈ o, p d = true := by
  intro d hd
  rw [Option.mem_def] at hd
  subst hd
  exact h

/-- A token that starts at a character which is no blank, NUL or comment start. -/
theorem lexemesFrom_token {i j : Nat} {c : Char} {l : List Char} {kind : TokenKind} {v : String}
    (hs : s.chars.toList.drop i = c :: l) (hnul : c.toNat ≠ 0) (hb : isBlank c = false)
    (hline : c = '-' → s.get (i + 1) ≠ '-') (hcom : c ≠ '/')
    (ht : s.tokenAt i = (kind, j, v)) (hk : kind ≠ .illegal) (hj : i < j) :
    s.lexemesFrom i = (kind, v) :: s.lexemesFrom j := by
  have h0 := get_of_drop hs 0
  simp only [Nat.add_zero, List.getD_cons_zero] at h0
  rw [lexemesFrom_step]
  have hend : ¬(i ≥ s.chars.size ∨ (s.get i).toNat = 0) := by
    rw [h0]
    have := lt_size_of_drop hs
    omega
  rw [if_neg hend, h0, hb, if_neg Bool.false_ne_true, if_neg (fun h => hline h.1 h.2),
    if_neg (fun h => hcom h.1), ht]
  simp only [hk, if_false, Nat.max_eq_left hj]

theorem isBlank_eq_false_of_isIdStart {c : Char} (h : isIdStart c = true) : isBlank c = false := by
  refine Bool.eq_false_iff.2 fun hb => ?_
  simp only [isBlank, Bool.or_eq_true, decide_eq_true_eq] at hb
  rcases hb with (((h' | h') | h') | h') | h'
  · subst h'; exact absurd h (by decide)
  · subst h'; exact absurd h (by decide)
  · subst h'; exact absurd h (by decide)
  · subst h'; exact absurd h (by decide)
  · have h12 : c = Char.ofNat 12 := by rw [← h', Char.ofNat_toNat]
    subst h12; exact absurd h (by decide)

/-- A piece the engine reads back whole: its lexeme, then what follows it. -/
theorem lexemesFrom_item {i : Nat} {rest : List Char} (l : Layout)
    (hs : s.chars.toList.drop i = l.chars ++ rest) (hv : l.valid = true)
    (hc : l.closedBy rest.head? = true) :
    s.lexemesFrom i = l.lexeme.toList ++ s.lexemesFrom (i + l.chars.length) := by
  cases l with
  | blank =>
    have h0 := get_of_drop hs 0
    simp only [Layout.chars, Nat.add_zero, List.cons_append, List.nil_append,
      List.getD_cons_zero] at h0
    rw [lexemesFrom_step, if_neg (by rw [h0]; have := lt_size_of_drop hs; simp; omega),
      if_pos (by rw [h0]; rfl)]
    rfl
  | word w =>
    obtain ⟨c, cs, hw⟩ : ∃ c cs, w.toList = c :: cs := by
      cases hw : w.toList with
      | nil => simp [Layout.valid, hw] at hv
      | cons c cs => exact ⟨c, cs, rfl⟩
    simp only [Layout.valid, hw, Bool.and_eq_true, List.all_eq_true] at hv
    have hne : ∀ d, isIdStart d = false → c ≠ d := fun d hd h => by rw [h, hd] at hv; cases hv.1
    have hs' : s.chars.toList.drop i = (c :: cs) ++ rest := by rw [hs, Layout.chars, hw]
    have ht := tokenAt_word hs' hv.1 hv.2 fun d hd => by
      have := mem_of_all hc d hd
      simp only [Bool.and_eq_true, Bool.not_eq_true', bne_iff_ne, ne_eq] at this
      exact this
    rw [lexemesFrom_token (by simpa using hs') (fun h => hne '\x00' (by decide)
      (Char.toNat_inj.mp (h.trans rfl))) (isBlank_eq_false_of_isIdStart hv.1)
      (fun h => absurd h (hne '-' (by decide))) (hne '/' (by decide)) ht (by decide) (by simp)]
    rw [← hw, String.ofList_toList]
    rfl
  | punct p =>
    have hr : ∀ d ∈ rest.head?, p.joins d = false := fun d hd => by
      simpa using mem_of_all hc d hd
    obtain ⟨c, cs, hp⟩ : ∃ c cs, p.text.toList = c :: cs := by cases p <;> exact ⟨_, _, rfl⟩
    -- the first character of punctuation is no blank, NUL or `/`; a `-` stands alone
    have hfirst : c.toNat ≠ 0 ∧ isBlank c = false ∧ c ≠ '/' ∧ (c = '-' → p = .minus) := by
      cases p <;> simp only [Punct.text] at hp <;> obtain ⟨rfl, rfl⟩ := hp <;>
        decide
    have hline : c = '-' → s.get (i + 1) ≠ '-' := by
      intro hc'
      obtain rfl := hfirst.2.2.2 hc'
      rw [show i + 1 = i + (Layout.punct Punct.minus).chars.length from rfl, next_of_drop hs]
      cases rest with
      | nil => decide
      | cons d _ =>
        have := hr d rfl
        simp only [Punct.joins, Bool.or_eq_false_iff, decide_eq_false_iff_not] at this
        exact this.2
    rw [lexemesFrom_token (by rw [hs, Layout.chars, hp]; rfl) hfirst.1 hfirst.2.1 hline
      hfirst.2.2.1 (tokenAt_punct p hs hr) (by decide) (by rw [hp]; simp)]
    rfl
  | param =>
    have ht := tokenAt_param hs fun d hd => by simpa using mem_of_all hc d hd
    rw [lexemesFrom_token hs (by decide) rfl (fun h => absurd h (by decide)) (by decide) ht
      (by decide) (by omega)]
    rfl
  | digit d =>
    simp only [Layout.valid] at hv
    have ht := tokenAt_digit hs hv fun c hc' => by
      have := mem_of_all hc c hc'
      simp only [Bool.and_eq_true, Bool.not_eq_true', bne_iff_ne, ne_eq] at this
      exact ⟨this.1.1, this.1.2, this.2⟩
    rw [lexemesFrom_token hs (fun h => ne_of_isDigit hv (show '\x00'.isDigit = false by decide)
      (Char.toNat_inj.mp (h.trans rfl))) (by
        refine Bool.eq_false_iff.2 fun hb => ?_
        simp only [isBlank, Bool.or_eq_true, decide_eq_true_eq] at hb
        rcases hb with (((h | h) | h) | h) | h
        · exact ne_of_isDigit hv (by decide) h
        · exact ne_of_isDigit hv (by decide) h
        · exact ne_of_isDigit hv (by decide) h
        · exact ne_of_isDigit hv (by decide) h
        · exact ne_of_isDigit hv (show (Char.ofNat 12).isDigit = false by decide)
            (by rw [← h, Char.ofNat_toNat]))
      (fun h => absurd h (ne_of_isDigit hv (by decide)))
      (ne_of_isDigit hv (by decide)) ht (by decide) (by omega)]
    rfl
  | string v =>
    have hnul : '\x00' ∉ v.toList := by simpa [Layout.valid] using hv
    have ht := tokenAt_string hs hnul fun c hc' => by simpa using mem_of_all hc c hc'
    rw [lexemesFrom_token (by rw [hs]; rfl) (by decide) rfl (fun h => absurd h (by decide))
      (by decide) ht (by decide) (by simp)]
    rfl
  | quoted v =>
    simp only [Layout.valid, Bool.and_eq_true, Bool.not_eq_true'] at hv
    have ht := tokenAt_quoted hs (by simpa using hv.1) (by simpa using hv.2)
      fun c hc' => by simpa using mem_of_all hc c hc'
    rw [lexemesFrom_token (by rw [hs]; rfl) (by decide) rfl (fun h => absurd h (by decide))
      (by decide) ht (by decide) (by simp)]
    rfl

theorem lexemesFrom_end {i : Nat} (h : s.chars.size ≤ i) : s.lexemesFrom i = [] := by
  rw [lexemesFrom_step, if_pos (Or.inl h)]

/-- A layout that reads back piece by piece gives the lexemes of its pieces in order. -/
theorem lexemesFrom_layout {r : List Char} : ∀ (ls : List Layout) (i : Nat),
    s.chars.toList.drop i = ls.flatMap Layout.chars ++ r → Layout.spaced ls r.head? = true →
    s.lexemesFrom i =
      ls.filterMap Layout.lexeme ++ s.lexemesFrom (i + (ls.flatMap Layout.chars).length)
  | [], i, _, _ => by simp
  | l :: ls, i, hs, hsp => by
    simp only [Layout.spaced, Bool.and_eq_true] at hsp
    obtain ⟨⟨hv, hc⟩, hsp⟩ := hsp
    rw [List.flatMap_cons, List.append_assoc] at hs
    rw [lexemesFrom_item l hs hv (by rwa [List.head?_append]),
      lexemesFrom_layout ls _ (drop_add_of_drop hs) hsp, List.flatMap_cons, List.length_append,
      Nat.add_assoc, ← List.append_assoc]
    congr 1
    cases h : l.lexeme <;> simp [h]

end SourceText

/-- The lexemes of a text, as the engine's tokenizer reads them. -/
def lexemes (text : String) : List (TokenKind × String) := (tokenize text).toList.map Token.lexeme

/-- A text laid out piece by piece reads back as the lexemes of its pieces. -/
theorem lexemes_of_layout {text : String} {ls : List Layout} (htext : text.toList = ls.flatMap Layout.chars)
    (hsp : Layout.spaced ls none = true) : lexemes text = ls.filterMap Layout.lexeme := by
  have h := SourceText.lexemesFrom_layout (s := ⟨text.toList.toArray⟩) (r := []) ls 0
    (by simp [htext]) hsp
  rw [SourceText.lexemesFrom_end (i := 0 + (ls.flatMap Layout.chars).length) (by simp [htext]),
    List.append_nil] at h
  exact h

namespace Layout

/-! ## Spacing of joined layouts -/

theorem spaced_append (a b : List Layout) (next : Option Char) :
    spaced (a ++ b) next =
      (spaced a (((b.flatMap chars).head?).or next) && spaced b next) := by
  induction a with
  | nil => simp [spaced]
  | cons l a ih =>
    simp only [List.cons_append, spaced, ih, List.flatMap_append, List.head?_append,
      Option.or_assoc, Bool.and_assoc]

/-- The characters the store puts after a token: a blank, a comma, a closing parenthesis, or
the end of the text. None of them lengthens a token. -/
def Breaks (next : Option Char) : Prop :=
  next = none ∨ next = some ' ' ∨ next = some ',' ∨ next = some ')'

theorem closedBy_of_breaks (l : Layout) {next : Option Char} (h : Breaks next) :
    l.closedBy next = true := by
  rcases h with rfl | rfl | rfl | rfl <;> cases l <;>
    first
    | rfl
    | rename_i p; cases p <;> rfl

/-- Groups that each read back whole before a break, joined by a separator that starts with a
break and reads back whole before anything, read back whole before a break. -/
theorem spaced_intercalate {sep : List Layout} {c : Char} (hc : Breaks (some c))
    (hhead : (sep.flatMap chars).head? = some c) (hsep : ∀ x, spaced sep x = true) :
    ∀ {gs : List (List Layout)}, (∀ g ∈ gs, ∀ x, Breaks x → spaced g x = true) →
      ∀ x, Breaks x → spaced (List.intercalate sep gs) x = true
  | [], _, _, _ => rfl
  | [g], h, x, hx => by simpa using h g (by simp) x hx
  | g :: g' :: gs, h, x, hx => by
    have hnext : (((sep ++ List.intercalate sep (g' :: gs)).flatMap chars).head?.or x) = some c := by
      rw [List.flatMap_append, List.head?_append, hhead]
      rfl
    rw [List.intercalate_cons_cons, List.append_assoc, spaced_append, spaced_append, hnext]
    simp only [Bool.and_eq_true]
    exact ⟨h g (by simp) _ hc, hsep _,
      spaced_intercalate hc hhead hsep (fun g hg => h g (List.mem_cons_of_mem _ hg)) x hx⟩

end Layout

end Sql
end DocStore
