import DocStore.Sql.Json.Node
import DocStore.Sql.Text
/-!
# Paths into documents

A path names a place in a document: `$` is the whole document, and each step goes one level
down. A member step is `.label` (up to the next point or bracket) or `."label"` (up to the next
quote); an index step is `[n]`, `[#]` (one past the last item) or `[#-n]` (the `n`-th item
from the end). A step is only read once the walk reaches it, so a malformed step after a missing
one is not noticed.

`Node.follow` walks a path and finds the node there, nothing, or a malformed step.
`Node.edit` changes the node at a path: an insertion adds a missing member or item (the place
one past the last item counts as missing) and leaves an existing one alone, a replacement
changes an existing one only, a setting does both, and a removal drops the member or item. A
missing member or item that is added is built from the rest of the path: an empty object for
a member step, an empty array otherwise, edited along the rest.

A label matches a key by its text with escapes resolved; when either side holds an escape the
texts are compared up to their first NUL character, so `a\0` matches `a`. Members are searched
in order and the first match wins.
-/

namespace DocStore

namespace SqlJson

/-! ## Escapes -/

/-- The code point that a broken escape stands for: no character has it. -/
def brokenCode : Nat := 0x99999

/-- The value of four hex digits (any character reads as a hex digit). -/
def hex4 (cs : List Char) : Nat := cs.foldl (fun acc c => acc * 16 + Writer.hexValue c) 0

/-- The text after line continuations (a backslash before a line break or a line or paragraph
separator), starting at a backslash; `fuel` bounds the steps. -/
def afterContinuations : Nat → List Char → List Char
  | 0, cs => cs
  | fuel + 1, '\\' :: '\r' :: '\n' :: rest => afterContinuations fuel rest
  | fuel + 1, '\\' :: c :: rest =>
    if c = '\n' || c = '\r' || c.toNat = 0x2028 || c.toNat = 0x2029 then afterContinuations fuel rest
    else '\\' :: c :: rest
  | _, cs => cs

/-- Read one escape, given the characters after its backslash: the code point (`brokenCode` when
broken) and the rest. `fuel` bounds the continuations followed. -/
def escapeCode : Nat → List Char → Nat × List Char
  | 0, _ => (brokenCode, [])
  | _, [] => (brokenCode, [])
  | fuel + 1, c :: rest =>
    if c = 'u' then
      if rest.length < 4 then (brokenCode, [])
      else
        let v := hex4 (rest.take 4)
        let after := rest.drop 4
        match after with
        | '\\' :: 'u' :: more =>
          let lo := hex4 (more.take 4)
          if v / 1024 = 0xD800 / 1024 ∧ more.length ≥ 4 ∧ lo / 1024 = 0xDC00 / 1024 then
            ((v % 1024) * 1024 + lo % 1024 + 0x10000, more.drop 4)
          else (v, after)
        | _ => (v, after)
    else if c = 'b' then (8, rest)
    else if c = 'f' then (12, rest)
    else if c = 'n' then (10, rest)
    else if c = 'r' then (13, rest)
    else if c = 't' then (9, rest)
    else if c = 'v' then (11, rest)
    else if c = '0' then (0, rest)
    else if c = '\'' || c = '"' || c = '/' || c = '\\' then (c.toNat, rest)
    else if c = 'x' then
      if rest.length < 2 then (brokenCode, []) else (hex4 (rest.take 2), rest.drop 2)
    else if c = '\r' || c = '\n' || (0x2000 ≤ c.toNat && c.toNat ≤ 0x2FFF) then
      match afterContinuations (rest.length + 2) ('\\' :: c :: rest) with
      | cs =>
        if cs.length = rest.length + 2 then (brokenCode, [])
        else match cs with
          | [] => (0, [])
          | '\\' :: more => escapeCode fuel more
          | d :: more => (d.toNat, more)
    else (brokenCode, rest)

/-- The code points of an escaped text; broken escapes keep `brokenCode`. -/
def codes : Nat → List Char → List Nat
  | 0, _ => []
  | _, [] => []
  | fuel + 1, '\\' :: rest =>
    let (v, more) := escapeCode (rest.length + 1) rest
    v :: codes fuel more
  | fuel + 1, c :: rest => c.toNat :: codes fuel rest

/-- The bytes of an escaped text with its escapes resolved: each code point in one to four
bytes (a lone surrogate in three, like any code point below `0x10000`), broken escapes
dropped. -/
def unescapeBytes (body : String) : List UInt8 :=
  let cs := body.toList
  (codes (cs.length + 1) cs).flatMap (fun v => if v = brokenCode then [] else Sql.charBytes v)

/-- Is a text form free of escapes? -/
def TextForm.isBare : TextForm → Bool
  | .plain | .raw => true
  | _ => false

/-- Do two key texts match? Bare texts match when equal; otherwise their code points match up
to the first NUL on each side. -/
def keysMatch (a : String) (aBare : Bool) (b : String) (bBare : Bool) : Bool :=
  if aBare && bBare then a == b
  else
    let side (s : String) (bare : Bool) : List Nat :=
      let cs := s.toList
      (if bare then cs.map Char.toNat else codes (cs.length + 1) cs).takeWhile (· ≠ 0)
    side a aBare == side b bBare

/-- Does a member's key match the label of a path step, bare when it holds no escape? -/
def Label.matchesStep (l : Label) (label : String) (bare : Bool) : Bool :=
  keysMatch l.body l.form.isBare label bare

/-- Do two member keys match? -/
def Label.sameKey (a b : Label) : Bool := keysMatch a.body a.form.isBare b.body b.form.isBare

/-! ## Steps -/

/-- A member step after its point: the label, whether it is bare (a quoted label holding a
backslash is not), and the rest of the path; `none` for an empty bare label or a quote left
open. -/
def memberStep : List Char → Option (String × Bool × List Char)
  | '"' :: r =>
    let body := r.takeWhile (· ≠ '"')
    match r.drop body.length with
    | '"' :: t => some (String.ofList body, !body.contains '\\', t)
    | _ => none
  | r =>
    let body := r.takeWhile (fun c => c ≠ '.' ∧ c ≠ '[')
    if body.isEmpty then none else some (String.ofList body, true, r.drop body.length)

/-- The value of decimal digits, in 32 bits. -/
def digitsValue (ds : List Char) : Nat := ds.foldl (fun acc c => (acc * 10 + (c.toNat - 48)) % Nat.pow 2 32) 0

/-- Where an index step points. -/
inductive IndexStep where
  /-- At a position (possibly past the end), with the rest of the path. -/
  | index (k : Nat) (rest : List Char)
  /-- Before the first item: `[#-n]` with `n` beyond the length. -/
  | beyond
  /-- A malformed step. -/
  | malformed
deriving Repr, Inhabited

/-- The position an index step names in an array of `len` items, given the text after its
bracket. -/
def indexStep (len : Nat) (r : List Char) : IndexStep :=
  let ds := r.takeWhile Reader.isDigit
  let fromEnd : IndexStep := match r with
    | '#' :: '-' :: d :: more =>
      if Reader.isDigit d then
        let back := (d :: more).takeWhile Reader.isDigit
        let n := digitsValue back
        if n > len then .beyond
        else match (d :: more).drop back.length with
          | ']' :: rest => .index (len - n) rest
          | _ => .malformed
      else .malformed
    | '#' :: ']' :: rest => .index len rest
    | _ => .malformed
  match r.drop ds.length with
  | ']' :: rest => if ds.isEmpty then fromEnd else .index (digitsValue ds) rest
  | _ => fromEnd

/-! ## Following a path -/

/-- Where following a path ends: at a node, at nothing, or at a malformed step. -/
inductive PathEnd where
  | found (n : Node)
  | missing
  | malformed
deriving Repr, Inhabited

/-- Follow the rest of a path (after its `$`) from a node; `fuel` bounds the steps (the length
of the path is enough). -/
def Node.follow : Nat → Node → List Char → PathEnd
  | 0, _, _ => .malformed
  | _, n, [] => .found n
  | fuel + 1, n, '.' :: r =>
    match memberStep r with
    | none => .malformed
    | some (label, bare, rest) =>
      match n with
      | .object members =>
        match members.find? (fun m => m.1.matchesStep label bare) with
        | some (_, v) => Node.follow fuel v rest
        | none => .missing
      | _ => .missing
  | fuel + 1, n, '[' :: r =>
    match n with
    | .array items =>
      match indexStep items.length r with
      | .index k rest =>
        match items[k]? with
        | some v => Node.follow fuel v rest
        | none => .missing
      | .beyond => .missing
      | .malformed => .malformed
    | _ => .missing
  | _ + 1, _, _ :: _ => .malformed

/-! ## Editing at a path -/

/-- What an edit does at the end of its path. -/
inductive EditKind where
  | insert
  | replace
  | set
  | remove
deriving DecidableEq, Repr, Inhabited

/-- Does an edit add what is missing? -/
def EditKind.adds : EditKind → Bool
  | .insert | .set => true
  | _ => false

/-- What an edit gives: the edited node, or that the path leads nowhere, or a malformed step. -/
inductive Edited where
  | done (n : Node)
  | missing
  | malformed
deriving Repr, Inhabited

/-- Rebuild around an edited part. -/
def Edited.map (f : Node → Node) : Edited → Edited
  | .done n => .done (f n)
  | .missing => .missing
  | .malformed => .malformed

/-- Remove the element at a position. -/
def dropAt {α : Type} (xs : List α) (i : Nat) : List α := xs.take i ++ xs.drop (i + 1)

/-- Edit a node along the rest of a path (after its `$`) with a value; `fuel` bounds the steps.
A removal at the end of the path is done by the member or item step that reaches it. -/
def Node.edit (kind : EditKind) (v : Node) : Nat → Node → List Char → Edited
  | 0, _, _ => .malformed
  | _ + 1, n, [] =>
    match kind with
    | .replace | .set => .done v
    | _ => .done n
  | fuel + 1, n, '.' :: r =>
    match memberStep r with
    | none => .malformed
    | some (label, bare, rest) =>
      match n with
      | .object members =>
        match members.findIdx? (fun m => m.1.matchesStep label bare) with
        | some i =>
          if rest.isEmpty && kind == .remove then .done (.object (dropAt members i))
          else match members[i]? with
            | some (l, child) =>
              (Node.edit kind v fuel child rest).map (fun c => .object (members.set i (l, c)))
            | none => .missing
        | none =>
          if kind.adds then
            let start : Node := match rest with
              | '.' :: _ => .object []
              | _ => .array []
            let created := if rest.isEmpty then Edited.done v else Node.edit kind v fuel start rest
            created.map (fun c => .object (members ++ [(⟨if bare then .raw else .extended, label⟩, c)]))
          else .missing
      | _ => .missing
  | fuel + 1, n, '[' :: r =>
    match n with
    | .array items =>
      match indexStep items.length r with
      | .index k rest =>
        match items[k]? with
        | some child =>
          if rest.isEmpty && kind == .remove then .done (.array (dropAt items k))
          else (Node.edit kind v fuel child rest).map (fun c => .array (items.set k c))
        | none =>
          if k = items.length && kind.adds then
            let start : Node := match rest with
              | '.' :: _ => .object []
              | _ => .array []
            let created := if rest.isEmpty then Edited.done v else Node.edit kind v fuel start rest
            created.map (fun c => .array (items ++ [c]))
          else .missing
      | .beyond => .missing
      | .malformed => .malformed
    | _ => .missing
  | _ + 1, _, _ :: _ => .malformed

end SqlJson

end DocStore
