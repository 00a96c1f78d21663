import DocStore.Sql.Lexer
import DocStore.Sql.Json.Node
import DocStore.Sql.Numeral
/-!
# Reading SQL definitions

`parseDefinition` reads the statement that created an object of a database: a table, an index,
a view, a trigger or a virtual table. It is a recursive-descent reader over the tokens of
`tokenize`, with the engine's operator precedence, from loosest to tightest:

`OR`; `AND`; `NOT`; `=`, `==`, `!=`, `<>`, `IS`, `IS NOT`, `LIKE`, `GLOB`, `BETWEEN`, `IN`,
`ISNULL`, `NOTNULL`; `<`, `<=`, `>`, `>=`; `&`, `|`, `<<`, `>>`; `+`, `-`; `*`, `/`, `%`;
`||`; `COLLATE`; and the prefix operators `-`, `+` and `~`.

A failure is reported the way the engine reports it: `near "X": syntax error` at the first token
that does not fit, `incomplete input` when the text ends too early, and
`unrecognized token: "X"` for text that is no token. Every recursion is bounded by the number of
tokens, so reading is total.
-/

namespace DocStore

namespace Sql

/-- Why a statement does not read. -/
inductive ParseError where
  | near (text : String)
  | incomplete
  | unrecognized (text : String)
  | message (text : String)
deriving DecidableEq, Repr, Inhabited

/-- The engine's message for a failure to read. -/
def ParseError.text : ParseError → String
  | .near t => "near \"" ++ t ++ "\": syntax error"
  | .incomplete => "incomplete input"
  | .unrecognized t => "unrecognized token: \"" ++ t ++ "\""
  | .message t => t

/-- A reader of tokens: the tokens and the source text, a position, and the result or failure. -/
abbrev Parser := StateT Nat (ReaderT (Array Token × String) (Except ParseError))

namespace Parser

/-- The token at the position, if any. -/
def peek : Parser (Option Token) := do
  let (ts, _) ← read
  return ts[(← get)]?

/-- The token after the one at the position, if any. -/
def peekNext : Parser (Option Token) := do
  let (ts, _) ← read
  return ts[(← get) + 1]?

/-- Move past one token. -/
def advance : Parser Unit := modify (· + 1)

/-- Fail at the token at the position. -/
def fail {α : Type} : Parser α := do
  match ← peek with
  | none => throw .incomplete
  | some t => if t.kind = .illegal then throw (.unrecognized t.text) else throw (.near t.text)

/-- Take the token if it satisfies a test. -/
def accept (p : Token → Bool) : Parser Bool := do
  match ← peek with
  | some t =>
    if p t then
      advance
      return true
    else return false
  | none => return false

/-- Take the given keyword if it is next. -/
def acceptWord (w : String) : Parser Bool := accept (·.isWord w)

/-- Take the given operator if it is next. -/
def acceptOp (o : String) : Parser Bool := accept (·.isOp o)

/-- Require the given keyword. -/
def expectWord (w : String) : Parser Unit := do
  if !(← acceptWord w) then fail

/-- Require the given operator. -/
def expectOp (o : String) : Parser Unit := do
  if !(← acceptOp o) then fail

/-- Whether the next token is the given keyword. -/
def atWord (w : String) : Parser Bool := do
  return (← peek).any (·.isWord w)

/-- Whether the next token is the given operator. -/
def atOp (o : String) : Parser Bool := do
  return (← peek).any (·.isOp o)

/-- The name a token gives: a quoted identifier's value, or a word as written. -/
def Token.nameText (t : Token) : String := if t.kind = .quoted then t.value else t.text

/-- A name: an identifier, or a string in its place. -/
def name : Parser String := do
  match ← peek with
  | some t =>
    if t.isName then
      advance
      return Token.nameText t
    else if t.kind = .string then
      advance
      return t.value
    else fail
  | none => fail

/-- A name that may carry a database qualifier (`main.t`); the qualifier is dropped. -/
def qualifiedName : Parser String := do
  let n ← name
  if ← acceptOp "." then name else return n

/-- The source text between two positions of the text. -/
def sourceSpan (a b : Nat) : Parser String := do
  let (_, src) ← read
  return String.ofList ((src.toList.drop a).take (b - a))

/-- Skip a parenthesized run whose `(` was just taken, up to its matching `)`; the text between. -/
def skipParens : Parser String := do
  let (ts, _) ← read
  let start ← get
  let rec go : Nat → Nat → Nat → Option Nat
    | 0, _, _ => none
    | fuel + 1, i, depth =>
      match ts[i]? with
      | none => none
      | some t =>
        if t.isOp "(" then go fuel (i + 1) (depth + 1)
        else if t.isOp ")" then (if depth = 0 then some i else go fuel (i + 1) (depth - 1))
        else go fuel (i + 1) depth
  match go (ts.size + 1) start 0 with
  | none =>
    set ts.size
    fail
  | some close =>
    let text := match ts[start]?, ts[close]? with
      | some a, some b => (a.start, b.start)
      | _, _ => (0, 0)
    set (close + 1)
    sourceSpan text.1 text.2

/-! ## Literals -/

/-- The value of an integer literal: within 64 bits it is an integer, beyond it a real. -/
def integerLiteral (text : String) : Except ParseError SqlValue :=
  let cs := text.toList
  if cs.take 2 = ['0', 'x'] ∨ cs.take 2 = ['0', 'X'] then
    let digits := (cs.drop 2).dropWhile (· = '0')
    if digits.length > 16 then .error (.message ("hex literal too big: " ++ text))
    else
      let u := digits.foldl (fun acc c => acc * 16 + SqlJson.Writer.hexValue c) 0
      .ok (.integer (if u ≥ Nat.pow 2 63 then (u : Int) - Nat.pow 2 64 else u))
  else
    let bs := text.toUTF8.toList
    match readInteger bs with
    | (i, .ok) => .ok (.integer i)
    | _ => .ok (.real (readReal bs).1)

/-- The bytes of a blob literal's hex digits. -/
def blobBytes (digits : String) : List UInt8 :=
  let vals := digits.toList.map SqlJson.Writer.hexValue
  let rec pairs : Nat → List Nat → List UInt8
    | 0, _ => []
    | fuel + 1, a :: b :: rest => UInt8.ofNat (a * 16 + b) :: pairs fuel rest
    | _ + 1, _ => []
  pairs vals.length vals

/-- A size in a type name: a number, with an optional sign. -/
def signedNumber : Parser Unit := do
  if !(← acceptOp "+") then discard (acceptOp "-")
  if !(← accept (fun t => t.kind = .integer ∨ t.kind = .float)) then fail

/-- The type name of a column or a cast: one or more names, and an optional size in
parentheses, one or two signed numbers; the text as written. -/
def typeName : Parser String := do
  match ← peek with
  | none => return ""
  | some first =>
    let mut last := first
    let mut any := false
    for _ in [0:64] do
      match ← peek with
      | some t =>
        if (t.isName ∨ t.kind = .string) ∧ !t.isWord "GENERATED" then
          advance
          last := t
          any := true
        else break
      | none => break
    if !any then return ""
    if ← acceptOp "(" then
      signedNumber
      if ← acceptOp "," then signedNumber
      match ← peek with
      | some t =>
        if t.isOp ")" then
          advance
          last := t
        else fail
      | none => fail
    sourceSpan first.start last.stop

/-! ## Expressions -/

/-- Wrap an expression in `NOT` when negated. -/
def negateIf (negated : Bool) (e : Expr) : Expr := if negated then .unary .not e else e

/-- A comma-separated list read by `item`, at least one. -/
def commaList {α : Type} (item : Parser α) : Parser (List α) := do
  let mut acc := [← item]
  for _ in [0:4096] do
    if ← acceptOp "," then acc := acc ++ [← item] else break
  return acc

/-- Whether the next token starts a query. -/
def atQuery : Parser Bool := do
  return (← atWord "SELECT") ∨ (← atWord "VALUES") ∨ (← atWord "WITH")

/-- Whether a `WINDOW` clause starts here: the word, a name, and `AS`. -/
def atWindowClause : Parser Bool := do
  let (ts, _) ← read
  let i ← get
  match ts[i]?, ts[i + 1]?, ts[i + 2]? with
  | some w, some n, some a => return w.isWord "WINDOW" && (n.isName || n.kind = .string) && a.isWord "AS"
  | _, _, _ => return false

/-- Whether the next token can start an alias written without `AS`: a name, unless it starts a
`WINDOW` clause. -/
def atAlias : Parser Bool := do
  return (← peek).any (fun t => t.isName ∨ t.kind = .string) && !(← atWindowClause)

/-- An optional alias, with or without `AS`. -/
def alias? : Parser (Option String) := do
  if ← acceptWord "AS" then return some (← name)
  if ← atAlias then return some (← name)
  return none

/-- Names in parentheses, the `(` still to be taken. -/
def nameList : Parser (List String) := do
  expectOp "("
  let ns ← commaList name
  expectOp ")"
  return ns

/-- A join operator: `,` or `[NATURAL] [LEFT|RIGHT|FULL] [OUTER|INNER|CROSS] JOIN`, as the kind
of join and whether it is natural; none when no join operator is next. -/
def joinOperator : Parser (Option (JoinKind × Bool)) := do
  if ← acceptOp "," then return some (.inner, false)
  let mut natural := false
  let mut kind := JoinKind.inner
  let mut any := false
  for _ in [0:4] do
    if ← acceptWord "NATURAL" then
      natural := true
      any := true
    else if ← acceptWord "LEFT" then
      kind := .left
      any := true
    else if ← acceptWord "RIGHT" then
      kind := .right
      any := true
    else if ← acceptWord "FULL" then
      kind := .full
      any := true
    else if (← acceptWord "OUTER") ∨ (← acceptWord "INNER") ∨ (← acceptWord "CROSS") then
      any := true
    else break
  if ← acceptWord "JOIN" then return some (kind, natural)
  if any then fail
  return none

/-- The value of `-` before an integer literal, which parentheses around the literal do not hide:
the decimal literal of 2^63 negated is the smallest integer, and a hexadecimal literal whose
negation leaves 64 bits is refused. Any other operand is negated when evaluated (`none`). -/
def negatedLiteral? : Parser (Option Expr) := do
  let (ts, _) ← read
  let start ← get
  let opens := ((ts.toList.drop start).takeWhile (·.isOp "(")).length
  match ts[start + opens]? with
  | none => return none
  | some t =>
    let closes := ((ts.toList.drop (start + opens + 1)).take opens).all (·.isOp ")")
    if t.kind ≠ .integer ∨ !closes then return none
    let cs := t.text.toList
    let special : Option Expr :=
      if cs.take 2 = ['0', 'x'] ∨ cs.take 2 = ['0', 'X'] then
        let digits := (cs.drop 2).dropWhile (· = '0')
        let u := digits.foldl (fun acc c => acc * 16 + SqlJson.Writer.hexValue c) 0
        if digits.length > 16 ∨ u = Nat.pow 2 63 then some (.faulty ("hex literal too big: -" ++ t.text))
        else none
      else if String.ofList (cs.dropWhile (· = '0')) = "9223372036854775808" then
        some (.literal (.integer (-(Nat.pow 2 63))))
      else none
    match special with
    | some e =>
      set (start + 2 * opens + 1)
      return some e
    | none => return none

/-- Whether an expression is constant as the engine reads a frame offset, before any name is
resolved: no column (but `true` and `false`), call or query in it. -/
def constantOffset : Nat → Expr → Bool
  | 0, _ => false
  | fuel + 1, e =>
    let go := constantOffset fuel
    match e with
    | .literal _ | .param _ | .raise _ _ | .faulty _ => true
    | .column none n => upperAscii n == "TRUE" || upperAscii n == "FALSE"
    | .column _ _ | .call _ _ _ _ | .callWith _ _ _ _ _ _ _ => false
    | .scalarQuery _ | .existsQuery _ | .inQuery _ _ _ => false
    | .unary _ a | .isNull a _ | .cast a _ | .collate a _ => go a
    | .binary _ a b => go a && go b
    | .between a lo hi _ => go a && go lo && go hi
    | .inList a items _ => go a && items.all go
    | .like a p esc _ _ => go a && go p && (esc.map go).getD true
    | .caseOf op brs other =>
      (op.map go).getD true && brs.all (fun (w, t) => go w && go t) && (other.map go).getD true
    | .rowValue items => items.all go

/-- A frame offset as the engine keeps it: a constant, or NULL in place of anything else. -/
def frameOffset (e : Expr) : Expr := if constantOffset 64 e then e else .literal .null

/-- Whether the next token is a word that the token after it makes a keyword: `FILTER` before
`(`, `OVER` before `(` or a name. -/
def atContextWord (w : String) (next : Token → Bool) : Parser Bool := do
  match ← peek, ← peekNext with
  | some t, some d => return t.isWord w && next d
  | _, _ => return false

/-- Whether a frame of a window is one the engine supports: it does not end before it starts
by the order of the kinds of bounds. -/
def frameSupported (start finish : FrameBound) : Bool :=
  match start, finish with
  | .currentRow, .preceding _ => false
  | .following _, .preceding _ => false
  | .following _, .currentRow => false
  | _, _ => true

/-- A window that builds on a named one, among the named windows given (the latest first): it
takes the partition terms and the ordering of the named window, and may add an ordering only
where that one has none. It may not write its own partition terms, and the named window may
not have a frame of its own. -/
def chainWindow (named : List (String × Window)) (w : Window) : Except String Window :=
  match w.base with
  | none => .ok w
  | some b =>
    match named.find? (fun d => upperAscii d.1 == upperAscii b) with
    | none => .error ("no such window: " ++ b)
    | some (_, e) =>
      if !w.partitionBy.isEmpty then .error ("cannot override PARTITION clause of window: " ++ b)
      else if !e.orderBy.isEmpty ∧ !w.orderBy.isEmpty then
        .error ("cannot override ORDER BY clause of window: " ++ b)
      else if e.frame.isSome then .error ("cannot override frame specification of window: " ++ b)
      else
        let orderBy := if e.orderBy.isEmpty then w.orderBy else e.orderBy
        .ok { w with base := none, partitionBy := e.partitionBy, orderBy }

mutual

/-- An expression whose operators bind at least as tightly as `minPrec`. -/
def exprAt : Nat → Nat → Parser Expr
  | 0, _ => fail
  | fuel + 1, minPrec => do
    let lhs ← prefixExpr fuel minPrec
    binaryTail fuel minPrec lhs

/-- A prefix operator and its operand, or a primary expression. -/
def prefixExpr : Nat → Nat → Parser Expr
  | 0, _ => fail
  | fuel + 1, minPrec => do
    if ← acceptWord "NOT" then return .unary .not (← exprAt fuel (max minPrec 4))
    else if ← acceptOp "-" then
      match ← negatedLiteral? with
      | some e => return e
      | none => return .unary .neg (← exprAt fuel 12)
    else if ← acceptOp "+" then return .unary .pos (← exprAt fuel 12)
    else if ← acceptOp "~" then return .unary .bitNot (← exprAt fuel 12)
    else primary fuel

/-- A primary expression: a literal, a parameter, a column, a call, a parenthesized expression
or query, `CAST`, `CASE`, `EXISTS` or `RAISE`. -/
def primary : Nat → Parser Expr
  | 0 => fail
  | fuel + 1 => do
    match ← peek with
    | none => fail
    | some t =>
      match t.kind with
      | .integer =>
        advance
        match integerLiteral t.text with
        | .ok v => return .literal v
        | .error e => return .faulty e.text
      | .float =>
        advance
        return .literal (.real (readReal t.text.toUTF8.toList).1)
      | .string =>
        advance
        return .literal (.ofString t.value)
      | .blob =>
        advance
        return .literal (.blob (blobBytes t.value))
      | .variable =>
        advance
        return .param ((t.text.drop 1).toString.toNat?.getD 0)
      | .illegal => fail
      | .op =>
        if t.isOp "(" then
          advance
          if ← atQuery then
            let q ← selectAt fuel
            expectOp ")"
            return .scalarQuery q
          let e ← exprAt fuel 0
          if ← acceptOp "," then
            let more ← commaList (exprAt fuel 0)
            expectOp ")"
            return .rowValue (e :: more)
          expectOp ")"
          return e
        else fail
      | .quoted => qualifiedColumn fuel
      | .word =>
        let w := upperAscii t.text
        if w = "NULL" then
          advance
          return .literal .null
        else if w = "CAST" then
          advance
          expectOp "("
          let e ← exprAt fuel 0
          expectWord "AS"
          let ty ← typeName
          expectOp ")"
          return .cast e ty
        else if w = "CASE" then
          advance
          let operand ← if ← atWord "WHEN" then pure none else some <$> exprAt fuel 0
          let mut branches : List (Expr × Expr) := []
          for _ in [0:4096] do
            if ← acceptWord "WHEN" then
              let c ← exprAt fuel 0
              expectWord "THEN"
              branches := branches ++ [(c, ← exprAt fuel 0)]
            else break
          if branches.isEmpty then fail
          let otherwise ← if ← acceptWord "ELSE" then some <$> exprAt fuel 0 else pure none
          expectWord "END"
          return .caseOf operand branches otherwise
        else if w = "EXISTS" then
          advance
          expectOp "("
          let q ← selectAt fuel
          expectOp ")"
          return .existsQuery q
        else if w = "RAISE" then
          advance
          expectOp "("
          if ← acceptWord "IGNORE" then
            expectOp ")"
            return .raise .ignore ""
          let kind ← if ← acceptWord "ROLLBACK" then pure RaiseKind.rollback
            else if ← acceptWord "ABORT" then pure RaiseKind.abort
            else if ← acceptWord "FAIL" then pure RaiseKind.fail
            else fail
          expectOp ","
          let msg ← match ← peek with
            | some m => if m.kind = .string then do advance; pure m.value else fail
            | none => fail
          expectOp ")"
          return .raise kind msg
        else if w = "CURRENT_TIME" ∨ w = "CURRENT_DATE" ∨ w = "CURRENT_TIMESTAMP" then
          advance
          return .call w [] false false
        else if t.isName ∨ ["REPLACE", "LIKE", "GLOB", "IF"].contains w then
          qualifiedColumn fuel
        else fail

/-- A column reference (`c`, `t.c`, `s.t.c`) or a function call. -/
def qualifiedColumn : Nat → Parser Expr
  | 0 => fail
  | fuel + 1 => do
    match ← peek with
    | none => fail
    | some t =>
      advance
      let first := Token.nameText t
      if ← acceptOp "(" then
        if ← acceptOp "*" then
          expectOp ")"
          return ← callTail fuel first [] false true []
        if ← acceptOp ")" then return ← callTail fuel first [] false false []
        let distinct ← acceptWord "DISTINCT"
        if !distinct then discard (acceptWord "ALL")
        let args ← if (← atOp ")") || (← atWord "ORDER") then pure [] else commaList (exprAt fuel 0)
        let orderBy ← if ← acceptWord "ORDER" then do
            expectWord "BY"
            commaList (orderTermAt fuel)
          else pure []
        expectOp ")"
        return ← callTail fuel first args distinct false orderBy
      if ← acceptOp "." then
        let second ← name
        if ← acceptOp "." then return .column (some second) (← name)
        return .column (some first) second
      return .column none first

/-- A call with what may follow it: `FILTER (WHERE ...)`, then `OVER` a window or its name.
`orderBy` are the terms written after the arguments; a call without arguments drops them, and a
call with `OVER` may not have them (a failure that replaces the one for `DISTINCT`). -/
def callTail : Nat → String → List Expr → Bool → Bool → List OrderTerm → Parser Expr
  | 0, _, _, _, _, _ => fail
  | fuel + 1, n, args, distinct, star, orderBy => do
    let filter ← if ← atContextWord "FILTER" (·.isOp "(") then do
        advance
        expectOp "("
        expectWord "WHERE"
        let e ← exprAt fuel 0
        expectOp ")"
        pure (some e)
      else pure none
    let windowSpec ← if ← atContextWord "OVER" (fun d => d.isOp "(" || d.isName || d.kind = .string) then do
        advance
        if ← acceptOp "(" then
          let w ← windowAt fuel
          expectOp ")"
          pure (some (Over.window w))
        else pure (some (Over.named (← name)))
      else pure none
    let orderBy := if args.isEmpty then [] else orderBy
    match filter, windowSpec, orderBy with
    | none, none, [] => return .call n args distinct star
    | _, _, _ =>
      if windowSpec.isSome ∧ !orderBy.isEmpty then
        throw (.message ("ORDER BY may not be used with non-aggregate " ++ n ++ "()"))
      if distinct ∧ windowSpec.isSome then throw (.message "DISTINCT is not supported for window functions")
      return .callWith n args distinct star orderBy filter windowSpec

/-- A window written out, inside its parentheses: the window it builds on, `PARTITION BY`,
`ORDER BY` and a frame, each optional. -/
def windowAt : Nat → Parser Window
  | 0 => fail
  | fuel + 1 => do
    let base ← match ← peek with
      | some t =>
        if (t.isName || t.kind = .string) &&
            !(["PARTITION", "RANGE", "ROWS", "GROUPS"].any (t.isWord ·)) then
          some <$> name
        else pure none
      | none => pure none
    let partitionBy ← if ← acceptWord "PARTITION" then do
        expectWord "BY"
        commaList (exprAt fuel 0)
      else pure []
    let orderBy ← if ← acceptWord "ORDER" then do
        expectWord "BY"
        commaList (orderTermAt fuel)
      else pure []
    let frame ← frameAt fuel
    return { base, partitionBy, orderBy, frame }

/-- A window's frame, if one is written: `RANGE`, `ROWS` or `GROUPS`, one bound (the start,
ending at the current row) or `BETWEEN` two, and `EXCLUDE`. -/
def frameAt : Nat → Parser (Option WindowFrame)
  | 0 => fail
  | fuel + 1 => do
    let unit ← if ← acceptWord "RANGE" then pure (some FrameUnit.range)
      else if ← acceptWord "ROWS" then pure (some FrameUnit.rows)
      else if ← acceptWord "GROUPS" then pure (some FrameUnit.groups)
      else pure none
    match unit with
    | none => return none
    | some unit =>
      let (start, finish) ← if ← acceptWord "BETWEEN" then do
          let a ← boundAt fuel true
          expectWord "AND"
          pure (a, ← boundAt fuel false)
        else pure (← boundAt fuel true, FrameBound.currentRow)
      let exclude ← if ← acceptWord "EXCLUDE" then do
          if ← acceptWord "NO" then
            expectWord "OTHERS"
            pure FrameExclude.noOthers
          else if ← acceptWord "CURRENT" then
            expectWord "ROW"
            pure FrameExclude.currentRow
          else if ← acceptWord "GROUP" then pure FrameExclude.group
          else
            expectWord "TIES"
            pure FrameExclude.ties
        else pure FrameExclude.noOthers
      if !frameSupported start finish then throw (.message "unsupported frame specification")
      return some { unit, start, finish, exclude }

/-- A bound of a frame: `UNBOUNDED PRECEDING` (a start) or `UNBOUNDED FOLLOWING` (an end),
`CURRENT ROW`, or an offset `PRECEDING` or `FOLLOWING`. -/
def boundAt : Nat → Bool → Parser FrameBound
  | 0, _ => fail
  | fuel + 1, isStart => do
    if ← acceptWord "UNBOUNDED" then
      if isStart then
        expectWord "PRECEDING"
        return .unboundedPreceding
      expectWord "FOLLOWING"
      return .unboundedFollowing
    if ← acceptWord "CURRENT" then
      expectWord "ROW"
      return .currentRow
    let e ← exprAt fuel 0
    if ← acceptWord "PRECEDING" then return .preceding (frameOffset e)
    expectWord "FOLLOWING"
    return .following (frameOffset e)

/-- Apply binary and postfix operators of at least `minPrec` to a left operand. -/
def binaryTail : Nat → Nat → Expr → Parser Expr
  | 0, _, lhs => return lhs
  | fuel + 1, minPrec, lhs => do
    match ← peek with
    | none => return lhs
    | some t =>
      let binop (prec : Nat) (op : BinOp) : Parser Expr := do
        advance
        let rhs ← exprAt fuel (prec + 1)
        binaryTail fuel minPrec (.binary op lhs rhs)
      if t.isWord "OR" ∧ minPrec ≤ 1 then binop 1 .or
      else if t.isWord "AND" ∧ minPrec ≤ 2 then
        advance
        let rhs ← exprAt fuel 3
        -- A literal zero on either side makes the whole conjunction the literal zero.
        binaryTail fuel minPrec
          (if lhs.isZeroLiteral ∨ rhs.isZeroLiteral then .literal (.integer 0) else .binary .and lhs rhs)
      else if minPrec ≤ 4 ∧ (t.isOp "=" ∨ t.isOp "==") then binop 4 .eq
      else if minPrec ≤ 4 ∧ (t.isOp "!=" ∨ t.isOp "<>") then binop 4 .ne
      else if minPrec ≤ 4 ∧ t.isWord "IS" then
        advance
        let negated ← acceptWord "NOT"
        -- `IS DISTINCT FROM` is `IS NOT`, and `IS NOT DISTINCT FROM` is `IS`.
        let distinct ← acceptWord "DISTINCT"
        if distinct then expectWord "FROM"
        let rhs ← exprAt fuel 5
        binaryTail fuel minPrec (.binary (if negated != distinct then .isNot else .is) lhs rhs)
      else if minPrec ≤ 4 ∧ t.isWord "ISNULL" then do
        advance
        binaryTail fuel minPrec (.isNull lhs false)
      else if minPrec ≤ 4 ∧ t.isWord "NOTNULL" then do
        advance
        binaryTail fuel minPrec (.isNull lhs true)
      else if minPrec ≤ 4 ∧ t.isWord "NOT" then
        match ← peekNext with
        | some n =>
          if n.isWord "NULL" then
            advance
            advance
            binaryTail fuel minPrec (.isNull lhs true)
          else if n.isWord "LIKE" ∨ n.isWord "GLOB" ∨ n.isWord "BETWEEN" ∨ n.isWord "IN" ∨
              n.isWord "REGEXP" ∨ n.isWord "MATCH" then
            advance
            binaryTail fuel minPrec (← comparison fuel lhs true)
          else return lhs
        | none => return lhs
      else if minPrec ≤ 4 ∧ (t.isWord "LIKE" ∨ t.isWord "GLOB" ∨ t.isWord "BETWEEN" ∨
          t.isWord "IN" ∨ t.isWord "REGEXP" ∨ t.isWord "MATCH") then
        binaryTail fuel minPrec (← comparison fuel lhs false)
      else if minPrec ≤ 5 ∧ t.isOp "<" then binop 5 .lt
      else if minPrec ≤ 5 ∧ t.isOp "<=" then binop 5 .le
      else if minPrec ≤ 5 ∧ t.isOp ">" then binop 5 .gt
      else if minPrec ≤ 5 ∧ t.isOp ">=" then binop 5 .ge
      else if minPrec ≤ 7 ∧ t.isOp "&" then binop 7 .bitAnd
      else if minPrec ≤ 7 ∧ t.isOp "|" then binop 7 .bitOr
      else if minPrec ≤ 7 ∧ t.isOp "<<" then binop 7 .shiftLeft
      else if minPrec ≤ 7 ∧ t.isOp ">>" then binop 7 .shiftRight
      else if minPrec ≤ 8 ∧ t.isOp "+" then binop 8 .add
      else if minPrec ≤ 8 ∧ t.isOp "-" then binop 8 .sub
      else if minPrec ≤ 9 ∧ t.isOp "*" then binop 9 .mul
      else if minPrec ≤ 9 ∧ t.isOp "/" then binop 9 .div
      else if minPrec ≤ 9 ∧ t.isOp "%" then binop 9 .rem
      else if minPrec ≤ 10 ∧ t.isOp "||" then binop 10 .concat
      else if minPrec ≤ 10 ∧ (t.isOp "->" ∨ t.isOp "->>") then
        advance
        let rhs ← exprAt fuel 11
        binaryTail fuel minPrec (.call t.text [lhs, rhs] false false)
      else if minPrec ≤ 11 ∧ t.isWord "COLLATE" then
        advance
        let n ← name
        binaryTail fuel minPrec (.collate lhs n)
      else return lhs

/-- The rest of `LIKE`, `GLOB`, `BETWEEN` or `IN` after its left operand (and `NOT`). -/
def comparison : Nat → Expr → Bool → Parser Expr
  | 0, _, _ => fail
  | fuel + 1, lhs, negated => do
    match ← peek with
    | none => fail
    | some t =>
      advance
      if t.isWord "BETWEEN" then
        let lo ← exprAt fuel 5
        expectWord "AND"
        let hi ← exprAt fuel 5
        return .between lhs lo hi negated
      else if t.isWord "IN" then
        if ← acceptOp "(" then
          if ← atQuery then
            let q ← selectAt fuel
            expectOp ")"
            return .inQuery lhs q negated
          if ← acceptOp ")" then return .inList lhs [] negated
          let items ← commaList (exprAt fuel 0)
          expectOp ")"
          return .inList lhs items negated
        let n ← qualifiedName
        let args ← if ← acceptOp "(" then do
            if ← acceptOp ")" then pure (some [])
            else
              let es ← commaList (exprAt fuel 0)
              expectOp ")"
              pure (some es)
          else pure none
        let item := match args with
          | some es => SourceItem.call n es
          | none => .named n
        return .inQuery lhs { first := { columns := [.star], sources := [{ item }] } } negated
      else
        let pattern ← exprAt fuel 5
        let escape ← if ← acceptWord "ESCAPE" then some <$> exprAt fuel 5 else pure none
        if t.isWord "REGEXP" ∨ t.isWord "MATCH" then
          -- These are calls of the function the operator names, pattern first.
          let call : Expr := .call t.text ([pattern, lhs] ++ escape.toList) false false
          return negateIf negated call
        return .like lhs pattern escape (t.isWord "GLOB") negated

/-- A column of a query's result. -/
def resultColumnAt : Nat → Parser ResultColumn
  | 0 => fail
  | fuel + 1 => do
    if ← acceptOp "*" then return .star
    match ← peek, ← peekNext with
    | some t, some d =>
      if t.isName ∧ d.isOp "." then
        let (ts, _) ← read
        match ts[(← get) + 2]? with
        | some s =>
          if s.isOp "*" then
            advance
            advance
            advance
            return .tableStar (Token.nameText t)
        | none => pure ()
    | _, _ => pure ()
    let e ← exprAt fuel 0
    return .expr e (← alias?)

/-- A source of `FROM` without its join: a table or view (with an optional database), a
table-valued function call, or a query in parentheses, and its alias. -/
def sourceAt : Nat → Parser Source
  | 0 => fail
  | fuel + 1 => do
    if ← acceptOp "(" then
      if !(← atQuery) then fail
      let q ← selectAt fuel
      expectOp ")"
      return { item := .query q, aliasName := ← alias? }
    let n ← qualifiedName
    if ← acceptOp "(" then
      let args ← if ← acceptOp ")" then pure []
        else do
          let es ← commaList (exprAt fuel 0)
          expectOp ")"
          pure es
      return { item := .call n args, aliasName := ← alias? }
    let a ← alias?
    if ← acceptWord "INDEXED" then
      expectWord "BY"
      let _ ← name
    else if ← acceptWord "NOT" then
      expectWord "INDEXED"
    return { item := .named n, aliasName := a }

/-- The sources of `FROM`, each with how it joins the ones before it. -/
def sourcesAt : Nat → Parser (List Source)
  | 0 => fail
  | fuel + 1 => do
    let mut srcs := [← sourceAt fuel]
    for _ in [0:4096] do
      match ← joinOperator with
      | some (kind, natural) =>
        let s ← sourceAt fuel
        let s := { s with join := kind, natural }
        if ← acceptWord "ON" then
          srcs := srcs ++ [{ s with on := some (← exprAt fuel 0) }]
        else if ← acceptWord "USING" then
          srcs := srcs ++ [{ s with usingColumns := ← nameList }]
        else srcs := srcs ++ [s]
      | none => break
    return srcs

/-- One core of a query: `SELECT ...` or `VALUES ...`. -/
def selectCoreAt : Nat → Parser SelectCore
  | 0 => fail
  | fuel + 1 => do
    if ← acceptWord "VALUES" then
      let row : Parser (List Expr) := do
        expectOp "("
        let es ← commaList (exprAt fuel 0)
        expectOp ")"
        return es
      return { values := ← commaList row }
    expectWord "SELECT"
    let distinct ← acceptWord "DISTINCT"
    if !distinct then let _ ← acceptWord "ALL"
    let columns ← commaList (resultColumnAt fuel)
    let srcs ← if ← acceptWord "FROM" then sourcesAt fuel else pure []
    let condition ← if ← acceptWord "WHERE" then some <$> exprAt fuel 0 else pure none
    let groupBy ← if ← acceptWord "GROUP" then do expectWord "BY"; commaList (exprAt fuel 0) else pure []
    let having ← if ← acceptWord "HAVING" then some <$> exprAt fuel 0 else pure none
    let windows ← if ← atWindowClause then do
        advance
        windowDefinitionsAt fuel
      else pure []
    return { distinct, columns, sources := srcs, condition, groupBy, having, windows }

/-- The windows of a `WINDOW` clause, the keyword taken: `name AS (window)`, separated by commas;
a window may build on one named before it. -/
def windowDefinitionsAt : Nat → Parser (List (String × Window))
  | 0 => fail
  | fuel + 1 => do
    let mut defs : List (String × Window) := []
    for _ in [0:4096] do
      let n ← name
      expectWord "AS"
      expectOp "("
      let w ← windowAt fuel
      expectOp ")"
      match chainWindow (defs.reverse) w with
      | .ok w => defs := defs ++ [(n, w)]
      | .error msg => throw (.message msg)
      if !(← acceptOp ",") then break
    return defs

/-- An ordering term. -/
def orderTermAt : Nat → Parser OrderTerm
  | 0 => fail
  | fuel + 1 => do
    let e ← exprAt fuel 0
    let desc ← if ← acceptWord "DESC" then pure true else do let _ ← acceptWord "ASC"; pure false
    let nullsFirst ← if ← acceptWord "NULLS" then do
        if ← acceptWord "FIRST" then pure (some true) else do expectWord "LAST"; pure (some false)
      else pure none
    return { expr := e, desc, nullsFirst }

/-- A table of `WITH`: `name [(columns)] AS [[NOT] MATERIALIZED] (query)`. -/
def commonTableAt : Nat → Parser CommonTable
  | 0 => fail
  | fuel + 1 => do
    let n ← name
    let cols ← if ← atOp "(" then nameList else pure []
    expectWord "AS"
    if ← acceptWord "NOT" then expectWord "MATERIALIZED"
    else discard (acceptWord "MATERIALIZED")
    expectOp "("
    let q ← selectAt fuel
    expectOp ")"
    return { name := n, columns := cols, query := q }

/-- A query. -/
def selectAt : Nat → Parser Select
  | 0 => fail
  | fuel + 1 => do
    let (ctes, recursive) ← if ← acceptWord "WITH" then do
        let r ← acceptWord "RECURSIVE"
        pure (← commaList (commonTableAt fuel), r)
      else pure ([], false)
    let first ← selectCoreAt fuel
    let mut rest : List (Compound × SelectCore) := []
    for _ in [0:4096] do
      if ← acceptWord "UNION" then
        let op := if ← acceptWord "ALL" then Compound.unionAll else Compound.union
        rest := rest ++ [(op, ← selectCoreAt fuel)]
      else if ← acceptWord "INTERSECT" then rest := rest ++ [(.intersect, ← selectCoreAt fuel)]
      else if ← acceptWord "EXCEPT" then rest := rest ++ [(.except, ← selectCoreAt fuel)]
      else break
    let orderBy ← if ← acceptWord "ORDER" then do expectWord "BY"; commaList (orderTermAt fuel) else pure []
    let mut limit : Option Expr := none
    let mut offset : Option Expr := none
    if ← acceptWord "LIMIT" then
      limit := some (← exprAt fuel 0)
      if (← acceptWord "OFFSET") then offset := some (← exprAt fuel 0)
      else if ← acceptOp "," then
        offset := limit
        limit := some (← exprAt fuel 0)
    return { ctes, recursive, first, rest, orderBy, limit, offset }

end

/-- The nesting bound of a statement's expressions and queries: each level of nesting takes a
token and a few steps of reading, so four steps a token and a few more suffice. -/
def nestingBound : Parser Nat := do
  let (ts, _) ← read
  return 4 * ts.size + 8

/-- An expression. -/
def expr : Parser Expr := do exprAt (← nestingBound) 0

/-- A query. -/
def select : Parser Select := do selectAt (← nestingBound)

/-- The sources of `FROM`. -/
def sources : Parser (List Source) := do sourcesAt (← nestingBound)

/-! ## Definitions -/

/-- An optional `ON CONFLICT` clause. -/
def conflictClause : Parser (Option ConflictAction) := do
  if ← acceptWord "ON" then
    expectWord "CONFLICT"
    conflictAction
  else return none
where
  conflictAction : Parser (Option ConflictAction) := do
    if ← acceptWord "ROLLBACK" then return some .rollback
    if ← acceptWord "ABORT" then return some .abort
    if ← acceptWord "FAIL" then return some .fail
    if ← acceptWord "IGNORE" then return some .ignore
    if ← acceptWord "REPLACE" then return some .replace
    fail

/-- A term of a key: an expression with an optional collation and direction. -/
def keyTerm : Parser KeyTerm := do
  let e ← expr
  let (e, collation) := match e with
    | .collate inner n => (inner, some n)
    | other => (other, none)
  let desc ← if ← acceptWord "DESC" then pure true else do let _ ← acceptWord "ASC"; pure false
  return { expr := e, collation, desc }

/-- A text without the blanks around it. -/
def trimBlanks (s : String) : String :=
  let blank (c : Char) : Bool := c = ' ' ∨ c = '\t' ∨ c = '\n' ∨ c = '\r' ∨ c.toNat = 11 ∨ c.toNat = 12
  String.ofList (((s.toList.dropWhile blank).reverse.dropWhile blank).reverse)

/-- A `CHECK (expr)` body after `CHECK`: the expression and its text between the parentheses,
without surrounding blanks. -/
def checkBody : Parser (Expr × String) := do
  let (ts, _) ← read
  let openAt ← get
  expectOp "("
  let e ← expr
  let closeAt ← get
  expectOp ")"
  match ts[openAt]?, ts[closeAt]? with
  | some o, some c => return (e, trimBlanks (← sourceSpan o.stop c.start))
  | _, _ => return (e, "")

/-- The value of `DEFAULT`: a literal, a signed number, a parenthesized expression, or a bare
identifier, which stands for its own text. -/
def defaultValue : Parser Expr := do
  if ← acceptOp "(" then
    let e ← expr
    expectOp ")"
    return e
  if ← acceptOp "-" then
    return .unary .neg (← primaryLiteral)
  if ← acceptOp "+" then return ← primaryLiteral
  match ← peek with
  | some t =>
    if t.kind = .word ∨ t.kind = .quoted then
      let w := upperAscii t.text
      if t.kind = .word ∧ (w = "NULL" ∨ w = "CURRENT_TIME" ∨ w = "CURRENT_DATE" ∨
          w = "CURRENT_TIMESTAMP") then
        primaryLiteral
      else
        advance
        if t.kind = .word ∧ w = "TRUE" then return .literal (.integer 1)
        if t.kind = .word ∧ w = "FALSE" then return .literal (.integer 0)
        return .literal (.ofString (Token.nameText t))
    else primaryLiteral
  | none => fail
where
  primaryLiteral : Parser Expr := do
    match ← peek with
    | some t =>
      if t.kind = .integer ∨ t.kind = .float ∨ t.kind = .string ∨ t.kind = .blob ∨
          t.isWord "NULL" ∨ t.isWord "CURRENT_TIME" ∨ t.isWord "CURRENT_DATE" ∨
          t.isWord "CURRENT_TIMESTAMP" then
        let (ts, _) ← read
        primary (ts.size + 2)
      else fail
    | none => fail

/-- A `REFERENCES` clause after `REFERENCES`: the table, with its columns and actions skipped. -/
def referencesClause : Parser String := do
  let t ← name
  if ← acceptOp "(" then let _ ← skipParens
  for _ in [0:64] do
    if ← acceptWord "ON" then
      if !(← acceptWord "DELETE") then expectWord "UPDATE"
      if ← acceptWord "SET" then
        if !(← acceptWord "NULL") then expectWord "DEFAULT"
      else if ← acceptWord "CASCADE" then pure ()
      else if ← acceptWord "RESTRICT" then pure ()
      else
        expectWord "NO"
        expectWord "ACTION"
    else if ← acceptWord "MATCH" then let _ ← name
    else if (← atWord "NOT") ∧ ((← peekNext).any (·.isWord "DEFERRABLE")) then
      advance
      advance
      if ← acceptWord "INITIALLY" then
        if !(← acceptWord "DEFERRED") then expectWord "IMMEDIATE"
    else if ← acceptWord "DEFERRABLE" then
      if ← acceptWord "INITIALLY" then
        if !(← acceptWord "DEFERRED") then expectWord "IMMEDIATE"
    else break
  return t

/-- The constraints of a column, up to the next `,` or `)`. -/
def columnConstraints : Parser (List (Option String × ColumnConstraint)) := do
  let mut acc : List (Option String × ColumnConstraint) := []
  for _ in [0:256] do
    let cname ← if ← acceptWord "CONSTRAINT" then some <$> name else pure none
    let c ←
      if ← acceptWord "PRIMARY" then do
        expectWord "KEY"
        let desc ← if ← acceptWord "DESC" then pure true else do let _ ← acceptWord "ASC"; pure false
        let oc ← conflictClause
        let auto ← acceptWord "AUTOINCREMENT"
        pure (some (ColumnConstraint.primaryKey desc oc auto))
      else if (← atWord "NOT") then do
        advance
        expectWord "NULL"
        pure (some (ColumnConstraint.notNull (← conflictClause)))
      else if ← acceptWord "NULL" then do
        let _ ← conflictClause
        pure (some ColumnConstraint.nullable)
      else if ← acceptWord "UNIQUE" then pure (some (ColumnConstraint.unique (← conflictClause)))
      else if ← acceptWord "CHECK" then do
        let (e, text) ← checkBody
        pure (some (ColumnConstraint.check e text))
      else if ← acceptWord "DEFAULT" then do
        let (ts, _) ← read
        let i ← get
        let e ← defaultValue
        let j ← get
        let text ← match ts[i]?, ts[j - 1]? with
          | some a, some b => if a.isOp "(" then sourceSpan a.stop b.start else sourceSpan a.start b.stop
          | _, _ => pure ""
        pure (some (ColumnConstraint.defaultValue e (trimBlanks text)))
      else if ← acceptWord "COLLATE" then pure (some (ColumnConstraint.collate (← name)))
      else if ← acceptWord "REFERENCES" then pure (some (ColumnConstraint.references (← referencesClause)))
      else if (← acceptWord "GENERATED") then do
        expectWord "ALWAYS"
        expectWord "AS"
        expectOp "("
        let e ← expr
        expectOp ")"
        let stored ← if ← acceptWord "STORED" then pure true else do let _ ← acceptWord "VIRTUAL"; pure false
        pure (some (ColumnConstraint.generated e stored))
      else if ← acceptWord "AS" then do
        expectOp "("
        let e ← expr
        expectOp ")"
        let stored ← if ← acceptWord "STORED" then pure true else do let _ ← acceptWord "VIRTUAL"; pure false
        pure (some (ColumnConstraint.generated e stored))
      else if cname.isSome then fail
      else pure none
    match c with
    | some c => acc := acc ++ [(cname, c)]
    | none => break
  return acc

/-- A column definition: its name, type and constraints. -/
def columnSpec : Parser ColumnSpec := do
  let n ← name
  let ty ← typeName
  let cs ← columnConstraints
  return ⟨n, ty, cs⟩

/-- A table constraint, or none when the next token starts none. -/
def tableConstraint : Parser (Option (Option String × TableConstraint)) := do
  let cname ← if ← acceptWord "CONSTRAINT" then some <$> name else pure none
  if ← acceptWord "PRIMARY" then
    expectWord "KEY"
    expectOp "("
    let terms ← commaList keyTerm
    let auto ← acceptWord "AUTOINCREMENT"
    expectOp ")"
    return some (cname, .primaryKey terms (← conflictClause) auto)
  if ← acceptWord "UNIQUE" then
    expectOp "("
    let terms ← commaList keyTerm
    expectOp ")"
    return some (cname, .unique terms (← conflictClause))
  if ← acceptWord "CHECK" then
    let (e, text) ← checkBody
    let _ ← conflictClause
    return some (cname, .check e text)
  if ← acceptWord "FOREIGN" then
    expectWord "KEY"
    expectOp "("
    let cols ← commaList name
    expectOp ")"
    expectWord "REFERENCES"
    return some (cname, .foreignKey cols (← referencesClause))
  if cname.isSome then fail
  return none

/-- The body of a table statement after its name. -/
def tableBody (n : String) (ifNotExists : Bool) : Parser CreateTable := do
  if ← atWord "AS" then fail
  expectOp "("
  let mut columns := [← columnSpec]
  let mut constraints : List (Option String × TableConstraint) := []
  for _ in [0:4096] do
    if ← acceptOp "," then
      match ← tableConstraint with
      | some c =>
        constraints := constraints ++ [c]
        break
      | none => columns := columns ++ [← columnSpec]
    else break
  if !constraints.isEmpty then
    for _ in [0:4096] do
      let _ ← acceptOp ","
      match ← tableConstraint with
      | some c => constraints := constraints ++ [c]
      | none => break
  expectOp ")"
  let mut withoutRowid := false
  let mut strict := false
  for _ in [0:16] do
    if ← acceptWord "WITHOUT" then
      match ← peek with
      | some t =>
        if upperAscii (Token.nameText t) = "ROWID" then
          advance
          withoutRowid := true
        else throw (.message ("unknown table option: " ++ Token.nameText t))
      | none => fail
    else if ← acceptWord "STRICT" then strict := true
    else
      match ← peek with
      | some t =>
        if t.isName then throw (.message ("unknown table option: " ++ Token.nameText t))
      | none => pure ()
    if !(← acceptOp ",") then break
  return { name := n, ifNotExists, columns, constraints, withoutRowid, strict }

/-- `IF NOT EXISTS`, if present. -/
def ifNotExists : Parser Bool := do
  if ← acceptWord "IF" then
    expectWord "NOT"
    expectWord "EXISTS"
    return true
  return false

/-- A step of a trigger's body, without its `;`. -/
def triggerStep : Parser TriggerStep := do
  let orAction : Parser (Option ConflictAction) := do
    if ← acceptWord "OR" then conflictClause.conflictAction else return none
  if ← acceptWord "UPDATE" then
    let act ← orAction
    let t ← name
    expectWord "SET"
    let assignment : Parser (List String × Expr) := do
      let cols ← if ← acceptOp "(" then do
          let cs ← commaList name
          expectOp ")"
          pure cs
        else do pure [← name]
      expectOp "="
      return (cols, ← expr)
    let sets ← commaList assignment
    if ← acceptWord "FROM" then let _ ← sources
    let cond ← if ← acceptWord "WHERE" then some <$> expr else pure none
    return .update t act sets cond
  if (← atWord "INSERT") ∨ (← atWord "REPLACE") then
    let act ← if ← acceptWord "REPLACE" then pure (some ConflictAction.replace)
      else do advance; orAction
    expectWord "INTO"
    let t ← name
    let cols ← if ← acceptOp "(" then do
        let cs ← commaList name
        expectOp ")"
        pure cs
      else pure []
    if ← acceptWord "DEFAULT" then
      expectWord "VALUES"
      return .insert t act cols .defaults
    let s ← select
    let src := if s.rest.isEmpty ∧ s.orderBy.isEmpty ∧ s.limit.isNone ∧ !s.first.values.isEmpty then
        InsertSource.values s.first.values
      else .query s
    return .insert t act cols src
  if ← acceptWord "DELETE" then
    expectWord "FROM"
    let t ← name
    let cond ← if ← acceptWord "WHERE" then some <$> expr else pure none
    return .delete t cond
  return .select (← select)

/-- The body of a trigger statement after its name. -/
def triggerBody (n : String) (ine : Bool) : Parser CreateTrigger := do
  let timing ← if ← acceptWord "BEFORE" then pure TriggerTiming.before
    else if ← acceptWord "AFTER" then pure TriggerTiming.after
    else if ← acceptWord "INSTEAD" then do expectWord "OF"; pure TriggerTiming.insteadOf
    else pure TriggerTiming.before
  let event ← if ← acceptWord "DELETE" then pure TriggerEvent.delete
    else if ← acceptWord "INSERT" then pure TriggerEvent.insert
    else if ← acceptWord "UPDATE" then do
      if ← acceptWord "OF" then pure (TriggerEvent.update (← commaList name))
      else pure (TriggerEvent.update [])
    else fail
  expectWord "ON"
  let t ← qualifiedName
  if ← acceptWord "FOR" then
    expectWord "EACH"
    expectWord "ROW"
  let cond ← if ← acceptWord "WHEN" then some <$> expr else pure none
  expectWord "BEGIN"
  let mut steps : List TriggerStep := []
  for _ in [0:4096] do
    if ← acceptWord "END" then break
    steps := steps ++ [← triggerStep]
    expectOp ";"
  if steps.isEmpty then fail
  return { name := n, ifNotExists := ine, timing, event, table := t, condition := cond, steps }

/-- A statement that creates an object. -/
def definition : Parser Definition := do
  expectWord "CREATE"
  if !(← acceptWord "TEMP") then let _ ← acceptWord "TEMPORARY"
  if ← acceptWord "TABLE" then
    let ine ← ifNotExists
    let n ← qualifiedName
    return .table (← tableBody n ine)
  if ← acceptWord "VIRTUAL" then
    expectWord "TABLE"
    let _ ← ifNotExists
    let n ← qualifiedName
    expectWord "USING"
    let m ← name
    if ← acceptOp "(" then let _ ← skipParens
    return .virtual n m
  let unique ← acceptWord "UNIQUE"
  if ← acceptWord "INDEX" then
    let ine ← ifNotExists
    let n ← qualifiedName
    expectWord "ON"
    let t ← name
    expectOp "("
    let terms ← commaList keyTerm
    expectOp ")"
    let cond ← if ← acceptWord "WHERE" then some <$> expr else pure none
    return .index { name := n, table := t, unique, ifNotExists := ine, terms, condition := cond }
  if unique then fail
  if ← acceptWord "VIEW" then
    let ine ← ifNotExists
    let n ← qualifiedName
    let cols ← if ← acceptOp "(" then do
        let cs ← commaList name
        expectOp ")"
        pure cs
      else pure []
    expectWord "AS"
    return .view { name := n, ifNotExists := ine, columns := cols, query := ← select }
  if ← acceptWord "TRIGGER" then
    let ine ← ifNotExists
    let n ← qualifiedName
    return .trigger (← triggerBody n ine)
  fail

end Parser

/-- The table a table statement names, before its columns are read: the name's token as
written, the name, whether the statement says `IF NOT EXISTS`, and whether the name is followed
by what may follow it (`(` or `AS`). The engine acts on the name when it meets the token after
it, so the name's errors come before the rest's, unless that token is itself out of place. -/
def tableHeader (text : String) : Option (String × String × Bool × Bool) :=
  let ts := tokenize text
  let run : Parser (String × String × Bool × Bool) := do
    Parser.expectWord "CREATE"
    if !(← Parser.acceptWord "TEMP") then let _ ← Parser.acceptWord "TEMPORARY"
    Parser.expectWord "TABLE"
    let ine ← Parser.ifNotExists
    let n ← Parser.qualifiedName
    let pos ← get
    let tok := (ts[pos - 1]?.map (·.text)).getD n
    let opens := (← Parser.atOp "(") || (← Parser.atWord "AS")
    return (tok, n, ine, opens)
  match run.run 0 |>.run (ts, text) with
  | .ok (r, _) => some r
  | .error _ => none

/-- Read a statement that creates an object; a trailing `;` is allowed. -/
def parseDefinition (text : String) : Except ParseError Definition :=
  let ts := tokenize text
  let run : Parser Definition := do
    let d ← Parser.definition
    let _ ← Parser.acceptOp ";"
    match ← Parser.peek with
    | some _ => Parser.fail
    | none => return d
  (run.run 0 |>.run (ts, text)).map Prod.fst

end Sql

end DocStore
