import DocStore.Sql.Value
import DocStore.Field
import DocStore.Sql.Convert
import DocStore.Sql.Json.Path
import DocStore.Sql.Json.Binary
/-!
# The engine's JSON functions

The JSON functions read their first argument as a document (`document`): NULL is no document,
a blob must hold a document in the binary form, and any other value is read as JSON text (a
number as its text); text that does not parse is an error (`malformed JSON`).

A value a JSON function gives as JSON text stays JSON when it goes straight into another JSON
function (`JsonArg.isJson`); other text is a string there.

* `json_extract(doc, path, ...)` and `->>` give the value at a path as an engine value
  (`Node.toSql`); `->` gives it as JSON text. With several paths the values are gathered in an
  array. The arrows also take a bare label or index for the path.
* `json_type`, `json_array_length`, `json_valid` and `json_error_position` describe a document.
* `json_insert`, `json_replace`, `json_set` and `json_remove` edit one (`Node.edit`), and
  `json_patch` merges a patch into one the way RFC 7396 describes, with the engine's placement:
  a member that exists keeps its place, a null removes it, an object is merged into the old
  value (or into an empty object when the old value is not one, which also drops the nulls
  inside it), and new members go last.
* `json_array`, `json_object` and `json_quote` build JSON text from values.
* `json_each` and `json_tree` list the members or items of a document (`eachRows`).

Each function named `jsonb_...` gives the binary form instead of text.
-/

namespace DocStore

namespace SqlJson

/-- A value given to a JSON function, and whether it is JSON text that a JSON function gave
(such text is read as JSON, not taken as a string). -/
structure JsonArg where
  value : SqlValue
  isJson : Bool := false
deriving Repr, Inhabited

/-- The failure for a blob that is not a document in the binary form. -/
def cannotHoldBlob : EngineFailure := engineError .error "JSON cannot hold BLOB values"

/-- The failure for a malformed path. -/
def badPath (path : String) : EngineFailure :=
  engineError .error ("bad JSON path: '" ++ path.replace "'" "''" ++ "'")

/-! ## Engine values of nodes -/

/-- Read a number's text as a real, as the engine reads a decimal; `none` when the whole text is
not a number. -/
def realOfText (bs : List UInt8) : Option SqlValue :=
  match Sql.readReal bs with
  | (f, .whole _) => some (.real f)
  | _ => none

/-- Read an integer's digits (after its sign), decimal or hexadecimal after `0x`: the value
within 64 bits, `none` for text that is no integer, and a real when the digits need more. -/
def integerOfText (neg : Bool) (body : List UInt8) (whole : List UInt8) : Option SqlValue :=
  match body with
  | 48 :: x :: rest =>
    if x = 120 || x = 88 then
      let digits := rest.dropWhile (· = 48)
      let hex := digits.takeWhile Sql.isHexByte
      if hex.length > 16 then realOfText whole
      else if hex.length < digits.length then none
      else
        let u := hex.foldl (fun acc b => acc * 16 + Sql.hexByteValue b) 0
        let i : Int := if u ≥ Nat.pow 2 63 then (u : Int) - Nat.pow 2 64 else u
        let r : Int := if neg then -i else i
        some (.integer (if r = Nat.pow 2 63 then -(Nat.pow 2 63) else r))
    else decimal
  | _ => decimal
where
  /-- The decimal reading. -/
  decimal : Option SqlValue :=
    match Sql.readInteger body with
    | (i, .ok) => some (.integer (if neg then -i else i))
    | (_, .limit) => if neg then some (.integer (-(Nat.pow 2 63))) else realOfText whole
    | (_, .overflow) => realOfText whole
    | _ => none

/-- How a node appears as an engine value: null is NULL, booleans are 1 and 0, integers within
64 bits are integers and other numbers reals, strings are their text with escapes resolved, and
arrays and objects are their JSON text. `none` for a number the engine cannot read. -/
def Node.toSql : Node → Option SqlValue
  | .null => some .null
  | .bool b => some (.integer (if b then 1 else 0))
  | .number .integer written | .number .hexInteger written =>
    let bs := written.toUTF8.toList
    match bs with
    | 45 :: body => if body.isEmpty then none else integerOfText true body bs
    | body => integerOfText false body bs
  | .number _ written => realOfText written.toUTF8.toList
  | .text form body => some (.text (if form.isBare then body.toUTF8.toList else unescapeBytes body))
  | n => some (.ofString n.render)

/-- The name of a node's kind, as `json_type` gives it. -/
def Node.typeName : Node → String
  | .null => "null"
  | .bool b => if b then "true" else "false"
  | .number .integer _ | .number .hexInteger _ => "integer"
  | .number _ _ => "real"
  | .text _ _ => "text"
  | .array _ => "array"
  | .object _ => "object"

/-- Is a node an array or an object? -/
def Node.isContainer : Node → Bool
  | .array _ | .object _ => true
  | _ => false

/-! ## Documents of values -/

/-- The text the JSON functions read from a value that is not a blob. -/
def inputText : SqlValue → String
  | .null => ""
  | .integer i => toString i
  | .real f => Sql.realText f
  | .text s => Text.decodeLossy s
  | .blob b => Text.decodeLossy b

/-- The document a value holds: none for NULL, an error for a value that is no document. -/
def document (v : SqlValue) : Except EngineFailure (Option Node) :=
  match v with
  | .null => .ok none
  | .blob b =>
    if isBinaryDocument b then
      match Node.decode b with
      | some n => .ok (some n)
      | none => .error malformedJson
    else .error malformedJson
  | v => match Node.parse (inputText v) with
    | some n => .ok (some n)
    | none => .error malformedJson

/-- Is a real infinite? -/
def isInfinite (f : Binary64) : Bool := f.exponent ≥ 2047

/-- The node a value becomes when it is put into a document: NULL is null, numbers keep their
text (an infinity is `9e999`), JSON text is read as JSON and other text is a string; a blob must
be a document in the binary form. -/
def JsonArg.toNode (a : JsonArg) : Except EngineFailure Node :=
  match a.value with
  | .null => .ok .null
  | .integer i => .ok (.number .integer (toString i))
  | .real f =>
    .ok (.number .real (if isInfinite f then (if f.neg then "-9e999" else "9e999") else Sql.realText f))
  | .text s =>
    if a.isJson then
      match Node.parse (Text.decodeLossy s) with
      | some n => .ok n
      | none => .error malformedJson
    else .ok (.text .raw (Text.decodeLossy s))
  | .blob b =>
    if isBinaryDocument b then
      match Node.decode b with
      | some n => .ok n
      | none => .error malformedJson
    else .error cannotHoldBlob

/-- A value as JSON text, as the functions that build JSON write it: NULL is `null`, a real has
fifteen significant digits (an infinity is `9.0e+999`), JSON text goes in as it is and other
text as a string; a blob must be a document in the binary form. -/
def JsonArg.jsonText (a : JsonArg) : Except EngineFailure String :=
  match a.value with
  | .null => .ok "null"
  | .integer i => .ok (toString i)
  | .real f => .ok (if isInfinite f then (if f.neg then "-9.0e+999" else "9.0e+999") else Sql.realText f)
  | .text s =>
    let t := Text.decodeLossy s
    .ok (if a.isJson then t else Writer.quoted .raw t)
  | .blob b =>
    if isBinaryDocument b then
      match Node.decode b with
      | some n => .ok n.render
      | none => .error malformedJson
    else .error cannotHoldBlob

/-! ## Results -/

/-- A function's result as JSON text. -/
def jsonResult (text : String) : JsonArg := { value := .ofString text, isJson := true }

/-- A function's result that is no JSON text. -/
def sqlResult (v : SqlValue) : JsonArg := { value := v }

/-- A document as a function's result: JSON text, or the binary form for `binary`. -/
def nodeResult (binary : Bool) (n : Node) : JsonArg :=
  if binary then sqlResult (.blob n.encode) else jsonResult n.render

/-- Built JSON text as a function's result: the text, or for `binary` the binary form of what
it reads as. -/
def builtResult (binary : Bool) (text : String) : JsonArg :=
  if binary then sqlResult (.blob (((Node.parse text).map Node.encode).getD [])) else jsonResult text

/-- The text of a path argument, up to its first NUL. -/
def pathText (v : SqlValue) : String :=
  String.ofList ((inputText v).toList.takeWhile (· ≠ '\x00'))

/-- Follow a whole path text, which must start with `$`. -/
def followPathText (doc : Node) (path : String) : PathEnd :=
  match path.toList with
  | '$' :: rest => doc.follow (rest.length + 1) rest
  | _ => .malformed

/-! ## Reading documents -/

/-- Is a text all ASCII letters, digits and underscores? -/
def isPlainLabel (s : String) : Bool := s.toList.all (fun c => Reader.isAlnum c || c = '_')

/-- The path a shorthand argument of `->` or `->>` stands for (without its `$`), read off its
text: one that starts with a digit is an index, a plain label a member, `[...]` an index step as
written, and other text (a negative number among it) a quoted member. -/
def shorthandPath (text : String) : String :=
  if text.front.isDigit then "[" ++ text ++ "]"
  else if isPlainLabel text then "." ++ text
  else if text.startsWith "[" && text.length ≥ 3 && text.endsWith "]" then text
  else ".\"" ++ text ++ "\""

/-- How `json_extract` and the arrows give a value they found. -/
inductive ExtractStyle where
  /-- As an engine value; arrays and objects as JSON text (`json_extract`). -/
  | value
  /-- As an engine value; arrays and objects as text that is not JSON (`->>`). -/
  | sql
  /-- As JSON text (`->`). -/
  | json
  /-- As an engine value; arrays and objects in the binary form (`jsonb_extract`). -/
  | binary
deriving DecidableEq, Repr, Inhabited

/-- `json_extract(doc, path, ...)` and the arrows: the value at one path, or the values at
several gathered in an array (null for a path that leads nowhere). NULL for NULL input or a
NULL path, or for one path that leads nowhere. -/
def extract (style : ExtractStyle) (shorthand : Bool) (args : List JsonArg) :
    Except EngineFailure JsonArg := do
  match args with
  | [] | [_] => return sqlResult .null
  | d :: paths =>
    match ← document d.value with
    | none => return sqlResult .null
    | some doc =>
      let single := paths.length = 1
      let mut parts : List String := []
      for p in paths do
        if p.value == .null then return sqlResult .null
        let text := pathText p.value
        let found ←
          if text.startsWith "$" then pure (followPathText doc text)
          else if shorthand then
            let rest := (shorthandPath text).toList
            pure (doc.follow (rest.length + 1) rest)
          else throw (badPath text)
        match found with
        | .malformed => throw (badPath text)
        | .missing =>
          if single then return sqlResult .null
          parts := parts ++ ["null"]
        | .found n =>
          if single then
            match style with
            | .json => return jsonResult n.render
            | .binary =>
              if n.isContainer then return sqlResult (.blob n.encode)
              match n.toSql with
              | some v => return sqlResult v
              | none => throw malformedJson
            | _ =>
              match n.toSql with
              | some v => return { value := v, isJson := style == .value && n.isContainer }
              | none => throw malformedJson
          parts := parts ++ [n.render]
      return builtResult (style == .binary) ("[" ++ ",".intercalate parts ++ "]")

/-- `json_type(doc)` and `json_type(doc, path)`: the name of the kind of value there, NULL when
there is nothing. -/
def typeOf (args : List JsonArg) : Except EngineFailure JsonArg := do
  match ← document (args.headD default).value with
  | none => return sqlResult .null
  | some doc =>
    match args with
    | [_, p] =>
      if p.value == .null then return sqlResult .null
      let text := pathText p.value
      match followPathText doc text with
      | .malformed => throw (badPath text)
      | .missing => return sqlResult .null
      | .found n => return sqlResult (.ofString n.typeName)
    | _ => return sqlResult (.ofString doc.typeName)

/-- `json_array_length(doc)` and `json_array_length(doc, path)`: the number of items of the
array there, 0 for any other value, NULL when there is nothing. A path that does not start with
`$` is malformed. -/
def arrayLength (args : List JsonArg) : Except EngineFailure JsonArg := do
  match ← document (args.headD default).value with
  | none => return sqlResult .null
  | some doc =>
    let target ← match args with
      | [_, p] =>
        if p.value == .null then pure none
        else
          let text := pathText p.value
          match followPathText doc text with
          | .malformed => throw (badPath text)
          | .missing => pure none
          | .found n => pure (some n)
      | _ => pure (some doc)
    match target with
    | some (.array items) => return sqlResult (.integer items.length)
    | some _ => return sqlResult (.integer 0)
    | none => return sqlResult .null

/-- `json_valid(value, flags)`: whether a value is a document of the kinds the flags admit:
1 for standard JSON text, 2 for text with JSON5, 4 for a blob whose header fits, 8 for a blob
in the binary form throughout. NULL for NULL. -/
def validity (v : SqlValue) (flags : Nat) : SqlValue :=
  match v with
  | .null => .null
  | .blob b =>
    if flags &&& 12 ≠ 0 && isBinaryDocument b then
      .integer (if flags &&& 4 ≠ 0 || (Node.decode b).isSome then 1 else 0)
    else .integer 0
  | v =>
    if flags &&& 3 = 0 then .integer 0
    else match Node.read (inputText v) with
      | .ok (_, extended) => .integer (if flags &&& 2 ≠ 0 || !extended then 1 else 0)
      | .error _ => .integer 0

/-- `json_valid(value)` and `json_valid(value, flags)`; flags outside 1 to 15 are an error. -/
def valid (args : List JsonArg) : Except EngineFailure JsonArg := do
  let flags ← match args with
    | [_, f] =>
      let n := Sql.intValue f.value
      if n < 1 ∨ n > 15 then
        throw (engineError .error "FLAGS parameter to json_valid() must be between 1 and 15")
      pure n.toNat
    | _ => pure 1
  return sqlResult (validity (args.headD default).value flags)

/-- `json_error_position(value)`: 0 for a document, otherwise the position (in characters,
from 1) where reading it failed. NULL for NULL. -/
def errorPosition (v : SqlValue) : SqlValue :=
  match v with
  | .null => .null
  | .blob b =>
    if isBinaryDocument b then .integer (if (Node.decode b).isSome then 0 else 1)
    else fromText (Text.decodeLossy b)
  | v => fromText (inputText v)
where
  /-- The position for a text. -/
  fromText (t : String) : SqlValue :=
    match Node.read t with
    | .ok _ => .integer 0
    | .error p => .integer (p + 1)

/-! ## Editing documents -/

/-- `json_insert`, `json_replace` and `json_set`: apply each path and value in turn; a NULL path
is skipped, and so is a path that leads nowhere. `$` alone stands for the whole document. -/
def editPairs (kind : EditKind) (binary : Bool) (args : List JsonArg) : Except EngineFailure JsonArg := do
  match args with
  | [] => return sqlResult .null
  | d :: rest =>
    match ← document d.value with
    | none => return sqlResult .null
    | some doc =>
      let mut doc := doc
      let mut pairs := rest
      for _ in rest do
        match pairs with
        | p :: v :: more =>
          pairs := more
          if p.value == .null then continue
          let text := pathText p.value
          if !text.startsWith "$" then throw (badPath text)
          let node ← v.toNode
          if text = "$" then
            if kind != .insert then doc := node
          else
            let path := text.toList.drop 1
            match Node.edit kind node (path.length + 1) doc path with
            | .done n => doc := n
            | .missing => pure ()
            | .malformed => throw (badPath text)
        | _ => pure ()
      return nodeResult binary doc

/-- `json_remove(doc, path, ...)`: drop what each path names, in turn; NULL for a NULL path or
for `$`. -/
def removePaths (binary : Bool) (args : List JsonArg) : Except EngineFailure JsonArg := do
  match args with
  | [] => return sqlResult .null
  | d :: paths =>
    match ← document d.value with
    | none => return sqlResult .null
    | some doc =>
      let mut doc := doc
      for p in paths do
        if p.value == .null then return sqlResult .null
        let text := pathText p.value
        if !text.startsWith "$" then throw (badPath text)
        if text = "$" then return sqlResult .null
        let path := text.toList.drop 1
        match Node.edit .remove .null (path.length + 1) doc path with
        | .done n => doc := n
        | .missing => pure ()
        | .malformed => throw (badPath text)
      return nodeResult binary doc

mutual

/-- Merge a patch into a target. -/
def mergePatch (target : Node) : Node → Node
  | .object patch =>
    let base := match target with
      | .object members => members
      | _ => []
    .object (mergeMembers base patch)
  | other => other

/-- Merge patch members into target members, in patch order. -/
def mergeMembers (base : List (Label × Node)) : List (Label × Node) → List (Label × Node)
  | [] => base
  | (k, v) :: rest =>
    let next := match base.findIdx? (fun m => m.1.sameKey k), v with
      | some i, .null => dropAt base i
      | some i, _ =>
        base.modify i (fun m => (m.1, mergePatch m.2 v))
      | none, .null => base
      | none, .object _ => base ++ [(k, mergePatch .null v)]
      | none, _ => base ++ [(k, v)]
    mergeMembers next rest

end

/-- `json_patch(target, patch)` on values: NULL when either is NULL. -/
def patchValues (target p : SqlValue) : Except EngineFailure (Option Node) := do
  match ← document target with
  | none => return none
  | some t =>
    match ← document p with
    | none => return none
    | some q => return some (mergePatch t q)

/-- `json_patch(target, patch)` as the store uses it: the merged document as text. -/
def patch (target p : SqlValue) : Except EngineFailure SqlValue := do
  match ← patchValues target p with
  | none => return .null
  | some n => return .ofString n.render

/-! ## Building documents -/

/-- `json_array(value, ...)`. -/
def arrayOf (binary : Bool) (args : List JsonArg) : Except EngineFailure JsonArg := do
  let parts ← args.mapM JsonArg.jsonText
  return builtResult binary ("[" ++ ",".intercalate parts ++ "]")

/-- `json_object(label, value, ...)`: the labels must be text. -/
def objectOf (binary : Bool) (args : List JsonArg) : Except EngineFailure JsonArg := do
  if args.length % 2 = 1 then
    throw (engineError .error "json_object() requires an even number of arguments")
  let pairs := (List.range (args.length / 2)).map (fun k => (args.getD (2 * k) default, args.getD (2 * k + 1) default))
  if pairs.any (fun (l, _) => match l.value with
      | .text _ => false
      | _ => true) then
    throw (engineError .error "json_object() labels must be TEXT")
  let parts ← pairs.mapM (fun (l, v) => do
    let t ← v.jsonText
    pure (Writer.quoted .raw (inputText l.value) ++ ":" ++ t))
  return builtResult binary ("\x7b" ++ ",".intercalate parts ++ "\x7d")

/-! ## Listing documents -/

/-- One row of `json_each` or `json_tree`: the key (the label or index within its container,
NULL at the top), the node, its position in the binary form (for a member, the position of its
label), the position of its container's row (for `json_tree`), its full path and the path of
its container. -/
structure EachRow where
  key : SqlValue
  node : Node
  id : Nat
  parent : Option Nat
  fullkey : String
  path : String
deriving Repr, Inhabited

/-- A member step for a label in a full path: bare when the label is an ASCII letter followed
by letters and digits, quoted otherwise. -/
def labelStep (l : Label) : String :=
  let cs := l.body.toList
  let bare := match cs with
    | c :: _ => Reader.isLetter c && cs.all Reader.isAlnum
    | [] => false
  if bare then "." ++ l.body else ".\"" ++ l.body ++ "\""

/-- The positions of the elements of a container at `pos` in the binary form: each item, or each
member's label and value. -/
def childPositions (n : Node) (pos : Nat) : List Nat :=
  let first := pos + n.headerLength
  match n with
  | .array items =>
    (items.foldl (fun (acc : List Nat × Nat) x => (acc.1 ++ [acc.2], acc.2 + x.encodedSize)) ([], first)).1
  | .object members =>
    (members.foldl (fun (acc : List Nat × Nat) (l, x) =>
      (acc.1 ++ [acc.2], acc.2 + l.encode.length + x.encodedSize)) ([], first)).1
  | _ => []

/-- Where a path leads, with positions: the node, its position, and the position of its label
when a member step reached it. -/
def Node.locate : Nat → Node → Nat → Option Nat → List Char → Option (Node × Nat × Option Nat) ⊕ Bool
  | 0, _, _, _, _ => .inr true
  | _, n, pos, label, [] => .inl (some (n, pos, label))
  | fuel + 1, n, pos, _, '.' :: r =>
    match memberStep r with
    | none => .inr true
    | some (name, bare, rest) =>
      match n with
      | .object members =>
        match members.findIdx? (fun m => m.1.matchesStep name bare) with
        | some i =>
          match members[i]?, (childPositions n pos)[i]? with
          | some (l, v), some p => Node.locate fuel v (p + l.encode.length) (some p) rest
          | _, _ => .inl none
        | none => .inl none
      | _ => .inl none
  | fuel + 1, n, pos, _, '[' :: r =>
    match n with
    | .array items =>
      match indexStep items.length r with
      | .index k rest =>
        match items[k]?, (childPositions n pos)[k]? with
        | some v, some p => Node.locate fuel v p none rest
        | _, _ => .inl none
      | .beyond => .inl none
      | .malformed => .inr true
    | _ => .inl none
  | _ + 1, _, _, _, _ :: _ => .inr true

/-- The rows below a container: for each member or item its row, and for `json_tree` the rows
below it in turn; `fuel` bounds the nesting. -/
def Node.rowsBelow (tree : Bool) : Nat → Node → Nat → Nat → String → List EachRow
  | 0, _, _, _, _ => []
  | fuel + 1, n, pos, head, full =>
    let positions := childPositions n pos
    let children : List (SqlValue × Node × Nat × Nat × String) := match n with
      | .array items =>
        (items.zip positions).zipIdx.map (fun ((x, p), k) => (.integer k, x, p, p, full ++ "[" ++ toString k ++ "]"))
      | .object members =>
        (members.zip positions).map (fun ((l, x), p) =>
          (.text (if l.form.isBare then l.body.toUTF8.toList else unescapeBytes l.body), x, p,
            p + l.encode.length, full ++ labelStep l))
      | _ => []
    children.flatMap (fun (key, x, id, valueAt, childFull) =>
      let row : EachRow :=
        { key, node := x, id, parent := if tree then some head else none, fullkey := childFull, path := full }
      if tree && x.isContainer then row :: Node.rowsBelow tree fuel x valueAt id childFull
      else [row])

/-- The length of the path shown for the top row of `json_tree` with a root path: the longest
prefix ending before a `.` or `[` whose node has the top row as its first member or item, or
just `$`. -/
def treeRootPathLength (doc : Node) (root : List Char) (top : Nat) : Nat :=
  let cuts := ((List.range root.length).filter (fun k => k ≥ 1 ∧ (root[k]? = some '.' ∨ root[k]? = some '['))).reverse
  let hit := cuts.find? (fun k =>
    let prefixSteps := (root.take k).drop 1
    match Node.locate (prefixSteps.length + 1) doc 0 none prefixSteps with
    | .inl (some (n, pos, _)) => pos + n.headerLength == top
    | _ => false)
  hit.getD 1

/-- The key of the top row of `json_tree` with a root path: the last step of the path after
the shown prefix, as an integer for an index step and as text for a member step. -/
def treeRootKey (root : List Char) (cut : Nat) : SqlValue :=
  let tail := root.drop cut
  if tail.isEmpty then .null
  else match tail with
    | '[' :: rest =>
      let ds := rest.takeWhile Reader.isDigit
      .integer (ds.foldl (fun acc c => acc * 10 + (c.toNat - 48 : Int)) 0)
    | _ :: '"' :: rest => .ofString (String.ofList (rest.take (tail.length - 3)))
    | _ :: rest => .ofString (String.ofList rest)
    | [] => .null

/-- The rows of `json_each(doc, root)` (`tree` false) or `json_tree(doc, root)` (`tree` true):
for `json_each` the members or items of the container at the root, or the root itself when it is
no container; for `json_tree` the root and everything below it. No rows for NULL or a root that
leads nowhere. -/
def eachRows (tree : Bool) (args : List JsonArg) : Except EngineFailure (List EachRow) := do
  let input := (args.headD default).value
  let doc? ← match input with
    | .null => pure none
    | .blob b =>
      if isBinaryDocument b then
        match Node.decode b with
        | some n => pure (some n)
        | none => throw malformedJson
      else match Node.parse (Text.decodeLossy b) with
        | some n => pure (some n)
        | none => throw malformedJson
    | v => match Node.parse (inputText v) with
      | some n => pure (some n)
      | none => throw malformedJson
  match doc? with
  | none => return []
  | some doc =>
    let root? : Option String ← match args with
      | [_, r] =>
        if r.value == .null then pure none
        else
          let text := pathText r.value
          if !text.startsWith "$" then throw (badPath text)
          pure (some text)
      | _ => pure (some "$")
    match root? with
    | none => return []
    | some root =>
      let steps := root.toList.drop 1
      match Node.locate (steps.length + 1) doc 0 none steps with
      | .inr _ => throw (badPath root)
      | .inl none => return []
      | .inl (some (n, pos, label)) =>
        let top := label.getD pos
        let fuel := doc.encodedSize + 1
        if !tree && n.isContainer then return n.rowsBelow false fuel pos top root
        let (key, path) :=
          if root = "$" then (SqlValue.null, root)
          else if tree then
            let cut := treeRootPathLength doc root.toList top
            (treeRootKey root.toList cut, String.ofList (root.toList.take cut))
          else (.null, root)
        let first : EachRow := { key, node := n, id := top, parent := none, fullkey := root, path }
        if tree && n.isContainer then return first :: n.rowsBelow true fuel pos top root
        return [first]

/-- The column names of `json_each` and `json_tree`; the last two are hidden from `*`. -/
def eachColumns : List String := ["key", "value", "type", "atom", "id", "parent", "fullkey", "path", "json", "root"]

/-- The values of a row of `json_each` or `json_tree`, given the input and the root path, with
whether each is JSON text. -/
def EachRow.values (r : EachRow) (input : SqlValue) (root : String) : Except EngineFailure (List JsonArg) := do
  let value ← match r.node.toSql with
    | some v => pure v
    | none => throw malformedJson
  let json : SqlValue := match input with
    | .blob b => if isBinaryDocument b then .blob b else .ofString (inputText input)
    | v => .ofString (inputText v)
  return [sqlResult r.key, { value, isJson := r.node.isContainer }, sqlResult (.ofString r.node.typeName),
    sqlResult (if r.node.isContainer then .null else value), sqlResult (.integer r.id),
    sqlResult ((r.parent.map (fun p => SqlValue.integer p)).getD .null), sqlResult (.ofString r.fullkey),
    sqlResult (.ofString r.path), sqlResult json, sqlResult (.ofString root)]

/-! ## The functions -/

/-- The value of a JSON function, given its upper-case name, its name as written (for the
error on a wrong number of arguments) and its arguments; `none` when the name is no JSON
function. -/
def jsonFunction (name written : String) (args : List JsonArg) : Option (Except EngineFailure JsonArg) :=
  let wrong : Except EngineFailure JsonArg :=
    .error (engineError .error ("wrong number of arguments to function " ++ written ++ "()"))
  let n := args.length
  let a0 := (args.headD default).value
  let odd (fn : String) (go : Unit → Except EngineFailure JsonArg) : Except EngineFailure JsonArg :=
    if n ≥ 1 ∧ n % 2 = 0 then .error (engineError .error ("json_" ++ fn ++ "() needs an odd number of arguments"))
    else go ()
  match name with
  | "JSON" | "JSONB" =>
    some (if n = 1 then removePaths (name = "JSONB") args else wrong)
  | "JSON_ARRAY" | "JSONB_ARRAY" => some (arrayOf (name = "JSONB_ARRAY") args)
  | "JSON_ARRAY_LENGTH" => some (if n = 1 ∨ n = 2 then arrayLength args else wrong)
  | "JSON_ERROR_POSITION" => some (if n = 1 then .ok (sqlResult (errorPosition a0)) else wrong)
  | "JSON_EXTRACT" => some (extract .value false args)
  | "JSONB_EXTRACT" => some (extract .binary false args)
  | "->" => some (extract .json true args)
  | "->>" => some (extract .sql true args)
  | "JSON_INSERT" | "JSONB_INSERT" => some (odd "insert" (fun _ => editPairs .insert (name = "JSONB_INSERT") args))
  | "JSON_REPLACE" | "JSONB_REPLACE" => some (odd "replace" (fun _ => editPairs .replace (name = "JSONB_REPLACE") args))
  | "JSON_SET" | "JSONB_SET" => some (odd "set" (fun _ => editPairs .set (name = "JSONB_SET") args))
  | "JSON_REMOVE" | "JSONB_REMOVE" => some (removePaths (name = "JSONB_REMOVE") args)
  | "JSON_OBJECT" | "JSONB_OBJECT" => some (objectOf (name = "JSONB_OBJECT") args)
  | "JSON_PATCH" | "JSONB_PATCH" =>
    some (if n = 2 then
      (patchValues a0 (args.getD 1 default).value).map (fun r => match r with
        | some d => nodeResult (name = "JSONB_PATCH") d
        | none => sqlResult .null)
      else wrong)
  | "JSON_QUOTE" => some (if n = 1 then (args.headD default).jsonText.map jsonResult else wrong)
  | "JSON_TYPE" => some (if n = 1 ∨ n = 2 then typeOf args else wrong)
  | "JSON_VALID" => some (if n = 1 ∨ n = 2 then valid args else wrong)
  | _ => none

/-! ## The store's lookups -/

/-- `json_extract` of a value at a field path. -/
def extractField (v : SqlValue) (p : FieldPath) : Except EngineFailure SqlValue :=
  (extract .value false [{ value := v }, { value := .ofString p.jsonPath }]).map (·.value)

/-- The elements of an array at a field path as engine values, or none when the value there is
not an array. -/
def arrayAt (v : SqlValue) (p : FieldPath) : Except EngineFailure (Option (List SqlValue)) := do
  match ← document v with
  | none => return none
  | some doc =>
    match followPathText doc p.jsonPath with
    | .found (.array items) =>
      match items.mapM Node.toSql with
      | some vs => return some vs
      | none => throw malformedJson
    | .malformed => throw (badPath p.jsonPath)
    | _ => return none

end SqlJson

end DocStore
