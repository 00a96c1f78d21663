import DocStore.Document
/-!
# JSON patches

A patch (RFC 6902) is a list of operations on a JSON document, each addressing a location by a
JSON pointer (RFC 6901): `/a/0/b`, with `~1` for `/` and `~0` for `~` inside a token.

Reading a patch (`Patch.ofJson`) checks its shape: an array of objects, each with an `op` among
`add`, `remove`, `replace`, `move`, `copy`, `test`, and the members the operation needs
(`path`, `from`, `value`); pointers must be empty or start with `/`, and `~` must be followed by
`0` or `1`. A pointer may also be written as a URI fragment, behind `#`.

Applying a patch (`Patch.apply`) runs the operations in order on a copy of the document; the
first one that fails reports its position and its `path`, and the document is left as it was.
Leaving it as it was means undoing the operations already applied, which fails when one of them
moved a value to an ancestor of its source (`PatchError.undoFailed`).
Adding into an object replaces an existing member in place or appends a new one; removing a
member moves the last member into its place. An array index has no leading zero or sign and
must be in range (one past the end for `add`, which also accepts `-` for the end).
-/

namespace DocStore

/-- One patch operation. -/
inductive PatchOp where
  | add (path : String) (value : Value)
  | remove (path : String)
  | replace (path : String) (value : Value)
  | move (source : String) (path : String)
  | copy (source : String) (path : String)
  | test (path : String) (value : Value)
deriving Repr

/-- The pointer an operation is reported at. -/
def PatchOp.path : PatchOp → String
  | .add p _ | .remove p | .replace p _ | .move _ p | .copy _ p | .test p _ => p

/-- Why an operation failed. -/
inductive PatchFailure where
  | testFailed
  | invalidFrom
  | invalidPointer
  | moveInsideItself
deriving DecidableEq, Repr

/-- The text of a failure. -/
def PatchFailure.text : PatchFailure → String
  | .testFailed => "value did not match"
  | .invalidFrom => "\"from\" path is invalid"
  | .invalidPointer => "path is invalid"
  | .moveInsideItself => "cannot move the value inside itself"

namespace Pointer

/-- A pointer is empty, or starts with `/` and has `~` only before `0` or `1`. -/
def check (s : String) : Except String String :=
  let missing : Except String String :=
    .error ("json pointer \"" ++ s ++ "\" is malformed due to missing starting slash")
  let rec encoded : List Char → Bool
    | [] => true
    | '~' :: '0' :: rest => encoded rest
    | '~' :: '1' :: rest => encoded rest
    | '~' :: _ => false
    | _ :: rest => encoded rest
  let body := match s.toList with
    | '#' :: rest => String.ofList rest
    | _ => s
  if body.isEmpty then .ok body
  else if !body.startsWith "/" then missing
  else if encoded body.toList then .ok body
  else .error ("json pointer \"" ++ s ++ "\" is improperly encoded")

/-- Decode the escapes of a token. -/
def unescape (t : String) : String :=
  (t.replace "~1" "/").replace "~0" "~"

/-- The tokens of a non-empty pointer. -/
def tokens (p : String) : List String :=
  ((p.splitOn "/").drop 1).map unescape

/-- An array index: digits without a leading zero or sign. -/
def index? (t : String) : Option Nat :=
  if t.isEmpty || t.startsWith "+" || (t.startsWith "0" && t.length != 1) then none
  else if t.toList.all Char.isDigit then t.toNat? else none

/-- An array index below `len`. -/
def indexBelow (t : String) (len : Nat) : Except PatchFailure Nat :=
  match index? t with
  | some i => if i < len then .ok i else .error .invalidPointer
  | none => .error .invalidPointer

/-- The value at a list of tokens. -/
def get : Value → List String → Option Value
  | v, [] => some v
  | .obj fields, t :: rest =>
    match Value.lookup fields t with
    | some w => get w rest
    | none => none
  | .arr items, t :: rest =>
    match index? t with
    | some i => match items[i]? with
      | some w => get w rest
      | none => none
    | none => none
  | _, _ :: _ => none

/-- The value at a pointer. -/
def resolve (doc : Value) (p : String) : Option Value :=
  if p.isEmpty then some doc
  else if !p.startsWith "/" then none
  else get doc (tokens p)

/-- Change the value at a list of tokens; nothing when the location does not exist. -/
def modifyAt (f : Value → Except PatchFailure Value) : Value → List String → Except PatchFailure Value
  | v, [] => f v
  | .obj fields, t :: rest =>
    match Value.lookup fields t with
    | some w => do
      let w' ← modifyAt f w rest
      return .obj (Value.setField fields t w')
    | none => .error .invalidPointer
  | .arr items, t :: rest =>
    match index? t with
    | some i => match items[i]? with
      | some w => do
        let w' ← modifyAt f w rest
        return .arr (items.set i w')
      | none => .error .invalidPointer
    | none => .error .invalidPointer
  | _, _ :: _ => .error .invalidPointer

/-- Change the value at a pointer. -/
def modify (doc : Value) (p : String) (f : Value → Except PatchFailure Value) :
    Except PatchFailure Value :=
  if p.isEmpty then f doc
  else if !p.startsWith "/" then .error .invalidPointer
  else modifyAt f doc (tokens p)

/-- Split a pointer at its last `/` into the parent pointer and the raw last token. -/
def split (p : String) : Except PatchFailure (String × String) :=
  let parts := p.splitOn "/"
  if parts.length < 2 then .error .invalidPointer
  else .ok ("/".intercalate parts.dropLast, parts.getLastD "")

end Pointer

/-- Remove a member, moving the last member into its place. -/
def swapRemove (fields : List (String × Value)) (k : String) : Option (Value × List (String × Value)) :=
  match fields.findIdx? (fun p => p.1 == k) with
  | none => none
  | some i =>
    match fields[i]?, fields.getLast? with
    | some (_, v), some last =>
      if i + 1 = fields.length then some (v, fields.dropLast)
      else some (v, (fields.dropLast).set i last)
    | _, _ => none

namespace PatchOp

/-- Add a value at a pointer. -/
def addAt (doc : Value) (path : String) (value : Value) : Except PatchFailure Value := do
  if path.isEmpty then return value
  let (parent, last) ← Pointer.split path
  Pointer.modify doc parent (fun target => match target with
    | .obj fields => .ok (.obj (Value.setField fields (Pointer.unescape last) value))
    | .arr items =>
      if last == "-" then .ok (.arr (items ++ [value]))
      else do
        let i ← Pointer.indexBelow last (items.length + 1)
        return .arr (items.insertIdx i value)
    | _ => .error .invalidPointer)

/-- Remove the value at a pointer, returning it. -/
def removeAt (doc : Value) (path : String) : Except PatchFailure (Value × Value) := do
  let (parent, last) ← Pointer.split path
  let mut removed : Option Value := none
  match Pointer.resolve doc parent with
  | some (.obj fields) =>
    match swapRemove fields (Pointer.unescape last) with
    | some (v, _) => removed := some v
    | none => throw .invalidPointer
  | some (.arr items) =>
    let i ← Pointer.indexBelow last items.length
    removed := items[i]?
  | _ => throw .invalidPointer
  let doc' ← Pointer.modify doc parent (fun target => match target with
    | .obj fields => match swapRemove fields (Pointer.unescape last) with
      | some (_, rest) => .ok (.obj rest)
      | none => .error .invalidPointer
    | .arr items => do
      let i ← Pointer.indexBelow last items.length
      return .arr (items.eraseIdx i)
    | _ => .error .invalidPointer)
  match removed with
  | some v => return (doc', v)
  | none => throw .invalidPointer

/-- Apply one operation. -/
def apply (doc : Value) : PatchOp → Except PatchFailure Value
  | .add path value => addAt doc path value
  | .remove path => do
    let (doc', _) ← removeAt doc path
    return doc'
  | .replace path value => Pointer.modify doc path (fun _ => .ok value)
  | .move src path => do
    if path.startsWith src && (path.drop src.length).startsWith "/" then throw .moveInsideItself
    let (doc', v) ← (removeAt doc src).mapError (fun e => if e == .invalidPointer then .invalidFrom else e)
    addAt doc' path v
  | .copy src path => do
    match Pointer.resolve doc src with
    | some v => addAt doc path v
    | none => throw .invalidFrom
  | .test path value =>
    match Pointer.resolve doc path with
    | some v => if v.equiv value then .ok doc else .error .testFailed
    | none => .error .invalidPointer

end PatchOp

/-- A patch: operations in order. -/
abbrev Patch := List PatchOp

/-- Whether an operation, once applied, cannot be undone: a move back from a target that is an
ancestor of the source would move a value inside itself. -/
def PatchOp.undoable : PatchOp → Bool
  | .move src path => !(src.startsWith path && (src.drop path.length).startsWith "/")
  | _ => true

/-- Why a patch did not apply: an operation failed (with the message reporting it), or an
operation failed and the operations applied before it could not be undone. -/
inductive PatchError where
  | failed (message : String)
  | undoFailed
deriving DecidableEq, Repr

namespace Patch

/-- Apply every operation in order; the first failure is reported as
`operation '/i' failed at path 'p': …`, unless an operation applied before it cannot be
undone. -/
def apply (doc : Value) (ops : Patch) : Except PatchError Value :=
  let rec go : Nat → Value → List PatchOp → Except PatchError Value
    | _, d, [] => .ok d
    | i, d, op :: rest =>
      match op.apply d with
      | .ok d' => go (i + 1) d' rest
      | .error e =>
        if (ops.take i).all PatchOp.undoable then
          .error (.failed ("operation '/" ++ toString i ++ "' failed at path '" ++ op.path ++ "': " ++ e.text))
        else .error .undoFailed
  go 0 doc ops

/-- The names of the operations. -/
def opNames : List String := ["add", "remove", "replace", "move", "copy", "test"]

/-- A pointer member, decoded. -/
def pointerField (v : Value) : Except String String :=
  match v with
  | .str s => Pointer.check s
  | other => .error (invalidTypeText other "a string")
where
  invalidTypeText (v : Value) (e : String) : String :=
    "invalid type: " ++ unexpectedText v ++ ", expected " ++ e

/-- The members of one operation: each of `names` decoded in member order, then the first
missing one (in the order of `names`) reported. -/
def members (fields : List (String × Value)) (names : List String) :
    Except String (List (String × Value)) := do
  let mut found : List (String × Value) := []
  for (k, v) in fields do
    if names.contains k && !(found.any (fun p => p.1 == k)) then
      if k == "value" then found := found ++ [(k, v)]
      else
        let s ← pointerField v
        found := found ++ [(k, .str s)]
  for n in names do
    if !(found.any (fun p => p.1 == n)) then throw ("missing field `" ++ n ++ "`")
  return found

/-- The text member decoded by `members`. -/
def textOf (found : List (String × Value)) (k : String) : String :=
  match Value.lookup found k with
  | some (.str s) => s
  | _ => ""

/-- Decode one operation from its `op` name and other members. -/
def decodeOp (name : String) (rest : List (String × Value)) : Except String PatchOp := do
  match name with
  | "add" => do
    let f ← members rest ["path", "value"]
    return .add (textOf f "path") ((Value.lookup f "value").getD .null)
  | "remove" => do
    let f ← members rest ["path"]
    return .remove (textOf f "path")
  | "replace" => do
    let f ← members rest ["path", "value"]
    return .replace (textOf f "path") ((Value.lookup f "value").getD .null)
  | "move" => do
    let f ← members rest ["from", "path"]
    return .move (textOf f "from") (textOf f "path")
  | "copy" => do
    let f ← members rest ["from", "path"]
    return .copy (textOf f "from") (textOf f "path")
  | "test" => do
    let f ← members rest ["path", "value"]
    return .test (textOf f "path") ((Value.lookup f "value").getD .null)
  | other => throw ("unknown variant `" ++ other ++ "`, expected one of " ++
      ", ".intercalate (opNames.map (fun n => "`" ++ n ++ "`")))

/-- The name of an operation from the value of its `op` member. -/
def opName : Value → Except String String
  | .str s => .ok s
  | v => .error ("invalid type: " ++ unexpectedText v ++ ", expected variant identifier")

/-- Decode one operation. -/
def decodeEntry : Value → Except String PatchOp
  | .obj fields =>
    match Value.lookup fields "op" with
    | none => .error "missing field `op`"
    | some tag => do
      let name ← opName tag
      decodeOp name (fields.filter (fun p => p.1 != "op"))
  | v => .error ("invalid type: " ++ unexpectedText v ++ ", expected internally tagged enum PatchOperation")

/-- Decode a patch from JSON data. -/
def ofJson : Value → Except String Patch
  | .arr items => items.mapM decodeEntry
  | v => .error ("invalid type: " ++ unexpectedText v ++ ", expected a sequence")

end Patch

end DocStore
