import DocStore.Sql.Json.Node
import DocStore.Text.Utf8
/-!
# The binary form of documents

The engine also keeps a document as bytes. Each element is a header and a payload: the low four
bits of the header's first byte give the element's type, the high four bits its payload size
when at most 11, or say that the size follows in 1, 2, 4 or 8 bytes (12, 13, 14, 15). The types
are null, true and false (no payload), integer, hexadecimal integer, real and real with a bare
point (their text), four kinds of string (the text between the quotes: plain, with JSON
escapes, with JSON5 escapes, or text that was never JSON), array (its items) and object (its
keys and values, alternating). The engine writes every size in the fewest bytes.

`Node.encode` writes a tree in this form and `Node.decode` reads it back. A value is taken as
a document in this form when its first byte names a type and its header and payload fill it
exactly.
-/

namespace DocStore

namespace SqlJson

/-- The type code of a node in the binary form. -/
def Node.typeCode : Node → Nat
  | .null => 0
  | .bool true => 1
  | .bool false => 2
  | .number .integer _ => 3
  | .number .hexInteger _ => 4
  | .number .real _ => 5
  | .number .looseReal _ => 6
  | .text form _ => textCode form
  | .array _ => 11
  | .object _ => 12
where
  /-- The type code of a string form. -/
  textCode : TextForm → Nat
    | .plain => 7
    | .escaped => 8
    | .extended => 9
    | .raw => 10

/-- The header of an element of a type code and payload size, in the fewest bytes. -/
def header (code size : Nat) : List UInt8 :=
  if size ≤ 11 then [UInt8.ofNat (size * 16 + code)]
  else if size ≤ 0xFF then [UInt8.ofNat (0xC0 + code), UInt8.ofNat size]
  else if size ≤ 0xFFFF then [UInt8.ofNat (0xD0 + code), UInt8.ofNat (size / 256), UInt8.ofNat (size % 256)]
  else
    [UInt8.ofNat (0xE0 + code), UInt8.ofNat (size / Nat.pow 2 24 % 256), UInt8.ofNat (size / Nat.pow 2 16 % 256),
     UInt8.ofNat (size / 256 % 256), UInt8.ofNat (size % 256)]

/-- The size of the header of an element with a payload size. -/
def headerSize (size : Nat) : Nat :=
  if size ≤ 11 then 1 else if size ≤ 0xFF then 2 else if size ≤ 0xFFFF then 3 else 5

/-- The bytes of a label: a string element of its form. -/
def Label.encode (l : Label) : List UInt8 :=
  let p := l.body.toUTF8.toList
  header (Node.typeCode.textCode l.form) p.length ++ p

mutual

/-- A tree in the binary form. -/
def Node.encode : Node → List UInt8
  | .null => header 0 0
  | .bool b => header (if b then 1 else 2) 0
  | n@(.number _ text) =>
    let p := text.toUTF8.toList
    header n.typeCode p.length ++ p
  | n@(.text _ body) =>
    let p := body.toUTF8.toList
    header n.typeCode p.length ++ p
  | .array items =>
    let p := encodeItems items
    header 11 p.length ++ p
  | .object members =>
    let p := encodeMembers members
    header 12 p.length ++ p

/-- Array items one after another. -/
def encodeItems : List Node → List UInt8
  | [] => []
  | n :: rest => n.encode ++ encodeItems rest

/-- Object members one after another, each key before its value. -/
def encodeMembers : List (Label × Node) → List UInt8
  | [] => []
  | (l, n) :: rest => l.encode ++ n.encode ++ encodeMembers rest

end

/-- The size of a tree in the binary form. -/
def Node.encodedSize (n : Node) : Nat := n.encode.length

/-- The size of the header of a tree in the binary form. -/
def Node.headerLength (n : Node) : Nat := headerSize (n.encodedSize - 1)

/-- The header length and payload size of the element at `i`, when the bytes hold them. -/
def payloadAt (bs : Array UInt8) (i : Nat) : Option (Nat × Nat) :=
  let b := (bs.getD i 0).toNat
  let byte (k : Nat) : Nat := (bs.getD (i + k) 0).toNat
  let hs : Option (Nat × Nat) :=
    if b / 16 ≤ 11 then some (1, b / 16)
    else if b / 16 = 12 then (if i + 1 ≥ bs.size then none else some (2, byte 1))
    else if b / 16 = 13 then (if i + 2 ≥ bs.size then none else some (3, byte 1 * 256 + byte 2))
    else if b / 16 = 14 then
      if i + 4 ≥ bs.size then none
      else some (5, ((byte 1 * 256 + byte 2) * 256 + byte 3) * 256 + byte 4)
    else if i + 8 ≥ bs.size ∨ byte 1 ≠ 0 ∨ byte 2 ≠ 0 ∨ byte 3 ≠ 0 ∨ byte 4 ≠ 0 then none
    else some (9, ((byte 5 * 256 + byte 6) * 256 + byte 7) * 256 + byte 8)
  match hs with
  | some (n, sz) => if i + n + sz > bs.size then none else some (n, sz)
  | none => none

/-- Is a blob a document in the binary form: a first byte that names a type, and a header and
payload that fill it exactly? -/
def isBinaryDocument (bs : List UInt8) : Bool :=
  let a := bs.toArray
  match bs.head? with
  | none => false
  | some b =>
    b.toNat % 16 ≤ 12 &&
      match payloadAt a 0 with
      | some (n, sz) => n + sz = a.size
      | none => false

/-- The text of the payload bytes from `i`. -/
def payloadText (bs : Array UInt8) (i sz : Nat) : String :=
  Text.decodeLossy (bs.extract i (i + sz)).toList

/-- Keys and values from an alternating list; the keys must be strings. -/
def pairUp : List Node → Option (List (Label × Node))
  | [] => some []
  | .text form body :: v :: rest => (pairUp rest).map ((⟨form, body⟩, v) :: ·)
  | _ => none

mutual

/-- Read one element at `i`: the node and the position after it; `fuel` bounds the nesting.
`none` when the bytes do not hold a well-formed element. -/
def decodeElement (bs : Array UInt8) : Nat → Nat → Option (Node × Nat)
  | 0, _ => none
  | fuel + 1, i =>
    match payloadAt bs i with
    | none => none
    | some (n, sz) =>
      let start := i + n
      let next := start + sz
      let text := payloadText bs start sz
      match (bs.getD i 0).toNat % 16 with
      | 0 => if sz = 0 then some (.null, next) else none
      | 1 => if sz = 0 then some (.bool true, next) else none
      | 2 => if sz = 0 then some (.bool false, next) else none
      | 3 => if sz = 0 then none else some (.number .integer text, next)
      | 4 => if sz = 0 then none else some (.number .hexInteger text, next)
      | 5 => if sz = 0 then none else some (.number .real text, next)
      | 6 => if sz = 0 then none else some (.number .looseReal text, next)
      | 7 => some (.text .plain text, next)
      | 8 => some (.text .escaped text, next)
      | 9 => some (.text .extended text, next)
      | 10 => some (.text .raw text, next)
      | 11 => (decodeRun bs fuel start next).map (fun xs => (.array xs, next))
      | 12 =>
        match decodeRun bs fuel start next with
        | some xs => (pairUp xs).map (fun ms => (.object ms, next))
        | none => none
      | _ => none

/-- Read the elements from `i` up to `stop`; `fuel` bounds the nesting and the count. -/
def decodeRun (bs : Array UInt8) : Nat → Nat → Nat → Option (List Node)
  | 0, _, _ => none
  | fuel + 1, i, stop =>
    if i ≥ stop then (if i = stop then some [] else none)
    else match decodeElement bs fuel i with
      | some (n, next) => (decodeRun bs fuel next stop).map (n :: ·)
      | none => none

end

/-- Read a document in the binary form; `none` when it is malformed. -/
def Node.decode (bs : List UInt8) : Option Node :=
  let a := bs.toArray
  match decodeElement a (2 * a.size + 2) 0 with
  | some (n, next) => if next = a.size then some n else none
  | none => none

end SqlJson

end DocStore
