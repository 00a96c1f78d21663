import DocStore.Field
import DocStore.Time.Parse
import DocStore.Reference
import DocStore.Json.Writer
/-!
# Documents

What happens to data on its way into the store, and what a reader sees of a stored document.

Writing (`prepareWrite`): the data must be an object. Each top-level member whose value is the
server-timestamp marker (an object whose `_methodName` is the text `serverTimestamp`) becomes
the write time as RFC 3339 text with milliseconds (`resolveSentinels`); markers deeper down are
left alone. Then every member name is read as a dotted path and the value is placed at that path
(`expandDots`): missing objects on the way are created, a non-object on the way is replaced by
an empty object, and a later member overwrites an earlier one in place.

Reading: a snapshot of a document has its reference and, when it exists, its data. Fields are
read by dotted paths (`Value.getField`). A timestamp is revived from any text that
`parseTimestamp` accepts; `timestampFields` lists, depth first in member order and with array
elements by index, the dotted paths of every such text below the top.
-/

namespace DocStore

/-- The member name that marks a field value. -/
def sentinelKey : String := "_methodName"

/-- The marker that stands for the write time. -/
def serverTimestamp : Value := .obj [(sentinelKey, .str "serverTimestamp")]

/-- Is the value the server-timestamp marker? -/
def isServerTimestamp (v : Value) : Bool :=
  match v.field? sentinelKey with
  | some (.str s) => s == "serverTimestamp"
  | _ => false

/-- The stored text of a write time: RFC 3339 in UTC with milliseconds. -/
def formatTimestamp (t : Instant) : String := t.millisText

/-- Replace every top-level server-timestamp marker by the write time. -/
def resolveSentinels (fields : List (String × Value)) (now : Instant) : List (String × Value) :=
  fields.map (fun (k, v) => (k, if isServerTimestamp v then .str (formatTimestamp now) else v))

/-- Place a value at a path of member names inside an object's members, creating objects on the
way and replacing non-objects on the way by empty objects. -/
def placeAt : List (String × Value) → List String → Value → List (String × Value)
  | fields, [], _ => fields
  | fields, [k], v => Value.setField fields k v
  | fields, k :: rest, v =>
    let inner := match Value.lookup fields k with
      | some (.obj sub) => sub
      | _ => []
    Value.setField fields k (.obj (placeAt inner rest v))

/-- Expand dotted member names into nested objects, in member order. -/
def expandDots (fields : List (String × Value)) : List (String × Value) :=
  fields.foldl (fun acc (k, v) => placeAt acc (dotSegments k) v) []

/-- The members a write stores: the data must be an object; markers are resolved, then dotted
names expanded. -/
def prepareWrite (data : Value) (now : Instant) : Outcome (List (String × Value)) :=
  match data with
  | .obj fields => .ok (expandDots (resolveSentinels fields now))
  | other => .error (.invalid (.dataNotObject other.kindName))

mutual
/-- The dotted paths of revivable timestamps below a value, depth first; `path` is the path of
the value itself (reversed). -/
def timestampPaths (path : List String) : Value → List String
  | .str s => if !path.isEmpty && (parseTimestamp s).isSome then [".".intercalate path.reverse] else []
  | .obj fields => timestampPathsFields path fields
  | .arr items => timestampPathsItems path 0 items
  | _ => []

/-- The paths below the members of an object. -/
def timestampPathsFields (path : List String) : List (String × Value) → List String
  | [] => []
  | (k, v) :: rest => timestampPaths (k :: path) v ++ timestampPathsFields path rest

/-- The paths below the elements of an array, counting from `i`. -/
def timestampPathsItems (path : List String) (i : Nat) : List Value → List String
  | [] => []
  | v :: rest => timestampPaths (toString i :: path) v ++ timestampPathsItems path (i + 1) rest
end

/-- The dotted paths of every revivable timestamp in a document's data. -/
def timestampFields (v : Value) : List String := timestampPaths [] v

/-- A read of one document: its reference and its data when it exists. -/
structure DocumentSnapshot where
  reference : DocumentRef
  data : Option Value
deriving Repr

namespace DocumentSnapshot

/-- Does the document exist? -/
def exists? (s : DocumentSnapshot) : Bool := s.data.isSome

/-- A field of the data. -/
def get (s : DocumentSnapshot) (field : String) : Option Value :=
  s.data.bind (fun d => d.getField field)

/-- A field read as a timestamp. -/
def getTimestamp (s : DocumentSnapshot) (field : String) : Option Instant :=
  match s.get field with
  | some (.str t) => parseTimestamp t
  | _ => none

/-- The revivable timestamp paths of the data. -/
def timestamps (s : DocumentSnapshot) : List String :=
  match s.data with
  | some d => timestampFields d
  | none => []

end DocumentSnapshot

/-- One document of a query result. -/
structure QueryDocument where
  collectionId : String
  id : String
  data : Value
deriving Repr

namespace QueryDocument

/-- A field of the data. -/
def get (d : QueryDocument) (field : String) : Option Value := d.data.getField field

/-- A field read as a timestamp. -/
def getTimestamp (d : QueryDocument) (field : String) : Option Instant :=
  match d.get field with
  | some (.str t) => parseTimestamp t
  | _ => none

/-- The reference of the document, re-read from `collection/id`. -/
def reference (d : QueryDocument) : Outcome DocumentRef :=
  DocumentRef.parse (d.collectionId ++ "/" ++ d.id)

end QueryDocument

/-! ## Decoding data as a map of timestamps -/

/-- The kind of a JSON value as a decoder names it when the value has the wrong type. -/
def unexpectedText : Value → String
  | .null => "null"
  | .bool b => "boolean `" ++ (if b then "true" else "false") ++ "`"
  | .num (.int i) => "integer `" ++ toString i ++ "`"
  | .num (.float f) => "floating point `" ++ Json.floatText f ++ "`"
  | .str s => "string " ++ Json.messageQuote s
  | .arr _ => "sequence"
  | .obj _ => "map"

/-- Decode one value as a timestamp: a text accepted by `parseRelaxed`. -/
def decodeTimestamp : Value → Except String Instant
  | .str s => match parseRelaxed s with
    | .ok t => .ok t
    | .error e => .error e.text
  | v => .error ("invalid type: " ++ unexpectedText v ++ ", expected an RFC 3339 formatted date and time string")

/-- Decode data as a map from names to timestamps; the first member that fails, in member
order, gives the error. -/
def decodeTimestampMap : Value → Except String (List (String × Instant))
  | .obj fields => fields.mapM (fun (k, v) => do return (k, ← decodeTimestamp v))
  | v => .error ("invalid type: " ++ unexpectedText v ++ ", expected a map")

end DocStore
