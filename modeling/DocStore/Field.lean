import DocStore.Json.Value
import DocStore.Error
/-!
# Field paths

A field path names a member of a document by its dotted segments (`address.city`). Reading a
field follows the segments through nested objects only: array elements are not addressable,
and a missing member or a non-object on the way gives nothing.

The engine addresses the same member with the JSON path `$."s1"."s2"…`, written into SQL as a
single-quoted literal (`sqlLiteral`, quotes doubled). A field path is valid for queries when no
segment is empty or holds a double quote, which is exactly when that JSON path is well formed.
-/

namespace DocStore

/-- The `.`-separated segments of a dotted name: one more than it has dots. -/
def dotSegments (field : String) : List String := (field.toList.splitOn '.').map String.ofList

namespace Value

/-- The value at a list of segments, through objects only. -/
def atPath : Value → List String → Option Value
  | v, [] => some v
  | v, s :: rest =>
    match v.field? s with
    | some w => atPath w rest
    | none => none

/-- The value at a dotted field path. -/
def getField (v : Value) (field : String) : Option Value :=
  v.atPath (dotSegments field)

end Value

/-- A field path accepted by queries: its segments are non-empty and free of double quotes. -/
structure FieldPath where
  field : String
  segments : List String
deriving DecidableEq, Repr

/-- Whether a segment may appear in a JSON path. -/
def segmentValid (s : String) : Bool :=
  s ≠ "" && !s.toList.contains '"'

namespace FieldPath

/-- The field path of a dotted field, refused when a segment is empty or holds a quote. -/
def parse (field : String) : Outcome FieldPath :=
  let segs := field.splitOn "."
  if segs.all segmentValid then .ok ⟨field, segs⟩ else .error (.invalid (.fieldPath field))

/-- The JSON path `$."s1"."s2"…`. -/
def jsonPath (p : FieldPath) : String :=
  "$" ++ String.join (p.segments.map (fun s => ".\"" ++ s ++ "\""))

end FieldPath

/-- The characters of a SQL string literal's body: every quote doubled. -/
def quoteSqlChars : List Char → List Char
  | [] => []
  | c :: rest => if c = '\'' then '\'' :: '\'' :: quoteSqlChars rest else c :: quoteSqlChars rest

/-- A single-quoted SQL literal. -/
def sqlLiteral (s : String) : String :=
  "'" ++ String.ofList (quoteSqlChars s.toList) ++ "'"

/-- The engine expression that extracts a field from a document's data. -/
def FieldPath.expr (p : FieldPath) : String :=
  "json_extract(data, " ++ sqlLiteral p.jsonPath ++ ")"

end DocStore
