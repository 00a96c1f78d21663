import DocStore.Sql.Sorting
/-!
# Window frames

A window function reads the rows of the current row's partition in the window's order. Rows
whose ordering terms compare equal are peers, and the peers form peer groups, numbered from 0
in order; without ordering terms every row of the partition is a peer of every other. The
functions here work on positions in that order, 0 for the first row of the partition, and
order text as the database's encoding orders it:

* `frameSpan` gives the positions a frame holds for the current position. `ROWS` counts
  positions and `GROUPS` counts peer groups. `RANGE` compares the value of the single ordering
  term with the current row's value moved by the offset, back for `PRECEDING` and ahead for
  `FOLLOWING` in the window's direction; a NULL current value reaches its peers, a value that
  is not a number is not moved, and a NULL value is never within reach of another.
  `CURRENT ROW` is the current position under `ROWS` and the edge of its peer group otherwise.
  `EXCLUDE` then leaves out the current row, its peer group, or its peers but itself.
* `ntileOf` splits the partition into buckets: the first buckets take one row more when the
  rows do not divide evenly.
-/

namespace DocStore

namespace Sql

/-- A bound of a frame, its offset evaluated: the end of the partition on its side, the current
row, or an offset back (`PRECEDING`) or ahead (`FOLLOWING`). -/
inductive FrameEdge where
  | unbounded
  | current
  | preceding (offset : SqlValue)
  | following (offset : SqlValue)
deriving Repr, Inhabited

/-- The peer group of each position, given the sort keys of the partition in order. -/
def peerGroups (enc : TextEncoding) (terms : List OrderTerm) (keys : List (List Typed)) : List Nat :=
  match keys with
  | [] => []
  | k :: rest =>
    let step (acc : List Nat × List Typed × Nat) (k' : List Typed) : List Nat × List Typed × Nat :=
      let (out, prev, g) := acc
      let g' := if compareSortKeys enc terms prev k' == .eq then g else g + 1
      (g' :: out, k', g')
    (rest.foldl step ([0], k, 0)).1.reverse

/-- The first position of a peer group, or the number of positions when there is none. -/
def groupFirst (groups : List Nat) (g : Nat) : Int :=
  match groups.findIdx? (· == g) with
  | some i => i
  | none => groups.length

/-- The last position of a peer group, or -1 when there is none. -/
def groupLast (groups : List Nat) (g : Nat) : Int :=
  match groups.reverse.findIdx? (· == g) with
  | some i => (groups.length : Int) - 1 - i
  | none => -1

/-- An offset of `ROWS` or `GROUPS`, checked to be a non-negative integer before. -/
def offsetCount (v : SqlValue) : Int := (intValue v).toNat

/-- Whether a value is a number. -/
def isNumber : SqlValue → Bool
  | .integer _ | .real _ => true
  | _ => false

/-- The value a `RANGE` bound reaches: the current value moved by the offset, back or ahead in
the window's direction; a value that is not a number stays. -/
def rangeTarget (v offset : SqlValue) (ahead desc : Bool) : SqlValue :=
  if !isNumber v then v
  else arithmetic (if ahead != desc then .add else .sub) v offset

/-- The first position whose value is within a `RANGE` start's reach: at or after the target in
the window's direction. -/
def rangeFirst (enc : TextEncoding) (values : List SqlValue) (target : SqlValue) (desc : Bool) : Int :=
  let within (x : SqlValue) : Bool :=
    x != .null && (if desc then SqlValue.compareIn enc .binary x target != .gt
      else SqlValue.compareIn enc .binary x target != .lt)
  match values.findIdx? within with
  | some i => i
  | none => values.length

/-- The last position whose value is within a `RANGE` end's reach: at or before the target in
the window's direction. -/
def rangeLast (enc : TextEncoding) (values : List SqlValue) (target : SqlValue) (desc : Bool) : Int :=
  let within (x : SqlValue) : Bool :=
    x != .null && (if desc then SqlValue.compareIn enc .binary x target != .lt
      else SqlValue.compareIn enc .binary x target != .gt)
  match values.reverse.findIdx? within with
  | some i => (values.length : Int) - 1 - i
  | none => -1

/-- The positions a frame holds for the current position `pos`: `groups` are the peer groups of
the positions, `values` the values of the single ordering term (for `RANGE` with offsets) and
`desc` its direction. -/
def frameSpan (enc : TextEncoding) (unit : FrameUnit) (start finish : FrameEdge) (exclude : FrameExclude)
    (groups : List Nat) (values : List SqlValue) (desc : Bool) (pos : Nat) : List Nat :=
  let n : Int := groups.length
  let g := groups.getD pos 0
  let count := (groups.getLast?.map (· + 1)).getD 0
  let v := values.getD pos .null
  let startAt : Int := match unit, start with
    | _, .unbounded => 0
    | .rows, .current => pos
    | .rows, .preceding k => pos - offsetCount k
    | .rows, .following k => pos + offsetCount k
    | _, .current => groupFirst groups g
    | .groups, .preceding k => groupFirst groups (g - (offsetCount k).toNat)
    | .groups, .following k =>
      if g + (offsetCount k).toNat < count then groupFirst groups (g + (offsetCount k).toNat) else n
    | .range, .preceding k =>
      if v == .null then groupFirst groups g else rangeFirst enc values (rangeTarget v k false desc) desc
    | .range, .following k =>
      if v == .null then groupFirst groups g else rangeFirst enc values (rangeTarget v k true desc) desc
  let endAt : Int := match unit, finish with
    | _, .unbounded => n - 1
    | .rows, .current => pos
    | .rows, .preceding k => pos - offsetCount k
    | .rows, .following k => pos + offsetCount k
    | _, .current => groupLast groups g
    | .groups, .preceding k =>
      if (offsetCount k).toNat ≤ g then groupLast groups (g - (offsetCount k).toNat) else -1
    | .groups, .following k => groupLast groups (min (g + (offsetCount k).toNat) (count - 1))
    | .range, .preceding k =>
      if v == .null then groupLast groups g else rangeLast enc values (rangeTarget v k false desc) desc
    | .range, .following k =>
      if v == .null then groupLast groups g else rangeLast enc values (rangeTarget v k true desc) desc
  let first := (max startAt 0).toNat
  let last := min endAt (n - 1)
  let span := if last < first then [] else (List.range ((last - first).toNat + 1)).map (· + first)
  span.filter (fun i => match exclude with
    | .noOthers => true
    | .currentRow => i != pos
    | .group => groups.getD i 0 != g
    | .ties => i == pos || groups.getD i 0 != g)

/-- A value as a number, when it is one or is text that reads as one. -/
def asNumber : SqlValue → Option SqlValue
  | .integer i => some (.integer i)
  | .real f => some (.real f)
  | .text s => numericAffinity true s
  | _ => none

/-- A frame offset as the engine checks it when the window starts on a partition: for `ROWS`
and `GROUPS` a value that reads as a non-negative integer, for `RANGE` one that reads as a
non-negative number. -/
def checkedOffset (unit : FrameUnit) (isStart : Bool) (v : SqlValue) : Except String SqlValue :=
  let which := if isStart then "starting" else "ending"
  match unit with
  | .range =>
    match asNumber v with
    | some x =>
      if SqlValue.compare x (.integer 0) != .lt then .ok x
      else .error ("frame " ++ which ++ " offset must be a non-negative number")
    | none => .error ("frame " ++ which ++ " offset must be a non-negative number")
  | _ =>
    let whole : Option Int := match asNumber v with
      | some (.integer i) => some i
      | some (.real f) => exactInt f
      | _ => none
    match whole with
    | some i =>
      if i ≥ 0 then .ok (.integer i)
      else .error ("frame " ++ which ++ " offset must be a non-negative integer")
    | none => .error ("frame " ++ which ++ " offset must be a non-negative integer")

/-- The bucket of a position when `n` rows are split into `buckets` buckets, numbered from 1:
each bucket has `n / buckets` rows, and the first `n % buckets` buckets one more. -/
def ntileOf (buckets n pos : Nat) : Nat :=
  let size := n / buckets
  if size = 0 then pos + 1
  else
    let large := n - buckets * size
    let small := large * (size + 1)
    if pos < small then 1 + pos / (size + 1) else 1 + large + (pos - small) / size

end Sql

end DocStore
