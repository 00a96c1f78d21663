import DocStore.Sql.Operators
/-!
# Comparing and sorting rows

Rows compare column by column under the collations of their columns, text in the order the
database's encoding gives it; two rows are the same when every column compares equal. Sorting is stable, so rows whose keys compare equal keep the
order they came in: `UNION`, `INTERSECT` and `EXCEPT` give their rows sorted and without
repeats, and `ORDER BY` and the windows of window functions sort by the values of their terms,
NULL first in ascending order unless the term says otherwise.
-/

namespace DocStore

namespace Sql

/-- Whether two rows hold the same values under the collations of their columns. -/
def sameRowUnder (enc : TextEncoding) (colls : List Collation) (a b : List SqlValue) : Bool :=
  a.length == b.length &&
    (a.zip b).zipIdx.all (fun ((x, y), k) => SqlValue.compareIn enc (colls.getD k .binary) x y == .eq)

/-- The order of two rows under the collations of their columns, column by column. -/
def compareRowsUnder (enc : TextEncoding) (colls : List Collation) (a b : List SqlValue) : Ordering :=
  let rec go : Nat → List SqlValue → List SqlValue → Ordering
    | _, [], [] => .eq
    | _, [], _ => .lt
    | _, _, [] => .gt
    | k, x :: xs, y :: ys =>
      match SqlValue.compareIn enc (colls.getD k .binary) x y with
      | .eq => go (k + 1) xs ys
      | o => o
  go 0 a b

/-- The rows without repeats, each kept where it first appears. -/
def distinctUnder (enc : TextEncoding) (colls : List Collation) (rows : List (List SqlValue)) :
    List (List SqlValue) :=
  rows.foldl (fun acc r => if acc.any (sameRowUnder enc colls r) then acc else acc ++ [r]) []

/-- The rows without repeats, each kept as it last appears: a row takes the place of an equal
one kept before, as a key written to an index replaces an equal key. -/
def latestUnder (enc : TextEncoding) (colls : List Collation) (rows : List (List SqlValue)) :
    List (List SqlValue) :=
  rows.foldl (fun acc r => match acc.findIdx? (sameRowUnder enc colls r) with
    | some k => acc.set k r
    | none => acc ++ [r]) []

/-- The rows of a compound query without repeats, in the order of their values: of rows that
are equal, the last one stays. -/
def sortedSet (enc : TextEncoding) (colls : List Collation) (rows : List (List SqlValue)) :
    List (List SqlValue) :=
  (latestUnder enc colls rows).mergeSort (fun a b => compareRowsUnder enc colls a b != .gt)

/-- Compare two rows of sort keys under ordering terms: NULL is first in ascending order and
last in descending order unless the term says otherwise. -/
def compareSortKeys (enc : TextEncoding) : List OrderTerm → List Typed → List Typed → Ordering
  | t :: ts, a :: as, b :: bs =>
    let nullsFirst := t.nullsFirst.getD !t.desc
    let o := match a.value, b.value with
      | .null, .null => Ordering.eq
      | .null, _ => if nullsFirst then .lt else .gt
      | _, .null => if nullsFirst then .gt else .lt
      | x, y =>
        let o := SqlValue.compareIn enc (a.collation.getD .binary) x y
        if t.desc then o.swap else o
    if o == .eq then compareSortKeys enc ts as bs else o
  | _, _, _ => .eq

/-- Sort rows stably by their sort keys. -/
def sortByKeys {α : Type} (enc : TextEncoding) (terms : List OrderTerm) (rows : List (α × List Typed)) :
    List (α × List Typed) :=
  rows.mergeSort (fun a b => compareSortKeys enc terms a.2 b.2 != .gt)

end Sql

end DocStore
