import DocStore.Store.Database
/-!
# Write batches

A batch collects writes and runs them at `commit`, all in one transaction: a failing statement
rolls the whole batch back. Nothing runs before the commit, and a batch commits at most once:
after `commit` every use fails with `batchAlreadyCommitted`, whether the commit succeeded or
not. The queued writes are handed over at the commit, so a committed batch is empty. After a
successful commit each collection the batch touched is notified once, in name order.
-/

namespace DocStore

/-- A write batch. -/
structure WriteBatch where
  statements : List BoundStatement := []
  collections : List String := []
  committed : Bool := false
deriving Repr, Inhabited

/-- Insert a name into a list kept in increasing order without repeats. -/
def insertSorted (s : String) : List String → List String
  | [] => [s]
  | x :: rest =>
    match SqlValue.compareBytes s.toUTF8.toList x.toUTF8.toList with
    | .lt => s :: x :: rest
    | .eq => x :: rest
    | .gt => x :: insertSorted s rest

namespace WriteBatch

/-- The number of queued writes. -/
def len (b : WriteBatch) : Nat := b.statements.length

/-- Fail once the batch has committed. -/
def checkOpen (b : WriteBatch) : Outcome Unit :=
  if b.committed then .error .batchAlreadyCommitted else .ok ()

/-- Queue a statement on a document. -/
def push (b : WriteBatch) (r : DocumentRef) (st : BoundStatement) : WriteBatch :=
  { b with statements := b.statements ++ [st], collections := insertSorted r.collectionId b.collections }

/-- Queue a full replace of a document. -/
def set (b : WriteBatch) (r : DocumentRef) (data : Value) (now : Instant) : Outcome WriteBatch := do
  b.checkOpen
  let payload ← prepareWrite data now
  return b.push r (setStatement r payload)

/-- Queue a merge into a document. -/
def update (b : WriteBatch) (r : DocumentRef) (data : Value) (now : Instant) : Outcome WriteBatch := do
  b.checkOpen
  let payload ← prepareWrite data now
  return b.push r (updateStatement r payload)

/-- Queue a delete of a document. -/
def delete (b : WriteBatch) (r : DocumentRef) : Outcome WriteBatch := do
  b.checkOpen
  return b.push r (deleteStatement r)

end WriteBatch

namespace Database

/-- Commit a batch on the store: the outcome and the batch afterwards. -/
def commit (b : WriteBatch) : StoreM (Outcome Unit × WriteBatch) := do
  match b.checkOpen with
  | .error e => return (.error e, b)
  | .ok () =>
    if b.statements.isEmpty then return (.ok (), { b with committed := true })
    let taken : WriteBatch := { b with statements := [], committed := true }
    match ← onSession (submitTransaction b.statements) with
    | .error e => return (.error e, taken)
    | .ok () =>
      for c in b.collections do
        emit (.collection c)
      return (.ok (), { taken with collections := [] })

end Database

end DocStore
