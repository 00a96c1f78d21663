import DocStore.Store.Database
/-!
# Delivering changes to listeners

A listener subscribes to the store's announcements before its first read, so no write can slip
between the read and the subscription; its first read is its first delivery, and a registration
whose first read fails leaves no listener. After that a listener wakes for every notification in
its scope and re-reads what it watches:

* a document listener delivers the new snapshot only when the document's data differs from what
  it delivered last (a missing document has no data);
* a query listener delivers every successful re-read, with the changes against its previous
  result.

A failed re-read delivers nothing and keeps the previous result. A listener that lagged behind
re-reads once for everything it missed, then goes on with the notifications it still holds.

Listeners take turns: in each round every listener, in the order of registration, handles at
most one notification in its scope, skipping those outside it. Rounds go on until no listener
has anything left.
-/

namespace DocStore

/-- What a listener hands out. -/
inductive Delivery where
  /-- The current snapshot of a watched document. -/
  | document (snap : DocumentSnapshot)
  /-- The current result of a watched query and the changes since the previous one. -/
  | query (docs : List QueryDocument) (changes : List DocumentChange)
deriving Repr

/-- Whether two document contents are the same. -/
def sameData : Option Value → Option Value → Bool
  | none, none => true
  | some a, some b => a.equiv b
  | _, _ => false

/-- The notifications left after skipping those outside a scope: whether one was found. -/
def nextRelevant (scope : Scope) : List Scope → Bool × List Scope
  | [] => (false, [])
  | n :: rest => if scope.covers n then (true, rest) else nextRelevant scope rest

namespace Database

/-- Replace the listener at a position. -/
def setListener (i : Nat) (l : Listener) : StoreM Unit :=
  modify fun db => { db with listeners := db.listeners.set i l }

/-- Re-read what a listener watches: the delivery, if any, and the listener afterwards. -/
def refresh (l : Listener) : StoreM (Option Delivery × Listener) := do
  match l.watch with
  | .document ref last =>
    match ← getDoc ref with
    | .ok snap =>
      if sameData snap.data last then return (none, l)
      else return (some (.document snap), { l with watch := .document ref snap.data })
    | .error _ => return (none, l)
  | .query q previous =>
    match ← getDocs q with
    | .ok docs =>
      return (some (.query docs (diffSnapshots previous docs)), { l with watch := .query q docs })
    | .error _ => return (none, l)

/-- One turn of the listener at a position: `none` when it had nothing to handle, otherwise
what it delivered. -/
def turn (i : Nat) : StoreM (Option (Option (String × Delivery))) := do
  match (← get).listeners[i]? with
  | none => return none
  | some l =>
    if !l.active then return none
    if l.lagging then
      let (d, l') ← refresh { l with lagging := false }
      setListener i l'
      return some (d.map (l.name, ·))
    let (found, rest) := nextRelevant l.watch.scope l.pending
    if !found then
      setListener i { l with pending := [] }
      return none
    let (d, l') ← refresh { l with pending := rest }
    setListener i l'
    return some (d.map (l.name, ·))

/-- One round: every listener takes its turn. The deliveries, and whether any listener did
anything. -/
def round : StoreM (List (String × Delivery) × Bool) := do
  let n := (← get).listeners.length
  let mut out : List (String × Delivery) := []
  let mut busy := false
  for i in List.range n do
    match ← turn i with
    | none => pure ()
    | some d =>
      busy := true
      out := out ++ d.toList
  return (out, busy)

/-- The work the listeners have left: every turn that does something consumes a notification
or a lag mark, so this many rounds, plus one, empty every queue. -/
def backlog (db : Database) : Nat :=
  db.listeners.foldl (fun n l => n + l.pending.length + (if l.lagging then 1 else 0)) 0

/-- Run rounds until every listener is idle. -/
def deliver : StoreM (List (String × Delivery)) := do
  let rec go (fuel : Nat) : StoreM (List (String × Delivery)) := do
    match fuel with
    | 0 => return []
    | fuel + 1 =>
      let (out, busy) ← round
      if busy then return out ++ (← go fuel) else return out
  go (backlog (← get) + 1)

/-- Subscribe a listener to the store's announcements: it hears every one made from now on. -/
def subscribe (l : Listener) : StoreM Unit :=
  modify fun db => { db with listeners := db.listeners ++ [l] }

/-- Keep only the listeners before a position: a registration whose first read failed ends. -/
def keepListeners (n : Nat) : StoreM Unit :=
  modify fun db => { db with listeners := db.listeners.take n }

/-- Register a listener: subscribe it, then make its first read. When the read fails the
registration ends; otherwise the listener keeps what the read found as what it delivered. -/
def register {α β : Type} (l : Listener) (read : StoreM (Outcome α)) (found : α → Watch)
    (answer : α → β) : StoreM (Outcome β) := do
  let pos := (← get).listeners.length
  subscribe l
  match ← read with
  | .error e =>
    keepListeners pos
    return .error e
  | .ok a =>
    setListener pos { l with watch := found a }
    return .ok (answer a)

/-- Register a document listener; its first delivery. -/
def listenDoc (name : String) (ref : DocumentRef) : StoreM (Outcome DocumentSnapshot) :=
  register { name := name, watch := .document ref none } (getDoc ref)
    (fun snap => .document ref snap.data) id

/-- Register a query listener; its first delivery. -/
def listenQuery (name : String) (q : Query) :
    StoreM (Outcome (List QueryDocument × List DocumentChange)) :=
  register { name := name, watch := .query q [] } (getDocs q) (.query q)
    (fun docs => (docs, diffSnapshots [] docs))

/-- Remove a listener. -/
def unlisten (name : String) : StoreM Unit :=
  modify fun db => { db with listeners := db.listeners.filter (·.name != name) }

/-- Whether a listener of this name is registered. -/
def hasListener (db : Database) (name : String) : Bool := db.listeners.any (·.name == name)

end Database

end DocStore
