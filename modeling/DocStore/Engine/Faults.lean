import DocStore.Error
import DocStore.Text.Classes
/-!
# Injected engine failures

A store can run through an engine that fails on purpose, to exercise crash detection and
recovery. A `FaultPlan` holds:

* rules `(start, count, kind)`: a statement whose SQL text, with leading white space removed,
  starts with `start` fails instead of running. For each statement the first rule in order that
  matches and has a count left fires once;
* a number of coming opens that fail, and whether removing the backing file fails too;
* counters of the calls made to the engine: opens, resets and removals.

A failure is an engine fault (`fault`), an abrupt stop of the running job (`panic`), or a
failure of the engine with one of its result codes.
-/

namespace DocStore

/-- How an injected failure fails. -/
inductive FaultKind where
  /-- A runtime fault of the engine. -/
  | fault
  /-- The running job stops abruptly. -/
  | panic
  /-- A failure with a result code and no message. -/
  | code (c : EngineCode)
deriving DecidableEq, Repr

/-- The kinds by name. -/
def FaultKind.all : List (String × FaultKind) :=
  [("fault", .fault), ("panic", .panic), ("nomem", .code .noMemory), ("ioerr", .code .ioError),
   ("internal", .code .internal), ("constraint", .code .constraint), ("corrupt", .code .corrupt),
   ("notadb", .code .notADatabase), ("cantopen", .code .cannotOpen), ("busy", .code .busy)]

/-- The kind with the given name. -/
def FaultKind.parse (name : String) : Option FaultKind := FaultKind.all.lookup name

/-- The failure an injected fault reports, when it is not an abrupt stop. -/
def FaultKind.failure : FaultKind → StoreError
  | .fault => .engineFault "RuntimeError: unreachable"
  | .panic => .engineFault "RuntimeError: unreachable"
  | .code c => .engine ⟨c, none⟩

/-- One rule: statements starting with `start` fail, `remaining` more times. -/
structure FaultRule where
  start : String
  remaining : Nat
  kind : FaultKind
deriving DecidableEq, Repr

/-- The injected failures of one engine and its counters. -/
structure FaultPlan where
  rules : List FaultRule := []
  failingOpens : Nat := 0
  openKind : FaultKind := .code .cannotOpen
  removeFails : Bool := false
  opens : Nat := 0
  resets : Nat := 0
  removes : Nat := 0
deriving DecidableEq, Repr, Inhabited

namespace FaultPlan

/-- Add a rule after the others. -/
def arm (p : FaultPlan) (start : String) (count : Nat) (kind : FaultKind) : FaultPlan :=
  { p with rules := p.rules ++ [⟨start, count, kind⟩] }

/-- Make the next `count` opens fail with `kind`. -/
def failOpens (p : FaultPlan) (count : Nat) (kind : FaultKind) (removeFails : Bool) : FaultPlan :=
  { p with failingOpens := count, openKind := kind, removeFails := removeFails }

/-- The sum of the counts the rules have left. -/
def pending (p : FaultPlan) : Nat := (p.rules.map FaultRule.remaining).foldr (· + ·) 0

/-- Fire the first rule that matches a statement text, if any: its kind, and the plan with its
count lowered. -/
def fire (p : FaultPlan) (sql : String) : Option FaultKind × FaultPlan :=
  let text := String.ofList (Text.trimStart sql.toList)
  let rec go : List FaultRule → Option FaultKind × List FaultRule
    | [] => (none, [])
    | r :: rest =>
      if 0 < r.remaining ∧ text.startsWith r.start then
        (some r.kind, { r with remaining := r.remaining - 1 } :: rest)
      else
        let (k, rest') := go rest
        (k, r :: rest')
  let (k, rules) := go p.rules
  (k, { p with rules := rules })

end FaultPlan

end DocStore
