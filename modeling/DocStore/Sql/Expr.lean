import DocStore.Sql.Value
/-!
# Expressions, queries and trigger steps

The parts of SQL that a database's own definitions may hold: the expressions of defaults,
`CHECK` constraints, index keys and partial-index conditions, the queries of views, and the
steps of triggers, all as trees.

Expressions and queries are one family of mutual types, since each may hold the other: an
expression may hold a query (`EXISTS`, `IN (SELECT ...)`, a scalar query in parentheses) and a
query holds expressions. A query (`Select`) has the tables of its `WITH`, one or more cores joined
by compound operators, and its ordering and limit; each core reads from a list of sources
(tables, views, queries or table-valued functions, each with how it joins the ones before it)
or from a `VALUES` list.

A call may carry a `FILTER (WHERE ...)` clause, which makes an aggregate skip the rows where the
condition does not hold, and an `OVER` clause, which makes it a window function: its value on a
row is computed over the rows of the row's partition that the window's frame holds, in the
window's order. A core may name windows in its `WINDOW` clause for `OVER` to use.
-/

namespace DocStore

namespace Sql

/-- A binary operator of expressions. -/
inductive BinOp where
  | or
  | and
  | eq
  | ne
  | lt
  | le
  | gt
  | ge
  | is
  | isNot
  | concat
  | add
  | sub
  | mul
  | div
  | rem
  | bitAnd
  | bitOr
  | shiftLeft
  | shiftRight
deriving DecidableEq, Repr, Inhabited

/-- A unary operator of expressions. -/
inductive UnOp where
  | neg
  | pos
  | not
  | bitNot
deriving DecidableEq, Repr, Inhabited

/-- What `RAISE` does. -/
inductive RaiseKind where
  | ignore
  | rollback
  | abort
  | fail
deriving DecidableEq, Repr, Inhabited

/-- How a source of `FROM` joins the sources before it. -/
inductive JoinKind where
  /-- Every combination of rows (`,`, `JOIN`, `INNER JOIN`, `CROSS JOIN`). -/
  | inner
  /-- Every combination, and each row on the left without a partner once, with NULLs. -/
  | left
  /-- Every combination, and each row on the right without a partner once, with NULLs. -/
  | right
  /-- Every combination, and each row on either side without a partner once, with NULLs. -/
  | full
deriving DecidableEq, Repr, Inhabited

/-- How compound queries combine. -/
inductive Compound where
  | unionAll
  | union
  | intersect
  | except
deriving DecidableEq, Repr, Inhabited

/-- What a window's frame counts in: rows, peer groups, or the value of the ordering term. -/
inductive FrameUnit where
  | rows
  | groups
  | range
deriving DecidableEq, Repr, Inhabited

/-- Which rows of its frame a window leaves out: none, the current row, the current row and its
peers, or only its peers. -/
inductive FrameExclude where
  | noOthers
  | currentRow
  | group
  | ties
deriving DecidableEq, Repr, Inhabited

mutual

/-- An expression. -/
inductive Expr where
  /-- A constant. -/
  | literal (v : SqlValue)
  /-- A column, with the table or alias that qualifies it. -/
  | column (qualifier : Option String) (name : String)
  /-- A parameter, by its position among the parameters of the statement. -/
  | param (n : Nat)
  | unary (op : UnOp) (e : Expr)
  | binary (op : BinOp) (a b : Expr)
  /-- `e IS NULL` (or `IS NOT NULL` when negated). -/
  | isNull (e : Expr) (negated : Bool)
  | between (e lo hi : Expr) (negated : Bool)
  | inList (e : Expr) (items : List Expr) (negated : Bool)
  /-- `e IN (SELECT ...)`, or `e IN t` for the rows of a table. -/
  | inQuery (e : Expr) (q : Select) (negated : Bool)
  /-- `EXISTS (SELECT ...)`. -/
  | existsQuery (q : Select)
  /-- A query in parentheses, standing for the first column of its first row. -/
  | scalarQuery (q : Select)
  /-- `LIKE` (or `GLOB`) with an optional escape character. -/
  | like (e pattern : Expr) (escape : Option Expr) (glob negated : Bool)
  | caseOf (operand : Option Expr) (branches : List (Expr × Expr)) (otherwise : Option Expr)
  | cast (e : Expr) (typeName : String)
  | collate (e : Expr) (name : String)
  /-- A function call; `star` for `count(*)`. -/
  | call (name : String) (args : List Expr) (distinct star : Bool)
  /-- A call with clauses: `ORDER BY` after its arguments, `FILTER`, `OVER`, or several of them.
  Without `OVER` it is an aggregate over the rows the filter keeps, taken in the order the
  `ORDER BY` terms give; with `OVER` a window function over the window of each row. -/
  | callWith (name : String) (args : List Expr) (distinct star : Bool) (orderBy : List OrderTerm)
      (filter : Option Expr) (windowSpec : Option Over)
  | raise (kind : RaiseKind) (message : String)
  /-- A list of values in parentheses: a row value, which comparisons, `BETWEEN` and `IN` take. -/
  | rowValue (items : List Expr)
  /-- An expression the engine refuses when it compiles the statement that holds it, such as an
  integer literal out of range; evaluating it fails with the message. -/
  | faulty (message : String)

/-- A bound of a window's frame; the offsets count rows, peer groups or ordering values. -/
inductive FrameBound where
  | unboundedPreceding
  | preceding (offset : Expr)
  | currentRow
  | following (offset : Expr)
  | unboundedFollowing

/-- A window's frame: what it counts in, where it starts and ends, and what it leaves out. -/
structure WindowFrame where
  unit : FrameUnit
  start : FrameBound
  finish : FrameBound
  exclude : FrameExclude := .noOthers

/-- A window: the named window it builds on, the terms that split rows into partitions, the
order of each partition, and the frame (by default, from the start of the partition to the
current row and its peers). -/
structure Window where
  base : Option String := none
  partitionBy : List Expr := []
  orderBy : List OrderTerm := []
  frame : Option WindowFrame := none

/-- The window of an `OVER` clause: a window the query names, or one written out. -/
inductive Over where
  | named (name : String)
  | window (w : Window)

/-- A column of a query's result: an expression with an optional name, or `*`, or `t.*`. -/
inductive ResultColumn where
  | expr (e : Expr) (aliasName : Option String)
  | star
  | tableStar (table : String)

/-- What a source of `FROM` reads: a table or view by name, a query, or a table-valued
function. -/
inductive SourceItem where
  | named (name : String)
  | query (q : Select)
  | call (name : String) (args : List Expr)

/-- A source of `FROM` with its alias and how it joins the sources before it: the kind of join,
`NATURAL`, and the `ON` condition or `USING` columns. -/
structure Source where
  item : SourceItem
  aliasName : Option String := none
  join : JoinKind := .inner
  natural : Bool := false
  on : Option Expr := none
  usingColumns : List String := []

/-- One core of a query. -/
structure SelectCore where
  distinct : Bool := false
  columns : List ResultColumn := []
  sources : List Source := []
  /-- The `WHERE` condition. -/
  condition : Option Expr := none
  groupBy : List Expr := []
  having : Option Expr := none
  /-- The rows of a `VALUES` list, in place of the columns and sources. -/
  values : List (List Expr) := []
  /-- The windows of the `WINDOW` clause, in the order written. -/
  windows : List (String × Window) := []

/-- An ordering term; `nullsFirst` when `NULLS FIRST` or `NULLS LAST` is written. -/
structure OrderTerm where
  expr : Expr
  desc : Bool := false
  nullsFirst : Option Bool := none

/-- A table named by `WITH`: its name, its column names (empty when not given) and its query. -/
structure CommonTable where
  name : String
  columns : List String := []
  query : Select

/-- A query: the tables of its `WITH`, its first core, further cores with how they combine,
ordering and limit. -/
structure Select where
  ctes : List CommonTable := []
  recursive : Bool := false
  first : SelectCore
  rest : List (Compound × SelectCore) := []
  orderBy : List OrderTerm := []
  limit : Option Expr := none
  offset : Option Expr := none

end

instance : Inhabited Expr := ⟨.literal .null⟩
instance : Inhabited Select := ⟨{ first := {} }⟩
instance : Repr Expr := ⟨fun _ _ => "expr"⟩
instance : Repr Select := ⟨fun _ _ => "select"⟩

/-- What a conflicting row makes a statement do. -/
inductive ConflictAction where
  | rollback
  | abort
  | fail
  | ignore
  | replace
deriving DecidableEq, Repr, Inhabited

/-- Where the rows of an `INSERT` come from. -/
inductive InsertSource where
  | values (rows : List (List Expr))
  | query (s : Select)
  | defaults
deriving Repr, Inhabited

/-- One step of a trigger's body. -/
inductive TriggerStep where
  | update (table : String) (orAction : Option ConflictAction) (sets : List (List String × Expr))
      (condition : Option Expr)
  | insert (table : String) (orAction : Option ConflictAction) (columns : List String)
      (source : InsertSource)
  | delete (table : String) (condition : Option Expr)
  | select (s : Select)
deriving Repr, Inhabited

namespace BinOp

/-- The SQL spelling of an operator. -/
def text : BinOp → String
  | .or => "OR"
  | .and => "AND"
  | .eq => "="
  | .ne => "<>"
  | .lt => "<"
  | .le => "<="
  | .gt => ">"
  | .ge => ">="
  | .is => "IS"
  | .isNot => "IS NOT"
  | .concat => "||"
  | .add => "+"
  | .sub => "-"
  | .mul => "*"
  | .div => "/"
  | .rem => "%"
  | .bitAnd => "&"
  | .bitOr => "|"
  | .shiftLeft => "<<"
  | .shiftRight => ">>"

end BinOp

/-- Whether an expression is the integer literal zero, which makes a conjunction it is part of
the literal zero when the statement is read. -/
def Expr.isZeroLiteral : Expr → Bool
  | .literal (.integer 0) => true
  | _ => false

/-- The names of the columns an expression reads, up to `fuel` levels deep. -/
def Expr.columnsRead : Nat → Expr → List String
  | 0, _ => []
  | fuel + 1, e =>
    let go := Expr.columnsRead fuel
    match e with
    | .column _ n => [n]
    | .unary _ a => go a
    | .binary _ a b => go a ++ go b
    | .isNull a _ => go a
    | .between a lo hi _ => go a ++ go lo ++ go hi
    | .inList a items _ => go a ++ items.flatMap go
    | .like a p esc _ _ => go a ++ go p ++ (esc.map go).getD []
    | .caseOf op brs other =>
      (op.map go).getD [] ++ brs.flatMap (fun (w, t) => go w ++ go t) ++ (other.map go).getD []
    | .cast a _ => go a
    | .collate a _ => go a
    | .call _ args _ _ => args.flatMap go
    | .callWith _ args _ _ orderBy filter windowSpec =>
      args.flatMap go ++ orderBy.flatMap (fun o => go o.expr) ++ (filter.map go).getD [] ++ match windowSpec with
        | some (.window w) => w.partitionBy.flatMap go ++ w.orderBy.flatMap (fun o => go o.expr)
        | _ => []
    | .inQuery a _ _ => go a
    | .rowValue items => items.flatMap go
    | _ => []

end Sql

end DocStore
