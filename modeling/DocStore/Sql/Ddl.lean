import DocStore.Sql.Expr
/-!
# Definitions of tables, indexes, views and triggers

A database keeps the statement that created each of its objects. `Definition` is such a
statement as a tree: a table with its columns and constraints, an index with its key terms and
optional condition, a view with its query, or a trigger with its event and steps.

A `CHECK` constraint keeps the SQL text it was written with: a row it refuses is reported by
that text, or by the constraint's name when it has one.
-/

namespace DocStore

namespace Sql

/-- A term of an index key or a key constraint: an expression (usually a column), with its
collation and direction. -/
structure KeyTerm where
  expr : Expr
  collation : Option String := none
  desc : Bool := false
deriving Repr, Inhabited

/-- A constraint on one column. -/
inductive ColumnConstraint where
  | primaryKey (desc : Bool) (onConflict : Option ConflictAction) (autoincrement : Bool)
  | notNull (onConflict : Option ConflictAction)
  | nullable
  | unique (onConflict : Option ConflictAction)
  /-- A check, with the SQL text of its expression. -/
  | check (e : Expr) (text : String)
  /-- A default, with its text as written (inside the parentheses when it has them). -/
  | defaultValue (e : Expr) (text : String)
  | collate (name : String)
  | references (table : String)
  | generated (e : Expr) (stored : Bool)
deriving Repr, Inhabited

/-- A column as a table statement declares it. -/
structure ColumnSpec where
  name : String
  /-- The declared type, as written (words joined by single spaces); empty when absent. -/
  typeName : String
  /-- The constraints, each with its `CONSTRAINT` name when it has one. -/
  constraints : List (Option String × ColumnConstraint)
deriving Repr, Inhabited

/-- A constraint on a whole table. -/
inductive TableConstraint where
  | primaryKey (terms : List KeyTerm) (onConflict : Option ConflictAction) (autoincrement : Bool)
  | unique (terms : List KeyTerm) (onConflict : Option ConflictAction)
  | check (e : Expr) (text : String)
  | foreignKey (columns : List String) (table : String)
deriving Repr, Inhabited

/-- A table statement. -/
structure CreateTable where
  name : String
  ifNotExists : Bool := false
  columns : List ColumnSpec
  constraints : List (Option String × TableConstraint) := []
  withoutRowid : Bool := false
  strict : Bool := false
deriving Repr, Inhabited

/-- An index statement. -/
structure CreateIndex where
  name : String
  table : String
  unique : Bool := false
  ifNotExists : Bool := false
  terms : List KeyTerm
  condition : Option Expr := none
deriving Repr, Inhabited

/-- A view statement. -/
structure CreateView where
  name : String
  ifNotExists : Bool := false
  columns : List String := []
  query : Select
deriving Repr, Inhabited

/-- When a trigger runs, relative to the change that fires it. -/
inductive TriggerTiming where
  | before
  | after
  | insteadOf
deriving DecidableEq, Repr, Inhabited

/-- The change that fires a trigger. -/
inductive TriggerEvent where
  | insert
  | delete
  /-- An update, of any column or only of the listed ones. -/
  | update (columns : List String)
deriving DecidableEq, Repr, Inhabited

/-- A trigger statement. -/
structure CreateTrigger where
  name : String
  ifNotExists : Bool := false
  timing : TriggerTiming
  event : TriggerEvent
  table : String
  condition : Option Expr := none
  steps : List TriggerStep
deriving Repr, Inhabited

/-- A statement that creates an object. -/
inductive Definition where
  | table (t : CreateTable)
  | index (i : CreateIndex)
  | view (v : CreateView)
  | trigger (t : CreateTrigger)
  /-- A virtual table, by its module name. -/
  | virtual (name module : String)
deriving Repr, Inhabited

/-- The kind of object a definition creates, as the schema table names it. -/
def Definition.kind : Definition → String
  | .table _ => "table"
  | .index _ => "index"
  | .view _ => "view"
  | .trigger _ => "trigger"
  | .virtual _ _ => "table"

/-- The name of the object a definition creates. -/
def Definition.name : Definition → String
  | .table t => t.name
  | .index i => i.name
  | .view v => v.name
  | .trigger t => t.name
  | .virtual n _ => n

end Sql

end DocStore
