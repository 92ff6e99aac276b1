import QueryTree.Sql.Function

/-!
# QueryTree.Sql.Query

Queries as they are read: expressions, tables and the clauses of a selection.

Whether a test for null or a comparison binds more tightly is not the same everywhere.
So that the text of a query says the same to all readers, one of them inside the other
is put in parentheses: `Expr.operation` and `Expr.nullTest` do this.
-/

namespace QueryTree.Sql

/-- An operator between two operands. -/
inductive BinaryOperator where
  | or | and | eq | ne | lt | le | gt | ge | add | sub | mul | div
deriving DecidableEq, Repr

namespace BinaryOperator

/-- The type of the node of an operator. -/
def typeName : BinaryOperator → String
  | .or => "Or"
  | .and => "And"
  | .eq => "EQ"
  | .ne => "NEQ"
  | .lt => "LT"
  | .le => "LTE"
  | .gt => "GT"
  | .ge => "GTE"
  | .add => "Add"
  | .sub => "Sub"
  | .mul => "Mul"
  | .div => "Div"

/-- How an operator is written. -/
def spelling : BinaryOperator → String
  | .or => "OR"
  | .and => "AND"
  | .eq => "="
  | .ne => "<>"
  | .lt => "<"
  | .le => "<="
  | .gt => ">"
  | .ge => ">="
  | .add => "+"
  | .sub => "-"
  | .mul => "*"
  | .div => "/"

/-- Whether an operator compares its operands. -/
def isComparison : BinaryOperator → Bool
  | .eq => true
  | .ne => true
  | .lt => true
  | .le => true
  | .gt => true
  | .ge => true
  | _ => false

end BinaryOperator

/-- An expression. -/
inductive Expr where
  /-- A number as written. -/
  | number (text : String)
  /-- A string. -/
  | string (text : String)
  /-- The null value. -/
  | null
  /-- A truth value. -/
  | bool (b : Bool)
  /-- All columns. -/
  | star
  /-- A column, perhaps with the name of its table. -/
  | column (name : Name) (table : Option Name)
  /-- All columns of a table. -/
  | allColumns (table : Name)
  /-- Two operands. -/
  | binary (op : BinaryOperator) (left right : Expr)
  /-- A negated condition. -/
  | not (e : Expr)
  /-- A number with its sign changed. -/
  | negate (e : Expr)
  /-- An expression in parentheses. -/
  | paren (e : Expr)
  /-- Whether a value is null. -/
  | isNull (e : Expr)
  /-- Whether a value is one of several. -/
  | isIn (e : Expr) (items : List Expr)
  /-- Whether a value lies between two others. -/
  | between (e low high : Expr)
  /-- Whether a value fits, or does not fit, a pattern. -/
  | like (negated : Bool) (e pattern : Expr)
  /-- A function with its arguments. -/
  | call (function : Function) (arguments : List Expr)
deriving Inhabited

namespace Expr

/-- A test for null in parentheses, and anything else as it is. -/
def withTestEnclosed : Expr → Expr
  | .isNull e => .paren (.isNull e)
  | .not (.isNull e) => .paren (.not (.isNull e))
  | e => e

/-- A comparison in parentheses, and anything else as it is. -/
def withComparisonEnclosed : Expr → Expr
  | .binary op l r => if op.isComparison then .paren (.binary op l r) else .binary op l r
  | e => e

/-- An operation on two operands; tests for null that it compares are put in parentheses. -/
def operation (op : BinaryOperator) (left right : Expr) : Expr :=
  if op.isComparison then .binary op left.withTestEnclosed right.withTestEnclosed
  else .binary op left right

/-- A test for null; a comparison that it tests is put in parentheses. -/
def nullTest (e : Expr) : Expr := .isNull e.withComparisonEnclosed

end Expr

/-- A table, perhaps with a schema and another name. -/
structure Table where
  /-- The name. -/
  name : Name
  /-- The schema that it is in. -/
  schema : Option Name
  /-- The name by which it is referred to. -/
  otherName : Option Name
deriving DecidableEq, Repr

/-- How a table is joined to those before it. -/
inductive JoinKind where
  | plain | inner | left | right | cross
deriving DecidableEq, Repr

/-- A joined table with its condition. -/
structure Join where
  /-- How it is joined. -/
  kind : JoinKind
  /-- The table. -/
  table : Table
  /-- The condition. -/
  condition : Option Expr

/-- A selected expression, perhaps with a name. -/
structure Item where
  /-- The expression. -/
  expr : Expr
  /-- Its name. -/
  otherName : Option Name

/-- The direction of an ordering. -/
inductive Direction where
  | ascending | descending
deriving DecidableEq, Repr

/-- An expression by which rows are ordered, and the direction if it was written. -/
structure Ordering where
  /-- The expression. -/
  expr : Expr
  /-- The direction. -/
  direction : Option Direction

/-- A selection. -/
structure Select where
  /-- Whether equal rows are listed once. -/
  distinct : Bool
  /-- What is selected. -/
  items : List Item
  /-- The first table. -/
  source : Option Table
  /-- The tables joined to it. -/
  joins : List Join
  /-- The condition on rows. -/
  condition : Option Expr
  /-- By what rows are grouped. -/
  grouping : List Expr
  /-- The condition on groups. -/
  having : Option Expr
  /-- By what rows are ordered. -/
  ordering : List Ordering
  /-- The greatest number of rows. -/
  limit : Option String

end QueryTree.Sql
