import QueryTree.Graph.Basic
import QueryTree.Sql.Reader
import QueryTree.Sql.Writer

/-!
# QueryTree.Sql.Source

Queries as objects of a graph, ready to be captured: the root that `parse_sql` returns.

Every piece of a query becomes an expression with its type, its text in the chosen
style, and arguments: the pieces below it, in the order in which they are shown, and
data such as the digits of a number or the direction of an ordering.
-/

namespace QueryTree.Sql

/-- Adds objects to a graph. -/
abbrev Loader := StateM (Array Object)

namespace Loader

/-- Adds an object. -/
def add (o : Object) : Loader Value := fun objects => (.ref objects.size, objects.push o)

/-- A piece of a query with its type, text and arguments.  A graph of pieces has neither maps nor sets,
so their wording is never asked for. -/
def piece (s : Style) (typeName : String) (text : Draft) (arguments : List (String × Value)) :
    Loader Value :=
  add (.piece (.named NodeType.pieces typeName) (some (s.finished text)) arguments)

/-- A list of pieces. -/
def list (items : List Value) : Loader Value := add (.list items)

/-- A text as an argument. -/
def text (s : String) : Value := .scalar (.text s)

/-- A truth value as an argument. -/
def flag (b : Bool) : Value := .scalar (.bool b)

/-- Adds what is there, and nothing otherwise. -/
def optional {α : Type} (load : α → Loader Value) : Option α → Loader Value
  | none => pure .none
  | some a => load a

/-- A name. -/
def name (s : Style) (n : Name) : Loader Value :=
  piece s "Identifier" (s.name n) [("this", text n.text), ("quoted", flag n.quoted)]

/-- The data of an operator besides its operands. -/
def operatorData (d : Dialect) : BinaryOperator → List (String × Value)
  | .div => [("typed", flag false), ("safe", flag d.dividesSafely)]
  | _ => []

/-- The type of a function. -/
def functionType : Function → String
  | .aggregate a => a.typeName
  | .other _ => "Anonymous"

/-- The data of a function besides its arguments: its name, a piece of its own if it was quoted. -/
def functionData (s : Style) : Function → Loader (List (String × Value))
  | .aggregate .count => pure [("big_int", flag true)]
  | .aggregate _ => pure []
  | .other n => do
    if n.quoted then return [("this", ← name s n)] else return [("this", text n.text)]

mutual

/-- An expression. -/
def expr (s : Style) : Expr → Loader Value
  | .number t => piece s "Literal" (s.expr (.number t)) [("this", text t), ("is_string", flag false)]
  | .string t => piece s "Literal" (s.expr (.string t)) [("this", text t), ("is_string", flag true)]
  | .null => piece s "Null" (s.expr .null) []
  | .bool b => piece s "Boolean" (s.expr (.bool b)) [("this", flag b)]
  | .star => piece s "Star" (s.expr .star) []
  | .column n t => do
    piece s "Column" (s.expr (.column n t)) [("this", ← name s n), ("table", ← optional (name s) t)]
  | .allColumns t => do
    piece s "Column" (s.expr (.allColumns t))
      [("this", ← piece s "Star" (s.expr .star) []), ("table", ← name s t)]
  | .binary op l r => do
    piece s op.typeName (s.expr (.binary op l r))
      ([("this", ← expr s l), ("expression", ← expr s r)] ++ operatorData s.dialect op)
  | .not e => do piece s "Not" (s.expr (.not e)) [("this", ← expr s e)]
  | .negate e => do piece s "Neg" (s.expr (.negate e)) [("this", ← expr s e)]
  | .paren e => do piece s "Paren" (s.expr (.paren e)) [("this", ← expr s e)]
  | .isNull e => do
    piece s "Is" (s.expr (.isNull e))
      [("this", ← expr s e), ("expression", ← piece s "Null" (s.expr .null) [])]
  | .isIn e items => do
    piece s "In" (s.expr (.isIn e items))
      [("this", ← expr s e), ("expressions", ← list (← exprs s items))]
  | .between e low high => do
    piece s "Between" (s.expr (.between e low high))
      [("this", ← expr s e), ("low", ← expr s low), ("high", ← expr s high)]
  | .like negated e pattern => do
    piece s "Like" (s.expr (.like negated e pattern))
      [("this", ← expr s e), ("expression", ← expr s pattern),
        ("negate", if negated then flag true else .none)]
  | .call function arguments => do
    let data ← functionData s function
    piece s (functionType function) (s.expr (.call function arguments))
      (data ++ [("expressions", ← list (← exprs s arguments))])

/-- Several expressions. -/
def exprs (s : Style) : List Expr → Loader (List Value)
  | [] => pure []
  | e :: es => do return (← expr s e) :: (← exprs s es)

end

/-- A selected expression. -/
def item (s : Style) (i : Item) : Loader Value :=
  match i.otherName with
  | none => expr s i.expr
  | some n => do piece s "Alias" (s.item i) [("this", ← expr s i.expr), ("alias", ← name s n)]

/-- The name by which a table is referred to. -/
def tableAlias (s : Style) (n : Name) : Loader Value := do
  piece s "TableAlias" (s.name n) [("this", ← name s n)]

/-- A table. -/
def table (s : Style) (t : Table) : Loader Value := do
  piece s "Table" (s.table t)
    [("this", ← name s t.name), ("db", ← optional (name s) t.schema),
      ("alias", ← optional (tableAlias s) t.otherName)]

/-- The first table. -/
def source (s : Style) (t : Table) : Loader Value := do
  piece s "From" (s.source t) [("this", ← table s t)]

/-- The data of a join: the side that is kept, or the kind. -/
def joinData : JoinKind → List (String × Value)
  | .plain => []
  | .inner => [("kind", text "INNER")]
  | .left => [("side", text "LEFT")]
  | .right => [("side", text "RIGHT")]
  | .cross => [("kind", text "CROSS")]

/-- A joined table. -/
def join (s : Style) (j : Join) : Loader Value := do
  piece s "Join" (s.join j)
    ([("this", ← table s j.table)] ++ joinData j.kind ++ [("on", ← optional (expr s) j.condition)])

/-- A condition on rows or groups. -/
def condition (s : Style) (typeName word : String) (e : Expr) : Loader Value := do
  piece s typeName (s.condition word e) [("this", ← expr s e)]

/-- The data of an ordering: its direction if it was written, and where nulls come. -/
def orderingData : Option Direction → List (String × Value)
  | none => [("nulls_first", flag true)]
  | some .ascending => [("desc", flag false), ("nulls_first", flag true)]
  | some .descending => [("desc", flag true), ("nulls_first", flag false)]

/-- An expression to order by. -/
def ordering (s : Style) (o : Ordering) : Loader Value := do
  piece s "Ordered" (s.ordering o) ([("this", ← expr s o.expr)] ++ orderingData o.direction)

/-- By what rows are grouped. -/
def grouping (s : Style) : List Expr → Loader Value
  | [] => pure .none
  | es => do piece s "Group" (s.grouping es) [("expressions", ← list (← exprs s es))]

/-- By what rows are ordered. -/
def orderings (s : Style) : List Ordering → Loader Value
  | [] => pure .none
  | os => do piece s "Order" (s.orderings os) [("expressions", ← list (← os.mapM (ordering s)))]

/-- The greatest number of rows. -/
def limit (s : Style) (n : String) : Loader Value := do
  piece s "Limit" (Style.limit n) [("expression", ← expr s (.number n))]

/-- A selection. -/
def select (s : Style) (q : Select) : Loader Value := do
  let distinct ← if q.distinct then piece s "Distinct" (.ofString "DISTINCT") [] else pure .none
  piece s "Select" (s.select q)
    [("distinct", distinct),
      ("expressions", ← list (← q.items.mapM (item s))),
      ("limit", ← optional (limit s) q.limit),
      ("from", ← optional (source s) q.source),
      ("joins", ← list (← q.joins.mapM (join s))),
      ("where", ← optional (condition s "Where" "WHERE") q.condition),
      ("group", ← grouping s q.grouping),
      ("having", ← optional (condition s "Having" "HAVING") q.having),
      ("order", ← orderings s q.ordering)]

/-- The root of several statements: the only one, or a sequence of all of them. -/
def statements (s : Style) (qs : List Select) : Loader Value := do
  match ← qs.mapM (select s) with
  | [v] => return v
  | vs => add (.piece .script none [("expressions", ← list vs)])

end Loader

/-- The graph of several statements, and its root. -/
def graph (s : Style) (qs : List Select) : Graph × ObjectId :=
  match (Loader.statements s qs).run #[] with
  | (.ref id, objects) => (⟨objects⟩, id)
  | (_, objects) => (⟨objects⟩, 0)

end QueryTree.Sql
