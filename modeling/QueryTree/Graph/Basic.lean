import QueryTree.Bindings
import QueryTree.Graph.Scalar

/-!
# QueryTree.Graph.Basic

The objects that a query is made of before it is captured.

Objects refer to each other by number, so that an object may be reached on many
ways, and from itself.  Two objects with equal contents are still two objects.  An
expression is a piece of a query; its arguments hold its children, but also data
of any other kind.

* `Graph.children` — the expressions directly below an expression (`iter_expressions`);
* `Graph.text?` — the text of an expression (`text_of`).
-/

namespace QueryTree

/-- The number of an object. -/
abbrev ObjectId := Nat

/-- The type of an object.  Two types may have the same module and the same names. -/
structure NodeType where
  /-- Tells the type from others of its name. -/
  number : Nat
  /-- The module that declares it. -/
  home : String
  /-- The name in its module, with the names of all that it is declared inside. -/
  qualified : String
  /-- Its own name. -/
  name : String
deriving DecidableEq, Repr, Inhabited

namespace NodeType

/-- A type that is declared at the top of its module, the first one of its name. -/
def named (home name : String) : NodeType := ⟨0, home, name, name⟩

/-- The module of the types that are always there. -/
def builtins : String := "builtins"

/-- A type that is always there. -/
def builtin (name : String) : NodeType := .named builtins name

/-- The module of the pieces of a query. -/
def pieces : String := "sqlglot.expressions"

/-- The type of everything that is visited (`Expression`). -/
def expression : NodeType := .named pieces "Expression"

/-- The type of a sequence of statements (`Script`). -/
def script : NodeType := .named "sql_parse_tree.parser" "Script"

/-- The name with its module, unless the type is always there. -/
def printed (t : NodeType) : String :=
  if t.home = builtins then t.qualified else t.home ++ "." ++ t.qualified

/-- Types are ordered by module and then by qualified name. -/
def le (s t : NodeType) : Bool :=
  s.home < t.home || (s.home == t.home && !(t.qualified < s.qualified))

end NodeType

/-- What an argument, an attribute or an element is. -/
inductive Value where
  /-- Nothing. -/
  | none
  /-- A value without parts. -/
  | scalar (s : Scalar)
  /-- An object. -/
  | ref (id : ObjectId)
deriving Inhabited

/-- The string forms of an object: what it is as a text of its own (`str`), and as a part of the text
of another one (`repr`). -/
structure Wording where
  /-- As a text of its own. -/
  whole : String
  /-- As a part of another text. -/
  quoted : String
deriving DecidableEq, Repr, Inhabited

/-- An object with identity. -/
inductive Object where
  /-- A piece of a query with its type, the text that it is captured with unless that cannot be
  written, its string forms, and its arguments in order. -/
  | expression (type : NodeType) (text : Option String) (wording : Wording)
      (arguments : Bindings Value)
  /-- Anything with attributes, with its type and its string forms.  The type may declare slots, level
  by level from the most special one on; `fields` holds the attributes that are not slots, `filled` the
  slots that are set, and `unreadable` the names that cannot be read. -/
  | record (type : NodeType) (wording : Wording) (fields : Bindings Value)
      (slots : List (List String)) (filled : Bindings Value) (unreadable : List String)
  /-- A list. -/
  | list (items : List Value)
  /-- A tuple. -/
  | tuple (items : List Value)
  /-- A set that can change, with its members in the order in which it enumerates them. -/
  | set (members : List Value)
  /-- A set that cannot change, with its members in the order in which it enumerates them. -/
  | frozenset (members : List Value)
  /-- A map. -/
  | map (entries : List (Value × Value))

namespace Object

/-- A piece of a query that is worded as the text that it is captured with, or as the name of its type
if there is no text. -/
def piece (type : NodeType) (text : Option String) (arguments : Bindings Value) : Object :=
  .expression type text ⟨text.getD type.name, text.getD type.name⟩ arguments

/-- An object with attributes and no slots, worded as its type. -/
def plain (fields : Bindings Value) : Object :=
  .record (.builtin "object") ⟨"object", "object"⟩ fields [] [] []

/-- An object without any content. -/
def blank : Object := .plain []

instance : Inhabited Object := ⟨blank⟩

/-- Lists, tuples, sets and maps are containers. -/
def isContainer : Object → Bool
  | .expression .. => false
  | .record .. => false
  | _ => true

/-- Whether an object is a piece of a query. -/
def isExpression : Object → Bool
  | .expression .. => true
  | _ => false

/-- The type of an object. -/
def type : Object → NodeType
  | .expression type .. => type
  | .record type .. => type
  | .list _ => .builtin "list"
  | .tuple _ => .builtin "tuple"
  | .set _ => .builtin "set"
  | .frozenset _ => .builtin "frozenset"
  | .map _ => .builtin "dict"

end Object

/-- Objects by number. -/
structure Graph where
  /-- The objects. -/
  objects : Array Object
deriving Inhabited

namespace Graph

/-- The number of objects. -/
def size (g : Graph) : Nat := g.objects.size

/-- The object with a number; numbers that are not in use stand for an object without content. -/
def object (g : Graph) (id : ObjectId) : Object := g.objects.getD id Object.blank

/-- The name of the kind of a value. -/
def kind (g : Graph) : Value → String
  | .none => "NoneType"
  | .scalar s => s.kind
  | .ref id => (g.object id).type.name

/-- The type of an expression. -/
def typeOf (g : Graph) (id : ObjectId) : NodeType := (g.object id).type

/-- The arguments of an expression. -/
def arguments (g : Graph) (id : ObjectId) : Bindings Value :=
  match g.object id with
  | .expression _ _ _ as => as
  | _ => []

/-- The number of an expression, if a value is one. -/
def expression? (g : Graph) : Value → Option ObjectId
  | .ref id => if (g.object id).isExpression then some id else none
  | _ => none

/-- The children that an argument holds: itself, or the expressions in the list that it is. -/
def childrenOf (g : Graph) (v : Value) : List ObjectId :=
  match g.expression? v, v with
  | some id, _ => [id]
  | none, .ref id =>
    match g.object id with
    | .list items => items.filterMap g.expression?
    | _ => []
  | none, _ => []

/-- The expressions directly below an expression, in the order of its arguments. -/
def children (g : Graph) (id : ObjectId) : List ObjectId :=
  (g.arguments id).flatMap fun a => g.childrenOf a.2

/-- The number of pairs of an expression and a child, counted for each place it stands at. -/
def edgeCount (g : Graph) : Nat :=
  (List.range g.size).foldl (fun n id => n + (g.children id).length) 0

/-- The statements of a sequence of statements. -/
def statements (g : Graph) (arguments : Bindings Value) : List ObjectId :=
  match Bindings.find? "expressions" arguments with
  | some (.ref id) =>
    match g.object id with
    | .list items => items.filterMap g.expression?
    | .tuple items => items.filterMap g.expression?
    | _ => []
  | _ => []

/-- What stands between the statements of a sequence. -/
def statementSeparator : String := ";\n"

/-- The text of an expression, for sequences of statements that nest at most as deep as the first
argument says. -/
def textWithin (g : Graph) : Nat → ObjectId → Option String
  | 0, _ => none
  | fuel + 1, id =>
    match g.object id with
    | .expression type text _ arguments =>
      if type = .script then
        ((g.statements arguments).mapM (textWithin g fuel)).map statementSeparator.intercalate
      else text
    | _ => none

/-- The text of an expression: what it was given, or the texts of its statements in order; none if
one of them cannot be written. -/
def text? (g : Graph) (id : ObjectId) : Option String := g.textWithin (g.size + 1) id

end Graph

end QueryTree
