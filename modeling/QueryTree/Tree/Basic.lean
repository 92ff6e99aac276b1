import QueryTree.Document.Basic

/-!
# QueryTree.Tree.Basic

The tree that is shown (`ParseData`): one node for every captured piece of a query,
with its type, its text, its children and the data of its own as properties
(`Property`).

Absent is not empty.  A node without a list of children is a leaf, a node with an
empty one is not; the same holds for properties and for the name and the value of
a property.

* `count`, `preorder` — the nodes of a tree, parents before children;
* `levels`, `propertyLevels` — how deep nodes and property lists nest.
-/

namespace QueryTree

/-- A value of a kind that properties do not have of themselves: neither nothing, nor a text or a list. -/
inductive Foreign where
  /-- A truth value. -/
  | bool (b : Bool)
  /-- A whole number. -/
  | int (n : Int)
  /-- A floating-point number. -/
  | float (x : Float)
  /-- A mapping. -/
  | map (entries : List (String × Document))

namespace Foreign

/-- The value as a document. -/
def document : Foreign → Document
  | .bool b => .bool b
  | .int n => .int n
  | .float x => .float x
  | .map entries => .map entries

/-- The name of the kind of a value, shown where the value itself is not (`type_placeholder`). -/
def kind : Foreign → String
  | .bool _ => "bool"
  | .int _ => "int"
  | .float _ => "float"
  | .map _ => "dict"

end Foreign

mutual

/-- A piece of data attached to a node; an element of a list carries no name. -/
inductive Property where
  /-- A name, if there is one, and a value. -/
  | mk (name : Option String) (value : PropertyValue)

/-- The value of a property. -/
inductive PropertyValue where
  /-- No value. -/
  | absent
  /-- A text. -/
  | text (s : String)
  /-- A list of properties. -/
  | list (items : List Property)
  /-- A value of another kind. -/
  | other (x : Foreign)

end

/-- A node with all that is below it. -/
inductive Tree where
  /-- A node. -/
  | node (typeName text : String) (children : Option (List Tree)) (properties : Option (List Property))

instance : Inhabited PropertyValue := ⟨.absent⟩

instance : Inhabited Property := ⟨.mk none .absent⟩

instance : Inhabited Tree := ⟨.node "" "" none none⟩

namespace Property

/-- The name of a property. -/
def name : Property → Option String
  | .mk n _ => n

/-- The value of a property. -/
def value : Property → PropertyValue
  | .mk _ v => v

mutual

/-- How deep the lists in the value of a property nest. -/
def levels : Property → Nat
  | .mk _ v => valueLevels v

/-- How deep the lists in a value nest. -/
def valueLevels : PropertyValue → Nat
  | .list items => 1 + levelsOfList items
  | _ => 0

/-- How deep the lists in several properties nest. -/
def levelsOfList : List Property → Nat
  | [] => 0
  | p :: ps => max (levels p) (levelsOfList ps)

end

end Property

namespace Tree

/-- The type of the root. -/
def typeName : Tree → String
  | .node t _ _ _ => t

/-- The text of the root. -/
def text : Tree → String
  | .node _ t _ _ => t

/-- The children of the root, absent for a leaf. -/
def children : Tree → Option (List Tree)
  | .node _ _ cs _ => cs

/-- The properties of the root. -/
def properties : Tree → Option (List Property)
  | .node _ _ _ ps => ps

mutual

/-- The number of nodes. -/
def count : Tree → Nat
  | .node _ _ none _ => 1
  | .node _ _ (some cs) _ => 1 + countOfList cs

/-- The number of nodes of several trees. -/
def countOfList : List Tree → Nat
  | [] => 0
  | t :: ts => count t + countOfList ts

end

mutual

/-- Every node with its depth, parents before children, children in order. -/
def preorder (depth : Nat) : Tree → List (Nat × Tree)
  | .node ty tx none ps => [(depth, .node ty tx none ps)]
  | .node ty tx (some cs) ps => (depth, .node ty tx (some cs) ps) :: preorderOfList (depth + 1) cs

/-- Every node of several trees. -/
def preorderOfList (depth : Nat) : List Tree → List (Nat × Tree)
  | [] => []
  | t :: ts => preorder depth t ++ preorderOfList depth ts

end

/-- How deep the property lists of one node nest. -/
def levelsOfProperties : Option (List Property) → Nat
  | none => 0
  | some ps => 1 + Property.levelsOfList ps

mutual

/-- How deep the property lists of any node nest. -/
def propertyLevels : Tree → Nat
  | .node _ _ none ps => levelsOfProperties ps
  | .node _ _ (some cs) ps => max (levelsOfProperties ps) (propertyLevelsOfList cs)

/-- How deep the property lists of several trees nest. -/
def propertyLevelsOfList : List Tree → Nat
  | [] => 0
  | t :: ts => max (propertyLevels t) (propertyLevelsOfList ts)

end

end Tree

end QueryTree
