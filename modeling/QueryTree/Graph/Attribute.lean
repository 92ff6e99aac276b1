import QueryTree.Graph.Label

/-!
# QueryTree.Graph.Attribute

The attributes that a value declares, in the order it declares them
(`declared_attributes`).

An expression declares its arguments and a map its entries.  Any other object
declares its own attributes and then the slots of its class, level by level; names
that start with an underscore are its own affair, and a slot that was already
listed is not listed again.  What cannot be read counts as nothing.
-/

namespace QueryTree.Graph

/-- Names that start with an underscore are not declared. -/
def isPublic (name : String) : Bool := !name.startsWith "_"

/-- Adds a slot to the names listed so far, unless it is one of them. -/
def withSlot (names : List String) (slot : String) : List String :=
  if isPublic slot && !names.contains slot then names ++ [slot] else names

/-- Adds the slots of all levels to the names listed so far. -/
def withSlots (names : List String) (levels : List (List String)) : List String :=
  levels.flatten.foldl withSlot names

/-- The value with a name, nothing if there is none. -/
def valueOf (name : String) (fields : List (String × Value)) : Value :=
  (Bindings.find? name fields).getD .none

/-- The attributes of an object that is neither an expression nor a container. -/
def recordAttributes (fields : List (String × Value)) (slots : List (List String))
    (filled : List (String × Value)) (unreadable : List String) : List (String × Value) :=
  let names := withSlots ((fields.map Prod.fst).filter isPublic) slots
  names.map fun n => (n, if unreadable.contains n then .none else valueOf n (fields ++ filled))

/-- The attributes of a value without parts: a name that is a number has two, the others none. -/
def scalarAttributes : Scalar → List (String × Value)
  | .uuid u =>
    [("int", .scalar (.int u.number)), ("is_safe", .scalar (.member "SafeUUID" "unknown" "None"))]
  | _ => []

/-- The attributes that a value declares. -/
def declared (g : Graph) : Value → List (String × Value)
  | .none => []
  | .scalar s => scalarAttributes s
  | .ref id =>
    match g.object id with
    | .expression _ _ _ arguments => arguments
    | .map entries => entries.map fun (k, v) => (g.label k, v)
    | .record _ _ fields slots filled unreadable => recordAttributes fields slots filled unreadable
    | _ => []

end QueryTree.Graph
