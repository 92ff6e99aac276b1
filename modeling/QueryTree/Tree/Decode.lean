import QueryTree.Tree.Basic

/-!
# QueryTree.Tree.Decode

Trees from documents (`model_validate_json`).  Every field has the name it is written
under and a second one that is accepted when the first is missing; unknown entries are
passed over.

A document that is no tree is refused with all its faults, field by field in the
order of the node, each with the path that leads to it.
-/

namespace QueryTree.Tree.Decode

/-- One step from a document into it. -/
inductive Step where
  /-- To the value of a key. -/
  | key (k : String)
  /-- To an element of a sequence. -/
  | index (i : Nat)
deriving DecidableEq, Repr

/-- What can be wrong with a part of a document. -/
inductive Flaw where
  /-- The text is not JSON. -/
  | invalidJson
  /-- A required entry is missing. -/
  | missing
  /-- A text was expected. -/
  | notText
  /-- A sequence was expected. -/
  | notList
  /-- A mapping was expected. -/
  | notMap
deriving DecidableEq, Repr

/-- A fault: what is wrong, and where. -/
structure Fault where
  /-- What is wrong. -/
  flaw : Flaw
  /-- The way from the document to the part. -/
  path : List Step
deriving DecidableEq, Repr

/-- A value, or all that is wrong with it. -/
abbrev Checked (α : Type) := Except (List Fault) α

/-- A fault at a path. -/
def fault {α : Type} (path : List Step) (flaw : Flaw) : Checked α := .error [⟨flaw, path⟩]

/-- Two checks in a row; if both fail, the faults of both are reported. -/
def both {α β : Type} (a : Checked α) (b : Checked β) : Checked (α × β) :=
  match a, b with
  | .ok x, .ok y => .ok (x, y)
  | .ok _, .error fs => .error fs
  | .error es, .ok _ => .error es
  | .error es, .error fs => .error (es ++ fs)

/-- The key under which a field is present, with its value: the first name wins over the second. -/
def field? (name second : String) (entries : List (String × Document)) :
    Option (String × { d : Document // sizeOf d < sizeOf entries }) :=
  match h : Document.lookup? name entries with
  | some d => some (name, ⟨d, Document.sizeOf_lt_of_lookup?_eq_some h⟩)
  | none =>
    match h : Document.lookup? second entries with
    | some d => some (second, ⟨d, Document.sizeOf_lt_of_lookup?_eq_some h⟩)
    | none => none

/-- A text. -/
def text (path : List Step) : Document → Checked String
  | .text s => .ok s
  | _ => fault path .notText

/-- The type of a node, which has to be there. -/
def typeName (path : List Step) (entries : List (String × Document)) : Checked String :=
  match field? "TypeName" "type_name" entries with
  | some (k, d) => text (path ++ [.key k]) d.val
  | none => fault (path ++ [.key "TypeName"]) .missing

/-- The text of a node, empty if it is not there. -/
def nodeText (path : List Step) (entries : List (String × Document)) : Checked String :=
  match field? "Text" "text" entries with
  | some (k, d) => text (path ++ [.key k]) d.val
  | none => .ok ""

/-- The name of a property, which may be missing or nothing. -/
def name (path : List Step) (entries : List (String × Document)) : Checked (Option String) :=
  match field? "Name" "name" entries with
  | some (_, ⟨.null, _⟩) => .ok none
  | some (k, d) => (text (path ++ [.key k]) d.val).map some
  | none => .ok none

mutual

/-- A property. -/
def property (path : List Step) : Document → Checked Property
  | .map entries =>
    (both (name path entries) (value path entries)).map fun (n, v) => .mk n v
  | _ => fault path .notMap
termination_by d => (sizeOf d, 0)

/-- The value of a property: missing, nothing, a text or a list of properties.  Any other value is faulted
both as a text and as a list. -/
def value (path : List Step) (entries : List (String × Document)) : Checked PropertyValue :=
  match field? "Value" "value" entries with
  | none => .ok .absent
  | some (_, ⟨.null, _⟩) => .ok .absent
  | some (_, ⟨.text s, _⟩) => .ok (.text s)
  | some (k, ⟨.list items, h⟩) =>
    have : sizeOf items < sizeOf entries := by simp only [Document.list.sizeOf_spec] at h; omega
    let here := path ++ [.key k]
    match properties (here ++ [.key "list[Property]"]) 0 items with
    | .ok ps => .ok (.list ps)
    | .error fs => .error (⟨.notText, here ++ [.key "str"]⟩ :: fs)
  | some (k, _) =>
    let here := path ++ [.key k]
    .error [⟨.notText, here ++ [.key "str"]⟩, ⟨.notList, here ++ [.key "list[Property]"]⟩]
termination_by (sizeOf entries, 1)

/-- The properties of a sequence, from index `i` on. -/
def properties (path : List Step) (i : Nat) : List Document → Checked (List Property)
  | [] => .ok []
  | d :: ds =>
    (both (property (path ++ [.index i]) d) (properties path (i + 1) ds)).map fun (p, ps) => p :: ps
termination_by ds => (sizeOf ds, 0)

end

/-- The properties of a node, which may be missing or nothing. -/
def nodeProperties (path : List Step) (entries : List (String × Document)) :
    Checked (Option (List Property)) :=
  match field? "Properties" "properties" entries with
  | none => .ok none
  | some (_, ⟨.null, _⟩) => .ok none
  | some (k, ⟨.list items, _⟩) => (properties (path ++ [.key k]) 0 items).map some
  | some (k, _) => fault (path ++ [.key k]) .notList

mutual

/-- A node with all that is below it. -/
def tree (path : List Step) : Document → Checked Tree
  | .map entries =>
    (both (both (typeName path entries) (nodeText path entries))
      (both (children path entries) (nodeProperties path entries))).map
      fun ((ty, tx), (cs, ps)) => .node ty tx cs ps
  | _ => fault path .notMap
termination_by d => (sizeOf d, 0)

/-- The children of a node, which may be missing or nothing. -/
def children (path : List Step) (entries : List (String × Document)) : Checked (Option (List Tree)) :=
  match field? "Children" "children" entries with
  | none => .ok none
  | some (_, ⟨.null, _⟩) => .ok none
  | some (k, ⟨.list items, h⟩) =>
    have : sizeOf items < sizeOf entries := by simp only [Document.list.sizeOf_spec] at h; omega
    (trees (path ++ [.key k]) 0 items).map some
  | some (k, _) => fault (path ++ [.key k]) .notList
termination_by (sizeOf entries, 1)

/-- The nodes of a sequence, from index `i` on. -/
def trees (path : List Step) (i : Nat) : List Document → Checked (List Tree)
  | [] => .ok []
  | d :: ds =>
    (both (tree (path ++ [.index i]) d) (trees path (i + 1) ds)).map fun (t, ts) => t :: ts
termination_by ds => (sizeOf ds, 0)

end

end Decode

/-- The tree that a document describes, or all its faults. -/
def ofDocument (d : Document) : Except (List Decode.Fault) Tree := Decode.tree [] d

end QueryTree.Tree
