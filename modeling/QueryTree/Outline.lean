import QueryTree.Text.Blank
import QueryTree.Text.LineBreak
import QueryTree.Tree.Basic

/-!
# QueryTree.Outline

A tree as a Markdown outline.  A node is an item of a numbered list, three blanks
further in than its parent: its type in bold, and the first line of its text as a
code span, cut after a number of characters.  Its properties follow as items with
dashes, two blanks further in for every list they stand in.

The nodes still to be shown wait on a stack, each with its indentation, so the
outline of a deep tree takes no deep recursion.

* `Outline.write` — the outline of a tree (`MarkdownFormatter.format`);
* `Outline.nodeEntry` — the line of a node (`_add_node`);
* `Outline.listEntries` — the lines of properties (`_add_properties`).
-/

namespace QueryTree.Outline

/-- How far a node stands in from its parent. -/
def nodeIndent : Nat := 3

/-- How far the elements of a list stand in from the property that holds it. -/
def propertyIndent : Nat := 2

/-- The number of characters of a text that are shown if nothing else is said. -/
def defaultLimit : Int := 20

/-- Blanks. -/
def blanks (n : Nat) : List Char := List.replicate n ' '

/-- The first `limit` characters; a negative limit drops that many from the end. -/
def cut (limit : Int) (cs : List Char) : List Char :=
  if limit < 0 then cs.take (cs.length - limit.natAbs) else cs.take limit.natAbs

/-- What is shown of a text: its first line that is not empty, without the blanks around it. -/
def heading (text : String) : List Char :=
  match Text.firstLine text.toList with
  | none => []
  | some l => Text.trim l

/-- The code span of a text, followed by dots if it was cut; an empty heading has none. -/
def span (limit : Int) (text : String) : List Char :=
  let shown := heading text
  if shown.isEmpty then []
  else if limit < shown.length then
    '\x60' :: Text.trim (cut limit shown) ++ ['\x60', '.', '.', '.']
  else '\x60' :: Text.trim shown ++ ['\x60']

/-- The entry of a node. -/
def nodeEntry (limit : Int) (pad : Nat) (t : Tree) : List Char :=
  blanks pad ++ "1. **".toList ++ t.typeName.toList ++ "**: ".toList ++ span limit t.text

/-- The start of the entry of a property. -/
def bullet (pad : Nat) (name : Option String) : List Char :=
  blanks pad ++ ['-', ' '] ++
    (match name with
      | none => []
      | some n => n.toList ++ [':', ' '])

mutual

/-- The entries of a property: its own, then those of the list it may hold. -/
def propertyEntries (pad : Nat) : Property → List (List Char)
  | .mk name value => valueEntries pad (bullet pad name) value

/-- The entries of a value after the start of its own. -/
def valueEntries (pad : Nat) (start : List Char) : PropertyValue → List (List Char)
  | .absent => [start]
  | .text s => [start ++ '_' :: s.toList ++ ['_']]
  | .list items => start :: listEntries (pad + propertyIndent) items
  | .other x => [start ++ x.kind.toList]

/-- The entries of several properties. -/
def listEntries (pad : Nat) : List Property → List (List Char)
  | [] => []
  | p :: ps => propertyEntries pad p ++ listEntries pad ps

end

/-- The entries of a node itself: its own, then those of its properties. -/
def ownEntries (limit : Int) (pad : Nat) (t : Tree) : List (List Char) :=
  nodeEntry limit pad t :: listEntries (pad + nodeIndent) (t.properties.getD [])

/-- The children of a node, ready to be shown. -/
def below (pad : Nat) (t : Tree) : List (Nat × Tree) :=
  (t.children.getD []).map fun c => (pad + nodeIndent, c)

/-- The number of nodes that wait. -/
def waiting : List (Nat × Tree) → Nat
  | [] => 0
  | (_, t) :: rest => t.count + waiting rest

theorem waiting_append (xs ys : List (Nat × Tree)) :
    waiting (xs ++ ys) = waiting xs + waiting ys := by
  induction xs with
  | nil => simp [waiting]
  | cons x xs ih => simp [waiting, ih, Nat.add_assoc]

theorem waiting_map (pad : Nat) (ts : List Tree) :
    waiting (ts.map fun c => (pad, c)) = Tree.countOfList ts := by
  induction ts with
  | nil => rfl
  | cons t ts ih => simp [waiting, Tree.countOfList, ih]

theorem waiting_below (pad : Nat) (t : Tree) : waiting (below pad t) + 1 = t.count := by
  obtain ⟨ty, tx, cs, ps⟩ := t
  cases cs <;> simp [below, Tree.children, Tree.count, waiting, waiting_map, Nat.add_comm]

/-- The entries of the nodes that wait, the first of them next. -/
def entries (limit : Int) : List (Nat × Tree) → List (List Char)
  | [] => []
  | (pad, t) :: rest => ownEntries limit pad t ++ entries limit (below pad t ++ rest)
termination_by stack => waiting stack
decreasing_by
  have := waiting_below pad t
  simp only [waiting_append, waiting]
  omega

/-- The outline of a tree: every entry ends with a line feed. -/
def chars (limit : Int) (t : Tree) : List Char :=
  (entries limit [(0, t)]).flatMap fun e => e ++ ['\n']

/-- The outline of a tree as text. -/
def write (limit : Int) (t : Tree) : String := String.ofList (chars limit t)

end QueryTree.Outline
