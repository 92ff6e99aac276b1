import QueryTree.Graph.Basic
import QueryTree.Tree.Basic

/-!
# QueryTree.Tree.Table

Nodes by number, for trees that are still being built (`ParseData`).  A node may be the
child of several others; what is below it then stands below each of them.

The children of a node are in a list, and the list is a thing of its own.  A node that is
given the list of another one has the same list from then on, so that one more child of
either is one more child of both.  New nodes and new children come in new lists.

The walk keeps the nodes still to be visited on a stack.  It ends on every table
without cycles; the budget that it is given is large enough for all of them, and it
has no result when the budget runs out.

* `NodeTable.addChild` — one more child (`add_child`);
* `NodeTable.setChildren`, `NodeTable.shareChildren` — other children, in a new list or in
  that of another node;
* `NodeTable.walk` — the nodes from one on, parents before children (`walk`);
* `NodeTable.count` — how many there are (`count`);
* `NodeTable.tree?` — the tree that a node stands for.
-/

namespace QueryTree

/-- The number of a node. -/
abbrev NodeId := Nat

/-- A node with its children. -/
structure NodeEntry where
  /-- The type of the node. -/
  typeName : String
  /-- Its text. -/
  text : String
  /-- Its children in order, absent for a leaf. -/
  children : Option (List NodeId)
  /-- Its properties, absent if there are none. -/
  properties : Option (List Property)
  /-- The object that it was captured from. -/
  source : Option ObjectId

namespace NodeEntry

/-- A node without children, properties and source. -/
def leaf (typeName text : String) : NodeEntry := ⟨typeName, text, none, none, none⟩

instance : Inhabited NodeEntry := ⟨leaf "" ""⟩

/-- The children as a list. -/
def childList (e : NodeEntry) : List NodeId := e.children.getD []

/-- The node with one more child at the end. -/
def addChild (e : NodeEntry) (child : NodeId) : NodeEntry :=
  { e with children := some (e.childList ++ [child]) }

end NodeEntry

/-- The number of a list of children. -/
abbrev ListId := Nat

/-- A node as it is stored. -/
structure NodeCell where
  /-- The type of the node. -/
  typeName : String
  /-- Its text. -/
  text : String
  /-- The list that its children are in, absent for a leaf. -/
  list : Option ListId
  /-- Its properties, absent if there are none. -/
  properties : Option (List Property)
  /-- The object that it was captured from. -/
  source : Option ObjectId

/-- A node as it is stored with its children in a given list. -/
def NodeEntry.cell (e : NodeEntry) (list : Option ListId) : NodeCell :=
  ⟨e.typeName, e.text, list, e.properties, e.source⟩

instance : Inhabited NodeCell := ⟨(default : NodeEntry).cell none⟩

/-- Nodes by number, and lists of children by number. -/
@[ext] structure NodeTable where
  /-- The nodes. -/
  cells : Array NodeCell
  /-- The lists of children. -/
  lists : Array (List NodeId)
  /-- The lists that nodes have are there. -/
  list_lt : ∀ cell ∈ cells, ∀ k ∈ cell.list, k < lists.size

namespace NodeTable

/-- The table without nodes. -/
def empty : NodeTable := ⟨#[], #[], by simp⟩

instance : Inhabited NodeTable := ⟨empty⟩

/-- The number of nodes in the table. -/
def size (t : NodeTable) : Nat := t.cells.size

/-- The list that the children of a node are in. -/
def list? (t : NodeTable) (id : NodeId) : Option ListId := t.cells[id]?.bind (·.list)

theorem list?_lt {t : NodeTable} {id : NodeId} {k : ListId} (h : t.list? id = some k) :
    k < t.lists.size := by
  obtain ⟨cell, hcell, hk⟩ := Option.bind_eq_some_iff.mp h
  exact t.list_lt cell (Array.mem_of_getElem? hcell) k hk

/-- A stored node with its children. -/
def resolve (lists : Array (List NodeId)) (cell : NodeCell) : NodeEntry :=
  ⟨cell.typeName, cell.text, cell.list.map fun k => lists.getD k [], cell.properties, cell.source⟩

/-- The node with a number. -/
def entry (t : NodeTable) (id : NodeId) : NodeEntry :=
  resolve t.lists (t.cells.getD id default)

/-- The children of a node. -/
def childrenOf (t : NodeTable) (id : NodeId) : List NodeId := (t.entry id).childList

/-! ## changes -/

/-- The lists of a table and a new one, if there is one. -/
def withList (t : NodeTable) : Option (List NodeId) → Array (List NodeId)
  | none => t.lists
  | some ids => t.lists.push ids

/-- The number of a new list, if there is one. -/
def newList (t : NodeTable) (children : Option (List NodeId)) : Option ListId :=
  children.map fun _ => t.lists.size

theorem size_le_withList (t : NodeTable) (children : Option (List NodeId)) :
    t.lists.size ≤ (t.withList children).size := by
  cases children <;> simp [withList]

theorem newList_lt (t : NodeTable) {children : Option (List NodeId)} {k : ListId}
    (h : k ∈ t.newList children) : k < (t.withList children).size := by
  cases children with
  | none => cases h
  | some ids =>
      obtain rfl := Option.some.inj h
      simp [withList]

/-- Adds a node, with its children in a new list; its number is the size of the table before. -/
def push (t : NodeTable) (e : NodeEntry) : NodeTable where
  cells := t.cells.push (e.cell (t.newList e.children))
  lists := t.withList e.children
  list_lt := by
    intro cell hcell k hk
    obtain hcell | rfl := Array.mem_push.mp hcell
    · exact Nat.lt_of_lt_of_le (t.list_lt cell hcell k hk) (t.size_le_withList _)
    · exact t.newList_lt hk

/-- Nodes numbered from zero on, each with its children in a list of its own. -/
def ofEntries (es : List NodeEntry) : NodeTable := es.foldl push .empty

/-- Changes a node; it has one of the lists that there are, or none. -/
def modify (t : NodeTable) (id : NodeId) (f : NodeCell → NodeCell)
    (hf : ∀ cell ∈ t.cells, ∀ k ∈ (f cell).list, k < t.lists.size) : NodeTable where
  cells := t.cells.modify id f
  lists := t.lists
  list_lt := by
    intro cell hcell k hk
    obtain ⟨i, hi, rfl⟩ := Array.mem_iff_getElem.mp hcell
    rw [Array.getElem_modify] at hk
    split at hk
    · exact hf _ (Array.getElem_mem _) k hk
    · exact t.list_lt _ (Array.getElem_mem _) k hk

/-- Adds a list that no node has. -/
def addList (t : NodeTable) (children : Option (List NodeId)) : NodeTable where
  cells := t.cells
  lists := t.withList children
  list_lt cell hcell k hk := Nat.lt_of_lt_of_le (t.list_lt cell hcell k hk) (t.size_le_withList _)

/-- Replaces the children of a node; they are in a new list. -/
def setChildren (t : NodeTable) (id : NodeId) (children : Option (List NodeId)) : NodeTable :=
  (t.addList children).modify id (fun cell => { cell with list := t.newList children })
    fun _ _ _ hk => t.newList_lt hk

/-- Gives a node the children of another one, in the same list. -/
def shareChildren (t : NodeTable) (id other : NodeId) : NodeTable :=
  t.modify id (fun cell => { cell with list := t.list? other }) fun _ _ _ hk => list?_lt hk

/-- Makes a node the last of a list. -/
def appendTo (t : NodeTable) (list : ListId) (child : NodeId) : NodeTable where
  cells := t.cells
  lists := t.lists.modify list (· ++ [child])
  list_lt cell hcell k hk := by
    rw [Array.size_modify]
    exact t.list_lt cell hcell k hk

/-- Makes a node the last child of another, in the list that this one has; a leaf gets a new list. -/
def addChild (t : NodeTable) (parent child : NodeId) : NodeTable :=
  match t.list? parent with
  | none => t.setChildren parent (some [child])
  | some list => t.appendTo list child

/-- Replaces the properties of a node. -/
def setProperties (t : NodeTable) (id : NodeId) (properties : Option (List Property)) : NodeTable :=
  t.modify id (fun cell => { cell with properties := properties }) t.list_lt

/-! ## walks -/

/-- The number of pairs of a node and a child, counted for each place it stands at. -/
def edgeCount (t : NodeTable) : Nat :=
  t.cells.foldl (fun n cell => n + (resolve t.lists cell).childList.length) 0

/-- A number of steps that no walk goes beyond, unless it goes in circles: a path without a
repeated node has at most as many steps as there are nodes, with at most `edgeCount` choices for
each. -/
def budget (t : NodeTable) : Nat := Nat.pow (t.edgeCount + 1) (t.size + 1)

/-- The nodes that wait on a stack and all that is below them, in at most `fuel` steps. -/
def walkStack (t : NodeTable) : Nat → List NodeId → Option (List NodeId)
  | _, [] => some []
  | 0, _ :: _ => none
  | fuel + 1, id :: rest => (walkStack t fuel (t.childrenOf id ++ rest)).map (id :: ·)

/-- The nodes from one on, parents before children, children in order; none on a cycle. -/
def walk (t : NodeTable) (id : NodeId) : Option (List NodeId) := t.walkStack t.budget [id]

/-- The number of nodes from one on; none on a cycle. -/
def count (t : NodeTable) (id : NodeId) : Option Nat := (t.walk id).map List.length

/-- The tree of a node, for at most `fuel` levels. -/
def treeWithin (t : NodeTable) : Nat → NodeId → Option Tree
  | 0, _ => none
  | fuel + 1, id =>
    let e := t.entry id
    match e.children with
    | none => some (.node e.typeName e.text none e.properties)
    | some ids =>
      (ids.mapM (treeWithin t fuel)).map fun ts => .node e.typeName e.text (some ts) e.properties

/-- The tree that a node stands for; none on a cycle. -/
def tree? (t : NodeTable) (id : NodeId) : Option Tree := t.treeWithin (t.size + 1) id

end NodeTable

end QueryTree
