import QueryTree.Graph.Reflection
import QueryTree.Tree.Table

/-!
# QueryTree.Graph.Population

Properties for all nodes of a tree in one pass (`populate_properties`).  The objects
that the nodes were captured from count as shown before anything is reflected, so no
node turns up again as the property of another.
-/

namespace QueryTree

namespace NodeTable

/-- The objects that nodes were captured from, as a set. -/
def sources (t : NodeTable) (ids : List NodeId) : IdentitySet :=
  ((ids.filterMap fun id => (t.entry id).source).map .object).foldl IdentitySet.insert .empty

/-- Gives one node its properties, if it was captured from an object. -/
def populateNode (g : Graph) (t : NodeTable) (visited : IdentitySet) (id : NodeId) :
    NodeTable × IdentitySet :=
  match (t.entry id).source with
  | none => (t, visited)
  | some source =>
    let (properties, visited) := g.reflect (.ref source) visited
    (t.setProperties id properties, visited)

/-- Gives several nodes their properties, one after the other. -/
def populateNodes (g : Graph) : NodeTable → IdentitySet → List NodeId → NodeTable × IdentitySet
  | t, visited, [] => (t, visited)
  | t, visited, id :: ids =>
    let (t, visited) := populateNode g t visited id
    populateNodes g t visited ids

/-- Gives every node of the tree below `root` its properties, parents before children, and returns
the objects that have been shown or captured; none on a cycle. -/
def populate (g : Graph) (t : NodeTable) (root : NodeId) : Option (NodeTable × IdentitySet) :=
  (t.walk root).map fun ids => populateNodes g t (t.sources ids) ids

end NodeTable

end QueryTree
