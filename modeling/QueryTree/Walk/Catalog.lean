import QueryTree.Graph.Basic

/-!
# QueryTree.Walk.Catalog

The types of node that there are (`node_types`): a base type and all that is declared
below it, directly or through others.  A type may stand below several.

Discovery takes types from a list of pending ones, the latest first, and adds the
subtypes that it has not met.  A type becomes pending once, when it is met, so the
number of declared pairs bounds the number of steps.
-/

namespace QueryTree

/-- A base type and the declared pairs of a type and a type directly below it. -/
structure Hierarchy where
  /-- The type that all others are below. -/
  base : NodeType
  /-- Pairs of a type and a subtype. -/
  pairs : List (NodeType × NodeType)

namespace Hierarchy

/-- The types directly below a type, in the order of their declaration. -/
def below (h : Hierarchy) (t : NodeType) : List NodeType :=
  (h.pairs.filter fun p => p.1 = t).map Prod.snd

/-- Adds the types that have not been met, both to the met ones and to the pending ones. -/
def meet (found pending : List NodeType) : List NodeType → List NodeType × List NodeType
  | [] => (found, pending)
  | t :: ts => if t ∈ found then meet found pending ts else meet (found ++ [t]) (t :: pending) ts

/-- The types met from the pending ones on, in at most `fuel` steps. -/
def discover (h : Hierarchy) : Nat → List NodeType → List NodeType → List NodeType
  | 0, found, _ => found
  | _, found, [] => found
  | fuel + 1, found, t :: pending =>
    let (found, pending) := meet found pending (h.below t)
    discover h fuel found pending

/-- The base type and all types below it, each once, in the order they are met. -/
def all (h : Hierarchy) : List NodeType := h.discover (h.pairs.length + 1) [h.base] [h.base]

/-- The base type and all types below it, each once, ordered by module and qualified name; types that
have both in common stay in the order in which they are met. -/
def catalog (h : Hierarchy) : List NodeType := h.all.mergeSort NodeType.le

/-- The hierarchy in which all given types stand directly below the base type. -/
def flat (types : List NodeType) : Hierarchy :=
  ⟨.expression, types.map fun t => (.expression, t)⟩

end Hierarchy

/-- The types of the expressions of a graph. -/
def Graph.types (g : Graph) : List NodeType :=
  g.objects.toList.filterMap fun
    | .expression type .. => some type
    | _ => none

end QueryTree
