import QueryTree.Graph.Attribute
import QueryTree.Graph.IdentitySet
import QueryTree.Tree.Basic

/-!
# QueryTree.Graph.Reflection

The attributes of a value as properties.

Two sets keep a graph with cycles in bounds.  An object that is no container is
shown once: `visited` remembers it for good, and what it holds at the start is not
shown at all.  A container is shown wherever it is
reached, except inside itself: `opened` holds the containers that are being listed,
and each leaves it when its list is done.

Every step down enters an object that is not yet visited or a container that is not
yet open, and both sets are bounded by the size of the graph.  So the nesting that
`Graph.convert` allows, one more than the number of objects, is never used up.

* `Graph.reflect` — the properties of a value, sorted by name (`reflect`);
* `Graph.convert` — one value as the value of a property (`_convert`);
* `Graph.containerWith`, `Graph.contentsWith` — a container (`_convert_container`).
-/

namespace QueryTree

/-- What has been shown, and what is being listed. -/
structure Progress where
  /-- What has been shown or captured. -/
  visited : IdentitySet
  /-- The containers that are being listed. -/
  opened : IdentitySet

/-- Whether a value counts as shown. -/
def Progress.hasShown (s : Progress) (v : Value) : Bool := v.identity?.any s.visited.contains

namespace Graph

/-- Turns a value into the value of a property, unless there is nothing to show. -/
abbrev Converter := Value → Progress → Option PropertyValue × Progress

/-- A list as the value of a property; an empty one is nothing to show. -/
def listValue : List Property → Option PropertyValue
  | [] => none
  | ps => some (.list ps)

/-- A property in front of others, if there is a value for it. -/
def consProperty (name : Option String) : Option PropertyValue → List Property → List Property
  | none, ps => ps
  | some v, ps => .mk name v :: ps

/-- The attributes that have something to show, in order. -/
def convertNamed (f : Converter) : List (String × Value) → Progress → List Property × Progress
  | [], s => ([], s)
  | (name, v) :: rest, s =>
    let (shown, s) := f v s
    let (ps, s) := convertNamed f rest s
    (consProperty (some name) shown ps, s)

/-- The elements that have something to show, in order. -/
def convertItems (f : Converter) : List Value → Progress → List Property × Progress
  | [], s => ([], s)
  | v :: rest, s =>
    let (shown, s) := f v s
    let (ps, s) := convertItems f rest s
    (consProperty none shown ps, s)

/-- The name by which properties are sorted. -/
def sortKey (p : Property) : String := p.name.getD ""

/-- Properties in the order of their names; equal names keep their order. -/
def byName (ps : List Property) : List Property :=
  ps.mergeSort fun p q => !(sortKey q < sortKey p)

/-- The declared attributes of a value as properties. -/
def reflectWith (g : Graph) (f : Converter) (v : Value) (s : Progress) : List Property × Progress :=
  let (ps, s) := convertNamed f (g.declared v) s
  (byName ps, s)

/-- The contents of a container as properties: the entries of a map by name, elements in order. -/
def contentsWith (g : Graph) (f : Converter) (id : ObjectId) (s : Progress) :
    List Property × Progress :=
  match g.object id with
  | .list items => convertItems f items s
  | .tuple items => convertItems f items s
  | .set members => convertItems f (g.byLabel members) s
  | .frozenset members => convertItems f (g.byLabel members) s
  | _ => reflectWith g f (.ref id) s

/-- A container as the value of a property.  It is open while its contents are listed. -/
def containerWith (g : Graph) (f : Converter) (id : ObjectId) (s : Progress) :
    Option PropertyValue × Progress :=
  if s.opened.contains (.object id) then (none, s)
  else
    let (ps, t) := contentsWith g f id { s with opened := s.opened.insert (.object id) }
    (listValue ps, { t with opened := t.opened.erase (.object id) })

/-- An object that is no container as the value of a property.  From now on it counts as shown. -/
def objectWith (g : Graph) (f : Converter) (id : ObjectId) (s : Progress) :
    Option PropertyValue × Progress :=
  let (ps, s) := reflectWith g f (.ref id) { s with visited := s.visited.insert (.object id) }
  (listValue ps, s)

/-- A value as the value of a property, for a nesting of at most `fuel` objects. -/
def convert (g : Graph) : Nat → Converter
  | 0, _, s => (none, s)
  | fuel + 1, v, s =>
    if s.hasShown v then (none, s)
    else
      match v with
      | .none => (none, s)
      | .scalar x => (some (.text x.shown), s)
      | .ref id =>
        if (g.object id).isContainer then containerWith g (convert g fuel) id s
        else objectWith g (convert g fuel) id s

/-- The nesting that no value of a graph goes beyond. -/
def nesting (g : Graph) : Nat := g.size + 1

/-- The declared attributes of a value as properties sorted by name, and what has been shown after
that; none if there is nothing to show. -/
def reflect (g : Graph) (v : Value) (visited : IdentitySet) : Option (List Property) × IdentitySet :=
  match reflectWith g (g.convert g.nesting) v ⟨visited, .empty⟩ with
  | ([], s) => (none, s.visited)
  | (ps, s) => (some ps, s.visited)

end Graph

end QueryTree
