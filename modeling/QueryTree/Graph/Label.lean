import QueryTree.Graph.Basic

/-!
# QueryTree.Graph.Label

The text of a value as the key of a map or as the member of a set (`str`).  By these
texts the members of a set are put in order (`sorted`); members with the same text
stay in the order in which the set enumerates them, whatever that is.
-/

namespace QueryTree.Graph

/-- The items of a tuple in parentheses; a single item is followed by a comma. -/
def tupleLabel : List String → String
  | [x] => "(" ++ x ++ ",)"
  | xs => "(" ++ ", ".intercalate xs ++ ")"

/-- The members of a set or the entries of a map in braces. -/
def braced (xs : List String) : String := "\x7b" ++ ", ".intercalate xs ++ "\x7d"

/-- The text of a value inside the label of a compound value, for values that nest at most as deep
as the first argument says. -/
def quotedWithin (g : Graph) : Nat → Value → String
  | 0, _ => "..."
  | fuel + 1, v =>
    match v with
    | .none => "None"
    | .scalar s => s.quoted
    | .ref id =>
      match g.object id with
      | .expression _ _ wording _ => wording.quoted
      | .record _ wording _ _ _ _ => wording.quoted
      | .list items => "[" ++ ", ".intercalate (items.map (quotedWithin g fuel)) ++ "]"
      | .tuple items => tupleLabel (items.map (quotedWithin g fuel))
      | .set [] => "set()"
      | .set members => braced (members.map (quotedWithin g fuel))
      | .frozenset [] => "frozenset()"
      | .frozenset members =>
        "frozenset(" ++ braced (members.map (quotedWithin g fuel)) ++ ")"
      | .map entries =>
        braced (entries.map fun (k, x) => quotedWithin g fuel k ++ ": " ++ quotedWithin g fuel x)

/-- The text of a value as the key of a map or as the member of a set. -/
def label (g : Graph) : Value → String
  | .none => "None"
  | .scalar s => s.label
  | .ref id =>
    match g.object id with
    | .expression _ _ wording _ => wording.whole
    | .record _ wording _ _ _ _ => wording.whole
    | _ => g.quotedWithin (g.size + 1) (.ref id)

/-- The members of a set in the order of their labels; among equal ones, as they are enumerated. -/
def byLabel (g : Graph) (members : List Value) : List Value :=
  ((members.map fun v => (g.label v, v)).mergeSort fun a b => !(b.1 < a.1)).map Prod.snd

end QueryTree.Graph
