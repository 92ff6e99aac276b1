/-!
# QueryTree.Bindings

Named values in the order in which their names first came up.

* `Bindings.set` — gives a name a value, in place if it has one;
* `Bindings.ofList` — the outcome of setting several names in a row, so of several
  values for a name the last counts, at the place of the first.
-/

namespace QueryTree

/-- Named values. -/
abbrev Bindings (α : Type) := List (String × α)

namespace Bindings

variable {α : Type}

/-- The value of a name. -/
def find? (name : String) (bs : Bindings α) : Option α :=
  (List.find? (fun b => b.1 == name) bs).map Prod.snd

/-- Gives a name a value: in place if it has one, else at the end. -/
def set (bs : Bindings α) (name : String) (value : α) : Bindings α :=
  if bs.any fun b => b.1 == name then bs.map fun b => if b.1 == name then (name, value) else b
  else bs ++ [(name, value)]

/-- The outcome of setting several names, one after the other. -/
def ofList (entries : List (String × α)) : Bindings α :=
  entries.foldl (fun bs e => set bs e.1 e.2) []

end Bindings

end QueryTree
