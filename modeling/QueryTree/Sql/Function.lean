import QueryTree.Sql.Name
import QueryTree.Text.UpperCase

/-!
# QueryTree.Sql.Function

The functions that a query calls: those with a meaning of their own, and all others by
their names.
-/

namespace QueryTree.Sql

/-- A function over the rows of a group. -/
inductive Aggregate where
  | count | sum | min | max | avg
deriving DecidableEq, Repr

namespace Aggregate

/-- All of them. -/
def all : List Aggregate := [.count, .sum, .min, .max, .avg]

/-- The type of the node of a call. -/
def typeName : Aggregate → String
  | .count => "Count"
  | .sum => "Sum"
  | .min => "Min"
  | .max => "Max"
  | .avg => "Avg"

/-- The name in capitals. -/
def spelling : Aggregate → String
  | .count => "COUNT"
  | .sum => "SUM"
  | .min => "MIN"
  | .max => "MAX"
  | .avg => "AVG"

/-- The most arguments that a call can have, if there is a bound. -/
def mostArguments? : Aggregate → Option Nat
  | .sum => some 1
  | .avg => some 1
  | _ => none

end Aggregate

/-- A function that is called. -/
inductive Function where
  /-- A function over the rows of a group. -/
  | aggregate (a : Aggregate)
  /-- Any other function. -/
  | other (name : Name)
deriving DecidableEq, Repr

/-- The function with a given name, in any case. -/
def Function.ofName (name : Name) : Function :=
  let capitals := String.ofList (Text.upper name.text.toList)
  match Aggregate.all.find? fun a => a.spelling == capitals with
  | some a => .aggregate a
  | none => .other name

end QueryTree.Sql
