/-!
# QueryTree.Sql.Name

The names of columns, tables and functions.
-/

namespace QueryTree.Sql

/-- A name, and whether it was quoted. -/
structure Name where
  /-- The name without quotes. -/
  text : String
  /-- Whether it was quoted. -/
  quoted : Bool
deriving DecidableEq, Repr

end QueryTree.Sql
