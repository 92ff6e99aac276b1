import QueryTree.Sql.Source

/-!
# QueryTree.Command.Language

The languages in which a run can be given queries.

A run does not look into a query.  It asks for the dialect that the settings name, for
the statements of a text, and for the objects that stand for them, which it can capture.

* `Language` — what a run asks for (`parse_sql`);
* `Sql.language` — the query language of this library.
-/

namespace QueryTree

/-- A query language. -/
structure Language where
  /-- Its dialects. -/
  Dialect : Type
  /-- Its statements. -/
  Statement : Type
  /-- The dialect with a name, and the one for no name. -/
  dialect? : Option String → Option Dialect
  /-- Reads the statements of a text. -/
  read : Dialect → String → Except Sql.SyntaxError (List Statement)
  /-- The graph of several statements, and its root; the texts in it are laid out over several lines
  or not. -/
  graph : Bool → Dialect → List Statement → Graph × ObjectId

/-- The query language of this library. -/
def Sql.language : Language where
  Dialect := Sql.Dialect
  Statement := Sql.Select
  dialect? := Sql.Dialect.ofName?
  read d text := (Sql.readAll d text).mapError Sql.Flaw.report
  graph pretty d queries := Sql.graph ⟨pretty, d⟩ queries

end QueryTree
