import QueryTree.Settings.Basic
import QueryTree.Settings.EnvFile
import QueryTree.Text.LowerCase

/-!
# QueryTree.Settings.Source

Where settings come from (`load_settings`): values given outright, variables of the
environment, a file of variables, and the defaults, in this order.  Variables carry a
prefix, and all names ignore case.
-/

namespace QueryTree.Settings

/-- The start of the names of all variables. -/
def variableStem : String := "sql_parse_tree_"

/-- What the settings are made from. -/
structure Source where
  /-- Values given outright, by the name of a field. -/
  given : List (String × Document)
  /-- The variables of the environment. -/
  environment : List (String × String)
  /-- The text of the file of variables, if there is one. -/
  file : Option String

namespace Source

/-- A source without anything. -/
def empty : Source := ⟨[], [], none⟩

/-- A name in small letters. -/
def fold (name : String) : String := String.ofList (Text.lower name.toList)

/-- The first entry whose name is the given one, up to case. -/
def first? {α : Type} (name : String) (entries : List (String × α)) : Option α :=
  (entries.find? fun e => fold e.1 == name).map Prod.snd

/-- The last entry whose name is the given one, up to case. -/
def last? {α : Type} (name : String) (entries : List (String × α)) : Option α :=
  first? name entries.reverse

/-- The variables of the file. -/
def fileVariables (s : Source) : EnvFile.Variables :=
  match s.file with
  | none => []
  | some text => EnvFile.read (s.environment.map fun (k, v) => (k, some v)) text

/-- What is given for a field.  Of values given outright under names that differ only in case the first
counts, of variables the last. -/
def value? (s : Source) (field : Field) : Option Document :=
  let variableName := variableStem ++ field.name
  let fromFile := (last? variableName s.fileVariables).join.map .text
  let fromEnvironment := (last? variableName s.environment).map .text
  ((first? field.name s.given).or fromEnvironment).or fromFile

end Source

/-- Settings from a source. -/
def ofSource (s : Source) : Except (List Fault) Settings := load s.value?

end QueryTree.Settings
