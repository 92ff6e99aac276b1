import QueryTree.Document.Shown

/-!
# QueryTree.Sql.Error

What can be wrong with a query, and how it is told.

An error that belongs to a place is told as `line,column: description`.  The details
of an error are plain documents, since whoever reports it may leave some of them out;
what is left out shows as `None`.

* `describe` — the errors of a report, one line each (`_describe_errors`);
* `SyntaxError` — a query that was not read (`SqlSyntaxError`).
-/

namespace QueryTree.Sql

/-- The place of a character, counted from one. -/
structure Position where
  /-- The line. -/
  line : Nat
  /-- The column. -/
  column : Nat
deriving DecidableEq, Repr

instance : Inhabited Position := ⟨⟨1, 1⟩⟩

/-- The details of one error. -/
structure Detail where
  /-- The line. -/
  line : Document
  /-- The column. -/
  column : Document
  /-- What is wrong. -/
  description : Document

/-- A detail as it stands: a text without quotes. -/
def detailText : Document → String
  | .text s => s
  | d => d.shown

/-- One error as a line of text. -/
def Detail.text (d : Detail) : String :=
  detailText d.line ++ "," ++ detailText d.column ++ ": " ++ detailText d.description

/-- The errors in a report: one for each detail, or the message alone if there are no details. -/
def describe (message : String) : List Detail → List String
  | [] => [message]
  | ds => ds.map Detail.text

/-- The errors for which a text was rejected. -/
structure SyntaxError where
  /-- The errors, each as a line of text. -/
  errors : List String
deriving DecidableEq, Repr

/-- All errors in one message. -/
def SyntaxError.message (e : SyntaxError) : String :=
  if e.errors.isEmpty then "SQL could not be parsed" else "; ".intercalate e.errors

/-- Why a text is not a sequence of queries. -/
inductive Flaw where
  /-- A string or a quoted name is not closed; `context` is the end of the text. -/
  | openQuote (context : String)
  /-- There is no statement. -/
  | noStatement
  /-- A closing parenthesis is missing. -/
  | unclosed (place : Position)
  /-- Something is left over after a complete statement, or is missing from it. -/
  | unexpected (place : Position)
  /-- A function has more arguments than it takes. -/
  | needlessArguments (given most : Nat) (place : Position)
deriving DecidableEq, Repr

/-- The detail of an error at a place. -/
def detailAt (p : Position) (description : String) : Detail :=
  ⟨.int p.line, .int p.column, .text description⟩

/-- An error as it is reported. -/
def Flaw.report : Flaw → SyntaxError
  | .openQuote context => ⟨["Error tokenizing '" ++ context ++ "'"]⟩
  | .noStatement => ⟨describe "" [detailAt ⟨1, 1⟩ "No SQL statement found"]⟩
  | .unclosed p => ⟨describe "" [detailAt p "Expecting )"]⟩
  | .unexpected p => ⟨describe "" [detailAt p "Invalid expression / Unexpected token"]⟩
  | .needlessArguments given most p =>
    ⟨describe "" [detailAt p
      ("The number of provided arguments (" ++ toString given ++
        ") is greater than the maximum number of supported arguments (" ++ toString most ++ ")")]⟩

end QueryTree.Sql
