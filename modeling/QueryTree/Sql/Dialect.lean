import QueryTree.Sql.Reserved

/-!
# QueryTree.Sql.Dialect

The dialects of the query language.  They differ in the quotes around strings and
names, in what a backslash means between quotes, in the names that are always
quoted, and in what a division by zero gives.
-/

namespace QueryTree.Sql

/-- A dialect of the query language. -/
inductive Dialect where
  /-- Strings in apostrophes, names in double quotes. -/
  | generic
  /-- Strings in apostrophes or double quotes, names in backticks. -/
  | mysql
deriving DecidableEq, Repr, Inhabited

/-- How a text in quotes is read. -/
structure Quoting where
  /-- The quote at its end. -/
  quote : Char
  /-- The characters that can take away the meaning of the one after them. -/
  escapes : List Char
  /-- The characters that stand for another one after a backslash, each with its meaning. -/
  sequences : List (Char × Char)
  /-- The characters before which a backslash stays.  If there are none, it stays before all. -/
  keepers : List Char

namespace Dialect

/-- The dialect with a given name; no name, or an empty one, is the generic dialect. -/
def ofName? : Option String → Option Dialect
  | none => some .generic
  | some name =>
    if name.isEmpty then some .generic else if name == "mysql" then some .mysql else none

/-- The quote around names. -/
def nameQuote : Dialect → Char
  | .generic => '"'
  | .mysql => '\x60'

/-- The quotes around strings. -/
def stringQuotes : Dialect → List Char
  | .generic => ['\'']
  | .mysql => ['\'', '"']

/-- The characters that stand for another one after a backslash, each with its meaning. -/
def sequences : Dialect → List (Char × Char)
  | .generic => []
  | .mysql =>
    [('0', '\x00'), ('b', '\x08'), ('n', '\n'), ('r', '\r'), ('t', '\t'), ('Z', '\x1a'),
      ('\\', '\\')]

/-- How a string that starts with a given quote is read. -/
def stringQuoting (d : Dialect) (quote : Char) : Quoting :=
  match d with
  | .generic => ⟨quote, d.stringQuotes, d.sequences, []⟩
  | .mysql =>
    ⟨quote, d.stringQuotes ++ ['\\'], d.sequences, ['0', 'b', 'n', 'r', 't', 'Z', '%', '_']⟩

/-- How a quoted name is read: only its quote is escaped, by another one. -/
def nameQuoting (d : Dialect) : Quoting := ⟨d.nameQuote, [d.nameQuote], [], []⟩

/-- Whether a name is written in quotes even if it was read without them. -/
def isReserved (d : Dialect) (name : String) : Bool :=
  match d with
  | .generic => false
  | .mysql => Reserved.contains name

/-- Whether a comparison binds more tightly than a test for null. -/
def testsLoosely : Dialect → Bool
  | .generic => false
  | .mysql => true

/-- Whether a string after a selected expression is its name. -/
def namesItemsByStrings : Dialect → Bool
  | .generic => false
  | .mysql => true

/-- Whether a name can start with a digit. -/
def namesStartWithDigits : Dialect → Bool
  | .generic => false
  | .mysql => true

/-- Whether a division by zero gives null. -/
def dividesSafely : Dialect → Bool
  | .generic => false
  | .mysql => true

end Dialect

end QueryTree.Sql
