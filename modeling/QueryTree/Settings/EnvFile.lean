import QueryTree.Bindings
import QueryTree.Text.Blank
import QueryTree.Text.LineBreak

/-!
# QueryTree.Settings.EnvFile

Files of variables.  A line names a variable and gives it a value:

```
export NAME = value   # remark
```

The word `export` and the remark may be missing, and so may the equals sign, in
which case the variable has no value.  A value in quotes may span lines and hold
escapes; a bare one ends at the end of the line or before a remark.  A line that
is none of this is passed over.

In a value, `${NAME}` stands for the value of another variable and
`${NAME:-default}` for that or, if there is none, for the default.  Variables set
further up in the file come before those of the surroundings.

* `EnvFile.read` — the variables of a file, in the order in which they are first set.
-/

namespace QueryTree.EnvFile

/-- Variables with their values, if they have one. -/
abbrev Variables := Bindings (Option String)

/-- The text of a file without the mark of its byte order, and with line feeds as line ends. -/
def normalize (cs : List Char) : List Char :=
  Text.withLineFeeds (if cs.head? == some '\uFEFF' then cs.tail else cs)

/-- White space within a line. -/
def isSpace (c : Char) : Bool := Text.isBlank c && c != '\n' && c != '\r'

/-- Drops white space within a line. -/
def skipSpace (cs : List Char) : List Char := cs.dropWhile isSpace

/-- Drops the rest of the line with its end. -/
def skipLine (cs : List Char) : List Char := (cs.dropWhile (· != '\n')).drop 1

/-- What follows a word at the start of a text. -/
def afterWord? : List Char → List Char → Option (List Char)
  | [], cs => some cs
  | w :: ws, c :: cs => if w = c then afterWord? ws cs else none
  | _ :: _, [] => none

/-- Drops the word `export` and the white space after it, if both are there. -/
def skipExport (cs : List Char) : List Char :=
  match afterWord? "export".toList cs with
  | some (c :: rest) => if isSpace c then skipSpace rest else cs
  | _ => cs

/-- Whether a character may stand in a bare name. -/
def isNameChar (c : Char) : Bool := c != '=' && c != '#' && !Text.isBlank c

/-- The name at the start of a line, bare or in single quotes, with what follows it.  The outer
option is none if there should be a name and there is not; the inner one if a remark starts here. -/
def name? : List Char → Option (Option String × List Char)
  | '#' :: rest => some (none, '#' :: rest)
  | '\'' :: rest =>
    match rest.takeWhile (· != '\''), rest.dropWhile (· != '\'') with
    | [], _ => none
    | _, [] => none
    | name, _ :: rest => some (some (String.ofList name), rest)
  | cs =>
    match cs.takeWhile isNameChar with
    | [] => none
    | name => some (some (String.ofList name), cs.dropWhile isNameChar)

/-- The text up to the closing quote with what follows it.  A character after a backslash does not
close. -/
def untilQuote (quote : Char) : List Char → Option (List Char × List Char)
  | [] => none
  | '\\' :: c :: rest => (untilQuote quote rest).map fun (body, rest) => ('\\' :: c :: body, rest)
  | c :: rest =>
    if c = quote then some ([], rest)
    else (untilQuote quote rest).map fun (body, rest) => (c :: body, rest)

/-- The characters that a backslash stands before in single quotes, each with its meaning. -/
def singleEscapes : List (Char × Char) := [('\\', '\\'), ('\'', '\'')]

/-- The characters that a backslash stands before in double quotes, each with its meaning. -/
def doubleEscapes : List (Char × Char) :=
  [('\\', '\\'), ('\'', '\''), ('"', '"'), ('a', '\x07'), ('b', '\x08'), ('f', '\x0c'), ('n', '\n'),
    ('r', '\r'), ('t', '\t'), ('v', '\x0b')]

/-- Replaces escapes by what they mean; a backslash before anything else stays. -/
def unescape (escapes : List (Char × Char)) : List Char → List Char
  | [] => []
  | [c] => [c]
  | c :: d :: rest =>
    if c = '\\' then
      match escapes.find? fun e => e.1 == d with
      | some (_, meaning) => meaning :: unescape escapes rest
      | none => c :: unescape escapes (d :: rest)
    else c :: unescape escapes (d :: rest)

/-- A bare value: it ends before white space that is followed by a number sign. -/
def bareValue : List Char → List Char
  | [] => []
  | c :: rest =>
    if Text.isBlank c && (rest.dropWhile Text.isBlank).head? == some '#' then []
    else c :: bareValue rest

/-- The value after an equals sign, with what follows it; none if its quote is not closed.  White space
before it is not part of it, but a remark may follow that at once. -/
def value? (cs : List Char) : Option (List Char × List Char) :=
  match skipSpace cs with
  | '\'' :: rest => (untilQuote '\'' rest).map fun (body, rest) => (unescape singleEscapes body, rest)
  | '"' :: rest => (untilQuote '"' rest).map fun (body, rest) => (unescape doubleEscapes body, rest)
  | _ => some (Text.trim (bareValue (cs.takeWhile (· != '\n'))), cs.dropWhile (· != '\n'))

/-- Drops a remark, if one starts after white space, and the end of the line; none if anything else
stands on the line. -/
def lineEnd? (cs : List Char) : Option (List Char) :=
  let rest :=
    match skipSpace cs with
    | '#' :: rest => rest.dropWhile (· != '\n')
    | rest => rest
  match rest with
  | [] => some []
  | '\n' :: rest => some rest
  | _ => none

/-- One line: its variable, if it sets one, and what follows it.  On a line that cannot be read, what
follows starts after the line in which reading stopped. -/
def line (cs : List Char) : Option (String × Option String) × List Char :=
  let start := skipExport cs
  match name? start with
  | none => (none, skipLine start)
  | some (name, rest) =>
    match skipSpace rest with
    | '=' :: rest =>
      match value? rest with
      | none => (none, skipLine rest)
      | some (value, rest) =>
        match lineEnd? rest with
        | none => (none, skipLine rest)
        | some rest => (name.map fun n => (n, some (String.ofList value)), rest)
    | rest =>
      match lineEnd? rest with
      | none => (none, skipLine rest)
      | some rest => (name.map fun n => (n, none), rest)

/-- The variables of at most `fuel` lines. -/
def lines : Nat → List Char → List (String × Option String)
  | 0, _ => []
  | fuel + 1, cs =>
    match cs.dropWhile Text.isBlank with
    | [] => []
    | cs =>
      let (binding, rest) := line cs
      binding.toList ++ lines fuel rest

/-! ## references to other variables -/

/-- A piece of a value: text, or a reference to a variable with a default. -/
inductive Piece where
  /-- A character that stands for itself. -/
  | literal (c : Char)
  /-- A reference. -/
  | reference (name : String) (default : String)

/-- The reference after a dollar sign, with what follows it. -/
def reference? : List Char → Option (Piece × List Char)
  | '\x7b' :: rest =>
    let name := rest.takeWhile fun c => c != '\x7d' && c != ':'
    match rest.dropWhile fun c => c != '\x7d' && c != ':' with
    | '\x7d' :: rest => some (.reference (String.ofList name) "", rest)
    | ':' :: '-' :: rest =>
      let default := rest.takeWhile (· != '\x7d')
      match rest.dropWhile (· != '\x7d') with
      | '\x7d' :: rest => some (.reference (String.ofList name) (String.ofList default), rest)
      | _ => none
    | _ => none
  | _ => none

/-- The pieces of a value, at most `fuel` of them. -/
def pieces : Nat → List Char → List Piece
  | 0, _ => []
  | _, [] => []
  | fuel + 1, c :: rest =>
    if c = '$' then
      match reference? rest with
      | some (piece, rest) => piece :: pieces fuel rest
      | none => .literal c :: pieces fuel rest
    else .literal c :: pieces fuel rest

/-- The text of a piece. -/
def Piece.resolve (known surroundings : Variables) : Piece → String
  | .literal c => String.singleton c
  | .reference name default =>
    match (known.find? name).or (surroundings.find? name) with
    | none => default
    | some none => ""
    | some (some value) => value

/-- A value with its references replaced. -/
def expand (known surroundings : Variables) (value : String) : String :=
  let cs := value.toList
  String.join ((pieces cs.length cs).map (Piece.resolve known surroundings))

/-- Replaces the references in all values, from the first line to the last. -/
def expandAll (surroundings : Variables) : Variables → List (String × Option String) → Variables
  | known, [] => known
  | known, (name, value) :: rest =>
    expandAll surroundings (known.set name (value.map (expand known surroundings))) rest

/-- The variables of a file, given those of the surroundings.  Of several lines that set a variable,
the last counts. -/
def read (surroundings : Variables) (file : String) : Variables :=
  let cs := normalize file.toList
  expandAll surroundings [] (lines (cs.length + 1) cs)

end QueryTree.EnvFile
