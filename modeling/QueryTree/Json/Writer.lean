import QueryTree.Document.Basic
import QueryTree.Text.Hex

/-!
# QueryTree.Json.Writer

Documents as indented JSON: two blanks a level, one item a line, `[]` and `\x7b\x7d`
for what is empty, no line feed at the end.  Texts stay readable: only quotes,
backslashes and control characters are escaped.
-/

namespace QueryTree.Json

/-- The escapes that JSON names by a letter. -/
def letterEscape? (c : Char) : Option Char :=
  match c with
  | '"' => some '"'
  | '\\' => some '\\'
  | '\n' => some 'n'
  | '\r' => some 'r'
  | '\t' => some 't'
  | '\x08' => some 'b'
  | '\x0c' => some 'f'
  | _ => none

/-- One character of a string. -/
def charChars (c : Char) : List Char :=
  match letterEscape? c with
  | some e => ['\\', e]
  | none => if c.toNat < 0x20 then '\\' :: 'u' :: Text.hex 4 c.toNat else [c]

/-- A string in its quotes. -/
def stringChars (s : String) : List Char :=
  '"' :: s.toList.flatMap charChars ++ ['"']

/-- A floating-point number; JSON has no word for infinities and no number, so the usual ones are used. -/
def floatChars (x : Float) : List Char :=
  match Decimal.Parts.ofFloat x with
  | .nan => "NaN".toList
  | .infinity negative => (if negative then ['-'] else []) ++ "Infinity".toList
  | .finite _ _ => Decimal.floatChars x

/-- A new line at a level of nesting. -/
def newLine (level : Nat) : List Char :=
  '\n' :: List.replicate (2 * level) ' '

mutual

/-- A document at a level of nesting. -/
def chars (level : Nat) : Document → List Char
  | .null => "null".toList
  | .bool b => if b then "true".toList else "false".toList
  | .int n => Decimal.intChars n
  | .float x => floatChars x
  | .text s => stringChars s
  | .list [] => ['[', ']']
  | .list (d :: ds) =>
    '[' :: newLine (level + 1) ++ chars (level + 1) d ++ itemsChars (level + 1) ds ++
      newLine level ++ [']']
  | .map [] => ['\x7b', '\x7d']
  | .map ((k, d) :: es) =>
    '\x7b' :: newLine (level + 1) ++ stringChars k ++ [':', ' '] ++ chars (level + 1) d ++
      entriesChars (level + 1) es ++ newLine level ++ ['\x7d']

/-- The items after the first, each after a comma on a line of its own. -/
def itemsChars (level : Nat) : List Document → List Char
  | [] => []
  | d :: ds => ',' :: newLine level ++ chars level d ++ itemsChars level ds

/-- The entries after the first, each after a comma on a line of its own. -/
def entriesChars (level : Nat) : List (String × Document) → List Char
  | [] => []
  | (k, d) :: es =>
    ',' :: newLine level ++ stringChars k ++ [':', ' '] ++ chars level d ++ entriesChars level es

end

/-- A document as JSON text. -/
def write (d : Document) : String := String.ofList (chars 0 d)

end QueryTree.Json
