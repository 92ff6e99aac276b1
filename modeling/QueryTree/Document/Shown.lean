import QueryTree.Document.Basic
import QueryTree.Text.Quoted

/-!
# QueryTree.Document.Shown

Documents as messages show them: texts in quotes, collections in brackets and braces.
-/

namespace QueryTree.Document

mutual

/-- A document as messages show it. -/
def shownChars : Document → List Char
  | .null => "None".toList
  | .bool b => (if b then "True" else "False").toList
  | .int n => Decimal.intChars n
  | .float x => Decimal.floatChars x
  | .text s => Text.quoted s.toList
  | .list items => '[' :: shownItems items ++ [']']
  | .map entries => '\x7b' :: shownEntries entries ++ ['\x7d']

/-- The items of a sequence, with commas between them. -/
def shownItems : List Document → List Char
  | [] => []
  | [d] => shownChars d
  | d :: ds => shownChars d ++ ',' :: ' ' :: shownItems ds

/-- The entries of a mapping, with commas between them. -/
def shownEntries : List (String × Document) → List Char
  | [] => []
  | [(k, d)] => Text.quoted k.toList ++ ':' :: ' ' :: shownChars d
  | (k, d) :: es => Text.quoted k.toList ++ ':' :: ' ' :: shownChars d ++ ',' :: ' ' :: shownEntries es

end

/-- A document as text in messages. -/
def shown (d : Document) : String := String.ofList (shownChars d)

end QueryTree.Document
