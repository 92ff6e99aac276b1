import QueryTree.Decimal.Notation
import QueryTree.Json.Writer

/-!
# QueryTree.Page.Part

The pieces a page is made of.  Markup is the page's own; whatever comes from a
tree is put in as character data or as a script literal, and each of the two has
its own way of keeping foreign text from being read as markup:

* character data has `&`, `<`, `>` and both quotes replaced by references;
* a script literal is a JSON string of ASCII characters only, in which `<`, `>`,
  `&` and the apostrophe are written by their code.
-/

namespace QueryTree.Page

/-- A piece of a page. -/
inductive Part where
  /-- Text of the page itself. -/
  | markup (s : String)
  /-- A number. -/
  | number (n : Nat)
  /-- Foreign text between tags. -/
  | data (s : String)
  /-- Foreign text as a string of a script. -/
  | literal (s : String)

/-- A character between tags. -/
def dataChar (c : Char) : List Char :=
  match c with
  | '&' => "&amp;".toList
  | '<' => "&lt;".toList
  | '>' => "&gt;".toList
  | '\'' => "&#39;".toList
  | '"' => "&#34;".toList
  | _ => [c]

/-- A code of sixteen bits as a JSON escape. -/
def codeEscape (n : Nat) : List Char := '\\' :: 'u' :: Text.hex 4 n

/-- A character by its code, as a pair of surrogates beyond the first plane. -/
def codeEscapes (n : Nat) : List Char :=
  if n < 0x10000 then codeEscape n
  else codeEscape (0xD800 + (n - 0x10000) / 0x400) ++ codeEscape (0xDC00 + (n - 0x10000) % 0x400)

/-- The characters that a script literal must not hold although JSON allows them. -/
def isActive (c : Char) : Bool := c = '<' || c = '>' || c = '&' || c = '\''

/-- A character of a script literal. -/
def literalChar (c : Char) : List Char :=
  match Json.letterEscape? c with
  | some e => ['\\', e]
  | none =>
    if isActive c || c.toNat < 0x20 || 0x7E < c.toNat then codeEscapes c.toNat else [c]

/-- The characters of a piece. -/
def Part.chars : Part → List Char
  | .markup s => s.toList
  | .number n => Decimal.digitChars n
  | .data s => s.toList.flatMap dataChar
  | .literal s => '"' :: s.toList.flatMap literalChar ++ ['"']

end QueryTree.Page
