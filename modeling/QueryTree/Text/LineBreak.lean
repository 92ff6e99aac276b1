/-!
# QueryTree.Text.LineBreak

Cutting a text into lines.  A text is a list of characters here and wherever it
is taken apart; `String` is only its packed form.

Ten characters end a line, and a carriage return directly followed by a line
feed ends one line, not two.  A break at the very end of a text opens no further
line, so the empty text has no line at all.

* `lines` — all lines, without their breaks (`splitlines`);
* `firstLine` — the first line that is not empty, if there is one (`first_line`);
* `withLineFeeds` — a text whose carriage returns have become line feeds.
-/

namespace QueryTree.Text

/-- The characters that end a line. -/
def isLineBreak (c : Char) : Bool :=
  [0x0A, 0x0B, 0x0C, 0x0D, 0x1C, 0x1D, 0x1E, 0x85, 0x2028, 0x2029].contains c.toNat

/-- The lines of a text, without their breaks. -/
def lines : List Char → List (List Char)
  | [] => []
  | '\r' :: '\n' :: rest => [] :: lines rest
  | c :: rest =>
    if isLineBreak c then [] :: lines rest
    else
      match lines rest with
      | [] => [[c]]
      | l :: ls => (c :: l) :: ls

/-- The first line of a text that is not empty. -/
def firstLine (cs : List Char) : Option (List Char) :=
  (lines cs).find? fun l => !l.isEmpty

/-- A text in which line feeds stand for carriage returns, alone or before a line feed. -/
def withLineFeeds : List Char → List Char
  | [] => []
  | '\r' :: '\n' :: rest => '\n' :: withLineFeeds rest
  | c :: rest => (if c = '\r' then '\n' else c) :: withLineFeeds rest

end QueryTree.Text
