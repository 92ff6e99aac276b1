/-!
# QueryTree.Sql.Draft

Texts while they are laid out.

Lines are moved in by putting blanks before them, and what is too wide for a page is
spread over lines.  A line feed between quotes starts no line of the layout: until all
is laid out a marker stands for it, as wide as its spelling, and `Draft.settled` puts
the line feed back.  The marker is an ordinary word, so a query that holds this word
gets a line feed for it, too.
-/

namespace QueryTree.Sql

/-- A text that is being laid out. -/
abbrev Draft := List Char

namespace Draft

/-- A text as it stands. -/
def ofString (s : String) : Draft := s.toList

/-- The word that stands for a line feed between quotes. -/
def marker : Draft := "__SQLGLOT__LB__".toList

/-- A text between quotes, with markers for its line feeds. -/
def marked (ds : Draft) : Draft := ds.flatMap fun c => if c = '\n' then marker else [c]

/-- A text without its first `skipped` characters, with line feeds for the markers after them. -/
def settledFrom : Nat → Draft → Draft
  | _, [] => []
  | skipped + 1, _ :: ds => settledFrom skipped ds
  | 0, c :: ds =>
    if marker.isPrefixOf (c :: ds) then '\n' :: settledFrom (marker.length - 1) ds
    else c :: settledFrom 0 ds

/-- A text that is laid out, with line feeds for its markers. -/
def settled (ds : Draft) : Draft := settledFrom 0 ds

/-- A line end of the layout. -/
def newline : Draft := ['\n']

/-- The blanks before every line that belongs to the line above. -/
def indentation : Draft := [' ', ' ']

/-- A text with blanks put after every line end. -/
def indentRest (ds : Draft) : Draft :=
  ds.flatMap fun c => if c = '\n' then newline ++ indentation else [c]

/-- A text with blanks put before every line. -/
def indent (ds : Draft) : Draft := if ds.isEmpty then [] else indentation ++ indentRest ds

/-- A text with blanks put before every line but the first and the last. -/
def indentInner : Draft → Draft
  | [] => []
  | c :: ds =>
    if c = '\n' && ds.contains '\n' then newline ++ indentation ++ indentInner ds
    else c :: indentInner ds

/-- Several texts with another between each two. -/
def joined (separator : String) (dss : List Draft) : Draft := (ofString separator).intercalate dss

/-- The sum of the widths of several texts. -/
def width (dss : List Draft) : Nat := dss.foldl (fun n ds => n + ds.length) 0

/-- The width of a page. -/
def pageWidth : Nat := 80

/-- Whether several texts are too wide for a page. -/
def tooWide (dss : List Draft) : Bool := pageWidth < width dss

end Draft

end QueryTree.Sql
