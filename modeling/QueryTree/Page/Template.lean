import QueryTree.Page.Event
import QueryTree.Page.Part
import QueryTree.Text.LowerCase

/-!
# QueryTree.Page.Template

The page that shows a tree: nested numbered lists that can be folded, a box with
the full text of every node that has more than one line, and a search over types
and texts.  The script of the page holds the type of every node in small letters
and its text, so that searching needs nothing but the page itself.

* `propertiesParts` — properties (`render_properties`);
* `parts` — the whole page.
-/

namespace QueryTree.Page

/-- Lines of the page itself, joined by line feeds. -/
def joinLines : List String → String
  | [] => ""
  | [l] => l
  | l :: ls => l ++ "\n" ++ joinLines ls

/-- The page up to the number of nodes. -/
def headLines : List String := [
  "<!DOCTYPE html>",
  "<html>",
  "<head>",
  "    <meta charset='utf-8' />",
  "    <title>SQL</title>",
  "    <style>",
  "        .detailText \x7b width: calc(100% - 50px); \x7d",
  "        .hide \x7b display: none; \x7d",
  "        .highlight \x7b background: yellow; \x7d",
  "        .toggle \x7b cursor: pointer; \x7d",
  "        .canHide \x7b \x7d",
  "    </style>",
  "    <script>",
  "    var count = "]

/-- The page from the number of nodes up to the types and texts. -/
def countLines : List String := [
  ";",
  "    var types = Array(count);",
  "    var texts = Array(count);",
  ""]

/-- The rest of the script, and the page up to the list of nodes. -/
def scriptLines : List String := [
  "",
  "    function toggleChildren(unique) \x7b",
  "        document.getElementById('chd_' + unique).classList.toggle('hide');",
  "    \x7d",
  "    function toggleDetail(unique) \x7b",
  "        document.getElementById('dtl_' + unique).classList.toggle('hide');",
  "    \x7d",
  "    function collapseExpandAll(forCollapse) \x7b",
  "        var elements = document.getElementsByClassName('canHide');",
  "        for (var i = 0; i < elements.length; i++) \x7b",
  "            if (forCollapse) \x7b",
  "                elements[i].classList.add('hide');",
  "            \x7d else \x7b",
  "                elements[i].classList.remove('hide');",
  "            \x7d",
  "        \x7d",
  "    \x7d",
  "    function highlight(prefix, unique) \x7b",
  "        var element = document.getElementById(prefix + '_' + unique);",
  "        element.classList.add('highlight');",
  "        while (element !== null) \x7b",
  "            if (element.classList.contains('canHide')) \x7b",
  "                element.classList.remove('hide');",
  "            \x7d",
  "            element = element.parentElement;",
  "        \x7d",
  "    \x7d",
  "    function doSearch() \x7b",
  "        var previous = Array.from(document.getElementsByClassName('highlight'));",
  "        for (var i = 0; i < previous.length; i++) \x7b",
  "            previous[i].classList.remove('highlight');",
  "        \x7d",
  "        var text = document.getElementById('txt_search').value;",
  "        if (!text) \x7b",
  "            return;",
  "        \x7d",
  "        text = text.toLowerCase();",
  "        for (var i = 0; i < count; i++) \x7b",
  "            if (types[i].startsWith(text)) \x7b",
  "                highlight('type', i);",
  "            \x7d",
  "            if (texts[i].toLowerCase().startsWith(text)) \x7b",
  "                highlight('text', i);",
  "            \x7d",
  "        \x7d",
  "    \x7d",
  "    </script>",
  "</head>",
  "<body>",
  "<input type='button' value='Collapse All' onClick='collapseExpandAll(true);' />",
  "<input type='button' value='Expand All' onClick='collapseExpandAll(false);' />",
  "<br />",
  "<input type='text' id='txt_search' onKeyUp='doSearch();' />",
  "<ol>",
  ""]

/-- A piece of the page itself that ends a line. -/
def line (s : String) : Part := .markup (s ++ "\n")

/-- The type and the text of a node, for the search. -/
def searchParts (v : View) : List Part :=
  [.markup "    types[", .number v.id, .markup "] = ",
    .literal (String.ofList (Text.lower v.typeName.toList)), line ";",
    .markup "    texts[", .number v.id, .markup "] = ", .literal v.text, line ";"]

mutual

/-- A property: its name, if it has one, and its value. -/
def propertyParts : Property → List Part
  | .mk name value =>
    line "<li>" ::
      (match name with
        | none => []
        | some n => [.data n, line ":"]) ++
      valueParts value ++ [line "</li>"]

/-- The value of a property; an absent one shows nothing. -/
def valueParts : PropertyValue → List Part
  | .absent => []
  | .text s => [.data s, line ""]
  | .list items => line "<ul>" :: propertiesParts items ++ [line "</ul>", line ""]
  | .other x => [.data x.kind, line ""]

/-- Several properties. -/
def propertiesParts : List Property → List Part
  | [] => []
  | p :: ps => propertyParts p ++ propertiesParts ps

end

/-- The properties of a node, if it has any list of them. -/
def listParts : Option (List Property) → List Part
  | none => [line ""]
  | some ps => line "<ul>" :: propertiesParts ps ++ [line "</ul>", line ""]

/-- The mark that folds the children of a node. -/
def foldParts (v : View) : List Part :=
  if v.hasChildren then
    [.markup "<span class='toggle' onClick='toggleChildren(", .number v.id, line ");'> +/- </span>"]
  else []

/-- The box with the full text of a node. -/
def detailParts (v : View) : List Part :=
  if v.hasDetail then
    [.markup " <span class='toggle' onClick='toggleDetail(", .number v.id, line ");'>...</span>",
      .markup "<div id='dtl_", .number v.id, line "' class='detailText hide canHide'>",
      .markup "<textarea class='detailText' id='txt_", .number v.id, .markup "' rows='", .number v.rows,
      line "' readonly></textarea>",
      line "<script type='text/javascript'>",
      .markup "document.getElementById('txt_", .number v.id, .markup "').value = texts[", .number v.id,
      line "];",
      line "</script>",
      line "</div>"]
  else []

/-- What an event adds to the page. -/
def eventParts : Event → List Part
  | .opened v =>
    line "<li>" :: foldParts v ++
      [.markup "<b id='type_", .number v.id, .markup "'>", .data v.typeName, line "</b>:",
        .markup "<span id='text_", .number v.id, .markup "'>", .data v.line, line "</span>"] ++
      detailParts v ++ listParts v.properties ++
      (if v.hasChildren then
        [.markup "<ol id='chd_", .number v.id, line "' class='hide canHide'>"]
      else [line "</li>"])
  | .closed _ => [line "</ol>", line "</li>"]

/-- The page of a tree, piece by piece. -/
def parts (t : Tree) : List Part :=
  let es := eventsOfTree t
  let views := openedViews es
  [.markup (joinLines headLines), .number views.length, .markup (joinLines countLines)] ++
    views.flatMap searchParts ++ [.markup (joinLines scriptLines)] ++ es.flatMap eventParts ++
    [.markup "</ol>\n</body>\n</html>"]

/-- The page of a tree. -/
def chars (t : Tree) : List Char := (parts t).flatMap Part.chars

/-- The page of a tree as text. -/
def write (t : Tree) : String := String.ofList (chars t)

end QueryTree.Page
