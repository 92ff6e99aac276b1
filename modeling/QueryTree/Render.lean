import QueryTree.Document.Assembly
import QueryTree.Document.Shown
import QueryTree.Json.Reader
import QueryTree.Json.Writer
import QueryTree.Outline
import QueryTree.Page.Template
import QueryTree.Tree.Decode
import QueryTree.Yaml.Writer

/-!
# QueryTree.Render

Trees in the four formats, and back from JSON.

Every format has limits on nesting beyond which it is given up.  They differ,
because they belong to different things: the writers limit the depth of a
document, while assembling a document, an outline or a page limits the nesting of
property lists.

* `toJson`, `toYaml`, `toHtml`, `toMarkdown` — one format each (`to_json`, `to_yaml`,
  `to_html`, `to_markdown`);
* `render` — the format and its settings as arguments (`render`);
* `ofJson` — reads what `toJson` writes (`from_json`).
-/

namespace QueryTree

namespace Limits

/-- The deepest document that is written as JSON. -/
def jsonDepth : Nat := 980

/-- The deepest document that is written as YAML. -/
def yamlDepth : Nat := 350

/-- The deepest nesting of property lists that is put into a document or an outline. -/
def listLevels : Nat := 980

/-- The deepest nesting of property lists that is put on a page. -/
def pageLevels : Nat := 300

/-- The deepest nesting of collections that is read from JSON. -/
def readDepth : Nat := 200

end Limits

namespace Tree

/-- A tree as JSON. -/
def toJson (t : Tree) : Except RenderError String :=
  if Limits.listLevels < t.propertyLevels then .error .exhausted
  else
    match Document.ofTree .json t with
    | .error e => .error e
    | .ok d => if Limits.jsonDepth < d.depth then .error (.tooDeepToSerialize .json) else .ok (Json.write d)

/-- The deepest nesting of a YAML document if nothing else is said. -/
def defaultCeiling : Int := 500

/-- A tree as YAML, with a ceiling on the depth of the document. -/
def toYaml (ceiling : Int) (t : Tree) : Except RenderError String :=
  match Document.ofTree (.yaml ceiling) t with
  | .error e => .error e
  | .ok d => if Limits.yamlDepth < d.depth then .error (.tooDeepToSerialize .yaml) else .ok (Yaml.write d)

/-- A tree as an HTML page. -/
def toHtml (t : Tree) : Except RenderError String :=
  if Limits.pageLevels < t.propertyLevels then .error .exhausted else .ok (Page.write t)

/-- A tree as a Markdown outline that shows at most `limit` characters of a text. -/
def toMarkdown (limit : Int) (t : Tree) : Except RenderError String :=
  if Limits.listLevels < t.propertyLevels then .error .exhausted else .ok (Outline.write limit t)

/-- Reads a tree from JSON. -/
def ofJson (s : String) : Except (List Decode.Fault) Tree :=
  match Json.read Limits.readDepth s.toList with
  | none => .error [⟨.invalidJson, []⟩]
  | some d => ofDocument d

end Tree

/-- What can be set for rendering. -/
structure RenderOptions where
  /-- The ceiling on the depth of a YAML document. -/
  ceiling : Int
  /-- The number of characters of a text that an outline shows. -/
  limit : Int

/-- A tree in a format. -/
def render (o : RenderOptions) (f : Format) (t : Tree) : Except RenderError String :=
  let out :=
    match f with
    | .json => t.toJson
    | .yaml => t.toYaml o.ceiling
    | .html => t.toHtml
    | .md => t.toMarkdown o.limit
  match out with
  | .error .exhausted => .error (.tooDeepToRender f)
  | out => out

/-- The format that is asked for by its name; everything else is no format. -/
def Format.ofDocument (d : Document) : Except RenderError Format :=
  match d with
  | .text s =>
    match ofName? s with
    | some f => .ok f
    | none => .error (.unknownFormat d.shown)
  | d => .error (.unknownFormat d.shown)

/-- A tree in the format that is asked for. -/
def renderAs (o : RenderOptions) (format : Document) (t : Tree) : Except RenderError String :=
  match Format.ofDocument format with
  | .error e => .error e
  | .ok f => render o f t

end QueryTree
