/-!
# QueryTree.Format

The four formats a tree can be shown in (`OutputFormat`), and what can go wrong on the way
(`RenderDepthError`, `UnknownFormatError`).
-/

namespace QueryTree

/-- A format that a tree can be shown in. -/
inductive Format where
  /-- Indented JSON. -/
  | json
  /-- Block-style YAML without empty entries. -/
  | yaml
  /-- An interactive HTML page. -/
  | html
  /-- A Markdown outline. -/
  | md
deriving DecidableEq, Repr

namespace Format

/-- All formats. -/
def all : List Format := [.json, .yaml, .html, .md]

/-- The word by which a format is asked for; it is also the ending of its files. -/
def name : Format → String
  | .json => "json"
  | .yaml => "yaml"
  | .html => "html"
  | .md => "md"

/-- The name of a format in messages. -/
def title : Format → String
  | .json => "JSON"
  | .yaml => "YAML"
  | .html => "HTML"
  | .md => "MD"

/-- The format with a given name. -/
def ofName? (s : String) : Option Format := all.find? fun f => f.name == s

end Format

/-- Why a tree could not be shown. -/
inductive RenderError where
  /-- The document nests deeper than the ceiling that was set for it. -/
  | ceiling (limit : Int)
  /-- The finished document nests deeper than its format can be written. -/
  | tooDeepToSerialize (format : Format)
  /-- The tree nests deeper than it can be rendered. -/
  | tooDeepToRender (format : Format)
  /-- The nesting is too deep even to start; a renderer reports it as `tooDeepToRender`. -/
  | exhausted
  /-- There is no such format; `shown` is what was asked for, as messages show it. -/
  | unknownFormat (shown : String)
deriving DecidableEq, Repr

/-- The message of an error. -/
def RenderError.message : RenderError → String
  | .ceiling limit => "YAML document exceeds the maximum nesting depth of " ++ toString limit
  | .tooDeepToSerialize f => f.title ++ " document is nested too deeply to serialize"
  | .tooDeepToRender f => f.title ++ " document is nested too deeply to render"
  | .exhausted => ""
  | .unknownFormat shown => "Unknown format " ++ shown

end QueryTree
