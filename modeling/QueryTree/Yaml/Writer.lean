import QueryTree.Document.Basic
import QueryTree.Yaml.Scalar

/-!
# QueryTree.Yaml.Writer

Documents as YAML in block style.  The entries of a mapping stand below each
other, two columns further in than the mapping around them; a sequence inside a
mapping is not indented, and its dashes take the two columns of its elements.
-/

namespace QueryTree.Yaml

/-- A floating-point number: an exponent needs a point before it, and the words for infinities and for no
number start with one. -/
def floatChars (x : Float) : List Char :=
  match Decimal.Parts.ofFloat x with
  | .nan => ".nan".toList
  | .infinity negative => (if negative then ['-'] else []) ++ ".inf".toList
  | .finite _ _ =>
    let cs := Decimal.floatChars x
    if cs.contains '.' then cs
    else cs.takeWhile (· != 'e') ++ (if cs.contains 'e' then ['.', '0'] else []) ++ cs.dropWhile (· != 'e')

/-- Whether a key can stand before its colon on one line: not empty, without a break, and short. -/
def isSimpleKey (cs : List Char) : Bool :=
  !cs.isEmpty && !cs.any isBreak && cs.length < 123

/-- Where the text of a collection starts. -/
inductive Place where
  /-- On a new line, below a key. -/
  | below
  /-- On the line of a dash or of a lone colon. -/
  | beside
deriving DecidableEq, Repr

mutual

/-- A value after a key, a dash or a lone colon that stands in a collection at `indent` and ends before
`column`. -/
def valueChars (place : Place) (indent column : Nat) : Document → List Char
  | .null => " null".toList
  | .bool b => if b then " true".toList else " false".toList
  | .int n => ' ' :: Decimal.intChars n
  | .float x => ' ' :: floatChars x
  | .text s => ' ' :: textChars (indent + 2) (column + 1) s.toList
  | .list [] => " []".toList
  | .map [] => " \x7b\x7d".toList
  | .list (d :: ds) =>
    match place with
    | .below => newLine indent ++ itemsChars indent (d :: ds)
    | .beside => ' ' :: itemsChars (indent + 2) (d :: ds)
  | .map (e :: es) =>
    match place with
    | .below => newLine (indent + 2) ++ entriesChars (indent + 2) (e :: es)
    | .beside => ' ' :: entriesChars (indent + 2) (e :: es)

/-- The items of a sequence at `indent`, the first where the line stands. -/
def itemsChars (indent : Nat) : List Document → List Char
  | [] => []
  | d :: ds =>
    '-' :: valueChars .beside indent (indent + 1) d ++
      (if ds.isEmpty then [] else newLine indent) ++ itemsChars indent ds

/-- The entries of a mapping at `indent`, the first where the line stands. -/
def entriesChars (indent : Nat) : List (String × Document) → List Char
  | [] => []
  | (k, d) :: es =>
    (if isSimpleKey k.toList then
      let key := keyChars k.toList
      key ++ ':' :: valueChars .below indent (indent + key.length + 1) d
    else
      '?' :: ' ' :: textChars (indent + 2) (indent + 2) k.toList ++ newLine indent ++
        ':' :: valueChars .beside indent (indent + 1) d) ++
      (if es.isEmpty then [] else newLine indent) ++ entriesChars indent es

end

/-- A document; one that is no mapping stands on a line as a value does. -/
def chars : Document → List Char
  | .map (e :: es) => entriesChars 0 (e :: es) ++ ['\n']
  | .list (d :: ds) => itemsChars 0 (d :: ds) ++ ['\n']
  | d => (valueChars .beside 0 0 d).drop 1 ++ ['\n']

/-- A document as YAML text. -/
def write (d : Document) : String := String.ofList (chars d)

end QueryTree.Yaml
