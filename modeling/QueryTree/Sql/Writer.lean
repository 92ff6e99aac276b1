import QueryTree.Sql.Dialect
import QueryTree.Sql.Draft
import QueryTree.Sql.Query
import QueryTree.Text.UpperCase

/-!
# QueryTree.Sql.Writer

Queries as text, on one line or laid out over several.

Laid out, every clause starts a line, and what belongs to it stands two blanks in.
Conditions, arguments and lists are spread over lines only if they are wider than the
page.  The text of a part is the same whether it is written alone or within the whole,
indentation aside.
-/

namespace QueryTree.Sql

open Draft (ofString newline indentation indentRest indentInner indent joined tooWide)

/-- How queries are written. -/
structure Style where
  /-- Whether they are laid out over several lines. -/
  pretty : Bool
  /-- The dialect, for quotes and escapes. -/
  dialect : Dialect
deriving DecidableEq, Repr

namespace Style

/-- What stands between the clauses of a query. -/
def clauseEnd (s : Style) : Draft := if s.pretty then newline else ofString " "

/-- Texts with commas between them, each on lines of its own if they are laid out. -/
def listed (s : Style) (dss : List Draft) : Draft :=
  if s.pretty then indent (joined ",\n" dss) else joined ", " dss

/-- A character between quotes: a quote is doubled. -/
def doubled (q c : Char) : List Char := if c = q then [q, q] else [c]

/-- A text between quotes; if it is laid out, its line feeds are kept apart from those of the
layout. -/
def inQuotes (s : Style) (q : Char) (body : Draft) : Draft :=
  q :: (if s.pretty then Draft.marked body else body) ++ [q]

/-- A name, in quotes if it was or if it has to be. -/
def name (s : Style) (n : Name) : Draft :=
  let q := s.dialect.nameQuote
  let body := n.text.toList.flatMap (doubled q)
  if n.quoted || s.dialect.isReserved n.text then s.inQuotes q body else body

/-- A character of a string: written as a sequence if the dialect has one for it. -/
def stringChar (s : Style) (c : Char) : Draft :=
  match s.dialect.sequences.find? fun e => e.2 == c with
  | some (letter, _) => ['\\', letter]
  | none => doubled '\'' c

/-- A string in apostrophes. -/
def string (s : Style) (text : String) : Draft :=
  s.inQuotes '\'' (text.toList.flatMap s.stringChar)

/-- Arguments in parentheses: each on lines of its own if they are laid out and too wide. -/
def arguments (s : Style) (dss : List Draft) : Draft :=
  if s.pretty && tooWide dss then ofString "(\n" ++ indent (joined ",\n" dss) ++ ofString "\n)"
  else ofString "(" ++ joined ", " dss ++ ofString ")"

/-- Texts with a comma and a blank after each but the last. -/
def commaEnded : List Draft → List Draft
  | [] => []
  | [ds] => [ds]
  | ds :: dss => (ds ++ ofString ", ") :: commaEnded dss

/-- A list of choices in parentheses.  If it is laid out, its inner lines are moved in, and if it is
too wide, commas counted, each choice stands on lines of its own. -/
def choices (s : Style) (dss : List Draft) : Draft :=
  let text :=
    if s.pretty && tooWide (commaEnded dss) then newline ++ joined ",\n" dss ++ newline
    else joined ", " dss
  ofString "(" ++ (if s.pretty then indentInner text else text) ++ ofString ")"

/-- Puts an operator before the first of several texts. -/
def withOperator (op : BinaryOperator) : List Draft → List Draft
  | [] => []
  | ds :: dss => (ofString op.spelling ++ ofString " " ++ ds) :: dss

/-- The parts of a condition: on one line if they fit, else each on lines of its own. -/
def connected (s : Style) (parts : List Draft) : Draft :=
  if s.pretty && tooWide parts then joined "\n" parts else joined " " parts

/-- Two operands with the operator between them. -/
def operation (op : BinaryOperator) (left right : Draft) : Draft :=
  left ++ ofString " " ++ ofString op.spelling ++ ofString " " ++ right

/-- An expression in parentheses, on lines of its own if it is laid out. -/
def parenthesized (s : Style) (text : Draft) : Draft :=
  if s.pretty then ofString "(\n" ++ indent text ++ ofString "\n)"
  else ofString "(" ++ text ++ ofString ")"

/-- A number with its sign changed; two signs are kept apart. -/
def negative (text : Draft) : Draft :=
  if text.head? = some '-' then ofString "- " ++ text else ofString "-" ++ text

/-- The name of a function over groups with some number of arguments: the least or greatest of
several values can be another function than that of several rows. -/
def aggregateName (d : Dialect) (a : Aggregate) (count : Nat) : String :=
  match d, a, decide (1 < count) with
  | .mysql, .min, true => "LEAST"
  | .mysql, .max, true => "GREATEST"
  | _, _, _ => a.spelling

/-- The name of a function with some number of arguments, in capitals. -/
def functionName (s : Style) (function : Function) (count : Nat) : Draft :=
  match function with
  | .aggregate a => ofString (aggregateName s.dialect a count)
  | .other n => Text.upper (if n.quoted then s.name n else n.text.toList)

mutual

/-- The parts of an expression: of a condition, from left to right, what its connectives connect, each
but the first after its connective; of anything else, all of it as one part. -/
def parts (s : Style) : Expr → List Draft
  | .number text => [ofString text]
  | .string text => [s.string text]
  | .null => [ofString "NULL"]
  | .bool b => [ofString (if b then "TRUE" else "FALSE")]
  | .star => [ofString "*"]
  | .column n none => [s.name n]
  | .column n (some t) => [s.name t ++ ofString "." ++ s.name n]
  | .allColumns t => [s.name t ++ ofString ".*"]
  | .binary .or l r => parts s l ++ withOperator .or (parts s r)
  | .binary .and l r => parts s l ++ withOperator .and (parts s r)
  | .binary op l r => [operation op (s.connected (parts s l)) (s.connected (parts s r))]
  | .not e => [ofString "NOT " ++ s.connected (parts s e)]
  | .negate e => [negative (s.connected (parts s e))]
  | .paren e => [s.parenthesized (s.connected (parts s e))]
  | .isNull e => [s.connected (parts s e) ++ ofString " IS NULL"]
  | .isIn e items => [s.connected (parts s e) ++ ofString " IN " ++ s.choices (texts s items)]
  | .between e low high =>
    [s.connected (parts s e) ++ ofString " BETWEEN " ++ s.connected (parts s low) ++
      ofString " AND " ++ s.connected (parts s high)]
  | .like negated e pattern =>
    [s.connected (parts s e) ++ ofString (if negated then " NOT LIKE " else " LIKE ") ++
      s.connected (parts s pattern)]
  | .call function arguments =>
    [s.functionName function arguments.length ++ s.arguments (texts s arguments)]

/-- The texts of several expressions. -/
def texts (s : Style) : List Expr → List Draft
  | [] => []
  | e :: es => s.connected (parts s e) :: texts s es

end

/-- The text of an expression. -/
def expr (s : Style) (e : Expr) : Draft := s.connected (s.parts e)

/-! ## clauses -/

/-- Another name, if there is one. -/
def otherName (s : Style) : Option Name → Draft
  | none => []
  | some n => ofString " AS " ++ s.name n

/-- A selected expression. -/
def item (s : Style) (i : Item) : Draft := s.expr i.expr ++ s.otherName i.otherName

/-- A table. -/
def table (s : Style) (t : Table) : Draft :=
  (match t.schema with
    | none => []
    | some n => s.name n ++ ofString ".") ++ s.name t.name ++ s.otherName t.otherName

/-- The first table. -/
def source (s : Style) (t : Table) : Draft := ofString "FROM " ++ s.table t

/-- The words that start a join. -/
def joinWords : JoinKind → String
  | .plain => "JOIN "
  | .inner => "INNER JOIN "
  | .left => "LEFT JOIN "
  | .right => "RIGHT JOIN "
  | .cross => "CROSS JOIN "

/-- Whether a join is written as one more table after a comma. -/
def isListed (j : Join) : Bool := j.kind == .plain && j.condition.isNone

/-- A joined table with its condition; a plain one without a condition is one more table. -/
def join (s : Style) (j : Join) : Draft :=
  ofString (if isListed j then ", " else joinWords j.kind) ++ s.table j.table ++
    (match j.condition with
      | none => []
      | some e =>
        if s.pretty then newline ++ indentation ++ ofString "ON " ++ indentRest (s.expr e)
        else ofString " ON " ++ s.expr e)

/-- A joined table after what comes before it. -/
def joinAfter (s : Style) (j : Join) : Draft :=
  if isListed j then s.join j else s.clauseEnd ++ s.join j

/-- A condition after its word. -/
def condition (s : Style) (word : String) (e : Expr) : Draft :=
  ofString word ++ s.clauseEnd ++ (if s.pretty then indent (s.expr e) else s.expr e)

/-- A list after its words. -/
def list (s : Style) (words : String) (dss : List Draft) : Draft :=
  ofString words ++ s.clauseEnd ++ s.listed dss

/-- An expression to order by. -/
def ordering (s : Style) (o : Ordering) : Draft :=
  s.expr o.expr ++
    (match o.direction with
      | none => []
      | some .ascending => ofString " ASC"
      | some .descending => ofString " DESC")

/-- The greatest number of rows. -/
def limit (n : String) : Draft := ofString "LIMIT " ++ ofString n

/-- By what rows are grouped. -/
def grouping (s : Style) (es : List Expr) : Draft := s.list "GROUP BY" (es.map s.expr)

/-- By what rows are ordered. -/
def orderings (s : Style) (os : List Ordering) : Draft := s.list "ORDER BY" (os.map s.ordering)

/-- A clause after what comes before it. -/
def clauseAfter {α : Type} (s : Style) (write : α → Draft) : Option α → Draft
  | none => []
  | some a => s.clauseEnd ++ write a

/-- A list that is a clause if it is not empty. -/
def clauseList? {α : Type} : List α → Option (List α)
  | [] => none
  | as => some as

/-- A selection. -/
def select (s : Style) (q : Select) : Draft :=
  s.list (if q.distinct then "SELECT DISTINCT" else "SELECT") (q.items.map s.item) ++
    s.clauseAfter s.source q.source ++
    q.joins.flatMap s.joinAfter ++
    s.clauseAfter (s.condition "WHERE") q.condition ++
    s.clauseAfter s.grouping (clauseList? q.grouping) ++
    s.clauseAfter (s.condition "HAVING") q.having ++
    s.clauseAfter s.orderings (clauseList? q.ordering) ++
    s.clauseAfter limit q.limit

/-- A text that is finished. -/
def finished (s : Style) (ds : Draft) : String :=
  String.ofList (if s.pretty then ds.settled else ds)

end Style

end QueryTree.Sql
