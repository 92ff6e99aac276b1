import QueryTree.Document.Basic
import QueryTree.Json.Token

/-!
# QueryTree.Json.Reader

JSON as documents.  The reader is a machine over tokens: it keeps the collections
that are still open and what may come next, and each token moves it on.  Nothing
is read twice, and the nesting of the text is the height of the stack.

Collections with content may nest `limit` deep; an empty one may stand one deeper.
-/

namespace QueryTree.Json

/-- A collection that is still open, with what it holds so far, the last first. -/
inductive Open where
  /-- A sequence. -/
  | list (done : List Document)
  /-- A mapping, with the key whose value is being read. -/
  | map (done : List (String × Document)) (key : String)

/-- What may come next. -/
inductive Expect where
  /-- A value. -/
  | value
  /-- A value, or the end of a sequence that has none yet. -/
  | firstValue
  /-- A key. -/
  | key
  /-- A key, or the end of a mapping that has none yet. -/
  | firstKey
  /-- The colon after a key. -/
  | colon
  /-- A comma, or the end of the innermost collection. -/
  | next
  /-- Nothing: the document is complete. -/
  | done (d : Document)

/-- The machine: the open collections, the innermost first, and what may come next. -/
structure Reading where
  /-- The collections that are still open. -/
  stack : List Open
  /-- What may come next. -/
  expect : Expect

/-- A complete value goes into the innermost open collection, or is the document. -/
def deliver (d : Document) : List Open → Reading
  | [] => ⟨[], .done d⟩
  | .list done :: rest => ⟨.list (d :: done) :: rest, .next⟩
  | .map done key :: rest => ⟨.map ((key, d) :: done) key :: rest, .next⟩

/-- The start of a value. -/
def readValue (stack : List Open) : Token → Option Reading
  | .openList => some ⟨.list [] :: stack, .firstValue⟩
  | .openMap => some ⟨.map [] "" :: stack, .firstKey⟩
  | .text s => some (deliver (.text s) stack)
  | .int n => some (deliver (.int n) stack)
  | .float x => some (deliver (.float x) stack)
  | .bool b => some (deliver (.bool b) stack)
  | .null => some (deliver .null stack)
  | _ => none

/-- A key of the innermost mapping. -/
def readKey : List Open → Token → Option Reading
  | .map done _ :: rest, .text s => some ⟨.map done s :: rest, .colon⟩
  | _, _ => none

/-- The end of the innermost collection. -/
def close : List Open → Token → Option Reading
  | .list done :: rest, .closeList => some (deliver (.list done.reverse) rest)
  | .map done _ :: rest, .closeMap => some (deliver (.map done.reverse) rest)
  | _, _ => none

/-- Moves on by one token. -/
def Reading.step (limit : Nat) (r : Reading) (t : Token) : Option Reading :=
  match r.expect with
  | .value => readValue r.stack t
  | .firstValue =>
    match t with
    | .closeList => close r.stack t
    | _ => if r.stack.length ≤ limit then readValue r.stack t else none
  | .key => readKey r.stack t
  | .firstKey =>
    match t with
    | .closeMap => close r.stack t
    | _ => if r.stack.length ≤ limit then readKey r.stack t else none
  | .colon =>
    match t with
    | .colon => some ⟨r.stack, .value⟩
    | _ => none
  | .next =>
    match t, r.stack with
    | .comma, .list _ :: _ => some ⟨r.stack, .value⟩
    | .comma, .map _ _ :: _ => some ⟨r.stack, .key⟩
    | _, _ => close r.stack t
  | .done _ => none

/-- Moves on by several tokens. -/
def Reading.run (limit : Nat) (r : Reading) : List Token → Option Reading
  | [] => some r
  | t :: ts =>
    match r.step limit t with
    | none => none
    | some r' => r'.run limit ts

/-- Reads a document whole. -/
def read (limit : Nat) (cs : List Char) : Option Document :=
  match tokens cs with
  | none => none
  | some ts =>
    match Reading.run limit ⟨[], .value⟩ ts with
    | some ⟨[], .done d⟩ => some d
    | _ => none

end QueryTree.Json
