import QueryTree.Decimal.General
import QueryTree.Graph.Moment
import QueryTree.Text.Quoted

/-!
# QueryTree.Graph.Scalar

The values without parts (`is_scalar`), and their texts.  There are three of them:

* `Scalar.shown` — how a property shows the value (`scalar_text`);
* `Scalar.label` — how it stands as the key of a map or as the member of a set (`str`);
* `Scalar.quoted` — how it stands inside the label of a compound value (`repr`).

The first two differ for members of an enumeration only, of which a property shows
the bare name.
-/

namespace QueryTree

/-- A number of 128 bits that names something. -/
structure Uuid where
  /-- The number. -/
  number : Nat
deriving DecidableEq, Repr

namespace Uuid

/-- Reads the 32 digits of a name; the marks before, around and between them are passed over. -/
def ofChars (cs : List Char) : Uuid :=
  let digits := (cs.map Text.plainDigit).filter fun c => (Text.hexValue? c).isSome
  ⟨Text.ofHex (digits.drop (digits.length - 32))⟩

/-- Groups of 8, 4, 4, 4 and 12 small digits, with dashes between them. -/
def chars (u : Uuid) : List Char :=
  let digits := Text.hex 32 u.number
  digits.take 8 ++ '-' :: (digits.drop 8).take 4 ++ '-' :: (digits.drop 12).take 4 ++
    '-' :: (digits.drop 16).take 4 ++ '-' :: digits.drop 20

end Uuid

/-- A value without parts. -/
inductive Scalar where
  /-- A text. -/
  | text (s : String)
  /-- A string of bytes. -/
  | bytes (bs : List UInt8)
  /-- A truth value. -/
  | bool (b : Bool)
  /-- A whole number. -/
  | int (n : Int)
  /-- A binary floating-point number. -/
  | float (x : Float)
  /-- A complex number. -/
  | complex (re im : Float)
  /-- A decimal that keeps its written digits. -/
  | decimal (d : Decimal.General)
  /-- A date. -/
  | date (d : Date)
  /-- A time of day. -/
  | time (c : Clock)
  /-- A date and a time of day. -/
  | moment (d : Date) (c : Clock)
  /-- A length of time. -/
  | duration (d : Duration)
  /-- A number that names something. -/
  | uuid (u : Uuid)
  /-- A member of an enumeration, with the text of the value it stands for. -/
  | member (family name value : String)

namespace Scalar

/-- The name of the kind of a value. -/
def kind : Scalar → String
  | .text _ => "str"
  | .bytes _ => "bytes"
  | .bool _ => "bool"
  | .int _ => "int"
  | .float _ => "float"
  | .complex _ _ => "complex"
  | .decimal _ => "Decimal"
  | .date _ => "date"
  | .time _ => "time"
  | .moment _ _ => "datetime"
  | .duration _ => "timedelta"
  | .uuid _ => "UUID"
  | .member family _ _ => family

/-- A truth value, with a capital. -/
def boolText (b : Bool) : String := if b then "True" else "False"

/-- The text of a value as the key of a map or as the member of a set. -/
def label : Scalar → String
  | .text s => s
  | .bytes bs => String.ofList (Text.quotedBytes bs)
  | .bool b => boolText b
  | .int n => String.ofList (Decimal.intChars n)
  | .float x => String.ofList (Decimal.floatChars x)
  | .complex re im => String.ofList (Decimal.complexChars re im)
  | .decimal d => String.ofList d.chars
  | .date d => String.ofList d.chars
  | .time c => String.ofList c.chars
  | .moment d c => String.ofList (d.chars ++ ' ' :: c.chars)
  | .duration d => String.ofList d.chars
  | .uuid u => String.ofList u.chars
  | .member family name _ => family ++ "." ++ name

/-- The text of a value as a property shows it. -/
def shown : Scalar → String
  | .member _ name _ => name
  | s => s.label

/-- A name with arguments in parentheses. -/
def application (name : String) (arguments : List String) : String :=
  name ++ "(" ++ ", ".intercalate arguments ++ ")"

/-- The parts of a length of time that are not nothing, each with its name. -/
def durationArguments (d : Duration) : List String :=
  (if d.days = 0 then [] else ["days=" ++ toString d.days]) ++
    (if d.seconds = 0 then [] else ["seconds=" ++ toString d.seconds]) ++
    (if d.fraction = 0 then [] else ["microseconds=" ++ toString d.fraction])

/-- The text of a value inside the label of a compound value. -/
def quoted : Scalar → String
  | .text s => String.ofList (Text.quoted s.toList)
  | .decimal d => application "Decimal" ["'" ++ String.ofList d.chars ++ "'"]
  | .date d => application "datetime.date" ([d.year, d.month, d.day].map toString)
  | .time c => application "datetime.time" (c.parts.map toString)
  | .moment d c =>
    application "datetime.datetime" (([d.year, d.month, d.day] ++ c.parts).map toString)
  | .duration d =>
    application "datetime.timedelta"
      (if d.microseconds = 0 then ["0"] else durationArguments d)
  | .uuid u => application "UUID" ["'" ++ String.ofList u.chars ++ "'"]
  | .member family name value => "<" ++ family ++ "." ++ name ++ ": " ++ value ++ ">"
  | s => s.label

/-- A property shows the label of everything but the member of an enumeration. -/
theorem shown_eq_label (s : Scalar) (h : ∀ family name value, s ≠ .member family name value) :
    s.shown = s.label := by
  cases s <;> first | rfl | exact absurd rfl (h _ _ _)

end Scalar

end QueryTree
