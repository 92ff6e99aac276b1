import QueryTree.Decimal.Notation
import QueryTree.Text.Blank
import QueryTree.Text.Digit

/-!
# QueryTree.Decimal.Literal

Reading decimal literals.  A literal is a sign, digits with an optional point and
an optional exponent; it denotes `digits · 10 ^ exponent` exactly, and is rounded
only when a floating-point number is asked for.  White space around a literal and
underscores between its digits are passed over, and the digits of other scripts count
as those that they stand for.
-/

namespace QueryTree.Decimal

/-- Whether a character is a decimal digit. -/
def isDigit (c : Char) : Bool := '0' ≤ c && c ≤ '9'

/-- The most digits from which a whole number is read. -/
def mostDigits : Nat := 4300

/-- The number that a row of digits denotes. -/
def natOfDigits (cs : List Char) : Nat :=
  cs.foldl (fun n c => 10 * n + (c.toNat - 0x30)) 0

/-- A sign in front of a literal: whether it is a minus, and what follows it. -/
def splitSign : List Char → Bool × List Char
  | '-' :: rest => (true, rest)
  | '+' :: rest => (false, rest)
  | rest => (false, rest)

/-- An exact decimal with its sign. -/
structure Literal where
  /-- Whether the sign is a minus. -/
  negative : Bool
  /-- The digits and their scale. -/
  value : Scaled

/-- An exponent: its letter, a sign and digits.  No letter means no exponent. -/
def exponent? : List Char → Option Int
  | [] => some 0
  | c :: rest =>
    if c = 'e' || c = 'E' then
      let (negative, digits) := splitSign rest
      if digits.isEmpty || !digits.all isDigit then none
      else some (if negative then -(natOfDigits digits : Int) else natOfDigits digits)
    else none

/-- Reads a literal whole: a sign, digits with an optional point, an optional exponent. -/
def Literal.read? (cs : List Char) : Option Literal :=
  let (negative, cs) := splitSign cs
  let whole := cs.takeWhile isDigit
  let afterWhole := cs.dropWhile isDigit
  let (fraction, tail) :=
    match afterWhole with
    | '.' :: rest => (rest.takeWhile isDigit, rest.dropWhile isDigit)
    | rest => ([], rest)
  if whole.isEmpty && fraction.isEmpty then none
  else
    (exponent? tail).map fun e =>
      ⟨negative, ⟨natOfDigits (whole ++ fraction), e - fraction.length⟩⟩

/-- The floating-point number nearest to a literal. -/
def Literal.toFloat (l : Literal) : Float :=
  let x := Float.ofScientific l.value.digits (l.value.exponent < 0) l.value.exponent.natAbs
  if l.negative then -x else x

/-- A text in small letters, for words that ignore case. -/
def smallLetters (cs : List Char) : List Char := cs.map Char.toLower

/-- A literal in plain digits, without the white space around it and the underscores in it. -/
def bare (cs : List Char) : List Char := ((Text.trim cs).filter (· != '_')).map Text.plainDigit

/-- The positive infinity. -/
def infinity : Float := 1.0 / 0.0

/-- The floating-point value that is no number. -/
def notANumber : Float := 0.0 / 0.0

/-- Reads a floating-point number: a literal, or a word for an infinity or for no number. -/
def readFloat? (cs : List Char) : Option Float :=
  let cs := bare cs
  match Literal.read? cs with
  | some l => some l.toFloat
  | none =>
    let (negative, word) := splitSign cs
    let word := String.ofList (smallLetters word)
    if word == "inf" || word == "infinity" then some (if negative then -infinity else infinity)
    else if word == "nan" then some notANumber
    else none

/-- Reads a whole number: a sign and digits. -/
def readInt? (cs : List Char) : Option Int :=
  let (negative, digits) := splitSign (bare cs)
  if digits.isEmpty || !digits.all isDigit then none
  else some (if negative then -(natOfDigits digits : Int) else natOfDigits digits)

end QueryTree.Decimal
