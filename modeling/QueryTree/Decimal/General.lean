import QueryTree.Decimal.Literal

/-!
# QueryTree.Decimal.General

Decimals of any precision that keep the digits they were written with: `1.50` and
`1.5` are two of them.  Their text is the scientific string of the general decimal
arithmetic: positional while the exponent is not above zero and the first digit
not below the sixth place, else one digit before the point and an exponent.
-/

namespace QueryTree.Decimal

/-- A decimal that keeps its written digits. -/
inductive General where
  /-- A finite number: sign, digits as written, power of ten. -/
  | finite (negative : Bool) (digits : List Char) (exponent : Int)
  /-- An infinity. -/
  | infinity (negative : Bool)
  /-- No number, signalling or quiet, with the diagnostic digits it was given. -/
  | nan (negative signalling : Bool) (payload : List Char)
deriving DecidableEq, Repr

namespace General

/-- A word for an infinity or for no number. -/
def readWord? (negative : Bool) (cs : List Char) : Option General :=
  let cs := smallLetters cs
  let payload (n : Nat) : Option (List Char) :=
    let rest := cs.drop n
    if rest.all isDigit then some (rest.dropWhile (· == '0')) else none
  let word := String.ofList cs
  if word == "inf" || word == "infinity" then some (.infinity negative)
  else if cs.take 3 == ['n', 'a', 'n'] then (payload 3).map (.nan negative false)
  else if cs.take 4 == ['s', 'n', 'a', 'n'] then (payload 4).map (.nan negative true)
  else none

/-- Reads a decimal. -/
def read? (cs : List Char) : Option General :=
  let cs := bare cs
  match Literal.read? cs with
  | some l =>
    some (.finite l.negative (digitChars l.value.digits) l.value.exponent)
  | none =>
    let (negative, word) := splitSign cs
    readWord? negative word

/-- The scientific string of digits and a power of ten. -/
def finiteChars (digits : List Char) (exponent : Int) : List Char :=
  let point := exponent + digits.length
  if exponent ≤ 0 && -6 < point then placePoint digits point
  else
    let e := point - 1
    placePoint digits 1 ++
      (if e == 0 then [] else 'E' :: (if e < 0 then '-' else '+') :: digitChars e.natAbs)

/-- The text of a decimal. -/
def chars : General → List Char
  | .finite negative digits exponent =>
    (if negative then ['-'] else []) ++ finiteChars digits exponent
  | .infinity negative => (if negative then ['-'] else []) ++ "Infinity".toList
  | .nan negative signalling payload =>
    (if negative then ['-'] else []) ++ (if signalling then ['s'] else []) ++ ['N', 'a', 'N'] ++ payload

end General

end QueryTree.Decimal
