import QueryTree.Decimal.Shortest

/-!
# QueryTree.Decimal.Notation

Decimals as text.  Digits are written positionally while the number is neither
too large nor too small, and with an exponent otherwise; which is which, and
whether a whole number keeps a point, is the business of a `Format`.
-/

namespace QueryTree.Decimal

/-- The decimal digits of a number. -/
def digitChars (n : Nat) : List Char := Nat.toDigits 10 n

/-- A number in at least `width` digits. -/
def padded (width n : Nat) : List Char :=
  let digits := digitChars n
  List.replicate (width - digits.length) '0' ++ digits

/-- The decimal digits of an integer, with a leading minus sign below zero. -/
def intChars : Int → List Char
  | .ofNat n => digitChars n
  | .negSucc n => '-' :: digitChars (n + 1)

/-- Digits with a point after the first `point` of them, filled with zeros on either side where they
do not reach. -/
def placePoint (digits : List Char) (point : Int) : List Char :=
  if point ≤ 0 then '0' :: '.' :: List.replicate (-point).toNat '0' ++ digits
  else if digits.length ≤ point.toNat then
    digits ++ List.replicate (point.toNat - digits.length) '0'
  else digits.take point.toNat ++ '.' :: digits.drop point.toNat

/-- How a floating-point number is written. -/
structure Format where
  /-- The least power of ten of the first digit that is written positionally. -/
  least : Int
  /-- The power of ten of the first digit from which on an exponent is used. -/
  beyond : Int
  /-- Whether a whole number written positionally keeps a point and a zero. -/
  keepsPoint : Bool

/-- Floating-point numbers are positional from one ten-thousandth up to ten to the sixteenth, with a
point even if they are whole. -/
def Format.float : Format := ⟨-4, 16, true⟩

/-- The parts of a complex number are written like floating-point numbers, but whole ones without a
point. -/
def Format.part : Format := ⟨-4, 16, false⟩

/-- An exponent: a sign and at least two digits. -/
def exponentChars (e : Int) : List Char :=
  let digits := digitChars e.natAbs
  'e' :: (if e < 0 then '-' else '+') :: (if digits.length < 2 then '0' :: digits else digits)

/-- A decimal under a format. -/
def Format.scaled (f : Format) (s : Scaled) : List Char :=
  let digits := digitChars s.digits
  let first := s.exponent + digits.length - 1
  if s.digits == 0 || (f.least ≤ first && first < f.beyond) then
    let cs := placePoint digits (first + 1)
    if f.keepsPoint && !cs.contains '.' then cs ++ ['.', '0'] else cs
  else
    (match digits with
      | d :: rest@(_ :: _) => d :: '.' :: rest
      | ds => ds) ++ exponentChars first

/-- A floating-point number under a format. -/
def Format.chars (f : Format) (x : Float) : List Char :=
  match Parts.ofFloat x with
  | .nan => ['n', 'a', 'n']
  | .infinity negative => (if negative then ['-'] else []) ++ ['i', 'n', 'f']
  | .finite negative s => (if negative then ['-'] else []) ++ f.scaled s

/-- A floating-point number as text: the fewest digits that read back. -/
def floatChars (x : Float) : List Char := Format.float.chars x

/-- Whether the sign of a floating-point number is negative, be it a zero or not a number. -/
def isNegative (x : Float) : Bool := x.toBits.toNat / powerOfTwo 63 == 1

/-- A complex number as text: the imaginary part alone if the real part is a positive zero, else both in
brackets, the second always signed. -/
def complexChars (re im : Float) : List Char :=
  let part := Format.part.chars
  if re == 0 && !isNegative re then part im ++ ['j']
  else
    let second := part im
    let signed := if second.head? == some '-' then second else '+' :: second
    '(' :: part re ++ signed ++ ['j', ')']

end QueryTree.Decimal
