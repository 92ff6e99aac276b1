/-!
# QueryTree.Decimal.Shortest

The shortest decimal that reads back as a given binary number.

A finite positive number is `mantissa · 2 ^ exponent`.  The reals that round to it
form an interval around it, with its ends included exactly when the mantissa is
even.  For one digit, two digits and so on, the two neighbours of the number on
that decimal grid are tested, in exact arithmetic: the first grid with a point in
the interval gives the digits, of two points the nearer, at equal distance the
even one.  Seventeen digits always suffice.
-/

namespace QueryTree.Decimal

/-- A power of two. -/
def powerOfTwo (n : Nat) : Nat := Nat.pow 2 n

/-- A power of ten. -/
def powerOfTen (n : Nat) : Nat := Nat.pow 10 n

/-- A decimal `digits · 10 ^ exponent`. -/
structure Scaled where
  /-- The digits, read as one number. -/
  digits : Nat
  /-- The power of ten they are multiplied by. -/
  exponent : Int
deriving DecidableEq, Repr

/-- The number of decimal digits of a number; zero has one. -/
def digitCount (n : Nat) : Nat := (Nat.toDigits 10 n).length

/-- A positive number with the ends of the interval of reals that round to it, over a common
denominator. -/
structure Rounding where
  /-- The lower end. -/
  low : Nat
  /-- The number itself. -/
  value : Nat
  /-- The upper end. -/
  high : Nat
  /-- The common denominator. -/
  denominator : Nat
  /-- Whether the ends themselves round to the number. -/
  closed : Bool

/-- The interval of a binary number.  Below a power of two the neighbours stand twice as close, which
is what `narrow` says. -/
def Rounding.ofBinary (mantissa : Nat) (exponent : Int) (narrow : Bool) : Rounding :=
  let scale := powerOfTwo exponent.toNat
  { low := (4 * mantissa - (if narrow then 1 else 2)) * scale
    value := 4 * mantissa * scale
    high := (4 * mantissa + 2) * scale
    denominator := 4 * powerOfTwo (-exponent).toNat
    closed := mantissa % 2 == 0 }

/-- Whether `digits · 10 ^ exponent` lies in the interval. -/
def Rounding.contains (r : Rounding) (digits : Nat) (exponent : Int) : Bool :=
  let point := digits * powerOfTen exponent.toNat * r.denominator
  let unit := powerOfTen (-exponent).toNat
  if r.closed then r.low * unit ≤ point && point ≤ r.high * unit
  else r.low * unit < point && point < r.high * unit

/-- Four hundred places reach below the smallest positive number. -/
def farPlaces : Nat := 400

/-- The power of ten just above the number. -/
def Rounding.magnitude (r : Rounding) : Int :=
  (digitCount (r.value * powerOfTen farPlaces / r.denominator) : Int) - farPlaces

/-- The point of the grid of `10 ^ exponent` that stands for the number, if a neighbour of it there is
in the interval. -/
def Rounding.onGrid (r : Rounding) (exponent : Int) : Option Nat :=
  let top := r.value * powerOfTen (-exponent).toNat
  let bottom := r.denominator * powerOfTen exponent.toNat
  let below := top / bottom
  match r.contains below exponent, r.contains (below + 1) exponent with
  | true, false => some below
  | false, true => some (below + 1)
  | false, false => none
  | true, true =>
    let rest := 2 * (top % bottom)
    if rest < bottom then some below
    else if bottom < rest then some (below + 1)
    else some (if below % 2 == 0 then below else below + 1)

/-- Tries grids with ever more digits, `tries` times. -/
def Rounding.search (r : Rounding) (exponent : Int) : Nat → Scaled
  | 0 => ⟨0, 0⟩
  | tries + 1 =>
    match r.onGrid exponent with
    | some digits => ⟨digits, exponent⟩
    | none => r.search (exponent - 1) tries

/-- The shortest decimal in the interval. -/
def Rounding.shortest (r : Rounding) : Scaled :=
  r.search (r.magnitude - 1) 17

/-- Moves trailing zeros into the exponent, at most `tries` of them. -/
def Scaled.normalize (s : Scaled) : Nat → Scaled
  | 0 => s
  | tries + 1 =>
    if s.digits != 0 && s.digits % 10 == 0 then
      Scaled.normalize ⟨s.digits / 10, s.exponent + 1⟩ tries
    else s

/-- A floating-point number, taken apart. -/
inductive Parts where
  /-- Not a number. -/
  | nan
  /-- An infinity. -/
  | infinity (negative : Bool)
  /-- A finite number, in its shortest decimal form. -/
  | finite (negative : Bool) (value : Scaled)

/-- The sign, kind and shortest digits of a floating-point number. -/
def Parts.ofFloat (x : Float) : Parts :=
  let bits := x.toBits.toNat
  let negative := bits / powerOfTwo 63 == 1
  let field : Nat := bits / powerOfTwo 52 % powerOfTwo 11
  let fraction := bits % powerOfTwo 52
  if field == 2047 then (if fraction == 0 then .infinity negative else .nan)
  else if field == 0 then
    if fraction == 0 then .finite negative ⟨0, 0⟩
    else .finite negative (((Rounding.ofBinary fraction (-1074) false).shortest).normalize 20)
  else
    let r := Rounding.ofBinary (powerOfTwo 52 + fraction) ((field : Int) - 1075) (fraction == 0 && field != 1)
    .finite negative (r.shortest.normalize 20)

end QueryTree.Decimal
