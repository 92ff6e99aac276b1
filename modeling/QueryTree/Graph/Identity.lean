import QueryTree.Graph.Basic

/-!
# QueryTree.Graph.Identity

What tells one thing from another, however alike the two look.

Objects are told apart by their numbers.  Most values without parts are new wherever
they turn up, but a few are kept once and used everywhere: nothing, the truth values,
small whole numbers, and texts and strings of bytes with at most one character.
-/

namespace QueryTree

/-- A value that is kept once. -/
inductive Constant where
  /-- Nothing. -/
  | none
  /-- A truth value. -/
  | bool (b : Bool)
  /-- A small whole number. -/
  | int (n : Int)
  /-- The empty text, or a text of one character. -/
  | text (c : Option Char)
  /-- The empty string of bytes, or a single byte. -/
  | bytes (b : Option UInt8)
deriving DecidableEq, Repr

/-- What tells a thing from all others. -/
inductive Identity where
  /-- An object, by its number. -/
  | object (id : ObjectId)
  /-- A value that is kept once. -/
  | constant (c : Constant)
deriving DecidableEq, Repr

/-- Whether a whole number is kept once. -/
def isSmall (n : Int) : Bool := -5 ≤ n && n ≤ 256

/-- Whether the text of a single character is kept once. -/
def isCommon (c : Char) : Bool := c.toNat < 256

/-- The constant that a value without parts is, if it is kept once. -/
def Scalar.constant? : Scalar → Option Constant
  | .bool b => some (.bool b)
  | .int n => if isSmall n then some (.int n) else none
  | .text s =>
    match s.toList with
    | [] => some (.text none)
    | [c] => if isCommon c then some (.text (some c)) else none
    | _ => none
  | .bytes [] => some (.bytes none)
  | .bytes [b] => some (.bytes (some b))
  | _ => none

/-- The identity of a value; none if the value is new wherever it turns up. -/
def Value.identity? : Value → Option Identity
  | .none => some (.constant .none)
  | .scalar s => s.constant?.map .constant
  | .ref id => some (.object id)

end QueryTree
