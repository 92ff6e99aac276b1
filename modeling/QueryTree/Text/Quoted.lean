import QueryTree.Text.Hex
import QueryTree.Text.Printable

/-!
# QueryTree.Text.Quoted

Texts and byte strings in quotes, the way values are shown inside messages and
inside the labels of compound values.

The quote is an apostrophe, unless the content holds an apostrophe and no double
quote.  Backslash, tab, line feed, carriage return and the quote in use are
escaped by a backslash; whatever else cannot be shown is written as a number.
-/

namespace QueryTree.Text

/-- The quote around a text: double only if that saves escaping an apostrophe. -/
def quoteMark (cs : List Char) : Char :=
  if cs.contains '\'' && !cs.contains '"' then '"' else '\''

/-- The short escapes shared by texts and byte strings. -/
def shortEscape? (quote c : Char) : Option (List Char) :=
  if c = quote || c = '\\' then some ['\\', c]
  else if c = '\t' then some ['\\', 't']
  else if c = '\n' then some ['\\', 'n']
  else if c = '\r' then some ['\\', 'r']
  else none

/-- A character by its number, in the shortest of the three widths that holds it. -/
def numberEscape (n : Nat) : List Char :=
  if n ≤ 0xFF then '\\' :: 'x' :: hex 2 n
  else if n ≤ 0xFFFF then '\\' :: 'u' :: hex 4 n
  else '\\' :: 'U' :: hex 8 n

/-- One character inside quotes. -/
def quotedChar (quote c : Char) : List Char :=
  match shortEscape? quote c with
  | some cs => cs
  | none => if isPrintable c then [c] else numberEscape c.toNat

/-- A text in quotes. -/
def quoted (cs : List Char) : List Char :=
  let quote := quoteMark cs
  quote :: cs.flatMap (quotedChar quote) ++ [quote]

/-- One byte inside quotes: shown as a character from the space to the tilde, else by its number. -/
def quotedByte (quote : Char) (b : UInt8) : List Char :=
  match shortEscape? quote (Char.ofNat b.toNat) with
  | some cs => cs
  | none =>
    if 0x20 ≤ b.toNat && b.toNat ≤ 0x7E then [Char.ofNat b.toNat]
    else '\\' :: 'x' :: hex 2 b.toNat

/-- A byte string in quotes, marked by a leading `b`. -/
def quotedBytes (bs : List UInt8) : List Char :=
  let quote := quoteMark (bs.map fun b => Char.ofNat b.toNat)
  'b' :: quote :: bs.flatMap (quotedByte quote) ++ [quote]

end QueryTree.Text
