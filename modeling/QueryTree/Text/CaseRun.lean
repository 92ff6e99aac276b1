/-!
# QueryTree.Text.CaseRun

Maps between capital and small letters.  The letters of the Unicode standard that
have a form in the other case stand in runs: within a run they follow each other at
a fixed step and keep the same distance from their other forms.
-/

namespace QueryTree.Text

/-- Letters at a fixed step, with the other form of the first; those of the others follow in step. -/
structure CaseRun where
  /-- The first letter. -/
  first : Nat
  /-- The last letter. -/
  last : Nat
  /-- The distance from one letter to the next. -/
  step : Nat
  /-- The other form of the first letter. -/
  image : Nat

namespace CaseRun

/-- Whether a code point is one of the letters of a run. -/
def contains (r : CaseRun) (n : Nat) : Bool :=
  r.first ≤ n && n ≤ r.last && (n - r.first) % r.step == 0

/-- The other form of a character by the first run that has it. -/
def find? (runs : List CaseRun) (c : Char) : Option Char :=
  (runs.find? fun r => r.contains c.toNat).map fun r => Char.ofNat (r.image + (c.toNat - r.first))

end CaseRun

end QueryTree.Text
