/-!
# QueryTree.Text.Bounds

Sets of characters, given by the code points at which membership changes: the first
starts a stretch of members, the second ends it, and so on, in rising order.
-/

namespace QueryTree.Text

/-- The code points at which stretches of members start and end, in turn. -/
abbrev Bounds := List Nat

/-- Whether a character is a member: an odd number of changes lies at or before it. -/
def Bounds.contains (bs : Bounds) (c : Char) : Bool :=
  (bs.takeWhile (· ≤ c.toNat)).length % 2 == 1

end QueryTree.Text
