/-!
# QueryTree.Text.Hex

Numbers in base sixteen: written at a fixed width with small or capital digits, and
read with either.
-/

namespace QueryTree.Text

/-- The digit of a number below sixteen; `ten` is the digit that stands for ten. -/
def hexDigit (ten : Char) (n : Nat) : Char :=
  if n < 10 then Char.ofNat (0x30 + n) else Char.ofNat (ten.toNat + (n - 10))

/-- The last `width` digits of a number, with `ten` as the digit that stands for ten. -/
def hexWith (ten : Char) : Nat → Nat → List Char
  | 0, _ => []
  | width + 1, n => hexWith ten width (n / 16) ++ [hexDigit ten (n % 16)]

/-- A number is written in digits. -/
theorem mem_hexWith {ten : Char} {width n : Nat} {c : Char} (h : c ∈ hexWith ten width n) :
    ∃ m < 16, c = hexDigit ten m := by
  induction width generalizing n with
  | zero => cases h
  | succ width ih =>
      rw [hexWith, List.mem_append, List.mem_singleton] at h
      obtain h | h := h
      · exact ih h
      · exact ⟨n % 16, Nat.mod_lt n (by decide), h⟩

/-- The last `width` digits of a number, small. -/
def hex (width n : Nat) : List Char := hexWith 'a' width n

/-- The last `width` digits of a number, in capitals. -/
def upperHex (width n : Nat) : List Char := hexWith 'A' width n

/-- The value of a digit, small or capital. -/
def hexValue? (c : Char) : Option Nat :=
  if '0' ≤ c && c ≤ '9' then some (c.toNat - 0x30)
  else if 'a' ≤ c && c ≤ 'f' then some (c.toNat - 0x57)
  else if 'A' ≤ c && c ≤ 'F' then some (c.toNat - 0x37)
  else none

/-- Digits of either kind are read as the number they are written for. -/
theorem hexValue?_hexDigit {ten : Char} (hten : ten = 'a' ∨ ten = 'A') {n : Nat} (h : n < 16) :
    hexValue? (hexDigit ten n) = some n := by
  have hall : ∀ n : Fin 16, hexValue? (hexDigit 'a' n) = some n.val ∧
      hexValue? (hexDigit 'A' n) = some n.val := by decide
  obtain rfl | rfl := hten
  · exact (hall ⟨n, h⟩).1
  · exact (hall ⟨n, h⟩).2

/-- The number that the digits of a text denote; anything else in it is passed over. -/
def ofHex (cs : List Char) : Nat := (cs.filterMap hexValue?).foldl (fun n d => n * 16 + d) 0

end QueryTree.Text
