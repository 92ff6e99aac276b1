import Mathlib.Data.List.Infix
import QueryTree.Text.LineBreak

/-!
# QueryTree.Proofs.FirstLine

The first line of a text that is not empty, without cutting the text into lines.

* `firstLine_getD` — it is what stands between the line breaks at the start and the next one;
* `length_firstLine_lt_iff` — being part of the text, it is the text if it is as long.
-/

namespace QueryTree.Text

theorem isLineBreak_return : isLineBreak '\r' = true := by decide

theorem isLineBreak_lineFeed : isLineBreak '\n' = true := by decide

/-- A character that is no line break stands at the start of the first line. -/
theorem lines_cons {c : Char} (h : isLineBreak c = false) (rest : List Char) :
    lines (c :: rest) = (c :: (lines rest).head?.getD []) :: (lines rest).tail := by
  have hreturn : c ≠ '\r' := fun heq => by simp [heq, isLineBreak_return] at h
  rw [lines]
  · cases lines rest <;> simp [h]
  · exact fun _ heq => absurd heq hreturn

/-- The first line ends before the first line break. -/
theorem head_lines (cs : List Char) : (lines cs).head?.getD [] = cs.takeWhile (!isLineBreak ·) := by
  induction cs using lines.induct with
  | case1 => rfl
  | case2 rest ih => simp [lines, isLineBreak_return]
  | case3 c rest hpair hbreak ih => simp [lines, hbreak]
  | case4 c rest hpair hbreak hnone ih => simp [lines_cons, hbreak, ih]
  | case5 c rest hpair hbreak l ls hlines ih => simp [lines_cons, hbreak, ih]

/-- **The first line** that is not empty: what stands between the line breaks at the start and the next
one. -/
theorem firstLine_getD (cs : List Char) :
    (firstLine cs).getD [] = (cs.dropWhile isLineBreak).takeWhile (!isLineBreak ·) := by
  induction cs using lines.induct with
  | case1 => rfl
  | case2 rest ih => simpa [firstLine, lines, isLineBreak_return, isLineBreak_lineFeed] using ih
  | case3 c rest hpair hbreak ih => simpa [firstLine, lines, hbreak] using ih
  -- the first line is not empty, so it is the one that is looked for
  | case4 c rest hpair hbreak hnone ih => simp [firstLine, lines_cons, hbreak, head_lines]
  | case5 c rest hpair hbreak l ls hlines ih => simp [firstLine, lines_cons, hbreak, head_lines]

theorem firstLine_isInfix (cs : List Char) : (firstLine cs).getD [] <:+: cs := by
  have hstart := List.takeWhile_prefix (l := cs.dropWhile isLineBreak) (!isLineBreak ·)
  have hend := List.dropWhile_suffix (l := cs) isLineBreak
  rw [firstLine_getD]
  exact hstart.isInfix.trans hend.isInfix

/-- A first line that is not the whole text is shorter. -/
theorem length_firstLine_lt_iff (cs : List Char) :
    ((firstLine cs).getD []).length < cs.length ↔ (firstLine cs).getD [] ≠ cs := by
  have hpart := firstLine_isInfix cs
  constructor
  · intro hlt heq
    rw [heq] at hlt
    omega
  · intro hne
    have hle := hpart.length_le
    have hlength : ((firstLine cs).getD []).length ≠ cs.length := fun h => hne (hpart.eq_of_length h)
    omega

end QueryTree.Text
