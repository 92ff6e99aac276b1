import Mathlib.Data.List.TakeWhile
import QueryTree.Proofs.FirstLine

/-!
# QueryTree.Proofs.Lines

What the lines of a text are, and how little of them the first line shows.

`Lines cs ls` says how a text is put together from its lines and the breaks that end
them.  There are eleven forms of a break, and one of them is a pair of characters, so a
carriage return is a break on its own only if no line feed follows:

* `lines_iff` — a text is put together from its `lines` and from no others;
* `firstLine_closedForm` — the first line that is not empty can be had without them, by
  dropping characters that are breaks and taking characters that are not.
-/

namespace QueryTree.Text

/-! ## lines and their breaks -/

/-- The characters that are breaks on their own. -/
def breakChars : List Char :=
  ['\n', '\x0b', '\x0c', '\r', '\x1c', '\x1d', '\x1e', '\u0085', '\u2028', '\u2029']

/-- A break that ends a line before `rest`. -/
inductive BreakBefore (rest : List Char) : List Char → Prop
  /-- A carriage return and a line feed are one break. -/
  | pair : BreakBefore rest ['\r', '\n']
  /-- Every other break is one character; a carriage return is one only if no line feed follows. -/
  | single {c : Char} (hc : c ∈ breakChars) (halone : c = '\r' → rest.head? ≠ some '\n') :
      BreakBefore rest [c]

/-- A text is put together from lines.  A break ends a line, and what follows the last break is a line
only if it is not empty. -/
inductive Lines : List Char → List (List Char) → Prop
  /-- The empty text has no line. -/
  | empty : Lines [] []
  /-- A line that no break ends. -/
  | last {l : List Char} (hne : l ≠ []) (hl : ∀ c ∈ l, c ∉ breakChars) : Lines l [l]
  /-- A line, its break, and the lines after it. -/
  | line {l b rest : List Char} {ls : List (List Char)} (hl : ∀ c ∈ l, c ∉ breakChars)
      (hb : BreakBefore rest b) (hrest : Lines rest ls) : Lines (l ++ (b ++ rest)) (l :: ls)

theorem isLineBreak_eq_decide (c : Char) : isLineBreak c = decide (c ∈ breakChars) := by
  simp [isLineBreak, breakChars, Char.ext_iff, UInt32.ext_iff]

/-- A break opens a text with an empty line. -/
theorem lines_break {b rest : List Char} (hb : BreakBefore rest b) :
    lines (b ++ rest) = [] :: lines rest := by
  cases hb with
  | pair => rw [List.cons_append, List.cons_append, List.nil_append, lines]
  | single hc halone =>
      rw [List.cons_append, List.nil_append, lines]
      · simp [isLineBreak_eq_decide, hc]
      · intro rest' hreturn heq
        exact halone hreturn (by simp [heq])

/-- Characters that are no breaks stand at the start of the first line. -/
theorem lines_append {l : List Char} (hne : l ≠ []) (hl : ∀ c ∈ l, c ∉ breakChars) (rest : List Char) :
    lines (l ++ rest) = (l ++ (lines rest).head?.getD []) :: (lines rest).tail := by
  induction l with
  | nil => exact absurd rfl hne
  | cons c l ih =>
      have hc : isLineBreak c = false := by simp [isLineBreak_eq_decide, hl c List.mem_cons_self]
      rw [List.cons_append, lines_cons hc]
      by_cases hnil : l = []
      · simp [hnil]
      · simp [ih hnil fun d hd => hl d (List.mem_cons_of_mem c hd)]

/-- One more character at the start of the first line. -/
theorem Lines.cons {c : Char} {cs l : List Char} {ls : List (List Char)} (hc : c ∉ breakChars)
    (h : Lines cs (l :: ls)) : Lines (c :: cs) ((c :: l) :: ls) := by
  cases h with
  | last hne hl => exact .last (List.cons_ne_nil c cs) (List.forall_mem_cons.mpr ⟨hc, hl⟩)
  | line hl hb hrest => exact .line (List.forall_mem_cons.mpr ⟨hc, hl⟩) hb hrest

/-- A text without lines is empty. -/
theorem Lines.eq_nil {cs : List Char} (h : Lines cs []) : cs = [] := by
  cases h
  rfl

/-- A text is put together from its lines. -/
theorem lines_lines (cs : List Char) : Lines cs (lines cs) := by
  have hnone : ∀ c ∈ ([] : List Char), c ∉ breakChars := fun c hc => nomatch hc
  induction cs using lines.induct with
  | case1 => exact .empty
  | case2 rest ih =>
      have hb : BreakBefore rest ['\r', '\n'] := .pair
      have hlines := lines_break hb
      exact hlines ▸ .line hnone hb ih
  | case3 c rest hpair hbreak ih =>
      have hc : c ∈ breakChars := by simpa [isLineBreak_eq_decide] using hbreak
      have halone : c = '\r' → rest.head? ≠ some '\n' := by
        intro hreturn hhead
        obtain ⟨rest', rfl⟩ := List.head?_eq_some_iff.mp hhead
        exact hpair rest' hreturn rfl
      have hb : BreakBefore rest [c] := .single hc halone
      have hlines := lines_break hb
      exact hlines ▸ .line hnone hb ih
  | case4 c rest hpair hbreak hnil ih =>
      have hc : c ∉ breakChars := by simpa [isLineBreak_eq_decide] using hbreak
      rw [hnil] at ih
      rw [lines_cons (by simpa using hbreak), hnil, ih.eq_nil]
      exact .last (List.cons_ne_nil c []) (by simpa using hc)
  | case5 c rest hpair hbreak l ls hcons ih =>
      have hc : c ∉ breakChars := by simpa [isLineBreak_eq_decide] using hbreak
      rw [hcons] at ih
      rw [lines_cons (by simpa using hbreak), hcons]
      exact ih.cons hc

/-- What a text is put together from are its lines. -/
theorem Lines.lines_eq {cs : List Char} {ls : List (List Char)} (h : Lines cs ls) : lines cs = ls := by
  induction h with
  | empty => rfl
  | @last l hne hl => simpa [lines] using lines_append hne hl []
  | @line l b rest ls hl hb hrest ih =>
      have hbreak := lines_break hb
      by_cases hnil : l = []
      · rw [hnil, List.nil_append, hbreak, ih]
      · simp [lines_append hnil hl, hbreak, ih]

theorem lines_iff (cs : List Char) (ls : List (List Char)) : Lines cs ls ↔ ls = lines cs :=
  ⟨fun h => h.lines_eq.symm, fun h => h ▸ lines_lines cs⟩

/-! ## the first line without the others -/

/-- What the first line of a text that is not empty has to be. -/
structure FirstOf (cs l : List Char) : Prop where
  /-- The breaks at the start are dropped, and what is left is cut before the next one. -/
  closedForm : l = (cs.dropWhile (· ∈ breakChars)).takeWhile (· ∉ breakChars)
  /-- It is not empty. -/
  nonempty : l ≠ []
  /-- It is a contiguous part of the text. -/
  part : l <:+: cs
  /-- It holds no break. -/
  unbroken : ∀ c ∈ l, c ∉ breakChars
  /-- It is as long as the text only if it is the text. -/
  whole : l.length = cs.length → l = cs

theorem firstLine_getD_eq (cs : List Char) :
    (firstLine cs).getD [] = (cs.dropWhile (· ∈ breakChars)).takeWhile (· ∉ breakChars) := by
  rw [firstLine_getD]
  simp only [funext isLineBreak_eq_decide, decide_not]

theorem ne_nil_of_mem_firstLine {cs l : List Char} (h : l ∈ firstLine cs) : l ≠ [] := by
  have hfound := List.find?_some h
  simpa using hfound

theorem firstOf_of_mem_firstLine {cs l : List Char} (h : l ∈ firstLine cs) : FirstOf cs l := by
  have hclosed := firstLine_getD_eq cs
  have hpart := firstLine_isInfix cs
  rw [Option.mem_def.mp h, Option.getD_some] at hclosed hpart
  refine ⟨hclosed, ne_nil_of_mem_firstLine h, hpart, fun c hc => ?_, hpart.eq_of_length⟩
  rw [hclosed] at hc
  simpa using List.mem_takeWhile_imp hc

/-- Only a text of nothing but breaks has no line that is not empty. -/
theorem firstLine_eq_none_iff (cs : List Char) : firstLine cs = none ↔ ∀ c ∈ cs, c ∈ breakChars := by
  have hdropped : cs.dropWhile (· ∈ breakChars) = [] ↔ ∀ c ∈ cs, c ∈ breakChars := by
    simp [List.dropWhile_eq_nil_iff]
  have hclosed := firstLine_getD_eq cs
  rw [← hdropped]
  constructor
  · intro hnone
    rw [hnone, Option.getD_none] at hclosed
    cases hrest : cs.dropWhile (· ∈ breakChars) with
    | nil => rfl
    | cons c rest =>
        -- what is left starts with a character that is no break, and it would be taken
        have hc := List.head?_dropWhile_not (· ∈ breakChars) cs
        rw [hrest] at hclosed hc
        simp only [List.head?_cons, decide_eq_false_iff_not] at hc
        simp [hc] at hclosed
  · intro hnil
    rw [hnil, List.takeWhile_nil] at hclosed
    cases hline : firstLine cs with
    | none => rfl
    | some l =>
        rw [hline, Option.getD_some] at hclosed
        exact absurd hclosed (ne_nil_of_mem_firstLine hline)

/-- **The first line in closed form**: a text is put together from one list of lines, and the first of
them that is not empty is what is left of the text without the breaks at its start, up to the next break.
There is none exactly if the text has nothing but breaks. -/
theorem firstLine_closedForm (cs : List Char) :
    ∃ ls, (∀ ls', Lines cs ls' ↔ ls' = ls) ∧
      firstLine cs = ls.find? (fun l => !l.isEmpty) ∧
      (firstLine cs = none ↔ ∀ c ∈ cs, c ∈ breakChars) ∧
      ∀ l ∈ firstLine cs, FirstOf cs l :=
  ⟨lines cs, lines_iff cs, rfl, firstLine_eq_none_iff cs, fun _ => firstOf_of_mem_firstLine⟩

/-- A query after a pair, a lone carriage return and a separator, with one more pair at its end. -/
def scatteredQuery : List Char := "\r\n\r\u2028SELECT 1\x0b\nFROM t\r\n".toList

theorem firstLine_closedForm_scattered :
    Lines scatteredQuery [[], [], [], "SELECT 1".toList, [], "FROM t".toList] ∧
    FirstOf scatteredQuery "SELECT 1".toList := by
  obtain ⟨ls, -, -, -, hfirst⟩ := firstLine_closedForm scatteredQuery
  have hlines : lines scatteredQuery = [[], [], [], "SELECT 1".toList, [], "FROM t".toList] := by decide
  exact ⟨(lines_iff _ _).mpr hlines.symm, hfirst _ (by decide)⟩

end QueryTree.Text
