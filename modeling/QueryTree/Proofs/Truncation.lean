import Mathlib.Data.List.DropRight
import QueryTree.Proofs.FirstLine
import QueryTree.Proofs.Outline
import QueryTree.Settings.Source

/-!
# QueryTree.Proofs.Truncation

What a line of an outline shows of a text.

The heading of a text is its first line that is not empty, without the white space
around it.  A longer heading than the limit is cut, and white space that the cut has
brought to the end is taken away as well:

* `strips_iff` — what is left of a text without the white space around it is determined;
* `prefix_trimRight` — of all starts of a text that do not end in white space, the longest
  is left when white space is taken away from its end;
* `shows_codeSpan` — so a cut heading is shown as far as the limit allows, and since it
  starts with a character that is no white space, something of it always is.
-/

namespace QueryTree

namespace Text

/-! ## white space at the ends -/

/-- A text that does not start with white space. -/
def OpensBare (cs : List Char) : Prop := ∀ c ∈ cs.head?, isBlank c = false

/-- A text that does not end in white space. -/
def ClosesBare (cs : List Char) : Prop := ∀ c ∈ cs.getLast?, isBlank c = false

/-- A text is another one with white space around it, and the other one has none at its ends. -/
structure Strips (cs s : List Char) : Prop where
  /-- What is before it and after it is white space. -/
  around : ∃ left right, cs = left ++ s ++ right ∧
    (∀ c ∈ left, isBlank c = true) ∧ ∀ c ∈ right, isBlank c = true
  /-- It does not start with white space. -/
  opens : OpensBare s
  /-- It does not end in white space. -/
  closes : ClosesBare s

theorem OpensBare.of_isPrefix {p cs : List Char} (h : OpensBare cs) (hp : p <+: cs) : OpensBare p := by
  obtain ⟨rest, rfl⟩ := hp
  cases p with
  | nil => simp [OpensBare]
  | cons c p => simpa [OpensBare] using h

theorem opensBare_trimLeft (cs : List Char) : OpensBare (trimLeft cs) := by
  intro c hc
  have hhead := List.head?_dropWhile_not isBlank cs
  simp only [trimLeft, Option.mem_def] at hc
  simpa [hc] using hhead

theorem closesBare_iff (cs : List Char) : ClosesBare cs ↔ OpensBare cs.reverse := by
  simp [ClosesBare, OpensBare]

theorem closesBare_trimRight (cs : List Char) : ClosesBare (trimRight cs) := by
  rw [closesBare_iff, trimRight, List.reverse_reverse]
  exact opensBare_trimLeft cs.reverse

theorem trimRight_isPrefix (cs : List Char) : trimRight cs <+: cs := List.rdropWhile_prefix isBlank cs

theorem trimLeft_append {left : List Char} (h : ∀ c ∈ left, isBlank c = true) (cs : List Char) :
    trimLeft (left ++ cs) = trimLeft cs := List.dropWhile_append_of_pos h

theorem trimRight_append {right : List Char} (h : ∀ c ∈ right, isBlank c = true) (cs : List Char) :
    trimRight (cs ++ right) = trimRight cs := by
  have hreverse : ∀ c ∈ right.reverse, isBlank c = true := by simpa using h
  simp [trimRight, List.dropWhile_append_of_pos hreverse]

theorem trimLeft_eq_self {cs : List Char} (h : OpensBare cs) : trimLeft cs = cs := by
  cases cs with
  | nil => rfl
  | cons c cs =>
      have hc : isBlank c = false := h c rfl
      simp [trimLeft, hc]

theorem trimRight_eq_self {cs : List Char} (h : ClosesBare cs) : trimRight cs = cs := by
  have hreverse := trimLeft_eq_self ((closesBare_iff cs).mp h)
  rw [trimLeft] at hreverse
  rw [trimRight, hreverse, List.reverse_reverse]

theorem trim_eq_self {cs : List Char} (hopens : OpensBare cs) (hcloses : ClosesBare cs) :
    trim cs = cs := by
  rw [trim, trimLeft_eq_self hopens, trimRight_eq_self hcloses]

/-- **Trimming at the end** leaves the longest start that does not end in white space. -/
theorem prefix_trimRight {p cs : List Char} (hp : p <+: cs) (hcloses : ClosesBare p) :
    p <+: trimRight cs := by
  obtain hle | hle := List.prefix_or_prefix_of_prefix hp (trimRight_isPrefix cs)
  · exact hle
  · -- a longer start ends in something that was taken away
    obtain ⟨more, rfl⟩ := hle
    obtain ⟨rest, hrest⟩ := hp
    have hcs : trimRight cs ++ cs.rtakeWhile isBlank = cs := List.rdropWhile_append_rtakeWhile
    have hmore : more ++ rest = cs.rtakeWhile isBlank := by
      have hboth := hrest.trans hcs.symm
      rwa [List.append_assoc, List.append_cancel_left_eq] at hboth
    have hblank : ∀ c ∈ more, isBlank c = true := by
      intro c hc
      have hmem : c ∈ cs.rtakeWhile isBlank := hmore ▸ List.mem_append_left rest hc
      exact List.mem_rtakeWhile_imp hmem
    have hnone : trimRight (trimRight cs ++ more) = trimRight cs := by
      rw [trimRight_append hblank, trimRight_eq_self (closesBare_trimRight cs)]
    rw [trimRight_eq_self hcloses] at hnone
    exact ⟨[], (List.append_nil _).trans hnone⟩

/-- What trimming leaves, with the white space that it takes away. -/
theorem strips_trim (cs : List Char) : Strips cs (trim cs) := by
  have hright : trim cs ++ (trimLeft cs).rtakeWhile isBlank = trimLeft cs :=
    List.rdropWhile_append_rtakeWhile
  have hleft : cs.takeWhile isBlank ++ trimLeft cs = cs := List.takeWhile_append_dropWhile
  refine ⟨⟨cs.takeWhile isBlank, (trimLeft cs).rtakeWhile isBlank, ?_, ?_, ?_⟩,
    (opensBare_trimLeft cs).of_isPrefix (trimRight_isPrefix _), closesBare_trimRight _⟩
  · rw [List.append_assoc, hright, hleft]
  · exact fun c hc => List.mem_takeWhile_imp hc
  · exact fun c hc => List.mem_rtakeWhile_imp hc

/-- A text can be stripped of the white space around it in one way only. -/
theorem strips_iff (cs s : List Char) : Strips cs s ↔ s = trim cs := by
  constructor
  · rintro ⟨⟨left, right, rfl, hleft, hright⟩, hopens, hcloses⟩
    rw [List.append_assoc, trim, trimLeft_append hleft]
    cases s with
    | nil =>
        have hnone := trimLeft_append hright []
        rw [List.append_nil] at hnone
        rw [List.nil_append, hnone]
        rfl
    | cons c s =>
        have hhead : OpensBare (c :: s ++ right) := by simpa [OpensBare] using hopens
        rw [trimLeft_eq_self hhead, trimRight_append hright, trimRight_eq_self hcloses]
  · rintro rfl
    exact strips_trim cs

end Text

namespace Outline

open Text

/-! ## code spans -/

/-- What a line shows of a text. -/
structure CodeSpan where
  /-- The text between the marks. -/
  shown : List Char
  /-- Whether dots follow. -/
  dots : Bool

/-- How a code span is written; without one there is nothing. -/
def spanChars : Option CodeSpan → List Char
  | none => []
  | some span => '\x60' :: span.shown ++ '\x60' :: (if span.dots then ['.', '.', '.'] else [])

/-- A code span can be read off what is written. -/
theorem spanChars_injective : Function.Injective spanChars := by
  rintro (_ | ⟨shown, dots⟩) (_ | ⟨shown', dots'⟩) h
  · rfl
  · simp [spanChars] at h
  · simp [spanChars] at h
  · -- read from its end, the text starts with a mark or with a dot
    have hreverse := congrArg List.reverse h
    cases dots <;> cases dots' <;> simp [spanChars] at hreverse <;> simp [hreverse]

/-- The code span for a heading. -/
def codeSpan (limit : Int) (s : List Char) : Option CodeSpan :=
  if s = [] then none
  else if limit < s.length then some ⟨trim (cut limit s), true⟩
  else some ⟨trim s, false⟩

theorem span_eq (limit : Int) (text : String) :
    span limit text = spanChars (codeSpan limit (heading text)) := by
  by_cases hempty : heading text = []
  · simp [span, codeSpan, hempty, spanChars]
  · by_cases hlong : limit < (heading text).length
    · simp [span, codeSpan, hempty, hlong, spanChars]
    · simp [span, codeSpan, hempty, hlong, spanChars]

theorem codeSpan_eq_none_iff (limit : Int) (s : List Char) : codeSpan limit s = none ↔ s = [] := by
  unfold codeSpan
  split
  · simp_all
  · split <;> simp_all

/-- The first line of a text that is not empty: what stands between the line breaks at the start of the
text and the next one. -/
def headline (cs : List Char) : List Char := (cs.dropWhile isLineBreak).takeWhile (!isLineBreak ·)

theorem heading_eq_trim (text : String) : heading text = trim (headline text.toList) := by
  have hfirst := firstLine_getD text.toList
  unfold heading
  cases hline : firstLine text.toList with
  | none =>
      rw [hline, Option.getD_none] at hfirst
      rw [headline, ← hfirst]
      rfl
  | some l =>
      rw [hline, Option.getD_some] at hfirst
      rw [headline, ← hfirst]

theorem not_isLineBreak_of_mem_heading {text : String} {c : Char} (h : c ∈ heading text) :
    isLineBreak c = false := by
  rw [heading_eq_trim] at h
  simpa using List.mem_takeWhile_imp (mem_of_mem_trim h)

/-! ## headings that are cut -/

/-- What a code span has to be for a heading and a limit. -/
structure Shows (limit : Int) (s : List Char) (span : CodeSpan) : Prop where
  /-- Something is shown. -/
  nonempty : span.shown ≠ []
  /-- It is the start of the heading. -/
  start : span.shown <+: s
  /-- It is within the limit. -/
  fits : span.shown.length ≤ limit
  /-- It is on one line. -/
  unbroken : ∀ c ∈ span.shown, isLineBreak c = false
  /-- It does not start with white space. -/
  opens : OpensBare span.shown
  /-- It does not end in white space. -/
  closes : ClosesBare span.shown
  /-- Dots follow exactly if the heading is beyond the limit. -/
  dots_iff : span.dots = true ↔ limit < s.length
  /-- Without dots it is all of the heading. -/
  whole : span.dots = false → span.shown = s
  /-- With dots there is no longer start of the heading within the limit that does not end in white
  space. -/
  longest : span.dots = true → ∀ p, p <+: s → p.length ≤ limit → ClosesBare p → p <+: span.shown

theorem cut_eq_take {limit : Int} (h : 1 ≤ limit) (s : List Char) :
    cut limit s = s.take limit.toNat := by
  have hneg : ¬ limit < 0 := by omega
  have habs : limit.natAbs = limit.toNat := by omega
  rw [cut, if_neg hneg, habs]

/-- A cut heading is trimmed at its end only. -/
theorem trim_cut {limit : Int} (h : 1 ≤ limit) {s : List Char} (hopens : OpensBare s) :
    trim (cut limit s) = trimRight (s.take limit.toNat) := by
  have htake : OpensBare (s.take limit.toNat) := hopens.of_isPrefix (List.take_prefix _ _)
  rw [cut_eq_take h, trim, trimLeft_eq_self htake]

/-- The first character of a heading is always shown. -/
theorem head_prefix_trim_cut {limit : Int} (h : 1 ≤ limit) {c : Char} {s : List Char}
    (hopens : OpensBare (c :: s)) : [c] <+: trim (cut limit (c :: s)) := by
  obtain ⟨n, hn⟩ : ∃ n, limit.toNat = n + 1 := ⟨limit.toNat - 1, by omega⟩
  have hstart : [c] <+: (c :: s).take limit.toNat := ⟨s.take n, by simp [hn]⟩
  have hcloses : ClosesBare [c] := by simpa [ClosesBare, OpensBare] using hopens
  rw [trim_cut h hopens]
  exact prefix_trimRight hstart hcloses

theorem shows_cut {limit : Int} (h : 1 ≤ limit) {c : Char} {s : List Char}
    (hlong : limit < (c :: s).length) (hopens : OpensBare (c :: s))
    (hunbroken : ∀ d ∈ c :: s, isLineBreak d = false) :
    Shows limit (c :: s) ⟨trim (cut limit (c :: s)), true⟩ := by
  have htrim := trim_cut h hopens
  have hcut : trim (cut limit (c :: s)) <+: (c :: s).take limit.toNat := by
    rw [htrim]
    exact trimRight_isPrefix _
  have hstart := hcut.trans (List.take_prefix limit.toNat (c :: s))
  constructor
  case nonempty =>
    obtain ⟨rest, hrest⟩ := head_prefix_trim_cut h hopens
    simp [← hrest]
  case start => exact hstart
  case fits =>
    have hlength := hcut.length_le
    rw [List.length_take] at hlength
    show ((trim (cut limit (c :: s))).length : Int) ≤ limit
    omega
  case unbroken => exact fun d hd => hunbroken d (hstart.mem hd)
  case opens => exact hopens.of_isPrefix hstart
  case closes =>
    show ClosesBare (trim (cut limit (c :: s)))
    rw [htrim]
    exact closesBare_trimRight _
  case dots_iff => exact iff_of_true rfl hlong
  case whole => exact fun hdots => nomatch hdots
  case longest =>
    intro _ p hp hle hbare
    have htake : p <+: (c :: s).take limit.toNat := List.prefix_take_iff.mpr ⟨hp, by omega⟩
    show p <+: trim (cut limit (c :: s))
    rw [htrim]
    exact prefix_trimRight htake hbare

theorem shows_whole {limit : Int} {s : List Char} (hne : s ≠ []) (hlong : ¬ limit < s.length)
    (hopens : OpensBare s) (hcloses : ClosesBare s) (hunbroken : ∀ c ∈ s, isLineBreak c = false) :
    Shows limit s ⟨trim s, false⟩ := by
  rw [trim_eq_self hopens hcloses]
  exact ⟨hne, List.prefix_refl s, Int.not_lt.mp hlong, hunbroken, hopens, hcloses,
    iff_of_false Bool.false_ne_true hlong, fun _ => rfl, fun hdots => nomatch hdots⟩

/-- **Cutting a heading**: the code span for a heading is as it has to be. -/
theorem shows_codeSpan {limit : Int} (h : 1 ≤ limit) {s : List Char} (hopens : OpensBare s)
    (hcloses : ClosesBare s) (hunbroken : ∀ c ∈ s, isLineBreak c = false) :
    ∀ span ∈ codeSpan limit s, Shows limit s span := by
  intro span hspan
  cases s with
  | nil => simp [codeSpan] at hspan
  | cons c s =>
      rw [codeSpan, if_neg (List.cons_ne_nil c s)] at hspan
      by_cases hlong : limit < (c :: s).length
      · rw [if_pos hlong] at hspan
        obtain rfl := Option.some.inj hspan
        exact shows_cut h hlong hopens hunbroken
      · rw [if_neg hlong] at hspan
        obtain rfl := Option.some.inj hspan
        exact shows_whole (List.cons_ne_nil c s) hlong hopens hcloses hunbroken

/-- What stands before the code span in the entry of a node. -/
def nodeStart (pad : Nat) (typeName : String) : List Char :=
  blanks pad ++ "1. **".toList ++ typeName.toList ++ "**: ".toList

end Outline

/-! ## the limit that is set -/

namespace Settings

/-- A number that is read as not below a bound is not below it. -/
theorem le_of_readAtLeast {least n : Int} {d : Document} (h : readAtLeast least d = .ok n) :
    least ≤ n := by
  unfold readAtLeast at h
  split at h
  · cases h
  · split at h
    · cases h
    · cases h
      omega

/-- A field has its default value, or one that its rule lets through. -/
theorem check_fst {α : Type} {given : Field → Option Document} {field : Field}
    {read : Document → Except Flaw α} {default : α} {P : α → Prop} (hdefault : P default)
    (hread : ∀ d a, read d = .ok a → P a) : P (check given field read default).1 := by
  unfold check
  split
  · exact hdefault
  · split
    · next a ha => exact hread _ a ha
    · exact hdefault

/-- No settings show less than one character of a text. -/
theorem one_le_markdownTruncate {source : Source} {settings : Settings}
    (h : ofSource source = .ok settings) : 1 ≤ settings.markdownTruncate := by
  rw [ofSource, load] at h
  dsimp only at h
  split at h
  · cases h
    exact check_fst (P := (1 ≤ ·)) (by decide) fun d n => le_of_readAtLeast
  · cases h

end Settings

namespace Outline

open Text

/-- **Headings in an outline**: settings let through only limits of at least one character, and for every
such limit the entry of a node shows no code span if the first line of its text is absent or only white
space; otherwise it shows the first line without the white space around it, as far as the limit allows,
and dots exactly if that is not all of it. -/
theorem nodeEntry_truncates :
    (∀ source settings, Settings.ofSource source = .ok settings → 1 ≤ settings.markdownTruncate) ∧
    ∀ (limit : Int) (pad : Nat) (t : Tree), 1 ≤ limit → ∃ (s : List Char) (span : Option CodeSpan),
      (∀ s', Strips (headline t.text.toList) s' ↔ s' = s) ∧
      (∀ span', nodeEntry limit pad t = nodeStart pad t.typeName ++ spanChars span' ↔ span' = span) ∧
      (span = none ↔ s = []) ∧
      ∀ shown ∈ span, Shows limit s shown := by
  refine ⟨fun _ _ => Settings.one_le_markdownTruncate, fun limit pad t hlimit => ?_⟩
  have hstrips := strips_trim (headline t.text.toList)
  have hheading := heading_eq_trim t.text
  rw [← hheading] at hstrips
  refine ⟨heading t.text, codeSpan limit (heading t.text), fun s' => ?_, fun span' => ?_,
    codeSpan_eq_none_iff limit _, shows_codeSpan hlimit hstrips.opens hstrips.closes fun c =>
      not_isLineBreak_of_mem_heading⟩
  · rw [strips_iff, hheading]
  · rw [nodeEntry, nodeStart, span_eq, List.append_cancel_left_eq]
    exact ⟨fun h => (spanChars_injective h).symm, fun h => h ▸ rfl⟩

/-- A call whose text starts with a line break and a wide blank, and has two blanks where it is cut. -/
def gappedCall : Tree := .node "Sum" "\r\n\u2003SUM  (x) \nOVER ()" none none

theorem nodeEntry_truncates_gapped :
    nodeEntry 4 3 gappedCall = nodeStart 3 "Sum" ++ spanChars (some ⟨"SUM".toList, true⟩) ∧
    Strips (headline gappedCall.text.toList) "SUM  (x)".toList ∧
    Shows 4 "SUM  (x)".toList ⟨"SUM".toList, true⟩ := by
  obtain ⟨s, span, hs, hspan, -, hshows⟩ := nodeEntry_truncates.2 4 3 gappedCall (by decide)
  have hline : nodeEntry 4 3 gappedCall =
      nodeStart 3 "Sum" ++ spanChars (some ⟨"SUM".toList, true⟩) := by
    decide
  have hstrips : Strips (headline gappedCall.text.toList) "SUM  (x)".toList := by
    rw [strips_iff]
    decide
  obtain rfl := (hs _).mp hstrips
  exact ⟨hline, hstrips, hshows _ ((hspan _).mp hline).symm⟩

end Outline

end QueryTree
