import Mathlib.Algebra.Group.Nat.Defs
import QueryTree.Proofs.Yaml.Folding

/-!
# QueryTree.Proofs.Yaml.Escaping

Escapes undo what they stand for.

In double quotes every character stands for itself or is escaped, and a line ends with a
backslash wherever it is broken.  Read back, the text is the same, with one exception.  A
line that is broken after an escape and goes on with a blank starts with a backslash for
that blank.  In a margin of eighty columns or more it is broken again at once, and that
backslash then escapes the next one instead of the blank.

* `spells_escape` — an escape is read as the character it was written for;
* `tells` — a text in double quotes is read as `heardDouble` says.
-/

namespace QueryTree.Yaml

/-! ## escapes -/

/-- Digits before the last one are read as the number they are written for. -/
theorem doublePieces_digits (width left value : Nat) {n : Nat} (hn : n < 16 ^ width) (rest : List Char) :
    doublePieces (.digits (width + left) value) (Text.hexWith 'A' width n ++ rest) =
      doublePieces (.digits left (value * 16 ^ width + n)) rest := by
  induction width generalizing left n rest with
  | zero =>
      obtain rfl : n = 0 := by simpa using hn
      simp [Text.hexWith]
  | succ width ih =>
      have hdiv : n / 16 < 16 ^ width := by
        rw [Nat.pow_succ] at hn
        omega
      have hvalue : (value * 16 ^ width + n / 16) * 16 + n % 16 = value * 16 ^ (width + 1) + n := by
        rw [Nat.pow_succ, ← Nat.mul_assoc]
        omega
      rw [Text.hexWith, List.append_assoc, List.singleton_append, Nat.add_right_comm, Nat.add_assoc,
        ih (left + 1) hdiv, doublePieces, Text.hexValue?_hexDigit (.inr rfl) (Nat.mod_lt n (by decide))]
      simp only [hvalue]

/-- A code is read as its character. -/
theorem doublePieces_code (width : Nat) {c : Char} (hc : c.toNat < 16 ^ (width + 1)) (rest : List Char) :
    doublePieces (.digits width 0) (Text.upperHex (width + 1) c.toNat ++ rest) =
      (doublePieces .outside rest).map (prepend (.char c)) := by
  have hdiv : c.toNat / 16 < 16 ^ width := by
    rw [Nat.pow_succ] at hc
    omega
  have hdigits := doublePieces_digits width 0 0 hdiv (Text.hexDigit 'A' (c.toNat % 16) :: rest)
  have hvalue : c.toNat / 16 * 16 + c.toNat % 16 = c.toNat := by omega
  have hvalid : c.toNat.isValidChar := c.valid
  rw [Text.upperHex, Text.hexWith, List.append_assoc, List.singleton_append]
  rw [Nat.add_zero, Nat.zero_mul, Nat.zero_add] at hdigits
  rw [hdigits, doublePieces, Text.hexValue?_hexDigit (.inr rfl) (Nat.mod_lt _ (by decide))]
  simp [hvalue, hvalid]

/-- A letter that escapes a character stands for it. -/
theorem unescape?_of_letterEscape? {c e : Char} (h : letterEscape? c = some e) :
    unescape? e = some c ∧ digitCount? e = none := by
  have hc : ∀ n, c.toNat = n → c = Char.ofNat n := fun n hn => by rw [← hn, Char.ofNat_toNat]
  unfold letterEscape? at h
  split at h
  case h_15 => cases h
  all_goals
    next hn =>
      cases h
      rw [hc _ hn]
      exact ⟨rfl, rfl⟩

/-- **Escapes**: an escape is read as the character that it was written for. -/
theorem spells_escape (c : Char) : Spells (doublePieces .outside) (escape c) [.char c] := by
  intro rest
  have hvalid : c.toNat < 0xD800 ∨ 0xDFFF < c.toNat ∧ c.toNat < 0x110000 := c.valid
  have hcode : ∀ (m : Char) (width : Nat), digitCount? m = some (width + 1) → c.toNat < 16 ^ (width + 1) →
      doublePieces .outside ('\\' :: m :: (Text.upperHex (width + 1) c.toNat ++ rest)) =
        (doublePieces .outside rest).map (prepend (.char c)) := by
    intro m width hm hwidth
    simp [doublePieces, hm, doublePieces_code width hwidth]
  unfold escape
  cases h : letterEscape? c with
  | some e =>
      obtain ⟨hstands, hdigits⟩ := unescape?_of_letterEscape? h
      simp only [List.cons_append, List.nil_append, doublePieces, hstands, hdigits]
      rfl
  | none =>
      simp only
      split
      · exact hcode 'x' 1 rfl (by omega)
      · split
        · exact hcode 'u' 3 rfl (by omega)
        · exact hcode 'U' 7 rfl (by omega)

theorem two_le_length_escape (c : Char) : 2 ≤ (escape c).length := by
  unfold escape
  split
  · simp
  · simp only
    split
    · simp
    · split <;> simp

/-! ## characters that stand for themselves -/

theorem readsGaps_doublePieces : ReadsGaps (doublePieces .outside) := by
  intro c rest hc
  have hquote : c ≠ '"' := fun h => hc (by rw [h]; decide)
  have hbackslash : c ≠ '\\' := fun h => hc (by rw [h]; decide)
  simp [doublePieces, hquote, hbackslash]

/-- A character that stands for itself is no quote, no backslash and no break. -/
theorem spells_verbatim {c : Char} (h : isVerbatim c = true) (hblank : c ≠ ' ') :
    Spells (doublePieces .outside) [c] [.char c] := by
  intro rest
  have hletter : (letterEscape? c).isNone = true := (Bool.and_eq_true_iff.mp h).1
  have hne : ∀ d : Char, (letterEscape? d).isNone = false → c ≠ d := by
    intro d hd hcd
    rw [← hcd, hletter] at hd
    cases hd
  have hbreak : isBreak c = false := by
    refine Bool.eq_false_iff.mpr fun hb => ?_
    simp only [isBreak, List.contains_eq_mem, decide_eq_true_eq, List.mem_cons, List.not_mem_nil,
      or_false] at hb
    obtain hb | hb | hb | hb := hb <;> simp [letterEscape?, hb] at hletter
  have hpiece : quotedPiece? c rest = some (.char c) := by
    simp [quotedPiece?, hblank, hbreak, hne '\t' (by decide), hne '\r' (by decide)]
  simp only [List.singleton_append, doublePieces, beq_iff_eq, hne '"' (by decide), hne '\\' (by decide),
    if_false, hpiece, Option.bind_some]
  rfl

theorem isVerbatim_blank : isVerbatim ' ' = true := by decide

/-! ## broken lines -/

/-- The characters `cs`, inside double quotes, are read as the text `text`, whatever follows. -/
def Told (text cs : List Char) : Prop :=
  ∃ ps, Spells (doublePieces .outside) cs ps ∧ ∀ ws, folded (.blanks ws) ps = ws ++ text

/-- The characters `cs`, inside double quotes, are read as the text `text` even at the start of a line. -/
def ToldAfresh (text cs : List Char) : Prop :=
  ∃ ps, Spells (doublePieces .outside) cs ps ∧ ∀ p, folded p ps = p.text ++ text

variable {text cs : List Char}

theorem toldAfresh_nil : ToldAfresh [] [] := ⟨[], spells_nil, fun p => by simp [folded]⟩

theorem ToldAfresh.told (h : ToldAfresh text cs) : Told text cs := by
  obtain ⟨ps, hspells, hfolded⟩ := h
  exact ⟨ps, hspells, fun ws => hfolded (.blanks ws)⟩

theorem Told.char (h : Told text cs) {c : Char} {out : List Char}
    (hc : Spells (doublePieces .outside) out [.char c]) : ToldAfresh (c :: text) (out ++ cs) := by
  obtain ⟨ps, hspells, hfolded⟩ := h
  refine ⟨.char c :: ps, hc.append hspells, fun p => ?_⟩
  rw [folded, hfolded, List.nil_append]

theorem Told.blank (h : Told text cs) : Told (' ' :: text) (' ' :: cs) := by
  obtain ⟨ps, hspells, hfolded⟩ := h
  refine ⟨.blank ' ' :: ps, (spells_blank readsGaps_doublePieces).append hspells, fun ws => ?_⟩
  rw [folded, Pause.blank, hfolded, List.append_assoc, List.singleton_append]

/-- The end of a line that is escaped, and the margin of the next. -/
theorem spells_join (margin : Nat) : Spells (doublePieces .outside) (foldLine (margin + 1) false)
    (.join :: List.replicate (margin + 1) (.blank ' ')) := by
  intro rest
  have hmargin := spells_margin readsGaps_doublePieces (margin + 1) rest
  have hmarker := @startsMarker_of_gap ' ' (by decide) (List.replicate margin ' ' ++ rest)
  have hstep : doublePieces .outside ('\\' :: '\n' :: (List.replicate (margin + 1) ' ' ++ rest)) =
      (doublePieces .outside (List.replicate (margin + 1) ' ' ++ rest)).map (prepend .join) := by
    have hbreak : (isBreak '\n' && !startsMarker (List.replicate (margin + 1) ' ' ++ rest)) = true := by
      rw [List.replicate_succ, List.cons_append, hmarker]
      decide
    simp [doublePieces, digitCount?, unescape?, hbreak]
  have hline : foldLine (margin + 1) false ++ rest =
      '\\' :: '\n' :: (List.replicate (margin + 1) ' ' ++ rest) := by
    simp [foldLine, newLine]
  rw [hline, hstep, hmargin, Option.map_map]
  rfl

theorem ToldAfresh.fold (h : ToldAfresh text cs) (margin : Nat) :
    ToldAfresh text (foldLine (margin + 1) false ++ cs) := by
  obtain ⟨ps, hspells, hfolded⟩ := h
  refine ⟨_, (spells_join margin).append hspells, fun p => ?_⟩
  rw [List.cons_append, folded, folded_margin rfl, hfolded]
  rfl

theorem foldLine_blank (margin : Nat) (cs : List Char) :
    foldLine margin true ++ cs = foldLine margin false ++ '\\' :: cs := by
  simp [foldLine]

/-- A line that is broken at a blank. -/
theorem Told.foldBlank (h : Told text cs) (margin : Nat) :
    ToldAfresh (' ' :: text) (foldLine (margin + 1) true ++ ' ' :: cs) := by
  have hblank : Spells (doublePieces .outside) ['\\', ' '] [.char ' '] := fun _ => rfl
  rw [foldLine_blank]
  exact (h.char hblank).fold margin

/-- A line that is broken at a blank twice: the first backslash for the blank escapes the second, and the
break between the lines is a blank of its own. -/
theorem Told.foldTwice (h : Told text cs) (margin : Nat) :
    ToldAfresh ('\\' :: ' ' :: ' ' :: text)
      (foldLine (margin + 1) true ++ (foldLine (margin + 1) true ++ ' ' :: cs)) := by
  have hblank : Spells (doublePieces .outside) ['\\', ' '] [.char ' '] := fun _ => rfl
  have hbackslash : Spells (doublePieces .outside) ['\\', '\\'] [.char '\\'] := fun _ => rfl
  have hbreaks : ∀ c ∈ ['\n'], isBreak c = true := List.forall_mem_singleton.mpr (by decide)
  obtain ⟨ps, hspells, hfolded⟩ := h.char hblank
  have hstray : ToldAfresh ('\\' :: ' ' :: ' ' :: text)
      (['\\', '\\'] ++ (newLine (margin + 1) ++ (['\\', ' '] ++ cs))) := by
    refine ⟨_, hbackslash.append
      ((spells_lineBreaks readsGaps_doublePieces hbreaks margin).append hspells), fun p => ?_⟩
    rw [List.singleton_append, folded, List.map_cons, List.map_nil, List.singleton_append,
      List.cons_append, folded, Pause.lineBreak, folded_margin rfl, hfolded]
    rfl
  rw [foldLine_blank]
  simpa [foldLine, newLine] using hstray.fold margin

/-! ## double quotes -/

/-- Whether a blank comes next that is not the last character. -/
def opensBlank : List Char → Bool
  | ' ' :: _ :: _ => true
  | _ => false

theorem head?_of_opensBlank {cs : List Char} (h : opensBlank cs = true) : cs.head? = some ' ' := by
  unfold opensBlank at h
  split at h
  · rfl
  · cases h

/-- What a text in double quotes is read as.  `deep` says whether the margin has eighty columns or more,
`first` whether nothing stands before. -/
def heardDouble (deep : Bool) : Bool → List Char → List Char
  | _, [] => []
  | first, c :: rest =>
    if deep && !first && !isVerbatim c && opensBlank rest then
      c :: '\\' :: ' ' :: heardDouble deep false rest
    else c :: heardDouble deep false rest

/-- What the writer puts for a blank after a line that was broken for it.  It breaks the line again in a
wide margin, unless the blank is the last character. -/
theorem doubleFrom_blank (indent : Nat) (rest : List Char) :
    doubleFrom true indent false true (foldColumn indent true) (' ' :: rest) =
      if !rest.isEmpty && width ≤ indent then
        foldLine indent true ++ ' ' :: doubleFrom true indent false false (foldColumn indent true + 1) rest
      else ' ' :: doubleFrom true indent false false (foldColumn indent true + 1) rest := by
  have hcolumn : width < foldColumn indent true ↔ width ≤ indent := by
    simp only [foldColumn, if_true]
    omega
  rw [doubleFrom]
  simp only [isVerbatim_blank, if_true, beq_self_eq_true, Bool.true_or, Bool.and_true, Bool.true_and,
    Bool.not_false, hcolumn]

theorem le_foldColumn (indent : Nat) (blankNext : Bool) : indent ≤ foldColumn indent blankNext := by
  unfold foldColumn
  split <;> omega

theorem heardDouble_verbatim (deep first : Bool) {c : Char} (hc : isVerbatim c = true) (rest : List Char) :
    heardDouble deep first (c :: rest) = c :: heardDouble deep false rest := by
  simp [heardDouble, hc]

/-- Wherever it is written, a text in double quotes is read as `heardDouble` says. -/
def Tells (margin : Nat) (cs : List Char) : Prop :=
  ∀ (first afresh : Bool) (column : Nat), (width ≤ margin + 1 → margin + 1 ≤ column) →
    Told (heardDouble (width ≤ margin + 1) first cs)
      (doubleFrom true (margin + 1) first afresh column cs) ∧
    (cs.head? ≠ some ' ' → ToldAfresh (heardDouble (width ≤ margin + 1) first cs)
      (doubleFrom true (margin + 1) first afresh column cs))

namespace Tells

variable {margin : Nat} {c : Char} {rest : List Char}

theorem nil : Tells margin [] := fun _ _ _ _ => ⟨toldAfresh_nil.told, fun _ => toldAfresh_nil⟩

/-- A character that stands for itself; the line may be broken before it. -/
theorem verbatim (h : Tells margin rest) (hc : isVerbatim c = true) : Tells margin (c :: rest) := by
  intro first afresh column hcolumn
  rw [heardDouble_verbatim _ first hc, doubleFrom]
  simp only [hc, if_true]
  by_cases hblank : c = ' '
  · subst hblank
    split
    · have hfold := (h false false (foldColumn (margin + 1) true + 1)
        fun _ => Nat.le_succ_of_le (le_foldColumn _ _)).1.foldBlank margin
      exact ⟨hfold.told, fun _ => hfold⟩
    · have hblank := (h false false (column + 1) fun hw => Nat.le_succ_of_le (hcolumn hw)).1.blank
      exact ⟨hblank, fun hhead => absurd rfl hhead⟩
  · have hnot : (c == ' ') = false := by simpa using hblank
    have hspells := spells_verbatim hc hblank
    simp only [hnot, Bool.false_or]
    split
    · have hfold := ((h false false (foldColumn (margin + 1) false + 1)
        fun _ => Nat.le_succ_of_le (le_foldColumn _ _)).1.char hspells).fold margin
      exact ⟨hfold.told, fun _ => hfold⟩
    · have hchar := (h false false (column + 1) fun hw => Nat.le_succ_of_le (hcolumn hw)).1.char hspells
      exact ⟨hchar.told, fun _ => hchar⟩

/-- An escape before a blank for which the line is broken. -/
theorem escapeBlank (h : Tells margin rest) (hc : isVerbatim c = false) :
    ToldAfresh (heardDouble (width ≤ margin + 1) false (c :: ' ' :: rest))
      (escape c ++ (foldLine (margin + 1) true ++
        doubleFrom true (margin + 1) false true (foldColumn (margin + 1) true) (' ' :: rest))) := by
  have hrest := (h false false (foldColumn (margin + 1) true + 1)
    fun _ => Nat.le_succ_of_le (le_foldColumn _ _)).1
  have hblank := heardDouble_verbatim (width ≤ margin + 1) false isVerbatim_blank rest
  rw [doubleFrom_blank, heardDouble, hblank]
  have hopens : opensBlank (' ' :: rest) = !rest.isEmpty := by cases rest <;> rfl
  simp only [hc, hopens, Bool.not_false, Bool.and_true, Bool.and_comm _ (!rest.isEmpty)]
  split
  · exact (hrest.foldTwice margin).told.char (spells_escape c)
  · exact (hrest.foldBlank margin).told.char (spells_escape c)

/-- An escape; the line may be broken after it. -/
theorem escape (h : Tells margin rest) (htail : Tells margin rest.tail) (hc : isVerbatim c = false) :
    Tells margin (c :: rest) := by
  intro first afresh column hcolumn
  have hlength := two_le_length_escape c
  suffices hafresh : ToldAfresh (heardDouble (width ≤ margin + 1) first (c :: rest))
      (doubleFrom true (margin + 1) first afresh column (c :: rest)) from
    ⟨hafresh.told, fun _ => hafresh⟩
  rw [doubleFrom]
  simp only [hc, Bool.false_eq_true, if_false, Bool.true_and]
  split
  · next hfold =>
      simp only [Bool.and_eq_true, Bool.not_eq_true', decide_eq_true_eq] at hfold
      rw [hfold.1.1, List.append_assoc]
      by_cases hblank : rest.head? = some ' '
      · obtain ⟨rest, rfl⟩ := List.head?_eq_some_iff.mp hblank
        exact escapeBlank htail hc
      · have hnot : (rest.head? == some ' ') = false := by simpa using hblank
        have hopens : opensBlank rest = false := Bool.eq_false_iff.mpr (mt head?_of_opensBlank hblank)
        have hrest := (h false true (foldColumn (margin + 1) false) fun _ => le_foldColumn _ _).2 hblank
        simp only [heardDouble, hopens, Bool.and_false, Bool.false_eq_true, if_false, hnot]
        exact (hrest.fold margin).told.char (spells_escape c)
  · next hfold =>
      have hrest := (h false true (column + (Yaml.escape c).length) fun hw => by
        have := hcolumn hw
        omega).1
      have hheard : heardDouble (width ≤ margin + 1) first (c :: rest) =
          c :: heardDouble (width ≤ margin + 1) false rest := by
        rw [heardDouble, if_neg]
        intro hstray
        simp only [Bool.and_eq_true, decide_eq_true_eq] at hstray hfold
        obtain ⟨⟨⟨hdeep, hfirst⟩, -⟩, hopens⟩ := hstray
        have hwide := hcolumn hdeep
        have hmore : (!rest.isEmpty) = true := by
          obtain ⟨rest, rfl⟩ := List.head?_eq_some_iff.mp (head?_of_opensBlank hopens)
          rfl
        exact hfold ⟨⟨hfirst, hmore⟩, by omega⟩
      rw [hheard]
      exact hrest.char (spells_escape c)

end Tells

/-- **Double quotes**: a text written in double quotes is read as `heardDouble` says.  The induction is on
the text; a line that is broken between an escape and a blank takes two characters at once. -/
theorem tells (margin : Nat) (cs : List Char) : Tells margin cs := by
  suffices hboth : Tells margin cs ∧ Tells margin cs.tail from hboth.1
  induction cs with
  | nil => exact ⟨.nil, .nil⟩
  | cons c cs ih =>
      refine ⟨?_, ih.1⟩
      cases hc : isVerbatim c with
      | true => exact ih.1.verbatim hc
      | false => exact ih.1.escape ih.2 hc

end QueryTree.Yaml
