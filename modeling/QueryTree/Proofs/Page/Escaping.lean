import QueryTree.Page.Part
import QueryTree.Proofs.Json.Scanning

/-!
# QueryTree.Proofs.Page.Escaping

Foreign text on a page.

* `not_markup_of_mem_data` — character data holds no angle bracket and no quote;
* `not_active_of_mem_literal` — a script literal holds no angle bracket, no ampersand and
  no apostrophe;
* `emits_literal` — a script literal is one string, and it is the text it was made from.
-/

namespace QueryTree.Page

/-! ## character data -/

theorem not_markup_of_mem_dataChar {c d : Char} (h : c ∈ dataChar d) :
    c ≠ '<' ∧ c ≠ '>' ∧ c ≠ '"' ∧ c ≠ '\'' := by
  unfold dataChar at h
  split at h
  case h_6 _ hlt hgt hapos hquote =>
    rw [List.mem_singleton.mp h]
    exact ⟨hlt, hgt, hquote, hapos⟩
  all_goals
    simp only [String.reduceToList, List.mem_cons, List.not_mem_nil, or_false] at h
    grind

/-- Character data holds nothing that markup is made of. -/
theorem not_markup_of_mem_data {s : String} {c : Char} (h : c ∈ (Part.data s).chars) :
    c ≠ '<' ∧ c ≠ '>' ∧ c ≠ '"' ∧ c ≠ '\'' := by
  obtain ⟨d, -, hc⟩ := List.mem_flatMap.mp h
  exact not_markup_of_mem_dataChar hc

/-! ## script literals -/

theorem isActive_hexDigit {n : Nat} (h : n < 16) : isActive (Text.hexDigit 'a' n) = false := by
  have hall : ∀ n : Fin 16, isActive (Text.hexDigit 'a' n) = false := by decide
  exact hall ⟨n, h⟩

theorem not_active_of_mem_codeEscape {n : Nat} {c : Char} (h : c ∈ codeEscape n) : isActive c = false := by
  rw [codeEscape, List.mem_cons, List.mem_cons] at h
  obtain rfl | rfl | h := h
  · rfl
  · rfl
  · obtain ⟨m, hm, rfl⟩ := Text.mem_hexWith h
    exact isActive_hexDigit hm

theorem not_active_of_mem_codeEscapes {n : Nat} {c : Char} (h : c ∈ codeEscapes n) :
    isActive c = false := by
  unfold codeEscapes at h
  split at h
  · exact not_active_of_mem_codeEscape h
  · obtain h | h := List.mem_append.mp h
    · exact not_active_of_mem_codeEscape h
    · exact not_active_of_mem_codeEscape h

theorem not_active_of_letterEscape? {c e : Char} (h : Json.letterEscape? c = some e) : isActive e = false := by
  unfold Json.letterEscape? at h
  split at h
  case h_8 => cases h
  all_goals
    cases h
    rfl

theorem not_active_of_mem_literalChar {c d : Char} (h : c ∈ literalChar d) : isActive c = false := by
  unfold literalChar at h
  split at h
  · next e he =>
      obtain rfl | h := List.mem_cons.mp h
      · rfl
      · rw [List.mem_singleton.mp h]
        exact not_active_of_letterEscape? he
  · split at h
    · exact not_active_of_mem_codeEscapes h
    · next hplain =>
        rw [List.mem_singleton.mp h]
        simp only [Bool.or_eq_true, not_or] at hplain
        exact Bool.eq_false_iff.mpr hplain.1.1

/-- A script literal holds nothing that could end a script or an attribute in apostrophes. -/
theorem not_active_of_mem_literal {s : String} {c : Char} (h : c ∈ (Part.literal s).chars) :
    isActive c = false := by
  rw [Part.chars, List.cons_append, List.mem_cons, List.mem_append, List.mem_singleton] at h
  obtain rfl | h | rfl := h
  · rfl
  · obtain ⟨d, -, hc⟩ := List.mem_flatMap.mp h
    exact not_active_of_mem_literalChar hc
  · rfl

/-- A pair of surrogates stands for the character beyond the first plane that it was made from. -/
theorem run_surrogates {c : Char} (h : ¬ c.toNat < 0x10000) (done : List Char) (found : List Json.Token)
    (rest : List Char) :
    Json.Scan.run (.text done none) found (codeEscapes c.toNat ++ rest) =
      Json.Scan.run (.text (c :: done) none) found rest := by
  have hvalid : c.toNat < 0xD800 ∨ 0xDFFF < c.toNat ∧ c.toNat < 0x110000 := c.valid
  have hhigh : Json.putCode done none (0xD800 + (c.toNat - 0x10000) / 0x400) =
      some (.text done (some (0xD800 + (c.toNat - 0x10000) / 0x400))) := by
    have hrange : 0xD800 ≤ 0xD800 + (c.toNat - 0x10000) / 0x400 ∧
        0xD800 + (c.toNat - 0x10000) / 0x400 ≤ 0xDBFF := by omega
    simp only [Json.putCode, Bool.and_eq_true, decide_eq_true_eq, if_pos hrange]
  have hlow : Json.putCode done (some (0xD800 + (c.toNat - 0x10000) / 0x400))
      (0xDC00 + (c.toNat - 0x10000) % 0x400) = some (.text (c :: done) none) := by
    have hrange : 0xDC00 ≤ 0xDC00 + (c.toNat - 0x10000) % 0x400 ∧
        0xDC00 + (c.toNat - 0x10000) % 0x400 ≤ 0xDFFF := by omega
    have hcode : 0x10000 + (0xD800 + (c.toNat - 0x10000) / 0x400 - 0xD800) * 0x400 +
        (0xDC00 + (c.toNat - 0x10000) % 0x400 - 0xDC00) = c.toNat := by omega
    simp only [Json.putCode, Bool.and_eq_true, decide_eq_true_eq, if_pos hrange, hcode, Char.ofNat_toNat]
  rw [codeEscapes, if_neg h, List.append_assoc, codeEscape, codeEscape,
    Json.run_codeEscape (by omega) hhigh, Json.run_codeEscape (by omega) hlow]

theorem spells_literalChar : Json.Spells literalChar := by
  intro c done found rest
  unfold literalChar
  cases hletter : Json.letterEscape? c with
  | some e => exact Json.run_letterEscape hletter done found rest
  | none =>
      by_cases hcode : (isActive c || c.toNat < 0x20 || 0x7E < c.toNat) = true
      · simp only [hcode, if_true]
        by_cases hplane : c.toNat < 0x10000
        · rw [codeEscapes, if_pos hplane]
          exact Json.run_codeEscape hplane (Json.putCode_char c hplane done) found rest
        · exact run_surrogates hplane done found rest
      · have hlow : ¬ c.toNat < 0x20 := fun hlow => hcode (by simp [hlow])
        simp only [hcode]
        exact Json.run_plainChar hletter hlow done found rest

/-- **A script literal** is one string of JSON, and it is the text it was made from. -/
theorem emits_literal (s : String) : Json.Emits (Part.literal s).chars [.text s] :=
  spells_literalChar.emits s

end QueryTree.Page
