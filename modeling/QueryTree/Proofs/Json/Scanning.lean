import QueryTree.Json.Token
import QueryTree.Json.Writer

/-!
# QueryTree.Proofs.Json.Scanning

What the scanner makes of written JSON.

`tokensOf` lists the tokens of a document.  A text *emits* tokens if scanning it
between tokens finds exactly these and ends between tokens again, whatever was found
before and whatever follows; texts that emit can be put one after another
(`Emits.append`), so the layout of the writer is checked piece by piece:

* `Spells.emits` — a string, in any way of writing characters from which each is read as itself;
* `emits_chars` — a whole document whose leaves are texts, at any level.
-/

namespace QueryTree.Json

/-! ## the tokens of a document -/

mutual

/-- The tokens of a document. -/
def tokensOf : Document → List Token
  | .null => [.null]
  | .bool b => [.bool b]
  | .int n => [.int n]
  | .float x => [.float x]
  | .text s => [.text s]
  | .list [] => [.openList, .closeList]
  | .list (d :: ds) => .openList :: (tokensOf d ++ (itemTokens ds ++ [.closeList]))
  | .map [] => [.openMap, .closeMap]
  | .map ((k, d) :: es) =>
    .openMap :: .text k :: .colon :: (tokensOf d ++ (entryTokens es ++ [.closeMap]))

/-- The tokens of the items after the first. -/
def itemTokens : List Document → List Token
  | [] => []
  | d :: ds => .comma :: (tokensOf d ++ itemTokens ds)

/-- The tokens of the entries after the first. -/
def entryTokens : List (String × Document) → List Token
  | [] => []
  | (k, d) :: es => .comma :: .text k :: .colon :: (tokensOf d ++ entryTokens es)

end

mutual

/-- Whether texts are the only values in a document. -/
def isTextual : Document → Bool
  | .text _ => true
  | .list items => areTextual items
  | .map entries => holdTextual entries
  | _ => false

/-- Whether texts are the only values in several documents. -/
def areTextual : List Document → Bool
  | [] => true
  | d :: ds => isTextual d && areTextual ds

/-- Whether texts are the only values in a mapping. -/
def holdTextual : List (String × Document) → Bool
  | [] => true
  | (_, d) :: es => isTextual d && holdTextual es

end

theorem areTextual_iff {ds : List Document} : areTextual ds = true ↔ ∀ d ∈ ds, isTextual d = true := by
  induction ds with
  | nil => simp [areTextual]
  | cons d ds ih => rw [areTextual, Bool.and_eq_true, ih, List.forall_mem_cons]

theorem holdTextual_iff {es : List (String × Document)} :
    holdTextual es = true ↔ ∀ e ∈ es, isTextual e.2 = true := by
  induction es with
  | nil => simp [holdTextual]
  | cons e es ih => rw [holdTextual, Bool.and_eq_true, ih, List.forall_mem_cons]

/-! ## emission -/

theorem Scan.run_cons {s s' : Scan} {c : Char} {ts : List Token} (h : s.step c = some (ts, s'))
    (found : List Token) (cs : List Char) : s.run found (c :: cs) = s'.run (ts.reverse ++ found) cs := by
  rw [run, h]

/-- Scanning `cs` between tokens finds the tokens `ts` and ends between tokens. -/
def Emits (cs : List Char) (ts : List Token) : Prop :=
  ∀ (found : List Token) (rest : List Char),
    Scan.run .between found (cs ++ rest) = Scan.run .between (ts.reverse ++ found) rest

theorem emits_nil : Emits [] [] := fun _ _ => rfl

theorem Emits.append {cs cs' : List Char} {ts ts' : List Token} (h : Emits cs ts) (h' : Emits cs' ts') :
    Emits (cs ++ cs') (ts ++ ts') := by
  intro found rest
  rw [List.append_assoc, h, h', List.reverse_append, List.append_assoc]

theorem emits_space {c : Char} {cs : List Char} {ts : List Token}
    (hc : Scan.step .between c = some ([], .between)) (h : Emits cs ts) : Emits (c :: cs) ts := by
  intro found rest
  rw [List.cons_append, Scan.run_cons hc, h]
  rfl

theorem emits_mark {c : Char} {t : Token} {cs : List Char} {ts : List Token}
    (hc : Scan.step .between c = some ([t], .between)) (h : Emits cs ts) :
    Emits (c :: cs) (t :: ts) := by
  intro found rest
  rw [List.cons_append, Scan.run_cons hc, h]
  simp

theorem emits_tokens {cs : List Char} {ts : List Token} (h : Emits cs ts) : tokens cs = some ts := by
  rw [tokens, ← List.append_nil cs, h, Scan.run, Scan.finish]
  simp

theorem emits_blanks (n : Nat) : Emits (List.replicate n ' ') [] := by
  induction n with
  | zero => exact emits_nil
  | succ n ih => exact emits_space rfl ih

theorem emits_newLine (level : Nat) : Emits (newLine level) [] :=
  emits_space rfl (emits_blanks (2 * level))

/-! ## strings -/

/-- Four digits are read as the code they are written for. -/
theorem run_hex {n : Nat} (hn : n < 0x10000) {s : Scan} {done : List Char} {high : Option Nat}
    (hput : putCode done high n = some s) (found : List Token) (rest : List Char) :
    Scan.run (.code done high 4 0) found (Text.hex 4 n ++ rest) = s.run found rest := by
  have hdigit (m missing value : Nat) (hmissing : 1 < missing) :
      Scan.step (.code done high missing value) (Text.hexDigit 'a' (m % 16)) =
        some ([], .code done high (missing - 1) (16 * value + m % 16)) := by
    rw [Scan.step, Text.hexValue?_hexDigit (.inl rfl) (Nat.mod_lt m (by decide))]
    exact if_neg (by omega)
  -- the last digit completes the code instead of counting down
  have hlast (value : Nat) (hvalue : 16 * value + n % 16 = n) :
      Scan.step (.code done high 1 value) (Text.hexDigit 'a' (n % 16)) = some ([], s) := by
    rw [Scan.step, Text.hexValue?_hexDigit (.inl rfl) (Nat.mod_lt n (by decide))]
    simp [hvalue, hput]
  simp only [Text.hex, Text.hexWith, List.nil_append, List.cons_append]
  rw [Scan.run_cons (hdigit _ 4 0 (by decide)), Scan.run_cons (hdigit _ 3 _ (by decide)),
    Scan.run_cons (hdigit _ 2 _ (by decide)), Scan.run_cons (hlast _ (by omega))]
  rfl

/-- A code after a backslash is read as the character or the half of a pair it stands for. -/
theorem run_codeEscape {n : Nat} (hn : n < 0x10000) {s : Scan} {done : List Char} {high : Option Nat}
    (hput : putCode done high n = some s) (found : List Token) (rest : List Char) :
    Scan.run (.text done high) found ('\\' :: 'u' :: Text.hex 4 n ++ rest) = s.run found rest := by
  have hbackslash : Scan.step (.text done high) '\\' = some ([], .escape done high) := rfl
  have hcode : Scan.step (.escape done high) 'u' = some ([], .code done high 4 0) := rfl
  simp only [List.cons_append]
  rw [Scan.run_cons hbackslash, Scan.run_cons hcode, run_hex hn hput]
  rfl

/-- A character of the first plane is put into a string by its code; none of them is half of a pair. -/
theorem putCode_char (c : Char) (h : c.toNat < 0x10000) (done : List Char) :
    putCode done none c.toNat = some (.text (c :: done) none) := by
  have hvalid : c.toNat < 0xD800 ∨ 0xDFFF < c.toNat ∧ c.toNat < 0x110000 := c.valid
  have hlow : ¬ (0xD800 ≤ c.toNat ∧ c.toNat ≤ 0xDBFF) := by omega
  have hhigh : ¬ (0xDC00 ≤ c.toNat ∧ c.toNat ≤ 0xDFFF) := by omega
  simp only [putCode, Bool.and_eq_true, decide_eq_true_eq, if_neg hlow, if_neg hhigh, Char.ofNat_toNat]

/-- A letter that escapes a character stands for it, and for nothing else. -/
theorem unescape?_of_letterEscape? {c e : Char} (h : letterEscape? c = some e) :
    unescape? e = some c ∧ e ≠ 'u' := by
  unfold letterEscape? at h
  split at h
  case h_8 => cases h
  all_goals
    cases h
    exact ⟨rfl, by decide⟩

theorem run_letterEscape {c e : Char} (h : letterEscape? c = some e) (done : List Char)
    (found : List Token) (rest : List Char) :
    Scan.run (.text done none) found ('\\' :: e :: rest) = Scan.run (.text (c :: done) none) found rest := by
  obtain ⟨hstands, hu⟩ := unescape?_of_letterEscape? h
  have hbackslash : Scan.step (.text done none) '\\' = some ([], .escape done none) := rfl
  have hescape : Scan.step (.escape done none) e = some ([], .text (c :: done) none) := by
    simp [Scan.step, hu, hstands]
  rw [Scan.run_cons hbackslash, Scan.run_cons hescape]
  rfl

theorem run_plainChar {c : Char} (h : letterEscape? c = none) (hlow : ¬ c.toNat < 0x20)
    (done : List Char) (found : List Token) (rest : List Char) :
    Scan.run (.text done none) found (c :: rest) = Scan.run (.text (c :: done) none) found rest := by
  have hquote : c ≠ '"' := by rintro rfl; cases h
  have hslash : c ≠ '\\' := by rintro rfl; cases h
  have hstep : Scan.step (.text done none) c = some ([], .text (c :: done) none) := by
    simp [Scan.step, hslash, hquote, hlow]
  rw [Scan.run_cons hstep]
  rfl

/-- A way of writing characters in strings from which each character is read as itself. -/
def Spells (f : Char → List Char) : Prop :=
  ∀ (c : Char) (done : List Char) (found : List Token) (rest : List Char),
    Scan.run (.text done none) found (f c ++ rest) = Scan.run (.text (c :: done) none) found rest

theorem spells_charChars : Spells charChars := by
  intro c done found rest
  unfold charChars
  cases hletter : letterEscape? c with
  | some e => exact run_letterEscape hletter done found rest
  | none =>
      by_cases hlow : c.toNat < 0x20
      · simp only [hlow, if_true]
        exact run_codeEscape (by omega) (putCode_char c (by omega) done) found rest
      · simp only [hlow, if_false]
        exact run_plainChar hletter hlow done found rest

theorem Spells.run_flatMap {f : Char → List Char} (hf : Spells f) (cs done : List Char)
    (found : List Token) (rest : List Char) :
    Scan.run (.text done none) found (cs.flatMap f ++ rest) =
      Scan.run (.text (cs.reverse ++ done) none) found rest := by
  induction cs generalizing done with
  | nil => rfl
  | cons c cs ih =>
      rw [List.flatMap_cons, List.append_assoc, hf, ih, List.reverse_cons, List.append_assoc,
        List.singleton_append]

/-- A string in quotes is one token, whatever its characters. -/
theorem Spells.emits {f : Char → List Char} (hf : Spells f) (s : String) :
    Emits ('"' :: s.toList.flatMap f ++ ['"']) [.text s] := by
  intro found rest
  have hopen : Scan.step .between '"' = some ([], .text [] none) := rfl
  have hclose (done : List Char) :
      Scan.step (.text done none) '"' = some ([.text (String.ofList done.reverse)], .between) := rfl
  rw [List.cons_append, List.cons_append, Scan.run_cons hopen, List.append_assoc, hf.run_flatMap,
    List.singleton_append, Scan.run_cons (hclose _)]
  simp

theorem emits_stringChars (s : String) : Emits (stringChars s) [.text s] := spells_charChars.emits s

/-! ## documents -/

mutual

/-- **Scanning what was written**: a document whose values are texts emits its tokens. -/
theorem emits_chars :
    ∀ (d : Document) (level : Nat), isTextual d = true → Emits (chars level d) (tokensOf d)
  | .text s, _, _ => emits_stringChars s
  | .list [], _, _ => emits_mark rfl (emits_mark rfl emits_nil)
  | .list (d :: ds), level, h => by
      rw [isTextual, areTextual, Bool.and_eq_true] at h
      have hitems := (emits_chars d (level + 1) h.1).append <|
        (emits_itemsChars ds (level + 1) h.2).append <|
          (emits_newLine level).append (emits_mark (c := ']') rfl emits_nil)
      have hall := emits_mark (c := '[') rfl ((emits_newLine (level + 1)).append hitems)
      simpa only [chars, tokensOf, List.cons_append, List.append_assoc, List.nil_append] using hall
  | .map [], _, _ => emits_mark rfl (emits_mark rfl emits_nil)
  | .map ((k, d) :: es), level, h => by
      rw [isTextual, holdTextual, Bool.and_eq_true] at h
      have hentries := (emits_chars d (level + 1) h.1).append <|
        (emits_entriesChars es (level + 1) h.2).append <|
          (emits_newLine level).append (emits_mark (c := '\x7d') rfl emits_nil)
      have hkey := (emits_stringChars k).append
        (emits_mark (c := ':') rfl (emits_space (c := ' ') rfl hentries))
      have hall := emits_mark (c := '\x7b') rfl ((emits_newLine (level + 1)).append hkey)
      simpa only [chars, tokensOf, List.cons_append, List.append_assoc, List.nil_append] using hall

theorem emits_itemsChars :
    ∀ (ds : List Document) (level : Nat), areTextual ds = true →
      Emits (itemsChars level ds) (itemTokens ds)
  | [], _, _ => emits_nil
  | d :: ds, level, h => by
      rw [areTextual, Bool.and_eq_true] at h
      have hitems := (emits_chars d level h.1).append (emits_itemsChars ds level h.2)
      have hall := emits_mark (c := ',') rfl ((emits_newLine level).append hitems)
      simpa only [itemsChars, itemTokens, List.cons_append, List.append_assoc, List.nil_append] using hall

theorem emits_entriesChars :
    ∀ (es : List (String × Document)) (level : Nat), holdTextual es = true →
      Emits (entriesChars level es) (entryTokens es)
  | [], _, _ => emits_nil
  | (k, d) :: es, level, h => by
      rw [holdTextual, Bool.and_eq_true] at h
      have hentries := (emits_chars d level h.1).append (emits_entriesChars es level h.2)
      have hkey := (emits_stringChars k).append
        (emits_mark (c := ':') rfl (emits_space (c := ' ') rfl hentries))
      have hall := emits_mark (c := ',') rfl ((emits_newLine level).append hkey)
      simpa only [entriesChars, entryTokens, List.cons_append, List.append_assoc, List.nil_append] using hall

end

end QueryTree.Json
