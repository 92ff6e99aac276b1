import QueryTree.Proofs.Yaml.Escaping

/-!
# QueryTree.Proofs.Yaml.Texts

Texts read back.

`heardText` is what a written text is read as, in whatever way it was written.  It is the
text itself, except for a next line in single quotes and for an escape before a blank in
a wide margin.

* `value?_textChars` — a text as a value is read as `heardText` says;
* `heardText_eq_iff` — the texts that are read as themselves;
* `key?_keyChars` — a plain key is read as itself.
-/

namespace QueryTree.Yaml

/-! ## the way a text is written -/

/-- What a written text is read as. -/
def heardText (indent : Nat) (cs : List Char) : List Char :=
  match quoting cs with
  | .plain => cs
  | .single => ((runs cs).map heardRun).flatten
  | .double => heardDouble (width ≤ indent) true cs

/-- What the writer knows of a text that it writes plainly. -/
theorem of_quoting_eq_plain {cs : List Char} (h : quoting cs = .plain) :
    (∀ c ∈ cs, isOrdinary c = true) ∧ mixesBlanks cs = false ∧ hasLooseEnds cs = false ∧
      (∀ c ∈ cs, isBreak c = false) ∧ hasIndicators cs = false ∧ looksTyped cs = false := by
  unfold quoting at h
  split at h
  · cases h
  · split at h
    · cases h
    · simp_all

/-- What the writer knows of a text that it writes in single quotes. -/
theorem of_quoting_eq_single {cs : List Char} (h : quoting cs = .single) :
    (∀ c ∈ cs, isOrdinary c = true) ∧ mixesBlanks cs = false := by
  unfold quoting at h
  split at h
  · cases h
  · next hdouble => simp_all

theorem mem_of_mem_runs {cs run : List Char} {c : Char} (hrun : run ∈ runs cs) (hc : c ∈ run) : c ∈ cs := by
  rw [← flatten_runs cs]
  exact List.mem_flatten.mpr ⟨run, hrun, hc⟩

/-! ## plain texts -/

/-- What the writer knows of the first character of a text without indicators. -/
theorem of_hasIndicators {c : Char} {cs : List Char} (h : hasIndicators (c :: cs) = false) :
    isIndicator c = false ∧ ((c == '-' || c == '?' || c == ':') && startsGap cs) = false ∧
      hasInnerIndicator false (c :: cs) = false := by
  simp only [hasIndicators, Bool.or_eq_false_iff] at h
  obtain ⟨⟨⟨-, hindicator⟩, hfirst⟩, hinner⟩ := h
  cases hgap : startsGap cs <;> simp_all [hasInnerIndicator]

theorem plain_runs {cs : List Char} (h : quoting cs = .plain) : Plain false (runs cs) := by
  obtain ⟨hordinary, hmixes, hloose, hbreak, hindicators, -⟩ := of_quoting_eq_plain h
  refine ⟨parted_runs cs hmixes, fun run hrun c hc => hordinary c (mem_of_mem_runs hrun hc),
    fun run hrun c hc => hbreak c (mem_of_mem_runs hrun hc), ?_, ?_⟩
  · intro c hc hblank
    rw [flatten_runs, Option.mem_def] at hc
    simp [hasLooseEnds, hc, hblank] at hloose
  · rw [flatten_runs]
    cases cs with
    | nil => rfl
    | cons c cs => exact (of_hasIndicators hindicators).2.2

/-- A plain text starts like one. -/
theorem startsPlain_plainRuns {cs : List Char} (h : quoting cs = .plain) (fold : Bool) (indent column : Nat)
    (rest : List Char) : startsPlain (plainRuns fold indent column (runs cs) ++ rest) = true := by
  obtain ⟨hordinary, -, hloose, -, hindicators, htyped⟩ := of_quoting_eq_plain h
  have hplain := plain_runs h
  cases cs with
  | nil => exact absurd htyped (by decide)
  | cons c cs =>
      have hflatten := flatten_runs (c :: cs)
      obtain ⟨hindicator, hfirst, -⟩ := of_hasIndicators hindicators
      obtain ⟨run, more, hruns⟩ := runs_cons c cs
      rw [hruns] at hflatten hplain ⊢
      obtain ⟨-, hrun, hblank, hgap, -⟩ | ⟨n, hblanks, -⟩ := hplain.cases
      · obtain ⟨hc, hrun⟩ := List.forall_mem_cons.mp hrun
        rw [plainRuns_word hblank]
        have hcs : run ++ more.flatten = cs := by simpa using hflatten
        have hspecial : ((c == '-' || c == '?' || c == ':') && startsGap (run ++
            (plainRuns fold indent (column + (c :: run).length) more ++ rest))) = false := by
          cases run with
          | nil =>
              rw [List.nil_append] at hcs
              rw [hcs] at hgap
              rw [hgap, Bool.and_true] at hfirst
              rw [hfirst, Bool.false_and]
          | cons d run => simp [startsGap, hrun d List.mem_cons_self]
        simp only [List.cons_append, List.append_assoc, startsPlain, hc, hindicator, hspecial]
        rfl
      · simp [hasLooseEnds, (List.cons.inj hblanks).1] at hloose

theorem value?_of_startsPlain (limit : Nat) {cs : List Char} (h : startsPlain cs = true) :
    value? limit cs = if looksTyped (textOf (plainPieces (some limit) cs).1) then none
      else some (finish (plainPieces (some limit) cs)) := by
  have hindicator : ∀ c rest, isIndicator c = true → startsPlain (c :: rest) = false := by
    intro c rest hc
    simp [startsPlain, hc]
  unfold value?
  split
  case h_5 => cases looksTyped (textOf (plainPieces (some limit) cs).1) <;> simp [h]
  -- quotes and brackets are indicators
  all_goals
    rw [hindicator _ _ (by decide)] at h
    cases h

/-- A plain text is read as itself. -/
theorem value?_plain {cs : List Char} (h : quoting cs = .plain) {limit indent : Nat} (hindent : limit ≤ indent)
    (column : Nat) {rest : List Char} (hrest : plainPieces (some limit) rest = ([], rest)) :
    value? limit (plainChars true indent column cs ++ rest) = some (.text (String.ofList cs), rest) := by
  have hlimit : true = true → (some limit).any (· ≤ indent) = true := fun _ => by simpa using hindent
  obtain ⟨ps, hpieces, htext, -⟩ := (plain_runs h).stands_plainRuns hlimit hrest column
  rw [flatten_runs] at htext
  rw [plainChars, value?_of_startsPlain limit (startsPlain_plainRuns h true indent column rest), hpieces]
  simp [finish, htext, (of_quoting_eq_plain h).2.2.2.2.2]

/-- A plain key is read as itself. -/
theorem key?_keyChars {cs : List Char} (h : quoting cs = .plain) (hsimple : isSimpleKey cs = true)
    {rest : List Char} (hrest : startsGap rest = true) :
    key? (keyChars cs ++ ':' :: rest) = some (String.ofList cs, rest) := by
  have hcolon : plainPieces none (':' :: rest) = ([], ':' :: rest) := by
    rw [plainPieces]
    simp [hrest, isBreak]
  have hlimit : false = true → (none : Option Nat).any (· ≤ 0) = true := fun hf => by cases hf
  obtain ⟨ps, hpieces, htext, -⟩ := (plain_runs h).stands_plainRuns hlimit hcolon 0
  rw [flatten_runs] at htext
  have hlength : ¬keyLimit < cs.length := by
    simp only [isSimpleKey, Bool.and_eq_true, decide_eq_true_eq] at hsimple
    simp only [keyLimit]
    omega
  rw [keyChars, h]
  simp only [key?, plainChars, startsPlain_plainRuns h, if_true, hpieces, htext,
    (of_quoting_eq_plain h).2.2.2.2.2, Bool.false_or, decide_eq_true_eq, hlength, if_false]

/-! ## quoted texts -/

/-- A text in single quotes is read as its runs are heard. -/
theorem value?_single {cs : List Char} (h : quoting cs = .single) (limit margin column : Nat)
    {rest : List Char} (hrest : rest.head? ≠ some '\'') :
    value? limit (singleChars true (margin + 1) column cs ++ rest) =
      some (.text (String.ofList ((runs cs).map heardRun).flatten), rest) := by
  obtain ⟨hordinary, hmixes⟩ := of_quoting_eq_single h
  obtain ⟨ps, hspells, htext, -⟩ := heard_singleRuns true margin (parted_runs cs hmixes)
    (fun run hrun c hc => hordinary c (mem_of_mem_runs hrun hc)) true (column + 1)
  have hquote : singlePieces ('\'' :: rest) = some ([], rest) := by
    cases rest with
    | nil => rfl
    | cons d rest =>
        have hd : d ≠ '\'' := by simpa using hrest
        simp [singlePieces, hd]
  have hpieces := hspells ('\'' :: rest)
  rw [hquote] at hpieces
  simp only [singleChars, List.cons_append, List.append_assoc, List.nil_append]
  rw [value?, hpieces]
  simp [finish, htext]

/-- A text in double quotes is read as `heardDouble` says. -/
theorem value?_double (limit margin : Nat) {column : Nat} (hcolumn : margin + 1 ≤ column) (cs rest : List Char) :
    value? limit (doubleChars true (margin + 1) column cs ++ rest) =
      some (.text (String.ofList (heardDouble (width ≤ margin + 1) true cs)), rest) := by
  obtain ⟨ps, hspells, hfolded⟩ := (tells margin cs true false (column + 1) fun _ => by omega).1
  have hpieces := hspells ('"' :: rest)
  have hquote : doublePieces .outside ('"' :: rest) = some ([], rest) := rfl
  rw [hquote] at hpieces
  have htext : textOf ps = heardDouble (width ≤ margin + 1) true cs := hfolded []
  simp only [doubleChars, List.cons_append, List.append_assoc, List.nil_append]
  rw [value?, hpieces]
  simp [finish, htext]

/-- **Texts as values**: a text is read as `heardText` says, if a plain text stops where it ends. -/
theorem value?_textChars (limit : Nat) {column : Nat} (hcolumn : limit + 1 ≤ column) (cs : List Char)
    {rest : List Char} (hrest : plainPieces (some limit) rest = ([], rest))
    (hquote : rest.head? ≠ some '\'') :
    value? limit (textChars (limit + 1) column cs ++ rest) =
      some (.text (String.ofList (heardText (limit + 1) cs)), rest) := by
  unfold textChars heardText
  cases h : quoting cs with
  | plain => exact value?_plain h (Nat.le_succ limit) column hrest
  | single => exact value?_single h limit limit column hquote
  | double => exact value?_double limit limit hcolumn cs rest

/-! ## texts that are read as themselves -/

/-- Whether an escape, other than the first character, stands before a blank, other than the last. -/
def straysBlank : Bool → List Char → Bool
  | _, [] => false
  | first, c :: rest => (!first && !isVerbatim c && opensBlank rest) || straysBlank false rest

/-- Whether a text is read as itself: unless it has a next line and is written in single quotes, or has an
escape before a blank and is written in double quotes in a margin of eighty columns or more. -/
def isCarried (indent : Nat) (cs : List Char) : Bool :=
  match quoting cs with
  | .plain => true
  | .single => cs.all fun c => c.toNat != 0x85
  | .double => !(width ≤ indent && straysBlank true cs)

theorem readBreak_ne_nextLine (c : Char) : (readBreak c).toNat ≠ 0x85 := by
  unfold readBreak
  split
  · decide
  · next h => simpa using h

theorem mem_heardRun {run : List Char} {c : Char} (h : c ∈ heardRun run) : c.toNat ≠ 0x85 := by
  have hmap : ∀ cs : List Char, c ∈ cs.map readBreak → c.toNat ≠ 0x85 := by
    intro cs hc
    obtain ⟨d, -, rfl⟩ := List.mem_map.mp hc
    exact readBreak_ne_nextLine d
  cases run with
  | nil => cases h
  | cons d rest =>
      rw [heardRun] at h
      split at h
      · split at h
        · rw [List.mem_singleton.mp h]
          decide
        · exact hmap _ h
      · exact hmap _ h

/-- A text in single quotes is heard as itself unless there is a next line in it. -/
theorem flatten_heardRuns_eq_iff (cs : List Char) :
    ((runs cs).map heardRun).flatten = cs ↔ ∀ c ∈ cs, c.toNat ≠ 0x85 := by
  constructor
  · intro h c hc
    rw [← h] at hc
    obtain ⟨run, hrun, hc⟩ := List.mem_flatten.mp hc
    obtain ⟨run, -, rfl⟩ := List.mem_map.mp hrun
    exact mem_heardRun hc
  · intro h
    have hruns : (runs cs).map heardRun = runs cs := by
      rw [List.map_congr_left fun run hrun => heardRun_eq_self fun c hc => h c (mem_of_mem_runs hrun hc),
        List.map_id']
    rw [hruns, flatten_runs]

theorem length_le_heardDouble (deep first : Bool) (cs : List Char) :
    cs.length ≤ (heardDouble deep first cs).length := by
  induction cs generalizing first with
  | nil => exact Nat.le_refl _
  | cons c cs ih =>
      have hcs := ih false
      rw [heardDouble]
      split <;> simp only [List.length_cons] <;> omega

/-- A text in double quotes is heard as itself unless a blank goes astray. -/
theorem heardDouble_eq_iff (deep first : Bool) (cs : List Char) :
    heardDouble deep first cs = cs ↔ (deep && straysBlank first cs) = false := by
  induction cs generalizing first with
  | nil => simp [heardDouble, straysBlank]
  | cons c cs ih =>
      rw [heardDouble, straysBlank]
      split
      · next hstray =>
          have hlength := length_le_heardDouble deep false cs
          constructor
          · intro heq
            have := congrArg List.length heq
            simp only [List.length_cons] at this
            omega
          · simp_all
      · next hstray =>
          rw [List.cons.injEq, eq_self, true_and, ih]
          cases deep <;> simp_all

/-- **What is carried**: the texts that are read as themselves. -/
theorem heardText_eq_iff (indent : Nat) (cs : List Char) :
    heardText indent cs = cs ↔ isCarried indent cs = true := by
  unfold heardText isCarried
  cases quoting cs with
  | plain => simp
  | single => simp [flatten_heardRuns_eq_iff]
  | double => rw [heardDouble_eq_iff, Bool.not_eq_true']

/-! ## readable characters -/

theorem isReadable_of_isOrdinary {c : Char} (h : isOrdinary c = true) : isReadable c = true := by
  simp only [isOrdinary, isReadable, Bool.or_eq_true, Bool.and_eq_true, beq_iff_eq, bne_iff_ne,
    decide_eq_true_eq] at h ⊢
  omega

theorem isReadable_of_isVerbatim {c : Char} (h : isVerbatim c = true) : isReadable c = true := by
  simp only [isVerbatim, isReadable, Bool.or_eq_true, Bool.and_eq_true, beq_iff_eq, bne_iff_ne,
    decide_eq_true_eq] at h ⊢
  omega

theorem isReadable_of_mem_newLine {indent : Nat} {c : Char} (h : c ∈ newLine indent) :
    isReadable c = true := by
  obtain rfl | h := List.mem_cons.mp h
  · decide
  · rw [List.eq_of_mem_replicate h]
    decide

theorem isReadable_of_mem_plainRuns {fold : Bool} {indent column : Nat} {rs : List (List Char)}
    (hrs : ∀ run ∈ rs, ∀ c ∈ run, isOrdinary c = true) :
    ∀ c ∈ plainRuns fold indent column rs, isReadable c = true := by
  induction rs generalizing column with
  | nil => simp [plainRuns]
  | cons run rs ih =>
      obtain ⟨hrun, hrs⟩ := List.forall_mem_cons.mp hrs
      rw [plainRuns]
      split
      · exact List.forall_mem_append.mpr ⟨fun c hc => isReadable_of_mem_newLine hc, ih hrs⟩
      · exact List.forall_mem_append.mpr ⟨fun c hc => isReadable_of_isOrdinary (hrun c hc), ih hrs⟩

theorem isReadable_of_mem_breakRun {indent : Nat} {run : List Char} (hrun : ∀ c ∈ run, isOrdinary c = true) :
    ∀ c ∈ breakRun indent run, isReadable c = true := by
  intro c hc
  simp only [breakRun, List.mem_append] at hc
  obtain (hc | hc) | hc := hc
  · split at hc
    · rw [List.mem_singleton.mp hc]
      decide
    · cases hc
  · exact isReadable_of_isOrdinary (hrun c hc)
  · rw [List.eq_of_mem_replicate hc]
    decide

theorem isReadable_of_mem_singleRuns {fold first : Bool} {indent column : Nat} {rs : List (List Char)}
    (hrs : ∀ run ∈ rs, ∀ c ∈ run, isOrdinary c = true) :
    ∀ c ∈ singleRuns fold indent first column rs, isReadable c = true := by
  induction rs generalizing first column with
  | nil => simp [singleRuns]
  | cons run rs ih =>
      obtain ⟨hrun, hrs⟩ := List.forall_mem_cons.mp hrs
      rw [singleRuns]
      split
      · exact List.forall_mem_append.mpr ⟨isReadable_of_mem_breakRun hrun, ih hrs⟩
      · split
        · exact List.forall_mem_append.mpr ⟨fun c hc => isReadable_of_mem_newLine hc, ih hrs⟩
        · refine List.forall_mem_append.mpr ⟨fun c hc => ?_, ih hrs⟩
          obtain ⟨d, hd, hc⟩ := List.mem_flatMap.mp hc
          have hreadable := isReadable_of_isOrdinary (hrun d hd)
          split at hc <;> simp_all

theorem isReadable_of_mem_upperHex (width n : Nat) : ∀ d ∈ Text.upperHex width n, isReadable d = true := by
  intro d hd
  have hdigit : ∀ m : Fin 16, isReadable (Text.hexDigit 'A' m) = true := by decide
  obtain ⟨m, hm, rfl⟩ := Text.mem_hexWith hd
  exact hdigit ⟨m, hm⟩

theorem isReadable_of_mem_escape {c : Char} : ∀ d ∈ escape c, isReadable d = true := by
  have hcode : ∀ (m : Char) (width : Nat), isReadable m = true →
      ∀ d ∈ '\\' :: m :: Text.upperHex width c.toNat, isReadable d = true := by
    intro m width hm
    exact List.forall_mem_cons.mpr
      ⟨by decide, List.forall_mem_cons.mpr ⟨hm, isReadable_of_mem_upperHex width _⟩⟩
  unfold escape
  cases h : letterEscape? c with
  | some e =>
      have he : isReadable e = true := by
        unfold letterEscape? at h
        split at h <;> cases h <;> decide
      exact List.forall_mem_cons.mpr ⟨by decide, List.forall_mem_cons.mpr ⟨he, by simp⟩⟩
  | none =>
      simp only
      split
      · exact hcode 'x' 2 (by decide)
      · split
        · exact hcode 'u' 4 (by decide)
        · exact hcode 'U' 8 (by decide)

theorem isReadable_of_mem_foldLine {indent : Nat} {blankNext : Bool} :
    ∀ c ∈ foldLine indent blankNext, isReadable c = true := by
  intro c hc
  simp only [foldLine, List.cons_append, List.mem_cons, List.mem_append] at hc
  obtain rfl | hc | hc := hc
  · decide
  · exact isReadable_of_mem_newLine hc
  · split at hc
    · rw [List.mem_singleton.mp hc]
      decide
    · cases hc

theorem isReadable_of_mem_doubleFrom {fold : Bool} {indent : Nat} (cs : List Char) (first afresh : Bool)
    (column : Nat) : ∀ c ∈ doubleFrom fold indent first afresh column cs, isReadable c = true := by
  induction cs generalizing first afresh column with
  | nil => simp [doubleFrom]
  | cons d cs ih =>
      rw [doubleFrom]
      split
      · next hverbatim =>
          have hd := isReadable_of_isVerbatim hverbatim
          split
          · exact List.forall_mem_append.mpr
              ⟨isReadable_of_mem_foldLine, List.forall_mem_cons.mpr ⟨hd, ih _ _ _⟩⟩
          · exact List.forall_mem_cons.mpr ⟨hd, ih _ _ _⟩
      · simp only
        split
        · exact List.forall_mem_append.mpr ⟨List.forall_mem_append.mpr
            ⟨isReadable_of_mem_escape, isReadable_of_mem_foldLine⟩, ih _ _ _⟩
        · exact List.forall_mem_append.mpr ⟨isReadable_of_mem_escape, ih _ _ _⟩

/-- Every character of a written text can stand in a YAML text. -/
theorem isReadable_of_mem_textChars {indent column : Nat} {cs : List Char} :
    ∀ c ∈ textChars indent column cs, isReadable c = true := by
  unfold textChars
  cases h : quoting cs with
  | plain =>
      exact isReadable_of_mem_plainRuns fun run hrun c hc =>
        (of_quoting_eq_plain h).1 c (mem_of_mem_runs hrun hc)
  | single =>
      have hruns : ∀ run ∈ runs cs, ∀ c ∈ run, isOrdinary c = true := fun run hrun c hc =>
        (of_quoting_eq_single h).1 c (mem_of_mem_runs hrun hc)
      exact List.forall_mem_append.mpr ⟨List.forall_mem_cons.mpr
        ⟨by decide, isReadable_of_mem_singleRuns hruns⟩, List.forall_mem_singleton.mpr (by decide)⟩
  | double =>
      exact List.forall_mem_append.mpr ⟨List.forall_mem_cons.mpr
        ⟨by decide, isReadable_of_mem_doubleFrom cs _ _ _⟩, List.forall_mem_singleton.mpr (by decide)⟩

end QueryTree.Yaml
