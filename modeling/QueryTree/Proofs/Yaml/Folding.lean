import QueryTree.Proofs.Yaml.Reader

/-!
# QueryTree.Proofs.Yaml.Folding

Line folding undoes how lines are broken.

The writer cuts a text into runs of blanks, of breaks and of other characters, and where
it breaks a line it puts a margin before the next one.  Read back, a run of blanks is
itself, a line that was folded at a single blank is that blank, and a run of breaks is
what `heardRun` says.

* `parted_runs` — a text without blanks next to breaks is words and gaps by turns;
* `heard_singleRuns` — what a text in single quotes is read as;
* `Plain.stands_plainRuns` — a plain text is read as itself.
-/

namespace QueryTree.Yaml

/-! ## runs -/

/-- The kinds of characters that runs are made of. -/
inductive Kind where
  /-- Any other character. -/
  | word
  /-- A blank. -/
  | blank
  /-- A break. -/
  | lineBreak
deriving DecidableEq, Repr

/-- The kind of a character. -/
def kindOf (c : Char) : Kind := if c == ' ' then .blank else if isBreak c then .lineBreak else .word

theorem kindOf_eq_blank {c : Char} : kindOf c = .blank ↔ c = ' ' := by
  by_cases h : c = ' '
  · simp [kindOf, h]
  · by_cases hb : isBreak c = true <;> simp [kindOf, h, hb]

theorem kindOf_eq_lineBreak {c : Char} : kindOf c = .lineBreak ↔ isBreak c = true := by
  by_cases h : c = ' '
  · subst h
    decide
  · by_cases hb : isBreak c = true <;> simp [kindOf, h, hb]

theorem kindOf_eq_word {c : Char} : kindOf c = .word ↔ c ≠ ' ' ∧ isBreak c = false := by
  by_cases h : c = ' '
  · simp [kindOf, h]
  · by_cases hb : isBreak c = true <;> simp [kindOf, h, hb]

theorem sameRun_iff {a b : Char} : sameRun a b = true ↔ kindOf a = kindOf b := by
  have hblank : isBreak ' ' = false := by decide
  have ha : a == ' ' → isBreak a = false := fun h => by rw [eq_of_beq h, hblank]
  have hb : b == ' ' → isBreak b = false := fun h => by rw [eq_of_beq h, hblank]
  rw [sameRun, kindOf, kindOf]
  generalize (a == ' ') = x at *
  generalize (b == ' ') = y at *
  generalize isBreak a = p at *
  generalize isBreak b = q at *
  revert x y p q
  decide

/-- Two runs that meet are a word and a gap, unless a blank meets a break. -/
theorem word_iff_of_meet {a b : Char} (h : kindOf a ≠ kindOf b) (hab : a = ' ' → isBreak b = false)
    (hba : isBreak a = true → b ≠ ' ') : kindOf a = .word ↔ kindOf b ≠ .word := by
  cases ha : kindOf a <;> cases hb : kindOf b <;>
    simp_all [kindOf_eq_blank, kindOf_eq_lineBreak]

/-- Runs of one kind each, a word and a gap by turns. -/
inductive Parted : List (List Char) → Prop where
  /-- There are no runs left. -/
  | nil : Parted []
  /-- A run before others. -/
  | cons {kind : Kind} {run : List Char} {more : List (List Char)} : run ≠ [] →
      (∀ c ∈ run, kindOf c = kind) →
      (∀ next ∈ more.head?, ∀ c ∈ next, (kind = .word ↔ kindOf c ≠ .word)) →
      Parted more → Parted (run :: more)

theorem exists_eq_replicate {run : List Char} (hne : run ≠ []) (hkind : ∀ c ∈ run, kindOf c = .blank) :
    ∃ n, run = List.replicate (n + 1) ' ' := by
  obtain ⟨c, rest, rfl⟩ := List.exists_cons_of_ne_nil hne
  exact ⟨rest.length, List.eq_replicate_of_mem fun c hc => kindOf_eq_blank.mp (hkind c hc)⟩

theorem ne_blank_of_word {run : List Char} (hkind : ∀ c ∈ run, kindOf c = .word) : (run == [' ']) = false := by
  refine beq_eq_false_iff_ne.mpr fun heq => ?_
  exact absurd (hkind ' ' (by simp [heq])) (by decide)

theorem runs_cons (c : Char) (cs : List Char) : ∃ run more, runs (c :: cs) = (c :: run) :: more := by
  rw [runs]
  split
  · split
    · exact ⟨_, _, rfl⟩
    · exact ⟨_, _, rfl⟩
  · exact ⟨_, _, rfl⟩

theorem flatten_runs (cs : List Char) : (runs cs).flatten = cs := by
  induction cs with
  | nil => rfl
  | cons c cs ih =>
      rw [runs]
      split
      · next hruns =>
          rw [hruns] at ih
          split <;> simpa using ih
      · simpa using ih

/-- **Words and gaps by turns**: a text where no blank stands next to a break. -/
theorem parted_runs (cs : List Char) (h : mixesBlanks cs = false) : Parted (runs cs) := by
  induction cs with
  | nil => exact .nil
  | cons c cs ih =>
      cases cs with
      | nil => exact @Parted.cons (kindOf c) [c] [] (by simp) (by simp) (by simp) .nil
      | cons d cs =>
          simp only [mixesBlanks, Bool.or_eq_false_iff] at h
          obtain ⟨run, more, hruns⟩ := runs_cons d cs
          have hparted := ih h.2
          rw [runs, hruns]
          rw [hruns] at hparted
          cases hparted with
          | @cons kind _ _ hne hkind hnext hmore =>
              have hd : kindOf d = kind := hkind d List.mem_cons_self
              by_cases hsame : sameRun c d = true
              · have hc : kindOf c = kind := (sameRun_iff.mp hsame).trans hd
                simp only [hsame, if_true]
                refine .cons (by simp) ?_ hnext hmore
                intro x hx
                obtain rfl | hx := List.mem_cons.mp hx
                · exact hc
                · exact hkind x hx
              · have hcd : kindOf c ≠ kindOf d := fun hk => hsame (sameRun_iff.mpr hk)
                simp only [hsame]
                refine @Parted.cons (kindOf c) _ _ (by simp) (by simp) ?_ (.cons hne hkind hnext hmore)
                intro next hnext' x hx
                cases hnext'
                rw [hkind x hx, ← hd]
                exact word_iff_of_meet hcd (by simpa using h.1.1) (by simpa using h.1.2)

/-! ## folding -/

/-- Pieces that start with a character, or none at all. -/
def Sharp : List Piece → Prop
  | [] => True
  | .char _ :: _ => True
  | _ => False

/-- A pause ends where a character stands. -/
theorem folded_of_sharp {ps : List Piece} (h : Sharp ps) (p : Pause) :
    folded p ps = p.text ++ textOf ps := by
  match ps with
  | [] => simp [folded, textOf, Pause.text]
  | .char c :: ps => simp [folded, textOf, Pause.text]

theorem folded_blanks (cs ws : List Char) (ps : List Piece) :
    folded (.blanks ws) (cs.map .blank ++ ps) = folded (.blanks (ws ++ cs)) ps := by
  induction cs generalizing ws with
  | nil => simp
  | cons c cs ih => simp [folded, Pause.blank, ih]

/-- The margin of a line does not count. -/
theorem folded_margin {p : Pause} (h : p.blank ' ' = p) (n : Nat) (ps : List Piece) :
    folded p (List.replicate n (.blank ' ') ++ ps) = folded p ps := by
  induction n with
  | zero => rfl
  | succ n ih => rw [List.replicate_succ, List.cons_append, folded, h, ih]

theorem folded_lineBreaks (first : Char) (more cs : List Char) (ps : List Piece) :
    folded (.breaks first more) (cs.map .lineBreak ++ ps) =
      folded (.breaks first (more ++ cs.map readBreak)) ps := by
  induction cs generalizing more with
  | nil => simp
  | cons c cs ih => simp [folded, Pause.lineBreak, ih]

theorem textOf_blanks (n : Nat) {ps : List Piece} (h : Sharp ps) :
    textOf (List.replicate n (.blank ' ') ++ ps) = List.replicate n ' ' ++ textOf ps := by
  have hfolded := folded_blanks (List.replicate n ' ') [] ps
  rw [List.map_replicate, List.nil_append, folded_of_sharp h] at hfolded
  rw [textOf, hfolded, Pause.text]

/-- Breaks and the margin after them are one pause. -/
theorem textOf_lineBreaks (c : Char) (cs : List Char) (n : Nat) {ps : List Piece} (h : Sharp ps) :
    textOf ((c :: cs).map .lineBreak ++ (List.replicate n (.blank ' ') ++ ps)) =
      (Pause.breaks (readBreak c) (cs.map readBreak)).text ++ textOf ps := by
  rw [textOf, List.map_cons, List.cons_append, folded, Pause.lineBreak, folded_lineBreaks, List.nil_append,
    folded_margin rfl, folded_of_sharp h]

/-! ## inside quotes -/

/-- The characters `cs` are read as the pieces `ps`, whatever follows. -/
def Spells (lex : List Char → Option (List Piece × List Char)) (cs : List Char) (ps : List Piece) : Prop :=
  ∀ rest, lex (cs ++ rest) = (lex rest).map fun r => (ps ++ r.1, r.2)

/-- Blanks and breaks are read as what they are. -/
def ReadsGaps (lex : List Char → Option (List Piece × List Char)) : Prop :=
  ∀ c rest, kindOf c ≠ .word →
    lex (c :: rest) = (quotedPiece? c rest).bind fun p => (lex rest).map (prepend p)

section Spelling

variable {lex : List Char → Option (List Piece × List Char)}

theorem spells_nil : Spells lex [] [] := by
  intro rest
  simp

theorem Spells.append {cs cs' : List Char} {ps ps' : List Piece} (h : Spells lex cs ps)
    (h' : Spells lex cs' ps') : Spells lex (cs ++ cs') (ps ++ ps') := by
  intro rest
  rw [List.append_assoc, h, h', Option.map_map]
  simp [Function.comp_def]

theorem Spells.flatMap {f : Char → List Char} {g : Char → Piece} :
    ∀ {cs : List Char}, (∀ c ∈ cs, Spells lex (f c) [g c]) → Spells lex (cs.flatMap f) (cs.map g)
  | [], _ => spells_nil
  | c :: cs, h => by
      obtain ⟨hc, hcs⟩ := List.forall_mem_cons.mp h
      exact hc.append (Spells.flatMap hcs)

theorem spells_blank (hlex : ReadsGaps lex) : Spells lex [' '] [.blank ' '] := by
  intro rest
  rw [List.singleton_append, hlex ' ' rest (by decide)]
  rfl

theorem spells_margin (hlex : ReadsGaps lex) (n : Nat) :
    Spells lex (List.replicate n ' ') (List.replicate n (.blank ' ')) := by
  induction n with
  | zero => exact spells_nil
  | succ n ih => exact (spells_blank hlex).append ih

theorem startsMarker_of_gap {c : Char} (h : kindOf c ≠ .word) (rest : List Char) :
    startsMarker (c :: rest) = false := by
  have hdash : c ≠ '-' := fun hc => h (by rw [hc]; decide)
  have hdot : c ≠ '.' := fun hc => h (by rw [hc]; decide)
  simp [startsMarker, hdash, hdot]

theorem quotedPiece?_of_isBreak {c d : Char} (hc : isBreak c = true) (hd : kindOf d ≠ .word)
    (rest : List Char) : quotedPiece? c (d :: rest) = some (.lineBreak c) := by
  have hblank : c ≠ ' ' := fun h => by rw [h] at hc; exact absurd hc (by decide)
  have htab : c ≠ '\t' := fun h => by rw [h] at hc; exact absurd hc (by decide)
  simp [quotedPiece?, hblank, htab, hc, startsMarker_of_gap hd]

/-- Breaks and the margin after them.  The mark between two documents cannot stand in a margin. -/
theorem spells_lineBreaks (hlex : ReadsGaps lex) {cs : List Char} (h : ∀ c ∈ cs, isBreak c = true)
    (n : Nat) : Spells lex (cs ++ List.replicate (n + 1) ' ')
      (cs.map .lineBreak ++ List.replicate (n + 1) (.blank ' ')) := by
  induction cs with
  | nil => exact spells_margin hlex (n + 1)
  | cons c cs ih =>
      obtain ⟨hc, hcs⟩ := List.forall_mem_cons.mp h
      intro rest
      have hgap : kindOf c ≠ .word := by simp [kindOf_eq_lineBreak.mpr hc]
      have hpiece : quotedPiece? c (cs ++ List.replicate (n + 1) ' ' ++ rest) = some (.lineBreak c) := by
        cases cs with
        | nil => exact quotedPiece?_of_isBreak hc (by decide) _
        | cons d cs =>
            have hd : kindOf d ≠ .word := by simp [kindOf_eq_lineBreak.mpr (hcs d List.mem_cons_self)]
            exact quotedPiece?_of_isBreak hc hd _
      rw [List.cons_append, List.cons_append, hlex c _ hgap, hpiece, Option.bind_some, ih hcs rest,
        Option.map_map]
      rfl

end Spelling

/-! ## single quotes -/

/-- What a run is read as, inside single quotes.  A next line counts as a line feed, but is not written
twice where it stands first. -/
def heardRun : List Char → List Char
  | [] => []
  | c :: rest =>
    if c.toNat == 0x85 then if rest.isEmpty then [' '] else rest.map readBreak
    else (c :: rest).map readBreak

theorem heardRun_eq_self {run : List Char} (h : ∀ c ∈ run, c.toNat ≠ 0x85) : heardRun run = run := by
  have hread : ∀ c ∈ run, readBreak c = c := fun c hc => by simp [readBreak, h c hc]
  cases run with
  | nil => rfl
  | cons c rest =>
      have hmap : (c :: rest).map readBreak = c :: rest := by
        rw [List.map_congr_left hread, List.map_id']
      simpa [heardRun, h c List.mem_cons_self] using hmap

theorem heardRun_of_not_isBreak {run : List Char} (h : ∀ c ∈ run, isBreak c = false) :
    heardRun run = run :=
  heardRun_eq_self fun c hc hnext => by simpa [isBreak, hnext] using h c hc

theorem readsGaps_singlePieces : ReadsGaps singlePieces := by
  intro c rest hc
  have hquote : c ≠ '\'' := fun h => hc (by rw [h]; decide)
  rw [singlePieces.eq_def]
  split <;> simp_all

/-- A character of a word, with the quote written twice. -/
theorem spells_singleChar {c : Char} (hc : kindOf c = .word) (hordinary : isOrdinary c = true) :
    Spells singlePieces (if c == '\'' then ['\'', '\''] else [c]) [.char c] := by
  intro rest
  by_cases hquote : c = '\''
  · subst hquote
    rfl
  · have hword := kindOf_eq_word.mp hc
    have htab : c ≠ '\t' := fun h => by rw [h] at hordinary; exact absurd hordinary (by decide)
    have hreturn : c ≠ '\r' := fun h => by rw [h] at hordinary; exact absurd hordinary (by decide)
    have hpiece : quotedPiece? c rest = some (.char c) := by
      simp [quotedPiece?, hword, htab, hreturn]
    have hstep : singlePieces (c :: rest) =
        (quotedPiece? c rest).bind fun p => (singlePieces rest).map (prepend p) := by
      rw [singlePieces.eq_def]
      split <;> simp_all
    simp only [beq_iff_eq, hquote, if_false, List.singleton_append, hstep, hpiece, Option.bind_some]
    rfl

theorem textOf_chars (cs : List Char) (ps : List Piece) :
    textOf (cs.map .char ++ ps) = cs ++ textOf ps := by
  induction cs with
  | nil => rfl
  | cons c cs ih =>
      rw [textOf] at ih
      simp [textOf, folded, Pause.text, ih]

/-- A run of breaks is read as the reader hears it. -/
theorem textOf_breakRun {run : List Char} (hne : run ≠ []) (n : Nat) {ps : List Piece} (h : Sharp ps) :
    textOf (((if run.head? == some '\n' then ['\n'] else []) ++ run).map .lineBreak ++
      (List.replicate n (.blank ' ') ++ ps)) = heardRun run ++ textOf ps := by
  obtain ⟨c, rest, rfl⟩ := List.exists_cons_of_ne_nil hne
  by_cases hc : c = '\n'
  · subst hc
    have hlead : (if ('\n' :: rest).head? == some '\n' then ['\n'] else []) = ['\n'] := rfl
    rw [hlead, List.singleton_append, textOf_lineBreaks '\n' ('\n' :: rest) n h]
    rfl
  · have hlead : (if (c :: rest).head? == some '\n' then ['\n'] else []) = [] := by simp [hc]
    rw [hlead, List.nil_append, textOf_lineBreaks c rest n h]
    by_cases hnext : c.toNat = 0x85
    · simp [Pause.text, heardRun, readBreak, hnext]
    · simp [Pause.text, heardRun, readBreak, hnext, hc]

/-- Runs that start with a word, or none at all. -/
def StartsWord (rs : List (List Char)) : Prop := ∀ run ∈ rs.head?, ∀ c ∈ run, kindOf c = .word

theorem not_startsWord {kind : Kind} {run : List Char} {more : List (List Char)} (hne : run ≠ [])
    (hkind : ∀ c ∈ run, kindOf c = kind) (hgap : kind ≠ .word) : ¬StartsWord (run :: more) := by
  obtain ⟨c, hc⟩ := List.exists_mem_of_ne_nil run hne
  intro h
  exact hgap ((hkind c hc).symm.trans (h run rfl c hc))

theorem not_startsWord_blanks (n : Nat) (more : List (List Char)) :
    ¬StartsWord (List.replicate (n + 1) ' ' :: more) := by
  have hkind : ∀ c ∈ List.replicate (n + 1) ' ', kindOf c = .blank := fun c hc =>
    kindOf_eq_blank.mpr (List.eq_of_mem_replicate hc)
  exact not_startsWord (by simp) hkind (by decide)

/-- After a gap comes a word. -/
theorem startsWord_of_gap {kind : Kind} {more : List (List Char)} (hgap : kind ≠ .word)
    (hnext : ∀ next ∈ more.head?, ∀ c ∈ next, (kind = .word ↔ kindOf c ≠ .word)) : StartsWord more :=
  fun next hmem c hc => Decidable.byContradiction fun h => hgap ((hnext next hmem c hc).mpr h)

/-- Inside single quotes, the characters `cs` are read as the runs `rs` are heard, whatever follows. -/
def Heard (rs : List (List Char)) (cs : List Char) : Prop :=
  ∃ ps, Spells singlePieces cs ps ∧ textOf ps = (rs.map heardRun).flatten ∧ (StartsWord rs → Sharp ps)

namespace Heard

variable {run : List Char} {more : List (List Char)} {cs : List Char}

theorem nil : Heard [] [] := ⟨[], spells_nil, rfl, fun _ => trivial⟩

theorem word (h : Heard more cs) (hne : run ≠ []) (hkind : ∀ c ∈ run, kindOf c = .word)
    (hordinary : ∀ c ∈ run, isOrdinary c = true) :
    Heard (run :: more) ((run.flatMap fun c => if c == '\'' then ['\'', '\''] else [c]) ++ cs) := by
  obtain ⟨ps, hspells, htext, -⟩ := h
  refine ⟨run.map .char ++ ps, ?_, ?_, fun _ => ?_⟩
  · exact (Spells.flatMap fun c hc => spells_singleChar (hkind c hc) (hordinary c hc)).append hspells
  · have hheard := heardRun_of_not_isBreak fun c hc => (kindOf_eq_word.mp (hkind c hc)).2
    rw [textOf_chars, htext, List.map_cons, List.flatten_cons, hheard]
  · obtain ⟨c, rest, rfl⟩ := List.exists_cons_of_ne_nil hne
    trivial

theorem blanks (h : Heard more cs) (hmore : StartsWord more) (n : Nat) :
    Heard (List.replicate (n + 1) ' ' :: more) (List.replicate (n + 1) ' ' ++ cs) := by
  obtain ⟨ps, hspells, htext, hsharp⟩ := h
  refine ⟨List.replicate (n + 1) (.blank ' ') ++ ps, ?_, ?_, fun hword => ?_⟩
  · exact (spells_margin readsGaps_singlePieces (n + 1)).append hspells
  · have hheard : heardRun (List.replicate (n + 1) ' ') = List.replicate (n + 1) ' ' := by
      apply heardRun_of_not_isBreak
      intro c hc
      rw [List.eq_of_mem_replicate hc]
      decide
    rw [textOf_blanks _ (hsharp hmore), htext, List.map_cons, List.flatten_cons, hheard]
  · exact absurd hword (not_startsWord_blanks n more)

theorem fold (h : Heard more cs) (hmore : StartsWord more) (n : Nat) :
    Heard ([' '] :: more) (newLine (n + 1) ++ cs) := by
  obtain ⟨ps, hspells, htext, hsharp⟩ := h
  refine ⟨['\n'].map .lineBreak ++ List.replicate (n + 1) (.blank ' ') ++ ps, ?_, ?_, fun hword => ?_⟩
  · have hbreaks : ∀ c ∈ ['\n'], isBreak c = true := List.forall_mem_singleton.mpr (by decide)
    exact (spells_lineBreaks readsGaps_singlePieces hbreaks n).append hspells
  · rw [List.append_assoc, textOf_lineBreaks '\n' [] _ (hsharp hmore), htext]
    rfl
  · exact absurd hword (not_startsWord_blanks 0 more)

theorem breaks (h : Heard more cs) (hmore : StartsWord more) (hne : run ≠ [])
    (hkind : ∀ c ∈ run, kindOf c = .lineBreak) (n : Nat) :
    Heard (run :: more) (breakRun (n + 1) run ++ cs) := by
  obtain ⟨ps, hspells, htext, hsharp⟩ := h
  have hbreaks : ∀ c ∈ (if run.head? == some '\n' then ['\n'] else []) ++ run, isBreak c = true := by
    intro c hc
    obtain hc | hc := List.mem_append.mp hc
    · split at hc
      · rw [List.mem_singleton.mp hc]
        decide
      · cases hc
    · exact kindOf_eq_lineBreak.mp (hkind c hc)
  refine ⟨((if run.head? == some '\n' then ['\n'] else []) ++ run).map .lineBreak ++
    List.replicate (n + 1) (.blank ' ') ++ ps, ?_, ?_, fun hword => ?_⟩
  · exact (spells_lineBreaks readsGaps_singlePieces hbreaks n).append hspells
  · rw [List.append_assoc, textOf_breakRun hne _ (hsharp hmore), htext, List.map_cons, List.flatten_cons]
  · exact absurd hword (not_startsWord hne hkind (by decide))

end Heard

/-- **Single quotes**: a text written in single quotes is read as its runs are heard. -/
theorem heard_singleRuns (fold : Bool) (margin : Nat) {rs : List (List Char)} (h : Parted rs)
    (hordinary : ∀ run ∈ rs, ∀ c ∈ run, isOrdinary c = true) (first : Bool) (column : Nat) :
    Heard rs (singleRuns fold (margin + 1) first column rs) := by
  induction h generalizing first column with
  | nil => exact .nil
  | @cons kind run more hne hkind hnext _ ih =>
      obtain ⟨hrun, hmore⟩ := List.forall_mem_cons.mp hordinary
      have hword : kind ≠ .word → StartsWord more := fun hgap => startsWord_of_gap hgap hnext
      rw [singleRuns]
      cases kind with
      | word =>
          have hany : run.any isBreak = false :=
            List.any_eq_false.mpr fun c hc => by simp [(kindOf_eq_word.mp (hkind c hc)).2]
          simp only [hany, ne_blank_of_word hkind, Bool.false_and, Bool.false_eq_true, if_false]
          exact (ih hmore false _).word hne hkind hrun
      | blank =>
          obtain ⟨n, rfl⟩ := exists_eq_replicate hne hkind
          have hany : (List.replicate (n + 1) ' ').any isBreak = false :=
            List.any_eq_false.mpr fun c hc => by rw [List.eq_of_mem_replicate hc]; decide
          have hout : ((List.replicate (n + 1) ' ').flatMap fun c => if c == '\'' then ['\'', '\''] else [c]) =
              List.replicate (n + 1) ' ' := by
            rw [List.flatMap_def, List.map_replicate]
            exact List.flatten_replicate_singleton
          simp only [hany, hout, Bool.false_eq_true, if_false]
          split
          · next hfold =>
              simp only [Bool.and_eq_true, beq_iff_eq] at hfold
              rw [hfold.1.1.1.1]
              exact (ih hmore false _).fold (hword (by decide)) margin
          · exact (ih hmore false _).blanks (hword (by decide)) n
      | lineBreak =>
          have hany : run.any isBreak = true := by
            obtain ⟨c, hc⟩ := List.exists_mem_of_ne_nil run hne
            exact List.any_eq_true.mpr ⟨c, hc, kindOf_eq_lineBreak.mp (hkind c hc)⟩
          simp only [hany, if_true]
          exact (ih hmore false _).breaks (hword (by decide)) hne hkind margin

/-! ## plain texts -/

theorem isGap_eq_false_iff {c : Char} (h : isOrdinary c = true) : isGap c = false ↔ kindOf c = .word := by
  have hblank : c.toNat = 0x20 → c = ' ' := fun hc => by rw [← Char.ofNat_toNat c, hc]
  have hgaps : c.toNat ≠ 0x00 ∧ c.toNat ≠ 0x09 ∧ c.toNat ≠ 0x0D := by
    simp only [isOrdinary, Bool.or_eq_true, Bool.and_eq_true, beq_iff_eq, decide_eq_true_eq] at h
    omega
  rw [kindOf_eq_word]
  constructor
  · intro hgap
    refine ⟨fun hc => ?_, ?_⟩
    · rw [hc] at hgap
      exact absurd hgap (by decide)
    · exact (Bool.or_eq_false_iff.mp hgap).1
  · rintro ⟨hne, hbreak⟩
    simp [isGap, hbreak, hgaps, mt hblank hne]

theorem isGap_of_isBreak {c : Char} (h : isBreak c = true) : isGap c = true := by simp [isGap, h]

theorem not_special_of_not_isGap {c : Char} (h : isGap c = false) : (c == ' ' || isBreak c) = false := by
  have hblank : c ≠ ' ' := fun hc => by rw [hc] at h; exact absurd h (by decide)
  have hbreak : isBreak c ≠ true := fun hc => by rw [isGap_of_isBreak hc] at h; cases h
  simp [hblank, hbreak]

theorem resumes_blanks (limit : Option Nat) {c : Char} (hc : (c == ' ' || isBreak c) = false) (cs : List Char)
    (n : Nat) (column : Option Nat) : resumes limit column (List.replicate n ' ' ++ c :: cs) =
      (goesOn (c :: cs) && (column.map (· + n)).all fun k => limit.any (· ≤ k)) := by
  induction n generalizing column with
  | zero =>
      rw [Bool.or_eq_false_iff] at hc
      simp [resumes, hc]
  | succ n ih =>
      rw [List.replicate_succ, List.cons_append, resumes]
      simp only [beq_self_eq_true, if_true, ih]
      cases column <;> simp [Nat.add_assoc, Nat.add_comm 1]

theorem resumes_of_goesOn {limit : Option Nat} {cs : List Char} (h : goesOn cs = true) (n : Nat)
    (column : Option Nat) : resumes limit column (List.replicate n ' ' ++ cs) =
      (column.map (· + n)).all fun k => limit.any (· ≤ k) := by
  cases cs with
  | nil => cases h
  | cons c cs =>
      have hc : isGap c = false := by
        simp only [goesOn, Bool.and_eq_true] at h
        simpa using h.1.1
      rw [resumes_blanks limit (not_special_of_not_isGap hc), h, Bool.true_and]

/-- Blanks before a character of the text. -/
theorem plainPieces_blanks (limit : Option Nat) {cs : List Char} (h : goesOn cs = true) (n : Nat) :
    plainPieces limit (List.replicate n ' ' ++ cs) =
      (List.replicate n (.blank ' ') ++ (plainPieces limit cs).1, (plainPieces limit cs).2) := by
  induction n with
  | zero => simp
  | succ n ih =>
      have hresumes := @resumes_of_goesOn limit cs h (n + 1) none
      rw [List.replicate_succ, List.cons_append] at hresumes
      rw [List.replicate_succ, List.cons_append, plainPieces, ih]
      simp [hresumes, prepend, List.replicate_succ]

/-- A line that was folded. -/
theorem plainPieces_newLine {limit : Option Nat} {cs : List Char} (h : goesOn cs = true) {n : Nat}
    (hlimit : limit.any (· ≤ n) = true) :
    plainPieces limit (newLine n ++ cs) =
      (.lineBreak '\n' :: (List.replicate n (.blank ' ') ++ (plainPieces limit cs).1),
        (plainPieces limit cs).2) := by
  have hbreak : isBreak '\n' = true := by decide
  have hresumes : resumes limit none ('\n' :: (List.replicate n ' ' ++ cs)) = true := by
    have hsome : limit.isSome = true := by
      cases limit with
      | none => cases hlimit
      | some l => rfl
    rw [resumes]
    simp [hbreak, hsome, resumes_of_goesOn h, hlimit]
  rw [newLine, List.cons_append, plainPieces, plainPieces_blanks limit h]
  simp [hbreak, hresumes, prepend]

/-- No colon in a word stands before a gap, unless it is at its end. -/
theorem not_colon_of_word {c : Char} {run : List Char} (hrun : ∀ d ∈ run, isGap d = false)
    (hlast : (c :: run).getLast? ≠ some ':') (cs : List Char) :
    (c == ':' && startsGap (run ++ cs)) = false := by
  cases run with
  | nil => simp_all
  | cons d run => simp [startsGap, hrun d List.mem_cons_self]

theorem goesOn_word {run : List Char} (hne : run ≠ []) (hrun : ∀ c ∈ run, isGap c = false)
    (hhash : run.head? ≠ some '#') (hlast : run.getLast? ≠ some ':') (cs : List Char) :
    goesOn (run ++ cs) = true := by
  obtain ⟨c, run, rfl⟩ := List.exists_cons_of_ne_nil hne
  obtain ⟨hc, hrun⟩ := List.forall_mem_cons.mp hrun
  have hne : c ≠ '#' := by simpa using hhash
  simp [goesOn, hc, hne, not_colon_of_word hrun hlast]

/-- A word in a plain text, which has no colon at its end. -/
theorem plainPieces_word (limit : Option Nat) {run : List Char} (hrun : ∀ c ∈ run, isGap c = false)
    (hlast : run.getLast? ≠ some ':') (cs : List Char) :
    plainPieces limit (run ++ cs) =
      (run.map .char ++ (plainPieces limit cs).1, (plainPieces limit cs).2) := by
  induction run with
  | nil => rfl
  | cons c run ih =>
      obtain ⟨hc, hrun⟩ := List.forall_mem_cons.mp hrun
      have hcolon := not_colon_of_word hrun hlast cs
      have hlast' : run.getLast? ≠ some ':' := by
        cases run with
        | nil => simp
        | cons d run => simpa using hlast
      rw [List.cons_append, plainPieces, ih hrun hlast']
      simp [not_special_of_not_isGap hc, hc, hcolon, prepend]

/-- What a text without indicators says about a word in it. -/
theorem word_of_hasInnerIndicator {run cs : List Char} (hne : run ≠ [])
    (hrun : ∀ c ∈ run, isGap c = false) (hcs : startsGap cs = true) {gap : Bool}
    (h : hasInnerIndicator gap (run ++ cs) = false) :
    (gap = true → run.head? ≠ some '#') ∧ run.getLast? ≠ some ':' ∧
      hasInnerIndicator false cs = false := by
  induction run generalizing gap with
  | nil => exact absurd rfl hne
  | cons c run ih =>
      obtain ⟨hc, hrun⟩ := List.forall_mem_cons.mp hrun
      rw [List.cons_append, hasInnerIndicator, Bool.or_eq_false_iff, Bool.or_eq_false_iff, hc] at h
      obtain ⟨⟨hcolon, hhash⟩, hrest⟩ := h
      have hhead : gap = true → (c :: run).head? ≠ some '#' := by
        rintro rfl
        simpa using hhash
      cases run with
      | nil => exact ⟨hhead, by simpa [hcs] using hcolon, hrest⟩
      | cons d run =>
          obtain ⟨-, hlast, hcs'⟩ := ih (by simp) hrun hrest
          exact ⟨hhead, by simpa using hlast, hcs'⟩

theorem startsGap_flatten {rs : List (List Char)} (hordinary : ∀ run ∈ rs, ∀ c ∈ run, isOrdinary c = true)
    (h : ∀ run ∈ rs.head?, ∀ c ∈ run, kindOf c ≠ .word) (hne : ∀ run ∈ rs, run ≠ []) :
    startsGap rs.flatten = true := by
  match rs with
  | [] => rfl
  | [] :: _ => exact absurd rfl (hne [] List.mem_cons_self)
  | (c :: run) :: rs =>
      have hc := hordinary (c :: run) List.mem_cons_self c List.mem_cons_self
      have hkind := mt (isGap_eq_false_iff hc).mp (h (c :: run) rfl c List.mem_cons_self)
      simpa [startsGap] using hkind

theorem Parted.ne_nil {rs : List (List Char)} (h : Parted rs) : ∀ run ∈ rs, run ≠ [] := by
  induction h with
  | nil => simp
  | cons hne _ _ _ ih => exact List.forall_mem_cons.mpr ⟨hne, ih⟩

theorem hasInnerIndicator_blanks (gap : Bool) (n : Nat) (cs : List Char) :
    hasInnerIndicator gap (List.replicate (n + 1) ' ' ++ cs) = hasInnerIndicator true cs := by
  induction n generalizing gap with
  | zero => simp [hasInnerIndicator, isGap]
  | succ n ih =>
      rw [List.replicate_succ, List.cons_append, hasInnerIndicator, ih]
      simp

/-- A plain text is read from the characters `cs` as the runs `rs`, if it stops at what follows. -/
def Stands (limit : Option Nat) (rest : List Char) (rs : List (List Char)) (cs : List Char) : Prop :=
  ∃ ps, plainPieces limit (cs ++ rest) = (ps, rest) ∧ textOf ps = rs.flatten ∧ (StartsWord rs → Sharp ps)

namespace Stands

variable {limit : Option Nat} {rest run : List Char} {more : List (List Char)} {cs : List Char}

theorem word (h : Stands limit rest more cs) (hne : run ≠ []) (hrun : ∀ c ∈ run, isGap c = false)
    (hlast : run.getLast? ≠ some ':') : Stands limit rest (run :: more) (run ++ cs) := by
  obtain ⟨ps, hpieces, htext, -⟩ := h
  refine ⟨run.map .char ++ ps, ?_, ?_, fun _ => ?_⟩
  · rw [List.append_assoc, plainPieces_word limit hrun hlast, hpieces]
  · rw [textOf_chars, htext, List.flatten_cons]
  · obtain ⟨c, rest, rfl⟩ := List.exists_cons_of_ne_nil hne
    trivial

theorem blanks (h : Stands limit rest more cs) (hmore : StartsWord more)
    (hgoes : goesOn (cs ++ rest) = true) (n : Nat) :
    Stands limit rest (List.replicate (n + 1) ' ' :: more) (List.replicate (n + 1) ' ' ++ cs) := by
  obtain ⟨ps, hpieces, htext, hsharp⟩ := h
  refine ⟨List.replicate (n + 1) (.blank ' ') ++ ps, ?_, ?_, fun hword => ?_⟩
  · rw [List.append_assoc, plainPieces_blanks limit hgoes, hpieces]
  · rw [textOf_blanks _ (hsharp hmore), htext, List.flatten_cons]
  · exact absurd hword (not_startsWord_blanks n more)

theorem fold (h : Stands limit rest more cs) (hmore : StartsWord more)
    (hgoes : goesOn (cs ++ rest) = true) {n : Nat} (hlimit : limit.any (· ≤ n) = true) :
    Stands limit rest ([' '] :: more) (newLine n ++ cs) := by
  obtain ⟨ps, hpieces, htext, hsharp⟩ := h
  refine ⟨['\n'].map .lineBreak ++ (List.replicate n (.blank ' ') ++ ps), ?_, ?_, fun hword => ?_⟩
  · rw [List.append_assoc, plainPieces_newLine hgoes hlimit, hpieces]
    rfl
  · rw [textOf_lineBreaks '\n' [] _ (hsharp hmore), htext]
    rfl
  · exact absurd hword (not_startsWord_blanks 0 more)

end Stands

theorem plainRuns_word {run : List Char} (h : (run == [' ']) = false) (fold : Bool) (indent column : Nat)
    (more : List (List Char)) : plainRuns fold indent column (run :: more) =
      run ++ plainRuns fold indent (column + run.length) more := by
  simp [plainRuns, h]

/-- What the writer knows of the runs of a plain text. -/
structure Plain (gap : Bool) (rs : List (List Char)) : Prop where
  /-- They are words and gaps by turns. -/
  parted : Parted rs
  /-- All characters can stand in a text. -/
  ordinary : ∀ run ∈ rs, ∀ c ∈ run, isOrdinary c = true
  /-- None of them is a break. -/
  unbroken : ∀ run ∈ rs, ∀ c ∈ run, isBreak c = false
  /-- The last one is not a blank. -/
  tight : ∀ c ∈ rs.flatten.getLast?, c ≠ ' '
  /-- There are no indicators. -/
  inner : hasInnerIndicator gap rs.flatten = false

namespace Plain

variable {gap : Bool} {run : List Char} {more : List (List Char)}

/-- A plain text is a word and more, or blanks and a word and more. -/
theorem cases (h : Plain gap (run :: more)) :
    (run ≠ [] ∧ (∀ c ∈ run, isGap c = false) ∧ (run == [' ']) = false ∧ startsGap more.flatten = true ∧
      (gap = true → run.head? ≠ some '#') ∧ run.getLast? ≠ some ':' ∧ Plain false more) ∨
    ∃ n, run = List.replicate (n + 1) ' ' ∧ Plain true more ∧ more ≠ [] ∧ StartsWord more := by
  obtain ⟨hparted, hordinary, hbreak, htight, hinner⟩ := h
  obtain ⟨hordinary, hordinary'⟩ := List.forall_mem_cons.mp hordinary
  obtain ⟨hbreak, hbreak'⟩ := List.forall_mem_cons.mp hbreak
  rw [List.flatten_cons] at htight hinner
  have htight' : ∀ c ∈ more.flatten.getLast?, c ≠ ' ' := by
    intro c hc
    refine htight c ?_
    rw [List.getLast?_append, Option.mem_def.mp hc]
    rfl
  cases hparted with
  | @cons kind _ _ hne hkind hnext hmore =>
      cases kind with
      | lineBreak =>
          obtain ⟨c, hc⟩ := List.exists_mem_of_ne_nil run hne
          have hc' := kindOf_eq_lineBreak.mp (hkind c hc)
          rw [hbreak c hc] at hc'
          cases hc'
      | word =>
          have hgap : ∀ c ∈ run, isGap c = false := fun c hc =>
            (isGap_eq_false_iff (hordinary c hc)).mpr (hkind c hc)
          have hstarts : startsGap more.flatten = true :=
            startsGap_flatten hordinary' (fun next hm c hc => (hnext next hm c hc).mp rfl) hmore.ne_nil
          obtain ⟨hhash, hlast, hinner'⟩ := word_of_hasInnerIndicator hne hgap hstarts hinner
          exact .inl ⟨hne, hgap, ne_blank_of_word hkind, hstarts, hhash, hlast, hmore, hordinary', hbreak',
            htight', hinner'⟩
      | blank =>
          obtain ⟨n, rfl⟩ := exists_eq_replicate hne hkind
          rw [hasInnerIndicator_blanks] at hinner
          refine .inr ⟨n, rfl, ⟨hmore, hordinary', hbreak', htight', hinner⟩, ?_,
            startsWord_of_gap (by decide) hnext⟩
          rintro rfl
          simp [List.getLast?_replicate] at htight

/-- After blanks the text goes on. -/
theorem goesOn_plainRuns (h : Plain true more) (hne : more ≠ []) (hword : StartsWord more) (fold : Bool)
    (indent column : Nat) (rest : List Char) :
    goesOn (plainRuns fold indent column more ++ rest) = true := by
  obtain ⟨run, more, rfl⟩ := List.exists_cons_of_ne_nil hne
  obtain ⟨hne, hrun, hblank, -, hhash, hlast, -⟩ | ⟨n, rfl, -⟩ := h.cases
  · rw [plainRuns_word hblank, List.append_assoc]
    exact goesOn_word hne hrun (hhash rfl) hlast _
  · exact absurd (hword _ rfl ' ' (by simp)) (by decide)

/-- **Plain texts**: a plain text is read as itself, up to where it stops. -/
theorem stands_plainRuns {limit : Option Nat} {fold : Bool} {indent : Nat}
    (hlimit : fold = true → limit.any (· ≤ indent) = true) {rest : List Char}
    (hrest : plainPieces limit rest = ([], rest)) {rs : List (List Char)} (h : Plain gap rs)
    (column : Nat) : Stands limit rest rs (plainRuns fold indent column rs) := by
  induction rs generalizing gap column with
  | nil => exact ⟨[], hrest, rfl, fun _ => trivial⟩
  | cons run more ih =>
      obtain ⟨hne, hrun, hblank, -, -, hlast, hmore⟩ | ⟨n, rfl, hmore, hne, hword⟩ := h.cases
      · rw [plainRuns_word hblank]
        exact (ih hmore _).word hne hrun hlast
      · rw [plainRuns]
        split
        · next hfold =>
            simp only [Bool.and_eq_true, beq_iff_eq] at hfold
            rw [hfold.1.1]
            exact (ih hmore _).fold hword (hmore.goesOn_plainRuns hne hword _ _ _ _) (hlimit hfold.2)
        · exact (ih hmore _).blanks hword (hmore.goesOn_plainRuns hne hword _ _ _ _) n

end Plain

end QueryTree.Yaml
