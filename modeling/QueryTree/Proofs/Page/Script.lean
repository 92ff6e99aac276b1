import Mathlib.Data.List.Infix
import QueryTree.Proofs.Page.Pieces

/-!
# QueryTree.Proofs.Page.Script

The script of a page, read from its characters.

A reader of HTML finds the first script of a page and its text up to the end tag.  The
statements of the script stand line by line, and what a statement gives to an element of
an array stands between the sign of equality and the semicolon.

* `afterTag`, `upToTag` — what stands after a tag, and up to the next one;
* `assignments` — all that the script of a page gives to an element of an array;
* `assignments_chars` — on the page of a tree these are the literals of its nodes.
-/

namespace QueryTree.Page

/-! ## what stands after a tag -/

/-- The characters after the first occurrence of a tag. -/
def afterTag (g : Tag) : Mode → List Char → Option (List Char)
  | _, [] => none
  | m, c :: cs => if g ∈ (m.step c).1 then some cs else afterTag g (m.step c).2 cs

/-- The characters before the end of the next tag. -/
def upToTag : Mode → List Char → List Char
  | _, [] => []
  | m, c :: cs => if (m.step c).1 = [] then c :: upToTag (m.step c).2 cs else []

theorem afterTag_append {g : Tag} {m m' : Mode} {cs : List Char} {ts : List Tag}
    (h : run m cs = (ts, m')) (hg : g ∉ ts) (rest : List Char) :
    afterTag g m (cs ++ rest) = afterTag g m' rest := by
  induction cs generalizing m ts with
  | nil =>
      obtain ⟨-, rfl⟩ := Prod.mk.inj h
      rfl
  | cons c cs ih =>
      obtain ⟨rfl, hmode⟩ := Prod.mk.inj h
      rw [List.mem_append, not_or] at hg
      rw [List.cons_append, afterTag, if_neg hg.1]
      exact ih (Prod.ext rfl hmode) hg.2

theorem afterTag_append_of_eq_some {g : Tag} {m : Mode} {cs ds : List Char} (h : afterTag g m cs = some ds)
    (rest : List Char) : afterTag g m (cs ++ rest) = some (ds ++ rest) := by
  induction cs generalizing m with
  | nil => cases h
  | cons c cs ih =>
      rw [afterTag] at h
      rw [List.cons_append, afterTag]
      split at h
      · cases h
        simp [*]
      · next hg => rw [if_neg hg, ih h]

theorem upToTag_append {m m' : Mode} {cs : List Char} (h : run m cs = ([], m')) (rest : List Char) :
    upToTag m (cs ++ rest) = cs ++ upToTag m' rest := by
  induction cs generalizing m with
  | nil =>
      obtain ⟨-, rfl⟩ := Prod.mk.inj h
      rfl
  | cons c cs ih =>
      obtain ⟨htags, hmode⟩ := Prod.mk.inj h
      obtain ⟨hfirst, hrest⟩ := List.append_eq_nil_iff.mp htags
      rw [List.cons_append, upToTag, if_pos hfirst, ih (Prod.ext hrest hmode), List.cons_append]

theorem upToTag_append_of_tag {m : Mode} {cs : List Char} (h : (run m cs).1 ≠ []) (rest : List Char) :
    upToTag m (cs ++ rest) = upToTag m cs := by
  induction cs generalizing m with
  | nil => exact absurd rfl h
  | cons c cs ih =>
      rw [List.cons_append, upToTag, upToTag]
      split
      · next hfirst =>
          rw [run, hfirst, List.nil_append] at h
          rw [ih h]
      · rfl

/-! ## statements of the script -/

/-- The text of the script at the start of a page. -/
def scriptText? (page : List Char) : Option (List Char) :=
  (afterTag (startTag "script" []) .data page).map (upToTag (.raw script none))

/-- How a statement starts that gives a value to an element of an array. -/
def target (name : String) (i : Nat) : List Char :=
  [' ', ' ', ' ', ' '] ++ name.toList ++ '[' :: (Decimal.digitChars i ++ [']', ' ', '=', ' '])

/-- The value that a statement gives to an element of an array, as it is written. -/
def assigned? (name : String) (i : Nat) (statement : List Char) : Option (List Char) :=
  match (target name i).isPrefixOf? statement with
  | none => none
  | some rest => if rest.getLast? = some ';' then some rest.dropLast else none

/-- The values that a text, line by line, gives to an element of an array. -/
def assignedIn (name : String) (i : Nat) (cs : List Char) : List (List Char) :=
  (cs.splitOn '\n').filterMap (assigned? name i)

/-- The values that the script of a page gives to an element of an array. -/
def assignments (name : String) (i : Nat) (page : List Char) : List (List Char) :=
  match scriptText? page with
  | none => []
  | some cs => assignedIn name i cs

theorem digitChars_injective : Function.Injective Decimal.digitChars := by
  intro m n h
  have hvalue := congrArg (fun cs => Nat.ofDigitChars 10 cs 0) h
  simpa [Decimal.digitChars, Nat.ofDigitChars_toDigits] using hvalue

/-- A text is cut in one way before the first occurrence of a character. -/
theorem append_cons_inj {c : Char} {as bs cs ds : List Char} (has : c ∉ as) (hbs : c ∉ bs)
    (h : as ++ c :: cs = bs ++ c :: ds) : as = bs ∧ cs = ds := by
  induction as generalizing bs with
  | nil =>
      cases bs with
      | nil => exact ⟨rfl, (List.cons.inj h).2⟩
      | cons b bs => exact absurd (.head bs) ((List.cons.inj h).1 ▸ hbs)
  | cons a as ih =>
      cases bs with
      | nil => exact absurd (.head as) ((List.cons.inj h).1 ▸ has)
      | cons b bs =>
          obtain ⟨rfl, htail⟩ := List.cons.inj h
          simp only [List.mem_cons, not_or] at has hbs
          obtain ⟨hfront, hrest⟩ := ih has.2 hbs.2 htail
          exact ⟨by rw [hfront], hrest⟩

/-- The name and the number can be told from the start of a statement. -/
theorem target_inj {name name' : String} {i k : Nat} (hname : '[' ∉ name.toList) (hname' : '[' ∉ name'.toList)
    {rest rest' : List Char} (h : target name i ++ rest = target name' k ++ rest') :
    name = name' ∧ i = k := by
  simp only [target, List.cons_append, List.nil_append, List.append_assoc, List.cons.injEq, true_and] at h
  obtain ⟨hnames, hnumbers⟩ := append_cons_inj hname hname' h
  have hbracket (n : Nat) : ']' ∉ Decimal.digitChars n := not_mem_digitChars rfl n
  have hdigits := (append_cons_inj (hbracket i) (hbracket k) hnumbers).1
  exact ⟨String.toList_injective hnames, digitChars_injective hdigits⟩

/-- The statement that gives a text to an element of an array. -/
def assignment (name : String) (i : Nat) (value : String) : List Char :=
  target name i ++ ((Part.literal value).chars ++ [';'])

theorem assigned?_assignment {name name' : String} (hname : '[' ∉ name.toList) (hname' : '[' ∉ name'.toList)
    (i k : Nat) (value : String) : assigned? name i (assignment name' k value) =
      if name = name' ∧ i = k then some (Part.literal value).chars else none := by
  unfold assigned?
  split
  · next hnone =>
      have hother : ¬ (name = name' ∧ i = k) := by
        rintro ⟨rfl, rfl⟩
        have hself := List.isPrefixOf?_eq_some_iff_append_eq.mpr (Eq.refl (assignment name i value))
        rw [hnone] at hself
        cases hself
      rw [if_neg hother]
  · next rest hrest =>
      have heq := List.isPrefixOf?_eq_some_iff_append_eq.mp hrest
      obtain ⟨rfl, rfl⟩ := target_inj hname hname' heq
      rw [List.append_cancel_left heq]
      simp

/-- How the statements start that give values to the elements of arrays. -/
def targetStart : List Char := [' ', ' ', ' ', ' ', 't']

theorem assigned?_eq_none {name : String} {i : Nat} {cs letters : List Char}
    (hname : name.toList = 't' :: letters) (h : targetStart.isPrefixOf cs = false) : assigned? name i cs = none := by
  unfold assigned?
  split
  · rfl
  · next rest hrest =>
      rw [← List.isPrefixOf?_eq_some_iff_append_eq.mp hrest] at h
      simp [target, targetStart, hname] at h

theorem assignedIn_append (name : String) (i : Nat) (cs rest : List Char) :
    assignedIn name i (cs ++ '\n' :: rest) = assignedIn name i cs ++ assignedIn name i rest := by
  rw [assignedIn, List.splitOn_append_cons_self, List.filterMap_append]
  rfl

theorem assignedIn_of_lineFeed_notMem (name : String) (i : Nat) {cs : List Char} (h : '\n' ∉ cs) :
    assignedIn name i cs = (assigned? name i cs).toList := by
  rw [assignedIn, List.splitOn_eq_singleton h]
  cases hcs : assigned? name i cs <;> simp [hcs]

/-! ## the script of a page -/

theorem lineFeed_notMem_codeEscapes (n : Nat) : '\n' ∉ codeEscapes n := by
  have hdigit : ∀ m : Fin 16, '\n' ≠ Text.hexDigit 'a' m := by decide
  have hescape (k : Nat) : '\n' ∉ codeEscape k := by
    intro h
    simp only [codeEscape, List.mem_cons] at h
    obtain h | h | h := h
    · cases h
    · cases h
    · obtain ⟨m, hm, heq⟩ := Text.mem_hexWith h
      exact hdigit ⟨m, hm⟩ heq
  unfold codeEscapes
  split <;> simp [hescape]

theorem lineFeed_notMem_literalChar (c : Char) : '\n' ∉ literalChar c := by
  unfold literalChar
  split
  · next e he =>
      unfold Json.letterEscape? at he
      split at he <;> cases he <;> decide
  · next hnone =>
      split
      · exact lineFeed_notMem_codeEscapes c.toNat
      · have hne : '\n' ≠ c := fun heq => by simp [← heq, Json.letterEscape?] at hnone
        simpa using hne

/-- A literal stands on one line. -/
theorem lineFeed_notMem_literal (s : String) : '\n' ∉ (Part.literal s).chars := by
  simp [Part.chars, lineFeed_notMem_literalChar]

theorem lineFeed_notMem_assignment {name : String} (hname : '\n' ∉ name.toList) (i : Nat) (value : String) :
    '\n' ∉ assignment name i value := by
  have hdigits := not_mem_digitChars (c := '\n') rfl i
  have hliteral := lineFeed_notMem_literal value
  simp [assignment, target, hname, hdigits, hliteral]

/-- The name of an array of the script. -/
def IsArray (name : String) : Prop := name = "types" ∨ name = "texts"

theorem IsArray.exists_letters {name : String} (h : IsArray name) :
    ∃ letters, name.toList = 't' :: letters := by
  obtain rfl | rfl := h <;> exact ⟨_, rfl⟩

/-- One statement after the other. -/
theorem assignedIn_assignment {name name' : String} (hname : IsArray name) (hname' : IsArray name')
    (i k : Nat) (value : String) (rest : List Char) :
    assignedIn name i (assignment name' k value ++ '\n' :: rest) =
      (if name = name' ∧ i = k then [(Part.literal value).chars] else []) ++ assignedIn name i rest := by
  have hbracket {name : String} (h : IsArray name) : '[' ∉ name.toList := by
    obtain rfl | rfl := h <;> simp
  have hline {name : String} (h : IsArray name) : '\n' ∉ name.toList := by
    obtain rfl | rfl := h <;> simp
  have hone := lineFeed_notMem_assignment (hline hname') k value
  rw [assignedIn_append, assignedIn_of_lineFeed_notMem name i hone,
    assigned?_assignment (hbracket hname) (hbracket hname')]
  split <;> rfl

/-- Lines that are no statements about arrays. -/
theorem assignedIn_lines {name : String} (hname : IsArray name) (i : Nat) {ls : List (List Char)}
    (hls : ∀ l ∈ ls, '\n' ∉ l ∧ targetStart.isPrefixOf l = false) (rest : List Char) :
    assignedIn name i (ls.flatMap (· ++ ['\n']) ++ rest) = assignedIn name i rest := by
  obtain ⟨letters, hletters⟩ := hname.exists_letters
  induction ls with
  | nil => rfl
  | cons l ls ih =>
      obtain ⟨⟨hline, hstart⟩, hls⟩ := List.forall_mem_cons.mp hls
      have hnone := assigned?_eq_none hletters hstart (i := i)
      rw [List.flatMap_cons, List.append_assoc, List.append_assoc, List.singleton_append, assignedIn_append,
        assignedIn_of_lineFeed_notMem name i hline, hnone, ih hls]
      rfl

/-- What stands in the script before the statements about arrays. -/
def scriptStart (n : Nat) : List (List Char) :=
  [[], "    var count = ".toList ++ Decimal.digitChars n ++ [';'], "    var types = Array(count);".toList,
    "    var texts = Array(count);".toList]

theorem afterTag_head : afterTag (startTag "script" []) .data (joinLines headLines).toList =
    some ('\n' :: "    var count = ".toList) := by
  simp only [joinLines, headLines, String.toList_append, startTag]
  repeat rw [String.toList_ofList]
  decide +kernel

/-- What stands in the script after the statements about arrays. -/
def scriptRest : List Char := upToTag (.raw script none) (joinLines scriptLines).toList

theorem not_targetStart_scriptRest :
    ∀ l ∈ scriptRest.splitOn '\n', targetStart.isPrefixOf l = false := by
  simp only [scriptRest, joinLines, scriptLines, String.toList_append]
  repeat rw [String.toList_ofList]
  decide +kernel

/-- A page, with the pieces of its script apart. -/
theorem chars_eq_script (t : Tree) {vs : List View} (hvs : openedViews (eventsOfTree t) = vs) :
    ∃ rest, chars t = (joinLines headLines).toList ++
      (Decimal.digitChars vs.length ++ (joinLines countLines).toList ++
        (vs.flatMap searchParts).flatMap Part.chars ++ ((joinLines scriptLines).toList ++ rest)) := by
  refine ⟨((eventsOfTree t).flatMap eventParts ++
    [Part.markup "</ol>\n</body>\n</html>"]).flatMap Part.chars, ?_⟩
  simp [chars, parts_eq, frontParts, hvs, Part.chars]

/-- The script of a page. -/
theorem scriptText?_chars (t : Tree) {vs : List View} (hvs : openedViews (eventsOfTree t) = vs) :
    scriptText? (chars t) = some ((scriptStart vs.length).flatMap (· ++ ['\n']) ++
      ((vs.flatMap searchParts).flatMap Part.chars ++ scriptRest)) := by
  have hcount : run (.raw script none) ('\n' :: "    var count = ".toList) = ([], .raw script none) :=
    run_raw (by simp)
  have hstatements := ((reads_rawNumber vs.length).append
    (reads_count.append (reads_searchParts vs))).run_eq
  have hend : (run (.raw script none) (joinLines scriptLines).toList).1 ≠ [] := by
    have hrun := reads_script.run_eq
    simp only [List.flatMap_singleton, Part.chars] at hrun
    simp [hrun, bodyTags]
  have hstart : (scriptStart vs.length).flatMap (· ++ ['\n']) = '\n' :: "    var count = ".toList ++
      (Decimal.digitChars vs.length ++ (joinLines countLines).toList) := by
    simp [scriptStart, joinLines, countLines]
  simp only [List.flatMap_append, List.flatMap_singleton, Part.chars, ← List.append_assoc,
    List.nil_append] at hstatements
  obtain ⟨rest, hchars⟩ := chars_eq_script t hvs
  rw [scriptText?, hchars, afterTag_append_of_eq_some afterTag_head, Option.map_some,
    upToTag_append hcount, upToTag_append hstatements, upToTag_append_of_tag hend, hstart, ← scriptRest]
  simp only [List.append_assoc, List.cons_append]

theorem chars_searchParts (v : View) :
    (searchParts v).flatMap Part.chars =
      assignment "types" v.id (String.ofList (Text.lower v.typeName.toList)) ++
        '\n' :: (assignment "texts" v.id v.text ++ ['\n']) := by
  simp [searchParts, assignment, target, Part.chars, line]

/-- What the script says about one node. -/
theorem assignedIn_searchParts {name : String} (hname : IsArray name) (i : Nat) (v : View) (rest : List Char) :
    assignedIn name i ((searchParts v).flatMap Part.chars ++ rest) =
      (if name = "types" ∧ i = v.id then
        [(Part.literal (String.ofList (Text.lower v.typeName.toList))).chars] else []) ++
      ((if name = "texts" ∧ i = v.id then [(Part.literal v.text).chars] else []) ++
        assignedIn name i rest) := by
  rw [chars_searchParts, List.append_assoc, List.cons_append, List.append_assoc, List.singleton_append,
    assignedIn_assignment hname (.inl rfl), assignedIn_assignment hname (.inr rfl)]

/-- What the script of a page says about the nodes, one after the other, if each adds what `f` says. -/
theorem assignments_chars {name : String} (hname : IsArray name) {i : Nat} {f : View → List (List Char)}
    (hf : ∀ v rest, assignedIn name i ((searchParts v).flatMap Part.chars ++ rest) =
      f v ++ assignedIn name i rest)
    (t : Tree) {vs : List View} (hvs : openedViews (eventsOfTree t) = vs) :
    assignments name i (chars t) = vs.flatMap f := by
  have hstart : ∀ l ∈ scriptStart vs.length, '\n' ∉ l ∧ targetStart.isPrefixOf l = false := by
    have hdigits := not_mem_digitChars (c := '\n') rfl vs.length
    simp [scriptStart, targetStart, List.isPrefixOf, hdigits]
  have hrest : assignedIn name i scriptRest = [] := by
    obtain ⟨letters, hletters⟩ := hname.exists_letters
    rw [assignedIn, List.filterMap_eq_nil_iff]
    exact fun l hl => assigned?_eq_none hletters (not_targetStart_scriptRest l hl)
  have hviews : ∀ us : List View,
      assignedIn name i ((us.flatMap searchParts).flatMap Part.chars ++ scriptRest) = us.flatMap f := by
    intro us
    induction us with
    | nil => rw [List.flatMap_nil, List.flatMap_nil, List.nil_append, hrest, List.flatMap_nil]
    | cons u us ih =>
        rw [List.flatMap_cons, List.flatMap_append, List.append_assoc, hf, ih, List.flatMap_cons]
  rw [assignments, scriptText?_chars t hvs]
  simp only
  rw [assignedIn_lines hname i hstart, hviews]

/-- In a list in which every view has its place as its number, each number is found once. -/
theorem flatMap_of_numbered {α : Type} {vs : List View}
    (hvs : ∀ k (hk : k < vs.length), vs[k].id = k) {i : Nat} (hi : i < vs.length) (f : View → α) :
    (vs.flatMap fun w => if i = w.id then [f w] else []) = [f vs[i]] := by
  have hother {us : List View} (h : ∀ w ∈ us, i ≠ w.id) :
      (us.flatMap fun w => if i = w.id then [f w] else []) = [] :=
    List.flatMap_eq_nil_iff.mpr fun w hw => if_neg (h w hw)
  have hbefore : ∀ w ∈ vs.take i, i ≠ w.id := by
    intro w hw
    obtain ⟨k, hk, rfl⟩ := List.mem_take_iff_getElem.mp hw
    have hid := hvs k (by omega)
    omega
  have hafter : ∀ w ∈ vs.drop (i + 1), i ≠ w.id := by
    intro w hw
    obtain ⟨k, hk, rfl⟩ := List.mem_drop_iff_getElem.mp hw
    have hid := hvs (i + 1 + k) (by omega)
    omega
  calc
    (vs.flatMap fun w => if i = w.id then [f w] else [])
      = ((vs.take i ++ vs.drop i).flatMap fun w => if i = w.id then [f w] else []) := by
        rw [List.take_append_drop]
    _ = [f vs[i]] := by
        rw [List.flatMap_append, List.drop_eq_getElem_cons hi, List.flatMap_cons, hother hbefore,
          hother hafter, if_pos (hvs i hi).symm]
        rfl

end QueryTree.Page
