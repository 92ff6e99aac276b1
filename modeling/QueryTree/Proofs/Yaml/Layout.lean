import QueryTree.Proofs.Ceiling
import QueryTree.Proofs.Yaml.Texts

/-!
# QueryTree.Proofs.Yaml.Layout

The columns of a written document tell its collections apart.

`valueMarks` lists the dashes, keys and values of a written document with their columns.
The reader finds these marks, and from them the document with every text as it is heard
in its margin:

* `scan_entriesChars` — the marks of the entries of a mapping;
* `block_valueMarks` — the document that the marks stand for;
* `read_write_map` — a whole document.
-/

namespace QueryTree.Yaml

/-! ## the documents that are written -/

/-- Whether a key is written plainly on the line of its value. -/
def isPlainKey (k : String) : Bool := quoting k.toList == .plain && isSimpleKey k.toList

mutual

/-- Whether the reader knows all that is in a document: texts, sequences of collections, and mappings with
different plain keys. -/
def isOutlined : Document → Bool
  | .text _ => true
  | .list items => areOutlined items
  | .map entries => holdOutlined entries && (entries.map Prod.fst).Nodup
  | _ => false

/-- Whether several documents are collections that the reader knows. -/
def areOutlined : List Document → Bool
  | [] => true
  | d :: ds => d.isCollection && isOutlined d && areOutlined ds

/-- Whether entries have plain keys, and values that the reader knows. -/
def holdOutlined : List (String × Document) → Bool
  | [] => true
  | (k, d) :: es => isPlainKey k && isOutlined d && holdOutlined es

end

/-- The margin of the items of a sequence that is a value in a collection at `indent`. -/
def itemIndent (place : Place) (indent : Nat) : Nat :=
  match place with
  | .below => indent
  | .beside => indent + 2

mutual

/-- A document with its texts as they are heard, as a value in a collection at `indent`. -/
def heard (place : Place) (indent : Nat) : Document → Document
  | .text s => .text (String.ofList (heardText (indent + 2) s.toList))
  | .list items => .list (heardItems (itemIndent place indent) items)
  | .map entries => .map (heardEntries (indent + 2) entries)
  | d => d

/-- Items of a sequence at `indent`, as they are heard. -/
def heardItems (indent : Nat) : List Document → List Document
  | [] => []
  | d :: ds => heard .beside indent d :: heardItems indent ds

/-- Entries of a mapping at `indent`, as they are heard. -/
def heardEntries (indent : Nat) : List (String × Document) → List (String × Document)
  | [] => []
  | (k, d) :: es => (k, heard .below indent d) :: heardEntries indent es

end

mutual

/-- The marks of a value in a collection at `indent`, after what ends before `column`. -/
def valueMarks (place : Place) (indent column : Nat) : Document → List Mark
  | .list (d :: ds) => itemsMarks (itemIndent place indent) (d :: ds)
  | .map (e :: es) => entriesMarks (indent + 2) (e :: es)
  | d => [.value (column + 1) (heard place indent d)]

/-- The marks of the items of a sequence at `indent`. -/
def itemsMarks (indent : Nat) : List Document → List Mark
  | [] => []
  | d :: ds => .dash indent :: (valueMarks .beside indent (indent + 1) d ++ itemsMarks indent ds)

/-- The marks of the entries of a mapping at `indent`. -/
def entriesMarks (indent : Nat) : List (String × Document) → List Mark
  | [] => []
  | (k, d) :: es =>
    .key indent k ::
      (valueMarks .below indent (indent + (keyChars k.toList).length + 1) d ++ entriesMarks indent es)

end

/-! ## where texts end -/

/-- What follows a value in a collection at `indent`: a line that stands no further in, or nothing. -/
def Ends (indent : Nat) (rest : List Char) : Prop :=
  rest.head? = some '\n' ∧ resumes (some (indent + 1)) none rest = false

theorem resumes_mono {n m : Nat} (h : n ≤ m) {column : Option Nat} {cs : List Char}
    (hcs : resumes (some n) column cs = false) : resumes (some m) column cs = false := by
  induction cs generalizing column with
  | nil => rfl
  | cons c cs ih =>
      rw [resumes] at hcs ⊢
      split
      · next hblank =>
          rw [if_pos hblank] at hcs
          exact ih hcs
      · next hblank =>
          rw [if_neg hblank] at hcs
          split
          · next hbreak =>
              rw [if_pos hbreak] at hcs
              simpa using ih (by simpa using hcs)
          · next hbreak =>
              rw [if_neg hbreak, Bool.and_eq_false_iff] at hcs
              obtain hcs | hcs := hcs
              · rw [hcs, Bool.false_and]
              · cases column with
                | none => cases hcs
                | some k =>
                    simp only [Option.all_some, Option.any_some, decide_eq_false_iff_not] at hcs ⊢
                    simp only [Bool.and_eq_false_iff, decide_eq_false_iff_not]
                    omega

theorem Ends.mono {n m : Nat} {rest : List Char} (h : Ends n rest) (hnm : n ≤ m) : Ends m rest :=
  ⟨h.1, resumes_mono (Nat.succ_le_succ hnm) h.2⟩

theorem Ends.plainPieces_eq {n : Nat} {rest : List Char} (h : Ends n rest) :
    plainPieces (some (n + 1)) rest = ([], rest) := by
  obtain ⟨hhead, hresumes⟩ := h
  cases rest with
  | nil => rfl
  | cons c rest =>
      obtain rfl : c = '\n' := by simpa using hhead
      have hbreak : isBreak '\n' = true := by decide
      rw [plainPieces, hresumes, hbreak]
      rfl

theorem ends_lineFeed (n : Nat) : Ends n ['\n'] := by
  have hbreak : isBreak '\n' = true := by decide
  exact ⟨rfl, by simp [resumes, hbreak]⟩

/-- A line that stands no further in. -/
theorem ends_newLine {n m : Nat} (h : m ≤ n) {c : Char} (hc : (c == ' ' || isBreak c) = false)
    (cs : List Char) : Ends n (newLine m ++ c :: cs) := by
  have hbreak : isBreak '\n' = true := by decide
  refine ⟨rfl, ?_⟩
  rw [newLine, List.cons_append, resumes]
  simp only [hbreak, Char.reduceBEq, Bool.false_eq_true, if_false, if_true, Option.isSome_some, Bool.true_and,
    resumes_blanks _ hc, Option.map_some, Option.all_some, Option.any_some, Nat.zero_add,
    Bool.and_eq_false_iff, decide_eq_false_iff_not]
  omega

/-! ## marks -/

section Scanning

variable {spot : Spot} {column : Nat} {cs : List Char}

theorem scan_blank : scan spot column (' ' :: cs) = scan spot (column + 1) cs := by
  rw [scan]
  rfl

theorem scan_lineFeed : scan spot column ('\n' :: cs) = scan .line 0 cs := by
  rw [scan]
  rfl

theorem scan_newLine (n : Nat) : scan spot column (newLine n ++ cs) = scan .line n cs := by
  have hblanks : ∀ m, scan .line m (List.replicate n ' ' ++ cs) = scan .line (m + n) cs := by
    induction n with
    | zero => intro m; rfl
    | succ n ih =>
        intro m
        rw [List.replicate_succ, List.cons_append, scan_blank, ih, Nat.add_right_comm, Nat.add_assoc]
  rw [newLine, List.cons_append, scan_lineFeed, hblanks, Nat.zero_add]

theorem scan_dash (hspot : spot.isOpen = true) (hcs : startsGap cs = true) :
    scan spot column ('-' :: cs) =
      (scan (.dash (column + 1)) (column + 1) cs).map (.dash column :: ·) := by
  rw [scan]
  simp [hspot, hcs]

theorem ne_of_not_isGap {c : Char} (h : isGap c = false) : (c == ' ') = false ∧ (c == '\n') = false := by
  constructor
  · exact beq_eq_false_iff_ne.mpr fun hc => by rw [hc] at h; exact absurd h (by decide)
  · exact beq_eq_false_iff_ne.mpr fun hc => by rw [hc] at h; exact absurd h (by decide)

/-- A plain key. -/
theorem scan_key (hspot : spot.isOpen = true) {k : String} (hplain : quoting k.toList = .plain)
    (hsimple : isSimpleKey k.toList = true) (hcs : startsGap cs = true) :
    scan spot column (keyChars k.toList ++ ':' :: cs) =
      (scan (.key (column + 1)) (column + (keyChars k.toList).length + 1) cs).map
        (.key column k :: ·) := by
  have hstarts : startsPlain (keyChars k.toList ++ ':' :: cs) = true := by
    rw [keyChars, hplain]
    exact startsPlain_plainRuns hplain _ _ _ _
  have hkey := key?_keyChars hplain hsimple hcs
  rw [String.ofList_toList] at hkey
  have hlength : (keyChars k.toList ++ ':' :: cs).length = (keyChars k.toList).length + 1 + cs.length := by
    simp only [List.length_append, List.length_cons]
    omega
  cases hwritten : keyChars k.toList ++ ':' :: cs with
  | nil => simp at hwritten
  | cons c rest =>
      rw [hwritten] at hstarts hkey hlength
      simp only [startsPlain, Bool.and_eq_true, Bool.not_eq_true'] at hstarts
      obtain ⟨⟨hgap, -⟩, hdash⟩ := hstarts
      have hdash' : (true && c == '-' && startsGap rest) = false := by
        cases hstart : startsGap rest <;> simp_all
      have hshorter : cs.length ≤ rest.length := by
        rw [List.length_cons] at hlength
        omega
      have hcolumn : column + ((c :: rest).length - cs.length) = column + (keyChars k.toList).length + 1 := by
        omega
      rw [scan]
      simp only [ne_of_not_isGap hgap, hdash', hspot, hkey, hshorter, hcolumn, if_true, Bool.false_eq_true,
        if_false]

/-- A value at the end of its line.  After a dash, it must not look like the start of a mark. -/
theorem scan_value {limit : Nat}
    (hspot : spot = .key limit ∨ spot = .dash limit ∧ startsPlain cs = false ∧ cs.head? ≠ some '-')
    {d : Document} {rest : List Char} (hvalue : value? limit cs = some (d, rest))
    (hgap : startsGap cs = false) (hlength : rest.length < cs.length) (hrest : rest.head? = some '\n') :
    scan spot column cs = (scan .line 0 rest).map (.value column d :: ·) := by
  cases cs with
  | nil => cases hgap
  | cons c cs =>
      have hlast : lastValue? spot (c :: cs) = some (d, rest) := by
        obtain rfl | ⟨rfl, -⟩ := hspot <;> simp [lastValue?, hvalue, hrest]
      have hmarks : (spot.isOpen && c == '-' && startsGap cs) = false ∧
          (if spot.isOpen then key? (c :: cs) else none) = none := by
        obtain rfl | ⟨rfl, hstarts, hhead⟩ := hspot
        · exact ⟨rfl, rfl⟩
        · have hc : c ≠ '-' := by simpa using hhead
          simp [hc, key?, hstarts]
      rw [scan]
      simp only [ne_of_not_isGap hgap, hmarks, hlast, Nat.le_of_lt_succ hlength, if_true, Bool.false_eq_true,
        if_false]

end Scanning

/-! ## the marks of a written document -/

theorem startsGap_valueChars (place : Place) (indent column : Nat) {d : Document} (h : isOutlined d = true)
    (rest : List Char) : startsGap (valueChars place indent column d ++ rest) = true := by
  unfold valueChars
  split
  · cases h
  · cases h
  · cases h
  · cases h
  · rfl
  · rfl
  · rfl
  · cases place <;> rfl
  · cases place <;> rfl

/-- A written text starts with a character. -/
theorem startsGap_textChars (indent column : Nat) (cs rest : List Char) :
    startsGap (textChars indent column cs ++ rest) = false := by
  unfold textChars
  cases h : quoting cs with
  | plain =>
      have hstarts := startsPlain_plainRuns h true indent column rest
      rw [plainChars]
      cases hwritten : plainRuns true indent column (runs cs) ++ rest with
      | nil =>
          rw [hwritten] at hstarts
          cases hstarts
      | cons c cs =>
          rw [hwritten] at hstarts
          simp only [startsPlain, Bool.and_eq_true, Bool.not_eq_true'] at hstarts
          exact hstarts.1.1
  | single => exact (by decide : isGap '\'' = false)
  | double => exact (by decide : isGap '"' = false)

/-- A text on the line of its key. -/
theorem scan_textChars {indent column : Nat} (hcolumn : indent + 1 ≤ column) (s : String) {rest : List Char}
    (hrest : Ends indent rest) :
    scan (.key (indent + 1)) column (valueChars .below indent column (.text s) ++ rest) =
      (scan .line 0 rest).map (valueMarks .below indent column (.text s) ++ ·) := by
  have hvalue := value?_textChars (indent + 1) (Nat.succ_le_succ hcolumn) s.toList hrest.plainPieces_eq
    (by rw [hrest.1]; decide)
  have hgap := startsGap_textChars (indent + 2) (column + 1) s.toList rest
  have hne : textChars (indent + 2) (column + 1) s.toList ≠ [] := by
    intro hnil
    have hstarts := startsGap_textChars (indent + 2) (column + 1) s.toList []
    rw [hnil] at hstarts
    cases hstarts
  have hlength : rest.length < (textChars (indent + 2) (column + 1) s.toList ++ rest).length := by
    have := List.length_pos_iff.mpr hne
    rw [List.length_append]
    omega
  rw [valueChars, List.cons_append, scan_blank, scan_value (.inl rfl) hvalue hgap hlength hrest.1]
  rfl

/-- An empty collection. -/
theorem scan_brackets {spot : Spot} {limit : Nat} (hspot : spot = .key limit ∨ spot = .dash limit)
    {column : Nat} {c c' : Char} (hc : isIndicator c = true ∧ isGap c = false ∧ c ≠ '-') {d : Document}
    {rest : List Char} (hvalue : value? limit (c :: c' :: rest) = some (d, rest))
    (hrest : rest.head? = some '\n') :
    scan spot column (' ' :: c :: c' :: rest) =
      (scan .line 0 rest).map (.value (column + 1) d :: ·) := by
  have hspot' : spot = .key limit ∨
      spot = .dash limit ∧ startsPlain (c :: c' :: rest) = false ∧ (c :: c' :: rest).head? ≠ some '-' := by
    refine hspot.imp_right fun h => ⟨h, ?_, ?_⟩
    · simp [startsPlain, hc.1]
    · simpa using hc.2.2
  rw [scan_blank, scan_value hspot' hvalue hc.2.1 (by simp only [List.length_cons]; omega) hrest]

theorem exists_itemsChars_eq (indent : Nat) (d : Document) (ds : List Document) :
    ∃ cs, itemsChars indent (d :: ds) = '-' :: cs := by
  rw [itemsChars]
  exact ⟨_, rfl⟩

theorem exists_entriesChars_eq (indent : Nat) {e : String × Document} {es : List (String × Document)}
    (h : holdOutlined (e :: es) = true) :
    ∃ c cs, entriesChars indent (e :: es) = c :: cs ∧ (c == ' ' || isBreak c) = false := by
  obtain ⟨k, d⟩ := e
  simp only [holdOutlined, isPlainKey, Bool.and_eq_true, beq_iff_eq] at h
  obtain ⟨⟨⟨hplain, hsimple⟩, -⟩, -⟩ := h
  rw [entriesChars, if_pos hsimple]
  have hstarts := startsPlain_plainRuns hplain false 0 0 []
  rw [List.append_nil] at hstarts
  simp only [keyChars, hplain, plainChars]
  cases hwritten : plainRuns false 0 0 (runs k.toList) with
  | nil =>
      rw [hwritten] at hstarts
      cases hstarts
  | cons c cs =>
      rw [hwritten] at hstarts
      simp only [startsPlain, Bool.and_eq_true, Bool.not_eq_true'] at hstarts
      exact ⟨c, _, rfl, not_special_of_not_isGap hstarts.1.1⟩

mutual

theorem scan_valueChars : ∀ (d : Document), isOutlined d = true → ∀ {indent column : Nat} {rest : List Char},
    indent + 1 ≤ column → Ends indent rest →
    scan (.key (indent + 1)) column (valueChars .below indent column d ++ rest) =
      (scan .line 0 rest).map (valueMarks .below indent column d ++ ·)
  | .text s, _, indent, column, rest, hcolumn, hrest => scan_textChars hcolumn s hrest
  | .list [], _, indent, column, rest, _, hrest => scan_brackets (.inl rfl) (by decide) rfl hrest.1
  | .map [], _, indent, column, rest, _, hrest => scan_brackets (.inl rfl) (by decide) rfl hrest.1
  | .list (d :: ds), h, indent, column, rest, _, hrest => by
      rw [valueChars, List.append_assoc, scan_newLine]
      exact scan_itemsChars (d :: ds) h (by simp) rfl hrest
  | .map (e :: es), h, indent, column, rest, _, hrest => by
      rw [isOutlined, Bool.and_eq_true] at h
      rw [valueChars, List.append_assoc, scan_newLine]
      exact scan_entriesChars (e :: es) h.1 (by simp) rfl (hrest.mono (Nat.le_add_right indent 2))

theorem scan_besideChars : ∀ (d : Document), isOutlined d = true → d.isCollection = true →
    ∀ {indent : Nat} {rest : List Char}, Ends indent rest →
    scan (.dash (indent + 1)) (indent + 1) (valueChars .beside indent (indent + 1) d ++ rest) =
      (scan .line 0 rest).map (valueMarks .beside indent (indent + 1) d ++ ·)
  | .list [], _, _, indent, rest, hrest => scan_brackets (.inr rfl) (by decide) rfl hrest.1
  | .map [], _, _, indent, rest, hrest => scan_brackets (.inr rfl) (by decide) rfl hrest.1
  | .list (d :: ds), h, _, indent, rest, hrest => by
      rw [valueChars, List.cons_append, scan_blank]
      exact scan_itemsChars (d :: ds) h (by simp) rfl (hrest.mono (Nat.le_add_right indent 2))
  | .map (e :: es), h, _, indent, rest, hrest => by
      rw [isOutlined, Bool.and_eq_true] at h
      rw [valueChars, List.cons_append, scan_blank]
      exact scan_entriesChars (e :: es) h.1 (by simp) rfl (hrest.mono (Nat.le_add_right indent 2))

theorem scan_itemsChars : ∀ (ds : List Document), areOutlined ds = true → ds ≠ [] →
    ∀ {spot : Spot} {indent : Nat} {rest : List Char}, spot.isOpen = true → Ends indent rest →
    scan spot indent (itemsChars indent ds ++ rest) =
      (scan .line 0 rest).map (itemsMarks indent ds ++ ·)
  | [], _, hne, _, _, _, _, _ => absurd rfl hne
  | [d], h, _, spot, indent, rest, hspot, hrest => by
      simp only [areOutlined, Bool.and_eq_true, Bool.and_true] at h
      have hstarts := startsGap_valueChars .beside indent (indent + 1) h.2 rest
      simp only [itemsChars, List.isEmpty_nil, if_true, List.append_nil, List.cons_append]
      rw [scan_dash hspot hstarts, scan_besideChars d h.2 h.1 hrest, Option.map_map, itemsMarks, itemsMarks,
        List.append_nil]
      rfl
  | d :: d' :: ds, h, _, spot, indent, rest, hspot, hrest => by
      rw [areOutlined, Bool.and_eq_true, Bool.and_eq_true] at h
      have hitems := @scan_itemsChars (d' :: ds) h.2 (by simp) .line indent rest rfl hrest
      obtain ⟨cs, hcs⟩ := exists_itemsChars_eq indent d' ds
      have hends : Ends indent (newLine indent ++ (itemsChars indent (d' :: ds) ++ rest)) := by
        rw [hcs]
        exact ends_newLine (Nat.le_refl indent) (by decide) _
      have hstarts := startsGap_valueChars .beside indent (indent + 1) h.1.2
        (newLine indent ++ (itemsChars indent (d' :: ds) ++ rest))
      rw [itemsChars]
      simp only [List.isEmpty_cons, Bool.false_eq_true, if_false, List.cons_append, List.append_assoc]
      rw [scan_dash hspot hstarts, scan_besideChars d h.1.2 h.1.1 hends, scan_newLine, hitems,
        Option.map_map, Option.map_map]
      simp [itemsMarks, Function.comp_def]

theorem scan_entriesChars : ∀ (es : List (String × Document)), holdOutlined es = true → es ≠ [] →
    ∀ {spot : Spot} {indent : Nat} {rest : List Char}, spot.isOpen = true → Ends indent rest →
    scan spot indent (entriesChars indent es ++ rest) =
      (scan .line 0 rest).map (entriesMarks indent es ++ ·)
  | [], _, hne, _, _, _, _, _ => absurd rfl hne
  | [(k, d)], h, _, spot, indent, rest, hspot, hrest => by
      simp only [holdOutlined, isPlainKey, Bool.and_eq_true, beq_iff_eq, and_true] at h
      obtain ⟨⟨hplain, hsimple⟩, hd⟩ := h
      have hstarts := startsGap_valueChars .below indent (indent + (keyChars k.toList).length + 1) hd rest
      rw [entriesChars, if_pos hsimple]
      simp only [entriesChars, List.isEmpty_nil, if_true, List.append_nil, List.append_assoc,
        List.cons_append]
      rw [scan_key hspot hplain hsimple hstarts, scan_valueChars d hd (by omega) hrest, Option.map_map,
        entriesMarks, entriesMarks, List.append_nil]
      rfl
  | (k, d) :: e :: es, h, _, spot, indent, rest, hspot, hrest => by
      rw [holdOutlined] at h
      simp only [isPlainKey, Bool.and_eq_true, beq_iff_eq] at h
      obtain ⟨⟨⟨hplain, hsimple⟩, hd⟩, hes⟩ := h
      have hentries := @scan_entriesChars (e :: es) hes (by simp) .line indent rest rfl hrest
      obtain ⟨c, cs, hcs, hc⟩ := exists_entriesChars_eq indent hes
      have hends : Ends indent (newLine indent ++ (entriesChars indent (e :: es) ++ rest)) := by
        rw [hcs]
        exact ends_newLine (Nat.le_refl indent) hc _
      have hstarts := startsGap_valueChars .below indent (indent + (keyChars k.toList).length + 1) hd
        (newLine indent ++ (entriesChars indent (e :: es) ++ rest))
      rw [entriesChars, if_pos hsimple]
      simp only [List.isEmpty_cons, Bool.false_eq_true, if_false, List.append_assoc, List.cons_append]
      rw [scan_key hspot hplain hsimple hstarts, scan_valueChars d hd (by omega) hends, scan_newLine, hentries,
        Option.map_map, Option.map_map]
      simp [entriesMarks, Function.comp_def]

end

/-! ## the document of the marks -/

/-- A member of a collection: its head, and the document of the marks inside. -/
def member? (g : Mark × List Mark) : Option (Mark × Document) :=
  if g.2.all g.1.encloses then (block g.2).map fun d => (g.1, d) else none

theorem block_cons {m : Mark} (hm : ∀ n d, m ≠ .value n d) (ms : List Mark) :
    block (m :: ms) = (((groups m.isPeer (m :: ms)).map member?).mapM id).bind collection? := by
  have hattach : (groups m.isPeer (m :: ms)).attach.map (fun g => member? g.1) = _ := List.attach_map_val
  rw [block]
  · exact congrArg (fun members => (members.mapM id).bind collection?) hattach
  · exact fun n d hvalue _ => hm n d hvalue

theorem groups_append {isHead : Mark → Bool} {m : Mark} (hm : isHead m = true) {inside : List Mark}
    (hinside : ∀ x ∈ inside, isHead x = false) {rest : List Mark}
    (hrest : ∀ x ∈ rest.head?, isHead x = true) :
    groups isHead (m :: (inside ++ rest)) = (m, inside) :: groups isHead rest := by
  have hskip : groups isHead (inside ++ rest) = groups isHead rest := by
    induction inside with
    | nil => rfl
    | cons x inside ih =>
        obtain ⟨hx, hinside⟩ := List.forall_mem_cons.mp hinside
        rw [List.cons_append, groups, hx]
        exact ih hinside
  have htake : (inside ++ rest).takeWhile (!isHead ·) = inside := by
    rw [List.takeWhile_append_of_pos fun x hx => by simp [hinside x hx]]
    cases rest with
    | nil => simp
    | cons x rest => simp [hrest x rfl]
  rw [groups, hm, htake, hskip]
  rfl

theorem lt_column_of_mem_leaf {indent column : Nat} (hcolumn : indent ≤ column) {d : Document} {m : Mark}
    (hm : m ∈ [Mark.value (column + 1) d]) : indent < m.column := by
  rw [List.mem_singleton.mp hm]
  exact Nat.lt_succ_of_le hcolumn

mutual

/-- What belongs to a dash or a key stands further in; what belongs to a key may be a dash at its
column. -/
theorem column_of_mem_valueMarks : ∀ (d : Document) {place : Place} {indent column : Nat}, indent ≤ column →
    ∀ m ∈ valueMarks place indent column d, place = .below ∧ m = .dash indent ∨ indent < m.column
  | .list (d :: ds), .below, indent, _, _, m, hm =>
      (column_of_mem_itemsMarks (d :: ds) m hm).imp_left fun h => ⟨rfl, h⟩
  | .list (d :: ds), .beside, indent, _, _, m, hm => by
      obtain rfl | h := column_of_mem_itemsMarks (d :: ds) m hm
      · exact .inr (Nat.lt_add_of_pos_right (by decide))
      · exact .inr (by simp only [itemIndent] at h; omega)
  | .map (e :: es), _, indent, _, _, m, hm => by
      have h := column_of_mem_entriesMarks (e :: es) m hm
      exact .inr (by omega)
  | .list [], _, _, _, hcolumn, _, hm => .inr (lt_column_of_mem_leaf hcolumn hm)
  | .map [], _, _, _, hcolumn, _, hm => .inr (lt_column_of_mem_leaf hcolumn hm)
  | .text _, _, _, _, hcolumn, _, hm => .inr (lt_column_of_mem_leaf hcolumn hm)
  | .null, _, _, _, hcolumn, _, hm => .inr (lt_column_of_mem_leaf hcolumn hm)
  | .bool _, _, _, _, hcolumn, _, hm => .inr (lt_column_of_mem_leaf hcolumn hm)
  | .int _, _, _, _, hcolumn, _, hm => .inr (lt_column_of_mem_leaf hcolumn hm)
  | .float _, _, _, _, hcolumn, _, hm => .inr (lt_column_of_mem_leaf hcolumn hm)

theorem column_of_mem_itemsMarks : ∀ (ds : List Document) {indent : Nat},
    ∀ m ∈ itemsMarks indent ds, m = .dash indent ∨ indent < m.column
  | d :: ds, indent, m, hm => by
      rw [itemsMarks] at hm
      obtain rfl | hm := List.mem_cons.mp hm
      · exact .inl rfl
      · obtain hm | hm := List.mem_append.mp hm
        · obtain ⟨h, -⟩ | h := column_of_mem_valueMarks d (Nat.le_succ indent) m hm
          · cases h
          · exact .inr h
        · exact column_of_mem_itemsMarks ds m hm

theorem column_of_mem_entriesMarks : ∀ (es : List (String × Document)) {indent : Nat},
    ∀ m ∈ entriesMarks indent es, indent ≤ m.column
  | (k, d) :: es, indent, m, hm => by
      rw [entriesMarks] at hm
      obtain rfl | hm := List.mem_cons.mp hm
      · exact Nat.le_refl indent
      · obtain hm | hm := List.mem_append.mp hm
        · obtain ⟨-, rfl⟩ | h := column_of_mem_valueMarks d (by omega) m hm
          · exact Nat.le_refl indent
          · exact Nat.le_of_lt h
        · exact column_of_mem_entriesMarks es m hm

end

theorem groups_itemsMarks (indent : Nat) (ds : List Document) :
    groups (Mark.isPeer (.dash indent)) (itemsMarks indent ds) =
      ds.map fun d => (.dash indent, valueMarks .beside indent (indent + 1) d) := by
  induction ds with
  | nil => rfl
  | cons d ds ih =>
      have hinside : ∀ m ∈ valueMarks .beside indent (indent + 1) d,
          (Mark.dash indent).isPeer m = false := by
        intro m hm
        obtain ⟨h, -⟩ | h := column_of_mem_valueMarks d (Nat.le_succ indent) m hm
        · cases h
        · cases m <;> simp_all [Mark.isPeer, Mark.column]
          omega
      have hrest : ∀ m ∈ (itemsMarks indent ds).head?, (Mark.dash indent).isPeer m = true := by
        intro m hm
        cases ds with
        | nil => cases hm
        | cons d ds =>
            cases hm
            simp [Mark.isPeer]
      rw [itemsMarks, groups_append (by simp [Mark.isPeer]) hinside hrest, ih]
      rfl

theorem groups_entriesMarks (indent : Nat) (k : String) (es : List (String × Document)) :
    groups (Mark.isPeer (.key indent k)) (entriesMarks indent es) = es.map fun e =>
      (.key indent e.1, valueMarks .below indent (indent + (keyChars e.1.toList).length + 1) e.2) := by
  induction es with
  | nil => rfl
  | cons e es ih =>
      have hinside : ∀ m ∈ valueMarks .below indent (indent + (keyChars e.1.toList).length + 1) e.2,
          (Mark.key indent k).isPeer m = false := by
        intro m hm
        obtain ⟨-, rfl⟩ | h := column_of_mem_valueMarks e.2 (by omega) m hm
        · rfl
        · cases m <;> simp_all [Mark.isPeer, Mark.column]
          omega
      have hrest : ∀ m ∈ (entriesMarks indent es).head?, (Mark.key indent k).isPeer m = true := by
        intro m hm
        cases es with
        | nil => cases hm
        | cons e es =>
            cases hm
            simp [Mark.isPeer]
      rw [entriesMarks, groups_append (by simp [Mark.isPeer]) hinside hrest, ih]
      rfl

theorem mapM_id_map_some {α : Type} (xs : List α) : (xs.map some).mapM id = some xs := by
  induction xs with
  | nil => rfl
  | cons x xs ih => simp [ih]

theorem map_fst_heardEntries (indent : Nat) (es : List (String × Document)) :
    (heardEntries indent es).map Prod.fst = es.map Prod.fst := by
  induction es with
  | nil => rfl
  | cons e es ih => simp [heardEntries, ih]

theorem encloses_of_column_lt {head m : Mark} (h : head.column < m.column) : head.encloses m = true := by
  simp [Mark.encloses, h]

theorem member?_dash {indent : Nat} {d d' : Document}
    (hd : block (valueMarks .beside indent (indent + 1) d) = some d') :
    member? (.dash indent, valueMarks .beside indent (indent + 1) d) = some (.dash indent, d') := by
  have hinside : (valueMarks .beside indent (indent + 1) d).all (Mark.dash indent).encloses = true := by
    refine List.all_eq_true.mpr fun m hm => ?_
    obtain ⟨h, -⟩ | h := column_of_mem_valueMarks d (Nat.le_succ indent) m hm
    · cases h
    · exact encloses_of_column_lt h
  rw [member?, if_pos hinside, hd]
  rfl

theorem member?_key {indent : Nat} {k : String} {column : Nat} (hcolumn : indent ≤ column) {d d' : Document}
    (hd : block (valueMarks .below indent column d) = some d') :
    member? (.key indent k, valueMarks .below indent column d) = some (.key indent k, d') := by
  have hinside : (valueMarks .below indent column d).all (Mark.key indent k).encloses = true := by
    refine List.all_eq_true.mpr fun m hm => ?_
    obtain ⟨-, rfl⟩ | h := column_of_mem_valueMarks d hcolumn m hm
    · simp [Mark.encloses, Mark.isDash, Mark.column]
    · exact encloses_of_column_lt h
  rw [member?, if_pos hinside, hd]
  rfl

theorem collection?_items (indent : Nat) (d : Document) (ds : List Document) :
    collection? ((d :: ds).map fun d => (.dash indent, d)) = some (.list (d :: ds)) := by
  simp [collection?, Function.comp_def]

theorem collection?_entries (indent : Nat) {e : String × Document} {es : List (String × Document)}
    (h : ((e :: es).map Prod.fst).Nodup) :
    collection? ((e :: es).map fun e => (.key indent e.1, e.2)) = some (.map (e :: es)) := by
  -- every member has a key, so none of them is dropped
  have hentries : collection? ((e :: es).map fun e => (.key indent e.1, e.2)) =
      if ((e :: es.filterMap some).map Prod.fst).Nodup then some (.map (e :: es.filterMap some))
      else none := by
    rw [List.map_cons, collection?, List.filterMap_map]
    rfl
  rw [hentries, List.filterMap_some, if_pos h]

/-- The marks of entries whose values are found stand for a mapping. -/
theorem block_entriesMarks (indent : Nat) {e : String × Document} {es : List (String × Document)}
    (hmembers : ((e :: es).map fun e => member?
      (.key indent e.1, valueMarks .below indent (indent + (keyChars e.1.toList).length + 1) e.2)) =
        ((heardEntries indent (e :: es)).map fun e => (Mark.key indent e.1, e.2)).map some)
    (hkeys : ((e :: es).map Prod.fst).Nodup) :
    block (entriesMarks indent (e :: es)) = some (.map (heardEntries indent (e :: es))) := by
  rw [← map_fst_heardEntries indent] at hkeys
  rw [entriesMarks, block_cons (by simp), ← entriesMarks, groups_entriesMarks, List.map_map,
    Function.comp_def, hmembers, mapM_id_map_some]
  exact collection?_entries indent hkeys

mutual

/-- **Documents**: the marks of a value stand for the value as it is heard. -/
theorem block_valueMarks : ∀ (d : Document), isOutlined d = true → ∀ (place : Place) (indent column : Nat),
    block (valueMarks place indent column d) = some (heard place indent d)
  | .text s, _, place, indent, column => by
      have hmarks : valueMarks place indent column (.text s) = [.value _ (heard place indent (.text s))] := rfl
      rw [hmarks, block]
  | .list [], _, place, indent, column => by
      have hmarks : valueMarks place indent column (.list []) = [.value _ (heard place indent (.list []))] := rfl
      rw [hmarks, block]
  | .map [], _, place, indent, column => by
      have hmarks : valueMarks place indent column (.map []) = [.value _ (heard place indent (.map []))] := rfl
      rw [hmarks, block]
  | .list (d :: ds), h, place, indent, column => by
      rw [valueMarks, itemsMarks, block_cons (by simp), ← itemsMarks, groups_itemsMarks, List.map_map,
        Function.comp_def, map_member?_items (d :: ds) h, mapM_id_map_some]
      exact collection?_items _ _ _
  | .map (e :: es), h, place, indent, column => by
      rw [isOutlined, Bool.and_eq_true, decide_eq_true_eq] at h
      exact block_entriesMarks (indent + 2) (map_member?_entries (e :: es) h.1 (indent + 2)) h.2

theorem map_member?_items : ∀ (ds : List Document), areOutlined ds = true → ∀ (indent : Nat),
    (ds.map fun d => member? (.dash indent, valueMarks .beside indent (indent + 1) d)) =
      ((heardItems indent ds).map fun d => (Mark.dash indent, d)).map some
  | [], _, _ => rfl
  | d :: ds, h, indent => by
      simp only [areOutlined, Bool.and_eq_true] at h
      simp only [List.map_cons, heardItems]
      rw [member?_dash (block_valueMarks d h.1.2 _ _ _), map_member?_items ds h.2]

theorem map_member?_entries : ∀ (es : List (String × Document)), holdOutlined es = true → ∀ (indent : Nat),
    (es.map fun e => member?
      (.key indent e.1, valueMarks .below indent (indent + (keyChars e.1.toList).length + 1) e.2)) =
      ((heardEntries indent es).map fun e => (Mark.key indent e.1, e.2)).map some
  | [], _, _ => rfl
  | (k, d) :: es, h, indent => by
      simp only [holdOutlined, Bool.and_eq_true] at h
      simp only [List.map_cons, heardEntries]
      rw [member?_key (by omega) (block_valueMarks d h.1.2 _ _ _), map_member?_entries es h.2]

end

/-! ## whole documents -/

theorem isReadable_of_mem_keyChars {cs : List Char} (h : quoting cs = .plain) :
    ∀ c ∈ keyChars cs, isReadable c = true := by
  rw [keyChars, h]
  exact isReadable_of_mem_plainRuns fun run hrun c hc => (of_quoting_eq_plain h).1 c (mem_of_mem_runs hrun hc)

mutual

theorem isReadable_of_mem_valueChars : ∀ (d : Document), isOutlined d = true →
    ∀ (place : Place) (indent column : Nat), ∀ c ∈ valueChars place indent column d, isReadable c = true
  | .text _, _, _, _, _ => List.forall_mem_cons.mpr ⟨by decide, isReadable_of_mem_textChars⟩
  | .list [], _, _, _, _ => by
      rw [valueChars]
      exact List.all_eq_true.mp (by decide)
  | .map [], _, _, _, _ => by
      rw [valueChars]
      exact List.all_eq_true.mp (by decide)
  | .list (d :: ds), h, .below, indent, _ => by
      rw [valueChars]
      exact List.forall_mem_append.mpr
        ⟨fun _ => isReadable_of_mem_newLine, isReadable_of_mem_itemsChars (d :: ds) h indent⟩
  | .list (d :: ds), h, .beside, indent, _ => by
      rw [valueChars]
      exact List.forall_mem_cons.mpr ⟨by decide, isReadable_of_mem_itemsChars (d :: ds) h (indent + 2)⟩
  | .map (e :: es), h, place, indent, _ => by
      rw [isOutlined, Bool.and_eq_true] at h
      have hentries := isReadable_of_mem_entriesChars (e :: es) h.1 (indent + 2)
      cases place with
      | below =>
          rw [valueChars]
          exact List.forall_mem_append.mpr ⟨fun _ => isReadable_of_mem_newLine, hentries⟩
      | beside =>
          rw [valueChars]
          exact List.forall_mem_cons.mpr ⟨by decide, hentries⟩

theorem isReadable_of_mem_itemsChars : ∀ (ds : List Document), areOutlined ds = true → ∀ (indent : Nat),
    ∀ c ∈ itemsChars indent ds, isReadable c = true
  | [], _, _ => by simp [itemsChars]
  | d :: ds, h, indent => by
      simp only [areOutlined, Bool.and_eq_true] at h
      rw [itemsChars]
      have hvalue := isReadable_of_mem_valueChars d h.1.2 .beside indent (indent + 1)
      refine List.forall_mem_append.mpr ⟨List.forall_mem_append.mpr
        ⟨List.forall_mem_cons.mpr ⟨by decide, hvalue⟩, ?_⟩, isReadable_of_mem_itemsChars ds h.2 indent⟩
      split
      · simp
      · exact fun _ => isReadable_of_mem_newLine

theorem isReadable_of_mem_entriesChars : ∀ (es : List (String × Document)), holdOutlined es = true →
    ∀ (indent : Nat), ∀ c ∈ entriesChars indent es, isReadable c = true
  | [], _, _ => by simp [entriesChars]
  | (k, d) :: es, h, indent => by
      simp only [holdOutlined, isPlainKey, Bool.and_eq_true, beq_iff_eq] at h
      obtain ⟨⟨⟨hplain, hsimple⟩, hd⟩, hes⟩ := h
      rw [entriesChars, if_pos hsimple]
      have hvalue := isReadable_of_mem_valueChars d hd .below indent (indent + (keyChars k.toList).length + 1)
      have hkey := List.forall_mem_append.mpr
        ⟨isReadable_of_mem_keyChars hplain, List.forall_mem_cons.mpr ⟨(by decide : isReadable ':' = true), hvalue⟩⟩
      refine List.forall_mem_append.mpr ⟨List.forall_mem_append.mpr ⟨hkey, ?_⟩,
        isReadable_of_mem_entriesChars es hes indent⟩
      split
      · simp
      · exact fun _ => isReadable_of_mem_newLine

end

/-- **Reading what is written** gives the mapping with its texts as they are heard. -/
theorem read_write_map {e : String × Document} {es : List (String × Document)}
    (h : isOutlined (.map (e :: es)) = true) :
    read (write (.map (e :: es))) = some (.map (heardEntries 0 (e :: es))) := by
  rw [isOutlined, Bool.and_eq_true, decide_eq_true_eq] at h
  obtain ⟨hentries, hkeys⟩ := h
  have hreadable : (chars (.map (e :: es))).all isReadable = true :=
    List.all_eq_true.mpr <| List.forall_mem_append.mpr
      ⟨isReadable_of_mem_entriesChars (e :: es) hentries 0, List.forall_mem_singleton.mpr (by decide)⟩
  have hscan : scan .line 0 (chars (.map (e :: es))) = some (entriesMarks 0 (e :: es)) := by
    rw [chars, scan_entriesChars (e :: es) hentries (by simp) rfl (ends_lineFeed 0), scan_lineFeed, scan]
    simp
  rw [read, write, String.toList_ofList, if_pos hreadable, hscan, Option.bind_some]
  exact block_entriesMarks 0 (map_member?_entries (e :: es) hentries 0) hkeys

end QueryTree.Yaml
