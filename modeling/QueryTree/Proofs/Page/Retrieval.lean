import QueryTree.Proofs.FirstLine
import QueryTree.Proofs.Page.Numbering
import QueryTree.Proofs.Page.Script
import QueryTree.Render

/-!
# QueryTree.Proofs.Page.Retrieval

What a page says about its nodes, read from its characters.

The script of a page holds the type and the text of every node as strings of JSON.  After
the tag with the number of a node stands character data, in which references stand for
characters, and a box with the full text is known by its tags.

* `unescape` — character data with its references resolved;
* `lineText?` — what a page shows of the text of a node;
* `boxTag`, `areaTag` — the tags of the box of a node;
* `toHtml_retrieves` — on the page of a tree all of them tell the truth about the node that
  a walk meets at that number.
-/

namespace QueryTree.Page

/-! ## character data -/

/-- The character that a reference stands for, by what stands between the ampersand and the semicolon. -/
def reference? : List Char → Option Char
  | ['a', 'm', 'p'] => some '&'
  | ['l', 't'] => some '<'
  | ['g', 't'] => some '>'
  | ['q', 'u', 'o', 't'] => some '"'
  | ['a', 'p', 'o', 's'] => some '\''
  | '#' :: digits =>
    if digits.all Char.isDigit then some (Char.ofNat (Nat.ofDigitChars 10 digits 0)) else none
  | _ => none

/-- Character data with its references resolved; an ampersand that starts none stands for itself. -/
def unescape : List Char → List Char
  | [] => []
  | c :: cs =>
    if c = '&' then
      match reference? (cs.takeWhile (· ≠ ';')) with
      | some d => d :: unescape (cs.dropWhile (· ≠ ';')).tail
      | none => c :: unescape cs
    else c :: unescape cs
termination_by cs => cs.length
decreasing_by
  · have hle := (List.dropWhile_sublist (l := cs) (· ≠ ';')).length_le
    simp only [List.length_tail, List.length_cons]
    omega
  · simp
  · simp

theorem unescape_reference (name rest : List Char) {d : Char} (h : reference? name = some d)
    (hname : ';' ∉ name) : unescape ('&' :: (name ++ ';' :: rest)) = d :: unescape rest := by
  have hne : ∀ c ∈ name, decide (c ≠ ';') = true := by
    intro c hc
    simpa using fun heq : c = ';' => hname (heq ▸ hc)
  have htake : (name ++ ';' :: rest).takeWhile (· ≠ ';') = name := by
    rw [List.takeWhile_append_of_pos hne]
    simp
  have hdrop : (name ++ ';' :: rest).dropWhile (· ≠ ';') = ';' :: rest := by
    rw [List.dropWhile_append_of_pos hne]
    simp
  rw [unescape, if_pos rfl, htake, h, hdrop]
  rfl

theorem unescape_dataChar (c : Char) (rest : List Char) :
    unescape (dataChar c ++ rest) = c :: unescape rest := by
  unfold dataChar
  split
  · exact unescape_reference ['a', 'm', 'p'] rest rfl (by decide)
  · exact unescape_reference ['l', 't'] rest rfl (by decide)
  · exact unescape_reference ['g', 't'] rest rfl (by decide)
  · exact unescape_reference ['#', '3', '9'] rest rfl (by decide)
  · exact unescape_reference ['#', '3', '4'] rest rfl (by decide)
  · next hne _ _ _ _ => rw [List.singleton_append, unescape, if_neg hne]

/-- Resolving the references of character data gives the text it was made from. -/
theorem unescape_data (s : String) : unescape (Part.data s).chars = s.toList := by
  rw [Part.chars]
  induction s.toList with
  | nil => rw [List.flatMap_nil, unescape]
  | cons c cs ih => rw [List.flatMap_cons, unescape_dataChar, ih]

/-! ## the tags of the nodes -/

/-- The tag in front of the first line of a node. -/
def textTag (i : Nat) : Tag := startTag "span" (numbered " id='text_" i "'")

/-- The tag that starts the box of a node. -/
def boxTag (i : Nat) : Tag := startTag "div" (numbered " id='dtl_" i "' class='detailText hide canHide'")

/-- The tag that starts the area with the full text of a node. -/
def areaTag (i rows : Nat) : Tag :=
  startTag "textarea" (numbered " class='detailText' id='txt_" i "'" ++ numbered " rows='" rows "' readonly")

/-- The tags of an event. -/
def eventTags : Event → List Tag
  | .opened v =>
    startTag "li" [] :: innerTags v.id v.hasDetail v.rows v.hasChildren (v.properties.map Property.shapes) ++
      (if v.hasChildren then [startTag "ol" (numbered " id='chd_" v.id "' class='hide canHide'")]
      else [endTag "li"])
  | .closed _ => [endTag "ol", endTag "li"]

theorem reads_eventParts (e : Event) : Reads .data (eventParts e) (eventTags e) .data := by
  cases e with
  | closed v => exact reads_closed v
  | opened v =>
      have hinner := reads_inner v v.hasDetail v.hasChildren v.rows rfl rfl rfl
      refine hinner.append ?_
      split
      · exact reads_childrenStart v.id
      · exact reads_itemEnd

theorem reads_events (es : List Event) :
    Reads .data (es.flatMap eventParts) (es.flatMap eventTags) .data := by
  induction es with
  | nil => exact .nil
  | cons e es ih => exact (reads_eventParts e).append ih

/-- The tags of a page, event by event. -/
theorem tags?_chars (t : Tree) :
    tags? (chars t) = some (headTags ++ bodyTags ++ (eventsOfTree t).flatMap eventTags ++ footTags) := by
  have hreads := ((reads_frontParts (openedViews (eventsOfTree t))).append
    (reads_events (eventsOfTree t))).append reads_foot
  have hrun : run .data (chars t) = _ := hreads.run_eq
  rw [tags?, hrun]

/-- The elements that lists are made of. -/
def listNames : List (List Char) := [['l', 'i'], ['u', 'l'], ['o', 'l']]

mutual

theorem name_of_mem_valueTags {g : Tag} : ∀ v : ValueShape, g ∈ valueTags v → g.name ∈ listNames
  | .absent, h | .text, h | .other, h => by simp [valueTags] at h
  | .list items, h => by
      simp only [valueTags, List.mem_cons, List.mem_append, List.not_mem_nil, or_false] at h
      obtain rfl | h | rfl := h
      · decide
      · exact name_of_mem_itemTags items h
      · decide

theorem name_of_mem_itemTags {g : Tag} : ∀ vs : List ValueShape, g ∈ itemTags vs → g.name ∈ listNames
  | [], h => by simp [itemTags] at h
  | v :: vs, h => by
      simp only [itemTags, List.mem_cons, List.mem_append, List.not_mem_nil, or_false] at h
      obtain (rfl | h | rfl) | h := h
      · decide
      · exact name_of_mem_valueTags v h
      · decide
      · exact name_of_mem_itemTags vs h

end

theorem name_of_mem_listTags {g : Tag} {vs : Option (List ValueShape)} (h : g ∈ listTags vs) :
    g.name ∈ listNames := by
  cases vs with
  | none => cases h
  | some vs => exact name_of_mem_valueTags (.list vs) h

/-- Apart from lists, the tags of an event are those of the marks, the heading and the box of the node
that it opens. -/
theorem mem_eventTags_iff {g : Tag} (hg : g.name ∉ listNames) (e : Event) :
    g ∈ eventTags e ↔ ∃ v, e = .opened v ∧
      g ∈ foldTags v.id v.hasChildren ++ headingTags v.id ++ detailTags v.id v.hasDetail v.rows := by
  have hne {h : Tag} (hh : h.name ∈ listNames) : g ≠ h := fun heq => hg (heq ▸ hh)
  have hli : g ≠ startTag "li" [] := hne (by decide)
  have hli' : g ≠ endTag "li" := hne (by decide)
  have hol' : g ≠ endTag "ol" := hne (by decide)
  cases e with
  | closed v => simp [eventTags, hol', hli']
  | opened v =>
      have hlist : g ∉ listTags (v.properties.map Property.shapes) := fun h => hg (name_of_mem_listTags h)
      have hol : g ≠ startTag "ol" (numbered " id='chd_" v.id "' class='hide canHide'") :=
        hne (show "ol".toList ∈ listNames by decide)
      cases hchildren : v.hasChildren <;>
        simp [eventTags, innerTags, hchildren, hli, hli', hol, hlist]

theorem numbered_inj {before after : String} {i k : Nat} :
    numbered before i after = numbered before k after ↔ i = k := by
  simp [numbered, digitChars_injective.eq_iff]

/-- Two numbers, of which the first ends at a quote. -/
theorem numbered_append_inj {before middle after : String} {i k m n : Nat} :
    numbered before i "'" ++ numbered middle m after = numbered before k "'" ++ numbered middle n after ↔
      i = k ∧ m = n := by
  constructor
  · intro h
    have hquote (n : Nat) : '\'' ∉ Decimal.digitChars n := not_mem_digitChars rfl n
    simp only [numbered, List.append_assoc, List.append_cancel_left_eq] at h
    obtain ⟨hdigits, hrest⟩ := append_cons_inj (hquote i) (hquote k) h
    have hrows : numbered middle m after = numbered middle n after := by simpa [numbered] using hrest
    exact ⟨digitChars_injective hdigits, numbered_inj.mp hrows⟩
  · rintro ⟨rfl, rfl⟩
    rfl

theorem textTag_notMem_eventTags {i : Nat} {e : Event} (h : e.view.id ≠ i) : textTag i ∉ eventTags e := by
  have hchildren (k : Nat) :
      numbered " id='text_" i "'" ≠ numbered " class='toggle' onClick='toggleChildren(" k ");'" := by
    simp [numbered]
  have hdetail (k : Nat) :
      numbered " id='text_" i "'" ≠ numbered " class='toggle' onClick='toggleDetail(" k ");'" := by
    simp [numbered]
  rw [mem_eventTags_iff (show "span".toList ∉ listNames by decide)]
  rintro ⟨v, rfl, hv⟩
  have hid : i = v.id := by
    simpa [foldTags, headingTags, detailTags, textTag, startTag, endTag, numbered_inj, hchildren, hdetail]
      using hv
  exact h hid.symm

theorem boxTag_mem_eventTags_iff {i : Nat} {e : Event} :
    boxTag i ∈ eventTags e ↔ ∃ v, e = .opened v ∧ v.hasDetail = true ∧ i = v.id := by
  rw [mem_eventTags_iff (show "div".toList ∉ listNames by decide)]
  simp [foldTags, headingTags, detailTags, boxTag, startTag, endTag, numbered_inj]

theorem areaTag_mem_eventTags_iff {i rows : Nat} {e : Event} :
    areaTag i rows ∈ eventTags e ↔ ∃ v, e = .opened v ∧ v.hasDetail = true ∧ i = v.id ∧ rows = v.rows := by
  rw [mem_eventTags_iff (show "textarea".toList ∉ listNames by decide)]
  simp [foldTags, headingTags, detailTags, areaTag, startTag, endTag, numbered_append_inj]

/-- The elements of the nodes do not occur in the rest of the page. -/
theorem mem_pageTags_iff {g : Tag} (hg : g.name ∈ ["span", "div", "textarea"].map String.toList)
    (ts : List Tag) : g ∈ headTags ++ bodyTags ++ ts ++ footTags ↔ g ∈ ts := by
  have hother : ∀ h ∈ headTags ++ bodyTags ++ footTags,
      h.name ∉ ["span", "div", "textarea"].map String.toList := by decide
  have hnot : g ∉ headTags ++ bodyTags ++ footTags := fun h => hother g h hg
  simp only [List.mem_append, not_or] at hnot ⊢
  simp [hnot]

/-! ## the nodes of a page -/

section

variable {t s : Tree} {i d : Nat} (h : (t.preorder 0)[i]? = some (d, s))

include h

theorem openedViews_of_preorder : (openedViews (eventsOfTree t))[i]? = some (View.ofTree i s) := by
  rw [openedViews_eventsOfTree, List.getElem?_mapIdx, h]
  rfl

/-- Of the events that open a node, the one of a number is known. -/
theorem exists_opened_iff {P : View → Prop} (hP : ∀ v, P v → i = v.id) :
    (∃ e ∈ eventsOfTree t, ∃ v, e = .opened v ∧ P v) ↔ P (View.ofTree i s) := by
  constructor
  · rintro ⟨e, he, v, rfl, hv⟩
    have hview : (openedViews (eventsOfTree t))[v.id]? = some v := views_eventsOfTree he
    rw [← hP v hv, openedViews_of_preorder h] at hview
    rwa [Option.some.inj hview]
  · intro hv
    obtain ⟨before, after, heq, -, -⟩ := eventsOfTree_split h
    exact ⟨_, by simp [heq, treeEvents_eq], _, rfl, hv⟩

/-- The script gives each element of an array one value, if it is given by the view of the node. -/
theorem assignments_of_preorder {name : String} (hname : IsArray name) {f : View → String}
    (hf : ∀ v rest, assignedIn name i ((searchParts v).flatMap Part.chars ++ rest) =
      (if i = v.id then [(Part.literal (f v)).chars] else []) ++ assignedIn name i rest) :
    assignments name i (chars t) = [(Part.literal (f (View.ofTree i s))).chars] := by
  obtain ⟨hi, hview⟩ := List.getElem?_eq_some_iff.mp (openedViews_of_preorder h)
  have hids : ∀ k (hk : k < (openedViews (eventsOfTree t)).length),
      (openedViews (eventsOfTree t))[k].id = k := by
    simp [openedViews_eventsOfTree, View.ofTree]
  rw [assignments_chars hname hf t rfl, flatMap_of_numbered hids hi, hview]

theorem assignments_types : assignments "types" i (chars t) =
    [(Part.literal (String.ofList (Text.lower s.typeName.toList))).chars] := by
  refine assignments_of_preorder h (.inl rfl) (f := fun v => String.ofList (Text.lower v.typeName.toList))
    fun v rest => ?_
  simp [assignedIn_searchParts (.inl rfl)]

theorem assignments_texts : assignments "texts" i (chars t) = [(Part.literal s.text).chars] := by
  refine assignments_of_preorder h (.inr rfl) (f := View.text) fun v rest => ?_
  simp [assignedIn_searchParts (.inr rfl)]

end

theorem read_literal (limit : Nat) (s : String) :
    Json.read limit (Part.literal s).chars = some (.text s) := by
  rw [Json.read, Json.emits_tokens (emits_literal s)]
  rfl

/-- What a page shows of the text of a node. -/
def lineText? (i : Nat) (page : List Char) : Option (List Char) :=
  (afterTag (textTag i) .data page).map fun rest => unescape (rest.takeWhile (· ≠ '<'))

/-- The tag in front of the first line ends where the line starts. -/
theorem afterTag_textTag (i : Nat) (rest : List Char) :
    afterTag (textTag i) .data ("<span id='text_".toList ++ (Decimal.digitChars i ++ '\'' :: '>' :: rest)) =
      some rest := by
  have hstart : run .data "<span id='text_".toList =
      ([], .inside false "span".toList (some '\'') " id='text_".toList) := by
    repeat rw [String.toList_ofList]
    decide
  have hdigits : run (.inside false "span".toList (some '\'') " id='text_".toList) (Decimal.digitChars i) =
      ([], .inside false "span".toList (some '\'') (" id='text_".toList ++ Decimal.digitChars i)) :=
    run_quoted (not_mem_digitChars rfl i)
  rw [afterTag_append hstart List.not_mem_nil, afterTag_append hdigits List.not_mem_nil]
  simp [afterTag, Mode.step, textTag, startTag, numbered]

/-- The pieces of a node in front of its first line. -/
def leadParts (v : View) : List Part :=
  line "<li>" :: foldParts v ++
    [.markup "<b id='type_", .number v.id, .markup "'>", .data v.typeName, line "</b>:"]

theorem reads_leadParts (v : View) : Reads .data (leadParts v)
    (startTag "li" [] :: foldTags v.id v.hasChildren ++
      [startTag "b" (numbered " id='type_" v.id "'"), endTag "b"]) .data :=
  (reads_itemStart.append (reads_foldParts v)).append (reads_typeLabel v)

theorem textTag_notMem_leadTags (i : Nat) (hasChildren : Bool) :
    textTag i ∉ startTag "li" [] :: foldTags i hasChildren ++
      [startTag "b" (numbered " id='type_" i "'"), endTag "b"] := by
  cases hasChildren <;> simp [foldTags, textTag, startTag, endTag, numbered]

/-- The pieces of a node after its first line. -/
def restParts (v : View) : List Part :=
  detailParts v ++ listParts v.properties ++
    (if v.hasChildren then [.markup "<ol id='chd_", .number v.id, line "' class='hide canHide'>"]
    else [line "</li>"])

theorem eventParts_opened (v : View) : eventParts (.opened v) =
    leadParts v ++ ([.markup "<span id='text_", .number v.id, .markup "'>", .data v.line, line "</span>"] ++
      restParts v) := by
  simp only [eventParts, leadParts, restParts, List.append_assoc, List.cons_append, List.nil_append]

/-- The page up to the first line of a node, the line, and all that comes after it. -/
theorem chars_of_opened {t : Tree} {v : View} {before after : List Event}
    (h : eventsOfTree t = before ++ .opened v :: after) :
    ∃ rest, chars t = (frontParts (openedViews (eventsOfTree t))).flatMap Part.chars ++
      ((before.flatMap eventParts).flatMap Part.chars ++ ((leadParts v).flatMap Part.chars ++
        ("<span id='text_".toList ++ (Decimal.digitChars v.id ++
          '\'' :: '>' :: ((Part.data v.line).chars ++ '<' :: rest))))) := by
  refine ⟨"/span>\n".toList ++ (restParts v ++ after.flatMap eventParts ++
    [Part.markup "</ol>\n</body>\n</html>"]).flatMap Part.chars, ?_⟩
  rw [chars, parts_eq]
  generalize frontParts (openedViews (eventsOfTree t)) = front
  simp [h, eventParts_opened, Part.chars, line]

/-- The first line of a node stands after its tag. -/
theorem lineText?_chars {t s : Tree} {i d : Nat} (h : (t.preorder 0)[i]? = some (d, s)) :
    lineText? i (chars t) = some ((Text.firstLine s.text.toList).getD []) := by
  obtain ⟨before, after, heq, hbefore, -⟩ := eventsOfTree_split h
  have hfront : textTag i ∉ headTags ++ bodyTags := by
    intro hmem
    have hnil := (mem_pageTags_iff (show "span".toList ∈ _ by decide) []).mp
      (List.mem_append_left footTags (List.mem_append_left [] hmem))
    cases hnil
  have hevents : textTag i ∉ before.flatMap eventTags := by
    intro hmem
    obtain ⟨e, he, hmem⟩ := List.mem_flatMap.mp hmem
    exact textTag_notMem_eventTags (Nat.ne_of_lt (hbefore e he)) hmem
  have hlead := textTag_notMem_leadTags i (View.ofTree i s).hasChildren
  have hopened : eventsOfTree t = before ++ .opened (View.ofTree i s) ::
      (treesEvents (i + 1) s.childList ++ closing i s ++ after) := by
    simp [heq, treeEvents_eq]
  obtain ⟨rest, hchars⟩ := chars_of_opened hopened
  have hid : (View.ofTree i s).id = i := rfl
  have hdata : ((Part.data (View.ofTree i s).line).chars ++ '<' :: rest).takeWhile (· ≠ '<') =
      (Part.data (View.ofTree i s).line).chars := by
    rw [List.takeWhile_append_of_pos fun c hc => by simpa using (not_markup_of_mem_data hc).1]
    simp
  rw [lineText?, hchars, afterTag_append (reads_frontParts _).run_eq hfront,
    afterTag_append (reads_events before).run_eq hevents, afterTag_append (reads_leadParts _).run_eq hlead,
    hid, afterTag_textTag, Option.map_some, hdata, unescape_data]
  simp [View.ofTree]

/-! ## retrieval -/

/-- What a page says about the node with the number `i`, which is the root of `s`. -/
structure Tells (page : List Char) (i : Nat) (s : Tree) : Prop where
  /-- The script gives its type once, as a string of JSON that is the type in small letters. -/
  type : ∃ literal, assignments "types" i page = [literal] ∧
    Json.read Limits.readDepth literal = some (.text (String.ofList (Text.lower s.typeName.toList)))
  /-- The script gives its text once, as a string of JSON that is the whole text. -/
  text : ∃ literal, assignments "texts" i page = [literal] ∧
    Json.read Limits.readDepth literal = some (.text s.text)
  /-- After its tag stands the first line of its text that is not empty, if there is any. -/
  line : lineText? i page = some ((Text.firstLine s.text.toList).getD [])
  /-- It has a box exactly if that is not the whole text, with a row for each line, but at least one
  and at most five. -/
  box : ∃ tags, tags? page = some tags ∧
    (boxTag i ∈ tags ↔ lineText? i page ≠ some s.text.toList) ∧
    ∀ rows, areaTag i rows ∈ tags ↔ lineText? i page ≠ some s.text.toList ∧
      rows = min (max (Text.lines s.text.toList).length 1) 5

theorem hasDetail_iff (i : Nat) (s : Tree) :
    (View.ofTree i s).hasDetail = true ↔ (Text.firstLine s.text.toList).getD [] ≠ s.text.toList := by
  have hlength := Text.length_firstLine_lt_iff s.text.toList
  rw [String.length_toList] at hlength
  simpa [View.ofTree] using hlength

theorem tells_write {t s : Tree} {i d : Nat} (h : (t.preorder 0)[i]? = some (d, s)) :
    Tells (write t).toList i s := by
  have hline := lineText?_chars h
  have hdiffers : lineText? i (chars t) ≠ some s.text.toList ↔ (View.ofTree i s).hasDetail = true := by
    rw [hline, hasDetail_iff, ne_eq, Option.some.injEq]
  have hbox := exists_opened_iff h (P := fun v => v.hasDetail = true ∧ i = v.id) fun _ hv => hv.2
  have harea (rows : Nat) := exists_opened_iff h
    (P := fun v => v.hasDetail = true ∧ i = v.id ∧ rows = v.rows) fun _ hv => hv.2.1
  rw [write, String.toList_ofList]
  exact {
    type := ⟨_, assignments_types h, read_literal _ _⟩
    text := ⟨_, assignments_texts h, read_literal _ _⟩
    line := hline
    box := by
      refine ⟨_, tags?_chars t, ?_, fun rows => ?_⟩
      · rw [mem_pageTags_iff (show "div".toList ∈ _ by decide), hdiffers]
        simp only [List.mem_flatMap, boxTag_mem_eventTags_iff]
        exact hbox.trans (and_iff_left rfl)
      · rw [mem_pageTags_iff (show "textarea".toList ∈ _ by decide), hdiffers]
        simp only [List.mem_flatMap, areaTag_mem_eventTags_iff]
        exact (harea rows).trans (and_congr_right fun _ => and_iff_right rfl) }

/-- **Nothing is lost on a page**: there is a page unless property lists nest too deep, and it tells of
every node its type and its whole text, its first line and whether that is all.  The numbers are those of
a walk. -/
theorem toHtml_retrieves :
    (∀ (t : Tree) (page : String), t.toHtml = .ok page → ∀ i d s, (t.preorder 0)[i]? = some (d, s) →
      Tells page.toList i s) ∧
    (∀ t : Tree, t.propertyLevels ≤ Limits.pageLevels → ∃ page, t.toHtml = .ok page) ∧
    ∀ (table : NodeTable) (root : NodeId) (t : Tree), table.tree? root = some t →
      ∃ ids, table.walk root = some ids ∧ ids.map table.tree? = (t.preorder 0).map fun n => some n.2 := by
  refine ⟨fun t page hpage i d s h => ?_, fun t h => ?_, fun table root t h => ?_⟩
  · rw [Tree.toHtml] at hpage
    split at hpage
    · cases hpage
    · rw [← Except.ok.inj hpage]
      exact tells_write h
  · exact ⟨write t, if_neg (Nat.not_lt.mpr h)⟩
  · obtain ⟨ids, hwalk, hids, -⟩ := table.walk_of_tree? h
    exact ⟨ids, hwalk, hids⟩

/-- A tree whose strings look like statements, tags and references, and whose texts are quoted, controlled
and from other planes. -/
def misleadingTree : Tree :=
  .node "</b><span id='text_1'>" "\"\\\x07\u2028"
    (some [.node "ǅ" "\r\n</span>&lt;'\x0b    texts[1] = \"😀\";\n" none
      (some [.mk (some "<div id='dtl_0'>") (.text "\n    types[1] = \"\";")])]) none

theorem toHtml_retrieves_misleading :
    misleadingTree.propertyLevels ≤ Limits.pageLevels ∧
    ∃ page child, misleadingTree.toHtml = .ok page ∧ (misleadingTree.preorder 0)[1]? = some (1, child) ∧
      (∃ literal, assignments "texts" 1 page.toList = [literal] ∧
        Json.read Limits.readDepth literal =
          some (.text "\r\n</span>&lt;'\x0b    texts[1] = \"😀\";\n")) ∧
      lineText? 1 page.toList = some "</span>&lt;'".toList ∧
      (∃ tags, tags? page.toList = some tags ∧ boxTag 1 ∈ tags ∧ areaTag 1 3 ∈ tags) := by
  have hlevels : misleadingTree.propertyLevels ≤ Limits.pageLevels := by decide
  obtain ⟨page, hpage⟩ := toHtml_retrieves.2.1 misleadingTree hlevels
  have htells := toHtml_retrieves.1 misleadingTree page hpage 1 1 _ rfl
  obtain ⟨tags, htags, hbox, harea⟩ := htells.box
  have hline : lineText? 1 page.toList = some "</span>&lt;'".toList := htells.line
  have hdiffers : lineText? 1 page.toList ≠ some "\r\n</span>&lt;'\x0b    texts[1] = \"😀\";\n".toList := by
    rw [hline]
    decide
  exact ⟨hlevels, page, _, hpage, rfl, htells.text, hline, tags, htags, hbox.mpr hdiffers,
    (harea 3).mpr ⟨hdiffers, rfl⟩⟩

end QueryTree.Page
