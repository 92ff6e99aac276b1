import QueryTree.Page.Template
import QueryTree.Proofs.Page.Escaping
import QueryTree.Proofs.Page.Events
import QueryTree.Proofs.Page.Shape

/-!
# QueryTree.Proofs.Page.Pieces

The pieces of a page, read one by one.

Texts and numbers of the page itself are read as they are, character data only between
tags and literals only in scripts, where neither can move the reader (`Reads`).

* `Reads.run_eq` — reading the pieces is reading the page;
* `Reads.mode_data`, `Reads.mode_literal` — where the foreign text of a page stands;
* `reads_parts` — the pieces of the page of a tree are read like that, and their tags are
  the `pageTags` of its shape.
-/

namespace QueryTree.Page

/-! ## reading piece by piece -/

/-- From `m` the pieces complete the tags and lead to `m'`, with foreign text only where it belongs. -/
inductive Reads : Mode → List Part → List Tag → Mode → Prop where
  /-- No piece. -/
  | nil {m : Mode} : Reads m [] [] m
  /-- A text of the page itself. -/
  | markup {m m' m'' : Mode} {s : String} {ps : List Part} {ts us : List Tag}
      (h : run m s.toList = (ts, m')) (hs : Reads m' ps us m'') : Reads m (.markup s :: ps) (ts ++ us) m''
  /-- A number. -/
  | number {m m' m'' : Mode} {n : Nat} {ps : List Part} {ts us : List Tag}
      (h : run m (Decimal.digitChars n) = (ts, m')) (hs : Reads m' ps us m'') :
      Reads m (.number n :: ps) (ts ++ us) m''
  /-- Character data, between tags. -/
  | data {m : Mode} {s : String} {ps : List Part} {us : List Tag} (hs : Reads .data ps us m) :
      Reads .data (.data s :: ps) us m
  /-- A literal, in a script. -/
  | literal {m : Mode} {s : String} {ps : List Part} {us : List Tag}
      (hs : Reads (.raw script none) ps us m) : Reads (.raw script none) (.literal s :: ps) us m

theorem run_chars_data (s : String) : run .data (Part.data s).chars = ([], .data) :=
  run_data fun h => (not_markup_of_mem_data h).1 rfl

theorem run_chars_literal (s : String) (name : List Char) :
    run (.raw name none) (Part.literal s).chars = ([], .raw name none) :=
  run_raw fun h => Bool.false_ne_true (not_active_of_mem_literal h).symm

/-- Foreign text where it belongs moves nothing: reading the pieces is reading the page. -/
theorem Reads.run_eq {m m' : Mode} {ps : List Part} {ts : List Tag} (h : Reads m ps ts m') :
    run m (ps.flatMap Part.chars) = (ts, m') := by
  induction h with
  | nil => rfl
  | markup h _ ih => exact run_trans h ih
  | number h _ ih => exact run_trans h ih
  | data _ ih => exact run_trans (run_chars_data _) ih
  | literal _ ih => exact run_trans (run_chars_literal _ script) ih

theorem Reads.append {m m' m'' : Mode} {ps qs : List Part} {ts us : List Tag} (h : Reads m ps ts m')
    (h' : Reads m' qs us m'') : Reads m (ps ++ qs) (ts ++ us) m'' := by
  induction h with
  | nil => exact h'
  | markup h _ ih =>
      rw [List.append_assoc]
      exact .markup h (ih h')
  | number h _ ih =>
      rw [List.append_assoc]
      exact .number h (ih h')
  | data _ ih => exact .data (ih h')
  | literal _ ih => exact .literal (ih h')

/-- Reading can be broken off between any two pieces. -/
theorem Reads.split {m m' : Mode} {ps qs : List Part} {ts : List Tag} (h : Reads m (ps ++ qs) ts m') :
    ∃ us vs m'', Reads m ps us m'' ∧ Reads m'' qs vs m' := by
  induction ps generalizing m ts with
  | nil => exact ⟨[], ts, m, .nil, h⟩
  | cons p ps ih =>
      cases h with
      | markup h hs =>
          obtain ⟨us, vs, m'', hps, hqs⟩ := ih hs
          exact ⟨_, vs, m'', .markup h hps, hqs⟩
      | number h hs =>
          obtain ⟨us, vs, m'', hps, hqs⟩ := ih hs
          exact ⟨_, vs, m'', .number h hps, hqs⟩
      | data hs =>
          obtain ⟨us, vs, m'', hps, hqs⟩ := ih hs
          exact ⟨us, vs, m'', .data hps, hqs⟩
      | literal hs =>
          obtain ⟨us, vs, m'', hps, hqs⟩ := ih hs
          exact ⟨us, vs, m'', .literal hps, hqs⟩

/-- Character data stands between tags. -/
theorem Reads.mode_data {m m' : Mode} {ps qs : List Part} {s : String} {ts : List Tag}
    (h : Reads m (ps ++ .data s :: qs) ts m') : (run m (ps.flatMap Part.chars)).2 = .data := by
  obtain ⟨us, vs, m'', hps, hqs⟩ := h.split
  cases hqs
  rw [hps.run_eq]

/-- A literal stands in a script. -/
theorem Reads.mode_literal {m m' : Mode} {ps qs : List Part} {s : String} {ts : List Tag}
    (h : Reads m (ps ++ .literal s :: qs) ts m') :
    (run m (ps.flatMap Part.chars)).2 = .raw script none := by
  obtain ⟨us, vs, m'', hps, hqs⟩ := h.split
  cases hqs
  rw [hps.run_eq]

/-! ## numbers and texts of the page itself -/

theorem Reads.text {m m' : Mode} {s : String} {ts : List Tag} (h : run m s.toList = (ts, m')) :
    Reads m [.markup s] ts m' := by
  have hone := Reads.markup h .nil
  rwa [List.append_nil] at hone

theorem not_mem_digitChars {c : Char} (hc : c.isDigit = false) (n : Nat) : c ∉ Decimal.digitChars n := by
  intro h
  have hdigit := Nat.isDigit_of_mem_toDigits (by decide) (by decide) h
  rw [hc] at hdigit
  cases hdigit

theorem reads_quotedNumber (name seen : List Char) (n : Nat) :
    Reads (.inside false name (some '\'') seen) [.number n] []
      (.inside false name (some '\'') (seen ++ Decimal.digitChars n)) :=
  .number (run_quoted (not_mem_digitChars rfl n)) .nil

theorem reads_rawNumber (n : Nat) : Reads (.raw script none) [.number n] [] (.raw script none) :=
  .number (run_raw (not_mem_digitChars rfl n)) .nil

/-- A tag with a number in one of its attributes. -/
theorem reads_numbered {a b name before after : String} {ts : List Tag} {m : Mode} (n : Nat)
    (ha : run .data a.toList = ([], .inside false name.toList (some '\'') before.toList))
    (hb : ∀ seen, run (.inside false name.toList (some '\'') seen) b.toList =
      (startTag name (seen ++ after.toList) :: ts, m)) :
    Reads .data [.markup a, .number n, .markup b] (startTag name (numbered before n after) :: ts) m :=
  (Reads.text ha).append ((reads_quotedNumber _ _ n).append (.text (hb _)))

/-! ## the pieces of a node -/

/-- A line of the page itself; its characters are given, so that reading them is a computation. -/
theorem reads_line {s : String} {cs : List Char} {ts : List Tag} {m m' : Mode}
    (hs : String.ofList cs = s) (h : run m (cs ++ ['\n']) = (ts, m')) : Reads m [line s] ts m' := by
  refine .text ?_
  rw [String.toList_append, ← hs, String.toList_ofList]
  exact h

theorem reads_foldParts (v : View) :
    Reads .data (foldParts v) (foldTags v.id v.hasChildren) .data := by
  unfold foldParts foldTags
  split
  · refine reads_numbered v.id ?_ fun seen => ?_
    · repeat rw [String.toList_ofList]
      decide
    · rw [String.toList_append]
      repeat rw [String.toList_ofList]
      simp [run, Mode.step, startTag, endTag, Tag.next, rawNames, script, isBlank]
  · exact .nil

theorem reads_typeLabel (v : View) :
    Reads .data [.markup "<b id='type_", .number v.id, .markup "'>", .data v.typeName, line "</b>:"]
      [startTag "b" (numbered " id='type_" v.id "'"), endTag "b"] .data := by
  have hstart : Reads .data [.markup "<b id='type_", .number v.id, .markup "'>"]
      [startTag "b" (numbered " id='type_" v.id "'")] .data := by
    refine reads_numbered v.id ?_ fun seen => ?_
    · repeat rw [String.toList_ofList]
      decide
    · repeat rw [String.toList_ofList]
      simp [run, Mode.step, startTag, Tag.next, rawNames, script]
  have hend : Reads .data [line "</b>:"] [endTag "b"] .data := reads_line rfl (by decide)
  exact hstart.append (.data hend)

theorem reads_heading (v : View) :
    Reads .data [.markup "<b id='type_", .number v.id, .markup "'>", .data v.typeName, line "</b>:",
      .markup "<span id='text_", .number v.id, .markup "'>", .data v.line, line "</span>"]
      (headingTags v.id) .data := by
  have htext : Reads .data [.markup "<span id='text_", .number v.id, .markup "'>"]
      [startTag "span" (numbered " id='text_" v.id "'")] .data := by
    refine reads_numbered v.id ?_ fun seen => ?_
    · repeat rw [String.toList_ofList]
      decide
    · repeat rw [String.toList_ofList]
      simp [run, Mode.step, startTag, Tag.next, rawNames, script]
  have htextEnd : Reads .data [line "</span>"] [endTag "span"] .data := reads_line rfl (by decide)
  exact (reads_typeLabel v).append (htext.append (.data htextEnd))

/-- The box of a node has two numbers, its own and that of its rows. -/
theorem reads_textarea (id rows : Nat) :
    Reads .data [.markup "<textarea class='detailText' id='txt_", .number id, .markup "' rows='",
      .number rows, line "' readonly></textarea>"]
      [startTag "textarea"
        (numbered " class='detailText' id='txt_" id "'" ++ numbered " rows='" rows "' readonly"),
        endTag "textarea"] .data := by
  have hstart : Reads .data [.markup "<textarea class='detailText' id='txt_"] []
      (.inside false "textarea".toList (some '\'') " class='detailText' id='txt_".toList) := by
    refine .text ?_
    repeat rw [String.toList_ofList]
    decide
  have hrows (seen : List Char) : Reads (.inside false "textarea".toList (some '\'') seen)
      [.markup "' rows='"] [] (.inside false "textarea".toList (some '\'') (seen ++ "' rows='".toList)) := by
    refine .text ?_
    repeat rw [String.toList_ofList]
    simp [run, Mode.step]
  have hend (seen : List Char) : Reads (.inside false "textarea".toList (some '\'') seen)
      [line "' readonly></textarea>"] [startTag "textarea" (seen ++ "' readonly".toList), endTag "textarea"]
      .data := by
    refine reads_line rfl ?_
    rw [String.toList_ofList]
    simp [run, Mode.step, startTag, endTag, Tag.next, rawNames, script, isBlank]
  have hall := hstart.append ((reads_quotedNumber _ _ id).append
    ((hrows _).append ((reads_quotedNumber _ _ rows).append (hend _))))
  have hattributes : numbered " class='detailText' id='txt_" id "'" ++ numbered " rows='" rows "' readonly" =
      " class='detailText' id='txt_".toList ++ Decimal.digitChars id ++ "' rows='".toList ++
        Decimal.digitChars rows ++ "' readonly".toList := by
    simp [numbered]
  rw [hattributes]
  exact hall

/-- The script of a box names the node by its number. -/
theorem reads_detailScript (id : Nat) :
    Reads .data [line "<script type='text/javascript'>", .markup "document.getElementById('txt_", .number id,
      .markup "').value = texts[", .number id, line "];", line "</script>"]
      [startTag "script" " type='text/javascript'".toList, endTag "script"] .data := by
  have hstart : Reads .data [line "<script type='text/javascript'>"]
      [startTag "script" " type='text/javascript'".toList] (.raw script none) :=
    reads_line rfl (by decide)
  have hraw {s : String} (h : '<' ∉ s.toList) :
      Reads (.raw script none) [.markup s] [] (.raw script none) := .text (run_raw h)
  have hend : Reads (.raw script none) [line "</script>"] [endTag "script"] .data := reads_line rfl (by decide)
  exact hstart.append <| (hraw (by simp)).append <| (reads_rawNumber id).append <|
    (hraw (by simp)).append <| (reads_rawNumber id).append <| (hraw (by simp)).append hend

theorem reads_detailParts (v : View) :
    Reads .data (detailParts v) (detailTags v.id v.hasDetail v.rows) .data := by
  have hmark : Reads .data [.markup " <span class='toggle' onClick='toggleDetail(", .number v.id,
      line ");'>...</span>"]
      [startTag "span" (numbered " class='toggle' onClick='toggleDetail(" v.id ");'"), endTag "span"]
      .data := by
    refine reads_numbered v.id ?_ fun seen => ?_
    · repeat rw [String.toList_ofList]
      decide
    · rw [String.toList_append]
      repeat rw [String.toList_ofList]
      simp [run, Mode.step, startTag, endTag, Tag.next, rawNames, script, isBlank]
  have hbox : Reads .data [.markup "<div id='dtl_", .number v.id, line "' class='detailText hide canHide'>"]
      [startTag "div" (numbered " id='dtl_" v.id "' class='detailText hide canHide'")] .data := by
    refine reads_numbered v.id ?_ fun seen => ?_
    · repeat rw [String.toList_ofList]
      decide
    · rw [String.toList_append]
      repeat rw [String.toList_ofList]
      simp [run, Mode.step, startTag, Tag.next, rawNames, script]
  have hend : Reads .data [line "</div>"] [endTag "div"] .data := reads_line rfl (by decide)
  unfold detailParts detailTags
  split
  · exact hmark.append (hbox.append ((reads_textarea v.id v.rows).append
      ((reads_detailScript v.id).append hend)))
  · exact .nil

/-! ## properties -/

theorem reads_emptyLine : Reads .data [line ""] [] .data := reads_line rfl rfl

theorem reads_itemStart : Reads .data [line "<li>"] [startTag "li" []] .data := reads_line rfl (by decide)

theorem reads_itemEnd : Reads .data [line "</li>"] [endTag "li"] .data := reads_line rfl (by decide)

theorem reads_listStart : Reads .data [line "<ul>"] [startTag "ul" []] .data := reads_line rfl (by decide)

theorem reads_listEnd : Reads .data [line "</ul>", line ""] [endTag "ul"] .data := by
  have hend : Reads .data [line "</ul>"] [endTag "ul"] .data := reads_line rfl (by decide)
  exact hend.append reads_emptyLine

mutual

theorem reads_propertyParts :
    ∀ p : Property, Reads .data (propertyParts p) (startTag "li" [] :: (valueTags p.shape ++ [endTag "li"])) .data
  | .mk none value => by
      rw [propertyParts, Property.shape]
      exact (reads_itemStart.append (reads_valueParts value)).append reads_itemEnd
  | .mk (some n) value => by
      have hname : Reads .data [.data n, line ":"] [] .data := .data (reads_line rfl rfl)
      rw [propertyParts, Property.shape]
      exact ((reads_itemStart.append hname).append (reads_valueParts value)).append reads_itemEnd

theorem reads_valueParts :
    ∀ v : PropertyValue, Reads .data (valueParts v) (valueTags (Property.valueShape v)) .data
  | .absent => .nil
  | .text _ => .data reads_emptyLine
  | .list items => by
      rw [valueParts, Property.valueShape, valueTags]
      exact (reads_listStart.append (reads_propertiesParts items)).append reads_listEnd
  | .other _ => .data reads_emptyLine

theorem reads_propertiesParts :
    ∀ ps : List Property, Reads .data (propertiesParts ps) (itemTags (Property.shapes ps)) .data
  | [] => .nil
  | p :: ps => by
      rw [propertiesParts, Property.shapes, itemTags]
      exact (reads_propertyParts p).append (reads_propertiesParts ps)

end

theorem reads_listParts (ps : Option (List Property)) :
    Reads .data (listParts ps) (listTags (ps.map Property.shapes)) .data := by
  cases ps with
  | none => exact reads_emptyLine
  | some ps => exact (reads_listStart.append (reads_propertiesParts ps)).append reads_listEnd

/-! ## nodes -/

/-- The pieces of a node up to its children. -/
theorem reads_inner (v : View) (detail hasChildren : Bool) (rows : Nat) (hd : v.hasDetail = detail)
    (hr : v.rows = rows) (hc : v.hasChildren = hasChildren) :
    Reads .data (line "<li>" :: foldParts v ++
      [.markup "<b id='type_", .number v.id, .markup "'>", .data v.typeName, line "</b>:",
        .markup "<span id='text_", .number v.id, .markup "'>", .data v.line, line "</span>"] ++
      detailParts v ++ listParts v.properties)
      (startTag "li" [] :: innerTags v.id detail rows hasChildren (v.properties.map Property.shapes)) .data := by
  subst hd hr hc
  exact (((reads_itemStart.append (reads_foldParts v)).append (reads_heading v)).append
    (reads_detailParts v)).append (reads_listParts v.properties)

theorem reads_leaf (ty tx : String) (ps : Option (List Property)) (id : Nat) :
    Reads .data (eventParts (.opened (View.ofTree id (.node ty tx none ps))))
      (nodeTags id (Tree.shape (.node ty tx none ps))) .data :=
  (reads_inner (View.ofTree id (.node ty tx none ps)) (detailOf tx) false (rowsOf tx) rfl rfl rfl).append
    reads_itemEnd

/-- The start of the list of the children of a node. -/
theorem reads_childrenStart (id : Nat) :
    Reads .data [.markup "<ol id='chd_", .number id, line "' class='hide canHide'>"]
      [startTag "ol" (numbered " id='chd_" id "' class='hide canHide'")] .data := by
  refine reads_numbered id ?_ fun seen => ?_
  · repeat rw [String.toList_ofList]
    decide
  · rw [String.toList_append]
    repeat rw [String.toList_ofList]
    simp [run, Mode.step, startTag, Tag.next, rawNames, script]

theorem reads_parent (ty tx : String) (cs : List Tree) (ps : Option (List Property)) (id : Nat) :
    Reads .data (eventParts (.opened (View.ofTree id (.node ty tx (some cs) ps))))
      (startTag "li" [] :: (innerTags id (detailOf tx) (rowsOf tx) true (ps.map Property.shapes) ++
        [startTag "ol" (numbered " id='chd_" id "' class='hide canHide'")])) .data :=
  (reads_inner (View.ofTree id (.node ty tx (some cs) ps)) (detailOf tx) true (rowsOf tx)
    rfl rfl rfl).append (reads_childrenStart id)

theorem reads_closed (v : View) : Reads .data (eventParts (.closed v)) [endTag "ol", endTag "li"] .data := by
  have hlist : Reads .data [line "</ol>"] [endTag "ol"] .data := reads_line rfl (by decide)
  exact hlist.append reads_itemEnd

mutual

/-- The pieces of a tree have the tags of its shape. -/
theorem reads_treeEvents :
    ∀ (t : Tree) (id : Nat), Reads .data ((treeEvents id t).flatMap eventParts) (nodeTags id t.shape) .data
  | .node ty tx none ps, id => by
      rw [treeEvents, List.flatMap_singleton]
      exact reads_leaf ty tx ps id
  | .node ty tx (some cs) ps, id => by
      -- the item and the list that the first event leaves open are ended by the last
      have hall := (reads_parent ty tx cs ps id).append
        ((reads_treesEvents cs (id + 1)).append (reads_closed (View.ofTree id (.node ty tx (some cs) ps))))
      rw [treeEvents, List.flatMap_cons, List.flatMap_append, List.flatMap_singleton, Tree.shape, nodeTags]
      simpa only [List.cons_append, List.append_assoc, List.nil_append] using hall

theorem reads_treesEvents :
    ∀ (ts : List Tree) (id : Nat),
      Reads .data ((treesEvents id ts).flatMap eventParts) (nodesTags id (Tree.shapes ts)) .data
  | [], _ => .nil
  | t :: ts, id => by
      rw [treesEvents, List.flatMap_append, Tree.shapes, nodesTags, Tree.count_shape]
      exact (reads_treeEvents t id).append (reads_treesEvents ts (id + t.count))

end

/-! ## the page -/

theorem reads_head : Reads .data [.markup (joinLines headLines)] headTags (.raw script none) := by
  refine .text ?_
  simp only [joinLines, headLines, String.toList_append, headTags, startTag, endTag]
  repeat rw [String.toList_ofList]
  decide +kernel

theorem reads_count : Reads (.raw script none) [.markup (joinLines countLines)] [] (.raw script none) := by
  refine .text (run_raw ?_)
  simp [joinLines, countLines]

theorem reads_script : Reads (.raw script none) [.markup (joinLines scriptLines)] bodyTags .data := by
  refine .text ?_
  simp only [joinLines, scriptLines, String.toList_append, bodyTags, startTag, endTag]
  repeat rw [String.toList_ofList]
  decide +kernel

theorem reads_foot : Reads .data [.markup "</ol>\n</body>\n</html>"] footTags .data := by
  refine .text ?_
  simp only [footTags, endTag]
  repeat rw [String.toList_ofList]
  decide

theorem reads_searchParts (vs : List View) :
    Reads (.raw script none) (vs.flatMap searchParts) [] (.raw script none) := by
  have hraw {s : String} (h : '<' ∉ s.toList) :
      Reads (.raw script none) [.markup s] [] (.raw script none) := .text (run_raw h)
  have hone (v : View) : Reads (.raw script none) (searchParts v) [] (.raw script none) :=
    (hraw (by simp)).append <| (reads_rawNumber v.id).append <| (hraw (by simp)).append <|
      .literal <| (hraw (by simp)).append <| (hraw (by simp)).append <| (reads_rawNumber v.id).append <|
      (hraw (by simp)).append <| .literal <| hraw (by simp)
  induction vs with
  | nil => exact .nil
  | cons v vs ih => exact (hone v).append ih

/-- The pieces of a page up to its nodes. -/
def frontParts (vs : List View) : List Part :=
  [.markup (joinLines headLines), .number vs.length, .markup (joinLines countLines)] ++
    vs.flatMap searchParts ++ [.markup (joinLines scriptLines)]

theorem reads_frontParts (vs : List View) : Reads .data (frontParts vs) (headTags ++ bodyTags) .data := by
  have hall := reads_head.append ((reads_rawNumber vs.length).append
    (reads_count.append ((reads_searchParts vs).append reads_script)))
  simpa only [frontParts, List.cons_append, List.append_assoc, List.nil_append] using hall

theorem parts_eq (t : Tree) : parts t = frontParts (openedViews (eventsOfTree t)) ++
    (eventsOfTree t).flatMap eventParts ++ [.markup "</ol>\n</body>\n</html>"] := rfl

/-- **Reading a page**: the pieces of the page of a tree have the tags of its shape. -/
theorem reads_parts (t : Tree) : Reads .data (parts t) (pageTags t.shape) .data := by
  have hnodes := reads_treeEvents t 0
  rw [← eventsOfTree_eq_treeEvents] at hnodes
  exact ((reads_frontParts (openedViews (eventsOfTree t))).append hnodes).append reads_foot

end QueryTree.Page
