import QueryTree.Render

/-!
# QueryTree.Proofs.Outline

The lines of an outline.

An outline has one item for each node and for each property at every level.  `treeItems`
lists them by recursion, each node followed by its own properties and then by its
children, and `Item.line` is what an item shows:

* `entries_eq` — the stack of nodes that wait yields the items in that order;
* `splitOn_chars` — cut at its line feeds, an outline is its items, each cut at its own;
* `readPlaces_lines` — where an item stands can be read off the blanks and the mark that
  its line starts with.

A text is shown by its first line, so no item but a property breaks its line: the text of
a property stands in the outline as it is.
-/

namespace QueryTree

/-! ## texts are shown on one line -/

namespace Text

/-- Lines hold no line breaks. -/
theorem not_isLineBreak_of_mem_lines (cs : List Char) :
    ∀ l ∈ lines cs, ∀ c ∈ l, isLineBreak c = false := by
  fun_induction lines cs with
  | case1 => simp
  | case2 rest ih => simpa using ih
  | case3 c rest hnot hc ih => simpa using ih
  | case4 c rest hnot hc hnil ih => simpa using hc
  | case5 c rest hnot hc l ls hcons ih =>
      rw [hcons] at ih
      simp only [List.mem_cons, forall_eq_or_imp] at ih ⊢
      exact ⟨⟨by simpa using hc, ih.1⟩, ih.2⟩

theorem mem_of_mem_trim {cs : List Char} {c : Char} (h : c ∈ trim cs) : c ∈ cs := by
  rw [trim, trimRight, List.mem_reverse] at h
  have htrimmed := List.mem_reverse.mp ((List.dropWhile_sublist isBlank).mem h)
  exact (List.dropWhile_sublist isBlank).mem htrimmed

end Text

namespace Outline

theorem mem_of_mem_cut {limit : Int} {cs : List Char} {c : Char} (h : c ∈ cut limit cs) : c ∈ cs := by
  unfold cut at h
  split at h <;> exact List.mem_of_mem_take h

theorem lineFeed_notMem_heading (text : String) : '\n' ∉ heading text := by
  intro h
  unfold heading at h
  split at h
  · cases h
  · next l hl =>
      have hbreak := Text.not_isLineBreak_of_mem_lines _ l (List.mem_of_find?_eq_some hl) '\n'
        (Text.mem_of_mem_trim h)
      exact absurd hbreak (by decide)

/-- The code span of a text is on one line. -/
theorem lineFeed_notMem_span (limit : Int) (text : String) : '\n' ∉ span limit text := by
  have hheading := lineFeed_notMem_heading text
  unfold span
  dsimp only
  split
  · exact List.not_mem_nil
  · split
    · have hcut : '\n' ∉ Text.trim (cut limit (heading text)) :=
        fun h => hheading (mem_of_mem_cut (Text.mem_of_mem_trim h))
      simp [hcut]
    · have htrim : '\n' ∉ Text.trim (heading text) := fun h => hheading (Text.mem_of_mem_trim h)
      simp [htrim]

/-! ## items -/

/-- An item of an outline. -/
inductive Item where
  /-- A node at a depth, with its type and its text. -/
  | node (depth : Nat) (typeName text : String)
  /-- A property of a node at a depth, inside so many lists of properties. -/
  | property (depth nesting : Nat) (name : Option String) (value : PropertyValue)

mutual

/-- The items of a property: its own, then those of the list that it may hold. -/
def propertyItems (depth nesting : Nat) : Property → List Item
  | .mk name value => .property depth nesting name value :: valueItems depth (nesting + 1) value

/-- The items of the list that a value may be. -/
def valueItems (depth nesting : Nat) : PropertyValue → List Item
  | .list items => listItems depth nesting items
  | _ => []

/-- The items of several properties. -/
def listItems (depth nesting : Nat) : List Property → List Item
  | [] => []
  | p :: ps => propertyItems depth nesting p ++ listItems depth nesting ps

end

mutual

/-- The items of a tree whose root is at a depth: the root, its properties, and its children. -/
def treeItems (depth : Nat) : Tree → List Item
  | .node ty tx none ps => .node depth ty tx :: listItems depth 0 (ps.getD [])
  | .node ty tx (some cs) ps =>
    .node depth ty tx :: listItems depth 0 (ps.getD []) ++ treesItems (depth + 1) cs

/-- The items of several trees. -/
def treesItems (depth : Nat) : List Tree → List Item
  | [] => []
  | t :: ts => treeItems depth t ++ treesItems depth ts

end

namespace Item

/-- How far an item stands in. -/
def pad : Item → Nat
  | .node depth _ _ => nodeIndent * depth
  | .property depth nesting _ _ => nodeIndent * (depth + 1) + propertyIndent * nesting

/-- The name that an item shows: the type of a node, or the name of a property. -/
def label : Item → List Char
  | .node _ ty _ => ty.toList
  | .property _ _ name _ => (name.getD "").toList

/-- The text that a property shows as it is. -/
def quotation : Item → List Char
  | .property _ _ _ (.text s) => s.toList
  | _ => []

/-- What is shown of a value besides the items of its list. -/
def valueChars : PropertyValue → List Char
  | .absent => []
  | .text s => '_' :: s.toList ++ ['_']
  | .list _ => []
  | .other x => x.kind.toList

/-- The line of an item. -/
def line (limit : Int) : Item → List Char
  | i@(.node _ ty tx) => blanks i.pad ++ "1. **".toList ++ ty.toList ++ "**: ".toList ++ span limit tx
  | i@(.property _ _ name value) => bullet i.pad name ++ valueChars value

/-- The type and the text of a node, with its depth. -/
def node? : Item → Option (Nat × String × String)
  | .node depth ty tx => some (depth, ty, tx)
  | .property _ _ _ _ => none

end Item

/-! ## the items are the entries -/

mutual

theorem propertyEntries_eq (limit : Int) (depth nesting : Nat) : ∀ p : Property,
    propertyEntries (nodeIndent * (depth + 1) + propertyIndent * nesting) p =
      (propertyItems depth nesting p).map (Item.line limit)
  | .mk name value => valueEntries_eq limit depth nesting name value

theorem valueEntries_eq (limit : Int) (depth nesting : Nat) (name : Option String) :
    ∀ value : PropertyValue,
      valueEntries (nodeIndent * (depth + 1) + propertyIndent * nesting)
          (bullet (nodeIndent * (depth + 1) + propertyIndent * nesting) name) value =
        (propertyItems depth nesting (.mk name value)).map (Item.line limit)
  | .absent => by simp [valueEntries, propertyItems, valueItems, Item.line, Item.valueChars, Item.pad]
  | .text s => by simp [valueEntries, propertyItems, valueItems, Item.line, Item.valueChars, Item.pad]
  | .other x => by simp [valueEntries, propertyItems, valueItems, Item.line, Item.valueChars, Item.pad]
  | .list items => by
      have hitems := listEntries_eq limit depth (nesting + 1) items
      rw [Nat.mul_succ propertyIndent nesting, ← Nat.add_assoc] at hitems
      simp [valueEntries, propertyItems, valueItems, Item.line, Item.valueChars, Item.pad, hitems]

theorem listEntries_eq (limit : Int) (depth nesting : Nat) : ∀ ps : List Property,
    listEntries (nodeIndent * (depth + 1) + propertyIndent * nesting) ps =
      (listItems depth nesting ps).map (Item.line limit)
  | [] => rfl
  | p :: ps => by
      rw [listEntries, propertyEntries_eq limit depth nesting p, listEntries_eq limit depth nesting ps,
        listItems, List.map_append]

end

/-- The entries of a node itself are its own item and those of its properties. -/
theorem ownEntries_eq (limit : Int) (depth : Nat) (ty tx : String) (cs : Option (List Tree))
    (ps : Option (List Property)) : ownEntries limit (nodeIndent * depth) (.node ty tx cs ps) =
      (Item.node depth ty tx :: listItems depth 0 (ps.getD [])).map (Item.line limit) := by
  have hlist := listEntries_eq limit depth 0 (ps.getD [])
  rw [Nat.mul_zero, Nat.add_zero, Nat.mul_succ] at hlist
  rw [ownEntries, Tree.properties, hlist]
  rfl

/-- The items of the nodes that wait on a stack. -/
def stackItems (stack : List (Nat × Tree)) : List Item :=
  stack.flatMap fun w => treeItems w.1 w.2

theorem treesItems_eq (depth : Nat) (ts : List Tree) :
    treesItems depth ts = stackItems (ts.map fun t => (depth, t)) := by
  induction ts with
  | nil => rfl
  | cons t ts ih => rw [treesItems, ih, stackItems, stackItems, List.map_cons, List.flatMap_cons]

/-- The items of a tree are those of its root and those of its children. -/
theorem treeItems_eq (depth : Nat) (ty tx : String) (cs : Option (List Tree))
    (ps : Option (List Property)) : treeItems depth (.node ty tx cs ps) =
      (.node depth ty tx :: listItems depth 0 (ps.getD [])) ++
        stackItems ((cs.getD []).map fun c => (depth + 1, c)) := by
  cases cs with
  | none => simp [treeItems, stackItems]
  | some cs => rw [treeItems, treesItems_eq, Option.getD_some]

/-- **The order of the items**: the nodes that wait are shown one after the other, each with all that is
below it.  The induction is on the steps of the stack. -/
theorem entries_eq (limit : Int) (stack : List (Nat × Tree)) :
    entries limit (stack.map fun w => (nodeIndent * w.1, w.2)) =
      (stackItems stack).map (Item.line limit) := by
  match stack with
  | [] => simp [entries, stackItems]
  | (depth, .node ty tx cs ps) :: rest =>
      have hbelow : below (nodeIndent * depth) (.node ty tx cs ps) =
          ((cs.getD []).map fun c => (depth + 1, c)).map fun w => (nodeIndent * w.1, w.2) := by
        simp [below, Tree.children, Nat.mul_succ]
      have hless := waiting_below (nodeIndent * depth) (.node ty tx cs ps)
      have hrest := entries_eq limit (((cs.getD []).map fun c => (depth + 1, c)) ++ rest)
      rw [List.map_append, ← hbelow] at hrest
      rw [List.map_cons, entries, ownEntries_eq, hrest, stackItems, stackItems, List.flatMap_cons,
        treeItems_eq, ← List.map_append, List.flatMap_append, List.append_assoc]
      rfl
termination_by waiting (stack.map fun w => (nodeIndent * w.1, w.2))
decreasing_by
  simp only [List.map_append, ← hbelow, List.map_cons, waiting_append, waiting]
  omega

/-- An outline is the lines of its items, each ended by a line feed. -/
theorem chars_eq (limit : Int) (t : Tree) :
    chars limit t = (treeItems 0 t).flatMap fun i => i.line limit ++ ['\n'] := by
  have hentries := entries_eq limit [(0, t)]
  rw [List.map_singleton, Nat.mul_zero] at hentries
  rw [chars, hentries, List.flatMap_map, stackItems, List.flatMap_singleton]

/-! ## the nodes among the items -/

mutual

theorem filterMap_node?_propertyItems (depth nesting : Nat) : ∀ p : Property,
    (propertyItems depth nesting p).filterMap Item.node? = []
  | .mk _ (.list items) => filterMap_node?_listItems depth (nesting + 1) items
  | .mk _ .absent => rfl
  | .mk _ (.text _) => rfl
  | .mk _ (.other _) => rfl

theorem filterMap_node?_listItems (depth nesting : Nat) : ∀ ps : List Property,
    (listItems depth nesting ps).filterMap Item.node? = []
  | [] => rfl
  | p :: ps => by
      rw [listItems, List.filterMap_append, filterMap_node?_propertyItems depth nesting p,
        filterMap_node?_listItems depth nesting ps, List.append_nil]

end

mutual

/-- The nodes among the items are the nodes of the tree, parents before children. -/
theorem filterMap_node?_treeItems (depth : Nat) : ∀ t : Tree,
    (treeItems depth t).filterMap Item.node? =
      (t.preorder depth).map fun n => (n.1, n.2.typeName, n.2.text)
  | .node ty tx none ps => by
      rw [treeItems, List.filterMap_cons, Item.node?, filterMap_node?_listItems, Tree.preorder]
      rfl
  | .node ty tx (some cs) ps => by
      rw [treeItems, List.filterMap_append, List.filterMap_cons, Item.node?, filterMap_node?_listItems,
        filterMap_node?_treesItems (depth + 1) cs, Tree.preorder]
      rfl

theorem filterMap_node?_treesItems (depth : Nat) : ∀ ts : List Tree,
    (treesItems depth ts).filterMap Item.node? =
      (Tree.preorderOfList depth ts).map fun n => (n.1, n.2.typeName, n.2.text)
  | [] => rfl
  | t :: ts => by
      rw [treesItems, List.filterMap_append, filterMap_node?_treeItems depth t,
        filterMap_node?_treesItems depth ts, Tree.preorderOfList, List.map_append]

end

/-! ## lines -/

/-- Cut at its line feeds, an outline is its items, each cut at its own. -/
theorem splitOn_chars (limit : Int) (t : Tree) :
    (chars limit t).splitOn '\n' =
      ((treeItems 0 t).flatMap fun i => (i.line limit).splitOn '\n') ++ [[]] := by
  rw [chars_eq]
  induction treeItems 0 t with
  | nil => rfl
  | cons i is ih =>
      rw [List.flatMap_cons, List.append_assoc, List.singleton_append, List.splitOn_append_cons_self,
        ih, List.flatMap_cons, List.append_assoc]

theorem lineFeed_notMem_kind (x : Foreign) : '\n' ∉ x.kind.toList := by
  cases x <;> simp [Foreign.kind]

/-- The line of an item breaks exactly where the text of a property does, if names do not. -/
theorem lineFeed_mem_line_iff (limit : Int) (i : Item) (h : '\n' ∉ i.label) :
    '\n' ∈ i.line limit ↔ '\n' ∈ i.quotation := by
  cases i with
  | node depth ty tx =>
      have hspan := lineFeed_notMem_span limit tx
      rw [Item.label] at h
      simp [Item.line, Item.quotation, blanks, h, hspan]
  | property depth nesting name value =>
      have hbullet : '\n' ∉ bullet (Item.property depth nesting name value).pad name := by
        cases name with
        | none => simp [bullet, blanks]
        | some n =>
            simp only [Item.label, Option.getD_some] at h
            simp [bullet, blanks, h]
      rw [Item.line, List.mem_append, or_iff_right hbullet]
      cases value with
      | absent => rfl
      | list items => rfl
      | text s => simp [Item.valueChars, Item.quotation]
      | other d => simp [Item.valueChars, Item.quotation, lineFeed_notMem_kind]

/-- Cutting a text at a character gives one part more than the character occurs. -/
theorem length_splitOn (c : Char) (cs : List Char) : (cs.splitOn c).length = cs.count c + 1 := by
  induction cs with
  | nil => rfl
  | cons d cs ih =>
      have hcons : (d :: cs).splitOn c =
          if d == c then [] :: cs.splitOn c else (cs.splitOn c).modifyHead (d :: ·) :=
        List.splitOnP_cons_eq_if_modifyHead d cs
      rw [hcons, List.count_cons]
      split <;> simp [ih]

/-- There are as many lines as items, and an empty one at the end, exactly if no item breaks its
line. -/
theorem length_splitOn_chars_iff (limit : Int) (t : Tree)
    (hlabels : ∀ i ∈ treeItems 0 t, '\n' ∉ i.label) :
    ((chars limit t).splitOn '\n').length = (treeItems 0 t).length + 1 ↔
      ∀ i ∈ treeItems 0 t, '\n' ∉ i.quotation := by
  rw [splitOn_chars, List.length_append, List.length_singleton, Nat.add_right_cancel_iff]
  generalize treeItems 0 t = items at hlabels ⊢
  -- every item has a line, so the sum is that of ones only if each of them has one
  have hle : ∀ is : List Item, is.length ≤ (is.flatMap fun i => (i.line limit).splitOn '\n').length := by
    intro is
    induction is with
    | nil => exact Nat.le_refl 0
    | cons i is ih =>
        rw [List.flatMap_cons, List.length_append, length_splitOn, List.length_cons]
        omega
  induction items with
  | nil => simp
  | cons i is ih =>
      obtain ⟨hi, his⟩ := List.forall_mem_cons.mp hlabels
      have hrest := hle is
      have hih := ih his
      have hline : (i.line limit).count '\n' = 0 ↔ '\n' ∉ i.quotation :=
        List.count_eq_zero.trans (not_congr (lineFeed_mem_line_iff limit i hi))
      rw [List.forall_mem_cons, List.flatMap_cons, List.length_append, length_splitOn, List.length_cons]
      constructor
      · intro h
        exact ⟨hline.mp (by omega), hih.mp (by omega)⟩
      · rintro ⟨hfirst, hothers⟩
        have hzero := hline.mpr hfirst
        have hsame := hih.mpr hothers
        omega

/-- If no item breaks its line, the lines are those of the items. -/
theorem splitOn_chars_of_unbroken (limit : Int) (t : Tree)
    (hlabels : ∀ i ∈ treeItems 0 t, '\n' ∉ i.label)
    (hquotations : ∀ i ∈ treeItems 0 t, '\n' ∉ i.quotation) :
    (chars limit t).splitOn '\n' = (treeItems 0 t).map (Item.line limit) ++ [[]] := by
  have hlines : ∀ i ∈ treeItems 0 t, (i.line limit).splitOn '\n' = [i.line limit] := fun i hi =>
    List.splitOn_eq_singleton fun h =>
      hquotations i hi ((lineFeed_mem_line_iff limit i (hlabels i hi)).mp h)
  rw [splitOn_chars, List.flatMap_def, List.map_congr_left hlines, ← List.flatMap_def,
    ← List.map_eq_flatMap]

/-! ## places -/

/-- Where an item stands. -/
inductive Place where
  /-- At a node, at a depth. -/
  | node (depth : Nat)
  /-- At a property of the last node, inside so many lists. -/
  | property (nesting : Nat)
deriving DecidableEq, Repr

/-- Where an item stands. -/
def Item.place : Item → Place
  | .node depth _ _ => .node depth
  | .property _ nesting _ _ => .property nesting

/-- Reads off a line where its item stands, from the blanks at the start and the mark after them; the
last node was at `depth`. -/
def readPlace (depth : Nat) (line : List Char) : Option Place :=
  let pad := (line.takeWhile (· == ' ')).length
  let rest := line.dropWhile (· == ' ')
  if "1. ".toList.isPrefixOf rest then some (.node (pad / nodeIndent))
  else if "- ".toList.isPrefixOf rest then
    some (.property ((pad - nodeIndent * (depth + 1)) / propertyIndent))
  else none

/-- Reads off several lines where their items stand. -/
def readPlaces (depth : Nat) : List (List Char) → Option (List Place)
  | [] => some []
  | line :: lines =>
    match readPlace depth line with
    | none => none
    | some (.node d) => (readPlaces d lines).map (.node d :: ·)
    | some (.property n) => (readPlaces depth lines).map (.property n :: ·)

/-- Every property is one of the last node before it; the last node before all of them is at `depth`. -/
def Led : Nat → List Item → Prop
  | _, [] => True
  | _, .node d _ _ :: is => Led d is
  | depth, .property d _ _ _ :: is => d = depth ∧ Led depth is

mutual

theorem led_propertyItems {depth : Nat} {is : List Item} (h : Led depth is) (nesting : Nat) :
    ∀ p : Property, Led depth (propertyItems depth nesting p ++ is)
  | .mk _ (.list items) => ⟨rfl, led_listItems h (nesting + 1) items⟩
  | .mk _ .absent => ⟨rfl, h⟩
  | .mk _ (.text _) => ⟨rfl, h⟩
  | .mk _ (.other _) => ⟨rfl, h⟩

theorem led_listItems {depth : Nat} {is : List Item} (h : Led depth is) (nesting : Nat) :
    ∀ ps : List Property, Led depth (listItems depth nesting ps ++ is)
  | [] => h
  | p :: ps => by
      rw [listItems, List.append_assoc]
      exact led_propertyItems (led_listItems h nesting ps) nesting p

end

mutual

/-- The properties of a tree stand right after their nodes. -/
theorem led_treeItems {is : List Item} (h : ∀ before, Led before is) (depth : Nat) :
    ∀ (t : Tree) (before : Nat), Led before (treeItems depth t ++ is)
  | .node _ _ none ps, _ => by
      rw [treeItems, List.cons_append]
      exact led_listItems (h depth) 0 (ps.getD [])
  | .node _ _ (some cs) ps, _ => by
      rw [treeItems, List.cons_append, List.cons_append, List.append_assoc]
      exact led_listItems (led_treesItems h (depth + 1) cs depth) 0 (ps.getD [])

theorem led_treesItems {is : List Item} (h : ∀ before, Led before is) (depth : Nat) :
    ∀ (ts : List Tree) (before : Nat), Led before (treesItems depth ts ++ is)
  | [], before => h before
  | t :: ts, before => by
      rw [treesItems, List.append_assoc]
      exact led_treeItems (led_treesItems h depth ts) depth t before

end

/-- The blanks before a mark are told from the mark. -/
theorem span_blanks (pad : Nat) {c : Char} (hc : (c == ' ') = false) (cs : List Char) :
    (blanks pad ++ c :: cs).takeWhile (· == ' ') = blanks pad ∧
      (blanks pad ++ c :: cs).dropWhile (· == ' ') = c :: cs := by
  have hblanks : ∀ a ∈ blanks pad, (a == ' ') = true := fun a ha => by
    rw [(List.mem_replicate.mp ha).2]
    rfl
  constructor
  · rw [List.takeWhile_append_of_pos hblanks, List.takeWhile_cons_of_neg (by simp [hc]), List.append_nil]
  · rw [List.dropWhile_append_of_pos hblanks, List.dropWhile_cons_of_neg (by simp [hc])]

theorem readPlace_node (limit : Int) (depth d : Nat) (ty tx : String) :
    readPlace depth ((Item.node d ty tx).line limit) = some (.node d) := by
  have hspan := span_blanks (nodeIndent * d) (c := '1') rfl
    ('.' :: ' ' :: '*' :: '*' :: (ty.toList ++ "**: ".toList ++ span limit tx))
  have hline : (Item.node d ty tx).line limit = blanks (nodeIndent * d) ++ '1' ::
      ('.' :: ' ' :: '*' :: '*' :: (ty.toList ++ "**: ".toList ++ span limit tx)) := by
    simp [Item.line, Item.pad]
  have hdepth : nodeIndent * d / nodeIndent = d := Nat.mul_div_cancel_left d (by decide)
  rw [readPlace, hline, hspan.1, hspan.2, blanks, List.length_replicate, hdepth]
  rfl

theorem readPlace_property (limit : Int) (depth nesting : Nat) (name : Option String)
    (value : PropertyValue) :
    readPlace depth ((Item.property depth nesting name value).line limit) =
      some (.property nesting) := by
  obtain ⟨cs, hline⟩ : ∃ cs, (Item.property depth nesting name value).line limit =
      blanks (nodeIndent * (depth + 1) + propertyIndent * nesting) ++ '-' :: ' ' :: cs := by
    simp only [Item.line, bullet, Item.pad, List.append_assoc]
    exact ⟨_, rfl⟩
  have hspan := span_blanks (nodeIndent * (depth + 1) + propertyIndent * nesting) (c := '-') rfl
    (' ' :: cs)
  have hnesting : propertyIndent * nesting / propertyIndent = nesting :=
    Nat.mul_div_cancel_left nesting (by decide)
  rw [readPlace, hline, hspan.1, hspan.2, blanks, List.length_replicate, Nat.add_sub_cancel_left, hnesting]
  rfl

/-- **Places**: where the items of an outline stand can be read off their lines. -/
theorem readPlaces_lines (limit : Int) (is : List Item) (depth : Nat) (h : Led depth is) :
    readPlaces depth (is.map (Item.line limit)) = some (is.map Item.place) := by
  induction is generalizing depth with
  | nil => rfl
  | cons i is ih =>
      cases i with
      | node d ty tx =>
          rw [List.map_cons, readPlaces, readPlace_node]
          simp only [ih d h, Option.map_some, List.map_cons, Item.place]
      | property d nesting name value =>
          obtain ⟨rfl, his⟩ := h
          rw [List.map_cons, readPlaces, readPlace_property]
          simp only [ih d his, Option.map_some, List.map_cons, Item.place]

end Outline

/-! ## the outline of a tree -/

open Outline in
/-- **One line for each item**: an outline whose names have no line feeds is cut at its line feeds into
one line for each node and each property, and an empty one at the end, exactly if no text of a property
has a line feed.  Then the lines are those of the items, each node followed by its properties and then by
its children, and where they stand can be read off their starts. -/
theorem Tree.toMarkdown_lines (t : Tree) (limit : Int) (hlevels : t.propertyLevels ≤ Limits.listLevels)
    (hlabels : ∀ i ∈ treeItems 0 t, '\n' ∉ i.label) :
    ∃ s, t.toMarkdown limit = .ok s ∧
      ((s.toList.splitOn '\n').length = (treeItems 0 t).length + 1 ↔
        ∀ i ∈ treeItems 0 t, '\n' ∉ i.quotation) ∧
      ((∀ i ∈ treeItems 0 t, '\n' ∉ i.quotation) →
        s.toList.splitOn '\n' = (treeItems 0 t).map (Item.line limit) ++ [[]] ∧
        readPlaces 0 (s.toList.splitOn '\n').dropLast = some ((treeItems 0 t).map Item.place)) ∧
      (treeItems 0 t).filterMap Item.node? =
        (t.preorder 0).map fun n => (n.1, n.2.typeName, n.2.text) := by
  refine ⟨Outline.write limit t, if_neg (Nat.not_lt.mpr hlevels), ?_, fun hquotations => ?_,
    filterMap_node?_treeItems 0 t⟩
  · rw [Outline.write, String.toList_ofList]
    exact length_splitOn_chars_iff limit t hlabels
  · have hlines := splitOn_chars_of_unbroken limit t hlabels hquotations
    have hnil : ∀ depth, Led depth [] := fun _ => trivial
    have hled := led_treeItems hnil 0 t 0
    rw [List.append_nil] at hled
    rw [Outline.write, String.toList_ofList, hlines, List.dropLast_concat]
    exact ⟨rfl, readPlaces_lines limit _ 0 hled⟩

/-- A node over two lines, with a list in a list, and a child. -/
def Tree.nested : Tree :=
  .node "Select" "\n SELECT a,\n b" (some [.node "Column" "" none none])
    (some [.mk (some "hints") (.list [.mk none (.text "x"), .mk none (.list [.mk none .absent])])])

theorem Tree.toMarkdown_lines_nested :
    Tree.nested.propertyLevels ≤ Limits.listLevels ∧
    (∀ i ∈ Outline.treeItems 0 Tree.nested, '\n' ∉ i.label) ∧
    ∃ s, Tree.nested.toMarkdown 6 = .ok s ∧
      (s.toList.splitOn '\n').length = 7 ∧
      Outline.readPlaces 0 (s.toList.splitOn '\n').dropLast =
        some [.node 0, .property 0, .property 1, .property 1, .property 2, .node 1] := by
  have hlevels : Tree.nested.propertyLevels ≤ Limits.listLevels := by decide
  have hlabels : ∀ i ∈ Outline.treeItems 0 Tree.nested, '\n' ∉ i.label := by decide
  have hquotations : ∀ i ∈ Outline.treeItems 0 Tree.nested, '\n' ∉ i.quotation := by decide
  obtain ⟨s, hs, hlength, hlines, -⟩ := Tree.toMarkdown_lines Tree.nested 6 hlevels hlabels
  exact ⟨hlevels, hlabels, s, hs, hlength.mpr hquotations, (hlines hquotations).2⟩

/-- A string of two lines. -/
def Tree.twoLines : Tree :=
  .node "Literal" "'a\nb'" none
    (some [.mk (some "is_string") (.text "True"), .mk (some "this") (.text "a\nb")])

/-- The second line of the text of a property stands alone, without a mark. -/
theorem Tree.toMarkdown_twoLines :
    (∀ i ∈ Outline.treeItems 0 Tree.twoLines, '\n' ∉ i.label) ∧
    (Outline.treeItems 0 Tree.twoLines).length = 3 ∧
    ∃ s, Tree.twoLines.toMarkdown 20 = .ok s ∧
      s.toList.splitOn '\n' = ["1. **Literal**: \x60'a\x60".toList, "   - is_string: _True_".toList,
        "   - this: _a".toList, "b_".toList, []] := by
  refine ⟨by decide, rfl, Outline.write 20 Tree.twoLines, rfl, ?_⟩
  rw [Outline.write, String.toList_ofList, Outline.splitOn_chars]
  decide

end QueryTree
