import QueryTree.Proofs.Outline
import QueryTree.Proofs.Preorder

/-!
# QueryTree.Proofs.Indentation

The layout of an outline by recursion.

A node at depth `d` stands `3 * d` blanks in.  Its properties follow it three blanks
further in, and two more for every list that they stand in; then come its children, at
depth `d + 1`.  An outline is written from a stack of nodes that wait with their
indentations, and

* `entries_eq_layout` — the stack yields the entries of the layout;
* `layout_moved` — a tree at a depth is laid out as it is by itself, moved in as a whole;
* `layout_split` — every tree inside a tree is laid out in one piece, at its depth.
-/

namespace QueryTree.Outline

/-- What the entry of a node shows. -/
def nodeText (limit : Int) (typeName text : String) : List Char :=
  ['1', '.', ' ', '*', '*'] ++ typeName.toList ++ ['*', '*', ':', ' '] ++ span limit text

/-- What the entry of a property shows. -/
def propertyText (name : Option String) (value : PropertyValue) : List Char :=
  ['-', ' '] ++
    (match name with
      | none => []
      | some n => n.toList ++ [':', ' ']) ++
    Item.valueChars value

mutual

/-- The entries of a property of a node at depth `d` that stands inside `n` lists: its own, and then
those of its elements. -/
def propertyLayout (d n : Nat) : Property → List (List Char)
  | .mk name value =>
    (blanks (3 * d + 3 + 2 * n) ++ propertyText name value) :: elementsLayout d (n + 1) value

/-- The entries of the elements of a value. -/
def elementsLayout (d n : Nat) : PropertyValue → List (List Char)
  | .list items => propertiesLayout d n items
  | _ => []

/-- The entries of several properties. -/
def propertiesLayout (d n : Nat) : List Property → List (List Char)
  | [] => []
  | p :: ps => propertyLayout d n p ++ propertiesLayout d n ps

end

mutual

/-- The entries of a tree at depth `d`: the node, its properties, and its children one level down. -/
def layout (limit : Int) (d : Nat) : Tree → List (List Char)
  | .node ty tx cs ps =>
    (blanks (3 * d) ++ nodeText limit ty tx) ::
      (propertiesLayout d 0 (ps.getD []) ++ childrenLayout limit (d + 1) cs)

/-- The entries of the children of a node, if it has a list of them. -/
def childrenLayout (limit : Int) (d : Nat) : Option (List Tree) → List (List Char)
  | none => []
  | some cs => layouts limit d cs

/-- The entries of several trees. -/
def layouts (limit : Int) (d : Nat) : List Tree → List (List Char)
  | [] => []
  | t :: ts => layout limit d t ++ layouts limit d ts

end

/-- Entries as text: each of them ends with a line feed. -/
def text (entries : List (List Char)) : List Char := entries.flatMap fun e => e ++ ['\n']

/-! ## the stack yields the layout -/

mutual

theorem map_line_propertyItems (limit : Int) (d n : Nat) : ∀ p : Property,
    (propertyItems d n p).map (Item.line limit) = propertyLayout d n p
  | .mk name value => by
      have hpad : (Item.property d n name value).pad = 3 * d + 3 + 2 * n := by
        simp [Item.pad, nodeIndent, propertyIndent, Nat.mul_add]
      have helements := map_line_valueItems limit d (n + 1) value
      cases name <;>
        simp [propertyItems, propertyLayout, Item.line, hpad, helements, bullet, propertyText]

theorem map_line_valueItems (limit : Int) (d n : Nat) : ∀ value : PropertyValue,
    (valueItems d n value).map (Item.line limit) = elementsLayout d n value
  | .absent => rfl
  | .text _ => rfl
  | .other _ => rfl
  | .list items => map_line_listItems limit d n items

theorem map_line_listItems (limit : Int) (d n : Nat) : ∀ ps : List Property,
    (listItems d n ps).map (Item.line limit) = propertiesLayout d n ps
  | [] => rfl
  | p :: ps => by
      have hfirst := map_line_propertyItems limit d n p
      have hrest := map_line_listItems limit d n ps
      simp [listItems, propertiesLayout, hfirst, hrest]

end

mutual

theorem map_line_treeItems (limit : Int) (d : Nat) : ∀ t : Tree,
    (treeItems d t).map (Item.line limit) = layout limit d t
  | .node ty tx none ps => by
      have hproperties := map_line_listItems limit d 0 (ps.getD [])
      simp [treeItems, layout, childrenLayout, Item.line, Item.pad, nodeIndent, nodeText, hproperties]
  | .node ty tx (some cs) ps => by
      have hproperties := map_line_listItems limit d 0 (ps.getD [])
      have hchildren := map_line_treesItems limit (d + 1) cs
      simp [treeItems, layout, childrenLayout, Item.line, Item.pad, nodeIndent, nodeText, hproperties,
        hchildren]

theorem map_line_treesItems (limit : Int) (d : Nat) : ∀ ts : List Tree,
    (treesItems d ts).map (Item.line limit) = layouts limit d ts
  | [] => rfl
  | t :: ts => by
      have hfirst := map_line_treeItems limit d t
      have hrest := map_line_treesItems limit d ts
      simp [treesItems, layouts, hfirst, hrest]

end

/-- **The stack yields the layout** of the node that waits on it. -/
theorem entries_eq_layout (limit : Int) (d : Nat) (t : Tree) :
    entries limit [(3 * d, t)] = layout limit d t := by
  have hentries := entries_eq limit [(d, t)]
  simpa [stackItems, map_line_treeItems, nodeIndent] using hentries

theorem chars_eq_text (limit : Int) (t : Tree) : chars limit t = text (layout limit 0 t) := by
  have hentries := entries_eq_layout limit 0 t
  rw [Nat.mul_zero] at hentries
  rw [chars, hentries, text]

/-! ## moving a layout in -/

theorem blanks_add (m n : Nat) : blanks (m + n) = blanks m ++ blanks n :=
  List.replicate_add m n ' '

mutual

theorem propertyLayout_moved (d k n : Nat) : ∀ p : Property,
    propertyLayout (k + d) n p = (propertyLayout d n p).map (blanks (3 * k) ++ ·)
  | .mk name value => by
      have hpad : 3 * (k + d) + 3 + 2 * n = 3 * k + (3 * d + 3 + 2 * n) := by omega
      have helements := elementsLayout_moved d k (n + 1) value
      simp [propertyLayout, hpad, blanks_add, helements]

theorem elementsLayout_moved (d k n : Nat) : ∀ value : PropertyValue,
    elementsLayout (k + d) n value = (elementsLayout d n value).map (blanks (3 * k) ++ ·)
  | .absent => rfl
  | .text _ => rfl
  | .other _ => rfl
  | .list items => propertiesLayout_moved d k n items

theorem propertiesLayout_moved (d k n : Nat) : ∀ ps : List Property,
    propertiesLayout (k + d) n ps = (propertiesLayout d n ps).map (blanks (3 * k) ++ ·)
  | [] => rfl
  | p :: ps => by
      have hfirst := propertyLayout_moved d k n p
      have hrest := propertiesLayout_moved d k n ps
      simp [propertiesLayout, hfirst, hrest]

end

mutual

/-- **Moving in**: further down, every entry of a tree has so many more blanks in front of it. -/
theorem layout_moved (limit : Int) (d k : Nat) : ∀ t : Tree,
    layout limit (k + d) t = (layout limit d t).map (blanks (3 * k) ++ ·)
  | .node ty tx cs ps => by
      have hproperties := propertiesLayout_moved d k 0 (ps.getD [])
      have hchildren := childrenLayout_moved limit (d + 1) k cs
      simp [layout, Nat.mul_add, blanks_add, hproperties, ← hchildren, Nat.add_assoc]

theorem childrenLayout_moved (limit : Int) (d k : Nat) : ∀ cs : Option (List Tree),
    childrenLayout limit (k + d) cs = (childrenLayout limit d cs).map (blanks (3 * k) ++ ·)
  | none => rfl
  | some cs => layouts_moved limit d k cs

theorem layouts_moved (limit : Int) (d k : Nat) : ∀ ts : List Tree,
    layouts limit (k + d) ts = (layouts limit d ts).map (blanks (3 * k) ++ ·)
  | [] => rfl
  | t :: ts => by
      have hfirst := layout_moved limit d k t
      have hrest := layouts_moved limit d k ts
      simp [layouts, hfirst, hrest]

end

/-! ## trees inside a tree -/

theorem layouts_eq_flatMap (limit : Int) (d : Nat) (ts : List Tree) :
    layouts limit d ts = ts.flatMap (layout limit d) := by
  induction ts with
  | nil => rfl
  | cons t ts ih => simp [layouts, ih]

/-- A node, its properties, and its children from the first to the last. -/
theorem layout_eq (limit : Int) (d : Nat) (t : Tree) :
    layout limit d t = (blanks (3 * d) ++ nodeText limit t.typeName t.text) ::
      (propertiesLayout d 0 (t.properties.getD []) ++ t.childList.flatMap (layout limit (d + 1))) := by
  obtain ⟨ty, tx, cs, ps⟩ := t
  cases cs <;>
    simp [layout, childrenLayout, layouts_eq_flatMap, Tree.childList, Tree.typeName, Tree.text,
      Tree.properties, Tree.children]

mutual

/-- **Trees inside a tree** are laid out in one piece, at their depth. -/
theorem layout_split (limit : Int) {d : Nat} {s : Tree} : ∀ (t : Tree) (e : Nat),
    (d, s) ∈ t.preorder e → ∃ before after, layout limit e t = before ++ layout limit d s ++ after
  | .node ty tx none ps, e, h => by
      obtain ⟨rfl, rfl⟩ := Prod.mk.inj (List.mem_singleton.mp h)
      exact ⟨[], [], by simp⟩
  | .node ty tx (some cs) ps, e, h => by
      obtain heq | h := List.mem_cons.mp h
      · obtain ⟨rfl, rfl⟩ := Prod.mk.inj heq
        exact ⟨[], [], by simp⟩
      · obtain ⟨before, after, heq⟩ := layouts_split limit cs (e + 1) h
        have hbelow : childrenLayout limit (e + 1) (some cs) = before ++ layout limit d s ++ after := heq
        exact ⟨(blanks (3 * e) ++ nodeText limit ty tx) :: (propertiesLayout e 0 (ps.getD []) ++ before),
          after, by simp [layout, hbelow]⟩

theorem layouts_split (limit : Int) {d : Nat} {s : Tree} : ∀ (ts : List Tree) (e : Nat),
    (d, s) ∈ Tree.preorderOfList e ts →
      ∃ before after, layouts limit e ts = before ++ layout limit d s ++ after
  | [], e, h => by cases h
  | t :: ts, e, h => by
      obtain h | h := List.mem_append.mp h
      · obtain ⟨before, after, heq⟩ := layout_split limit t e h
        exact ⟨before, after ++ layouts limit e ts, by simp [layouts, heq]⟩
      · obtain ⟨before, after, heq⟩ := layouts_split limit ts e h
        exact ⟨layout limit e t ++ before, after, by simp [layouts, heq]⟩

end

end Outline

open Outline in
/-- **Outlines are laid out by recursion**: at every depth the entries of a tree are those of its layout,
and the outline is their text.  The children of a node stand one after the other below its properties,
all of them moved in by three blanks more than the node, and every tree inside the tree stands there as
it is by itself, with three blanks for each level before each of its entries. -/
theorem Tree.toMarkdown_layout (t : Tree) (limit : Int) :
    (∀ d, entries limit [(3 * d, t)] = layout limit d t) ∧
    Outline.write limit t = String.ofList (Outline.text (layout limit 0 t)) ∧
    (t.propertyLevels ≤ Limits.listLevels →
      t.toMarkdown limit = .ok (String.ofList (Outline.text (layout limit 0 t)))) ∧
    ∀ d s, (d, s) ∈ t.preorder 0 →
      layout limit d s = (layout limit 0 s).map (blanks (3 * d) ++ ·) ∧
      (∃ before after, layout limit 0 t = before ++ (layout limit 0 s).map (blanks (3 * d) ++ ·) ++ after) ∧
      layout limit d s = (blanks (3 * d) ++ nodeText limit s.typeName s.text) ::
        (propertiesLayout d 0 (s.properties.getD []) ++ s.childList.flatMap (layout limit (d + 1))) ∧
      ∀ c ∈ s.childList, ∃ rest, layout limit (d + 1) c =
        (blanks (3 * d + 3) ++ nodeText limit c.typeName c.text) :: rest := by
  have hwrite : Outline.write limit t = String.ofList (Outline.text (layout limit 0 t)) := by
    rw [Outline.write, chars_eq_text]
  refine ⟨fun d => entries_eq_layout limit d t, hwrite, fun hlevels => ?_, fun d s hs => ?_⟩
  · rw [toMarkdown, if_neg (Nat.not_lt.mpr hlevels), hwrite]
  · have hmoved := layout_moved limit 0 d s
    rw [Nat.add_zero] at hmoved
    obtain ⟨before, after, heq⟩ := layout_split limit t 0 hs
    refine ⟨hmoved, ⟨before, after, by rw [heq, hmoved]⟩, layout_eq limit d s, fun c _ => ?_⟩
    exact ⟨_, layout_eq limit (d + 1) c⟩

/-- A leaf whose properties hold a list in a list and a value of another kind. -/
def Tree.deepColumn : Tree :=
  .node "Column" "a.b\nc" none
    (some [.mk (some "parts") (.list [.mk none (.list [.mk none (.text "a")]), .mk (some "n") .absent]),
      .mk (some "flag") (.other (.bool true))])

/-- Siblings of which the first has most below it and the last has an empty list of children. -/
def Tree.staggered : Tree :=
  .node "Union" ""
    (some [.node "Select" "SELECT" (some [deepColumn]) none, .node "Star" "*" (some []) (some [])])
    (some [.mk none .absent])

theorem Tree.toMarkdown_layout_staggered :
    Tree.staggered.propertyLevels ≤ Limits.listLevels ∧
    (2, Tree.deepColumn) ∈ Tree.staggered.preorder 0 ∧
    Tree.staggered.toMarkdown 3 = .ok (String.ofList (Outline.text
      ["1. **Union**: ".toList,
        "   - ".toList,
        "   1. **Select**: \x60SEL\x60...".toList,
        "      1. **Column**: \x60a.b\x60".toList,
        "         - parts: ".toList,
        "           - ".toList,
        "             - _a_".toList,
        "           - n: ".toList,
        "         - flag: bool".toList,
        "   1. **Star**: \x60*\x60".toList])) ∧
    ∃ before after, Outline.layout 3 0 Tree.staggered =
      before ++ (Outline.layout 3 0 Tree.deepColumn).map (Outline.blanks 6 ++ ·) ++ after := by
  have hlevels : Tree.staggered.propertyLevels ≤ Limits.listLevels := by decide
  have hmem : (2, Tree.deepColumn) ∈ Tree.staggered.preorder 0 := .tail _ (.tail _ (.head _))
  obtain ⟨-, -, htext, hplaces⟩ := Tree.toMarkdown_layout Tree.staggered 3
  exact ⟨hlevels, hmem, htext hlevels, (hplaces 2 _ hmem).2.1⟩

end QueryTree
