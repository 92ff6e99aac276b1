import QueryTree.Decimal.Notation
import QueryTree.Page.Event
import QueryTree.Proofs.Page.Tags

/-!
# QueryTree.Proofs.Page.Shape

The shape of a tree, and the tags of a page of that shape.

A shape keeps of a tree which lists are there, of what kind each value is, whether a
node has a box with its full text and how many rows the box has.  All strings are gone.
`pageTags` spells out the tags of the page of a shape, with all their attributes.

* `wellNested_pageTags` — the tags of a page are well nested, whatever the shape;
* `propertyLevels_shape` — how deep the property lists nest can be told from the shape.
-/

namespace QueryTree

/-! ## shapes -/

/-- The kind of a value, with the kinds of the items of a list. -/
inductive ValueShape where
  /-- No value. -/
  | absent
  /-- A text. -/
  | text
  /-- A list of properties. -/
  | list (items : List ValueShape)
  /-- Anything else. -/
  | other

/-- A tree without its strings. -/
inductive Shape where
  /-- A node: whether its text needs a box, the rows of the box, and which lists it has. -/
  | node (detail : Bool) (rows : Nat) (children : Option (List Shape))
      (properties : Option (List ValueShape))

namespace Property

mutual

/-- The shape of a property is that of its value. -/
def shape : Property → ValueShape
  | .mk _ v => valueShape v

/-- The shape of a value. -/
def valueShape : PropertyValue → ValueShape
  | .absent => .absent
  | .text _ => .text
  | .list items => .list (shapes items)
  | .other _ => .other

/-- The shapes of several properties. -/
def shapes : List Property → List ValueShape
  | [] => []
  | p :: ps => shape p :: shapes ps

end

end Property

/-- Whether a page has a box with the full text of a node, which is more than its first line. -/
def Page.detailOf (text : String) : Bool := (Page.View.ofTree 0 (.node "" text none none)).hasDetail

/-- The rows of the box. -/
def Page.rowsOf (text : String) : Nat := (Page.View.ofTree 0 (.node "" text none none)).rows

namespace Tree

mutual

/-- The shape of a tree. -/
def shape : Tree → Shape
  | .node _ tx none ps => .node (Page.detailOf tx) (Page.rowsOf tx) none (ps.map Property.shapes)
  | .node _ tx (some cs) ps =>
    .node (Page.detailOf tx) (Page.rowsOf tx) (some (shapes cs)) (ps.map Property.shapes)

/-- The shapes of several trees. -/
def shapes : List Tree → List Shape
  | [] => []
  | t :: ts => shape t :: shapes ts

end

end Tree

namespace Shape

mutual

/-- The number of nodes of a shape. -/
def count : Shape → Nat
  | .node _ _ none _ => 1
  | .node _ _ (some cs) _ => 1 + countOfList cs

/-- The number of nodes of several shapes. -/
def countOfList : List Shape → Nat
  | [] => 0
  | s :: ss => count s + countOfList ss

end

end Shape

namespace Tree

mutual

theorem count_shape : ∀ t : Tree, t.shape.count = t.count
  | .node _ _ none _ => rfl
  | .node _ _ (some cs) _ => by rw [shape, Shape.count, count, countOfList_shapes cs]

theorem countOfList_shapes : ∀ ts : List Tree, Shape.countOfList (shapes ts) = countOfList ts
  | [] => rfl
  | t :: ts => by rw [shapes, Shape.countOfList, countOfList, count_shape t, countOfList_shapes ts]

end

end Tree

/-! ## how deep property lists nest -/

namespace ValueShape

mutual

/-- How deep the lists in a value nest. -/
def levels : ValueShape → Nat
  | .list items => 1 + levelsOfList items
  | _ => 0

/-- How deep the lists in several values nest. -/
def levelsOfList : List ValueShape → Nat
  | [] => 0
  | v :: vs => max (levels v) (levelsOfList vs)

end

end ValueShape

namespace Shape

/-- How deep the property lists of one node nest. -/
def levelsOfProperties : Option (List ValueShape) → Nat
  | none => 0
  | some vs => 1 + ValueShape.levelsOfList vs

mutual

/-- How deep the property lists of any node nest. -/
def propertyLevels : Shape → Nat
  | .node _ _ none vs => levelsOfProperties vs
  | .node _ _ (some cs) vs => max (levelsOfProperties vs) (propertyLevelsOfList cs)

/-- How deep the property lists of several shapes nest. -/
def propertyLevelsOfList : List Shape → Nat
  | [] => 0
  | s :: ss => max (propertyLevels s) (propertyLevelsOfList ss)

end

end Shape

namespace Property

mutual

theorem levels_shape : ∀ p : Property, p.shape.levels = p.levels
  | .mk _ v => by rw [shape, levels, levels_valueShape v]

theorem levels_valueShape : ∀ v : PropertyValue, (valueShape v).levels = valueLevels v
  | .absent | .text _ | .other _ => by simp [valueShape, ValueShape.levels, valueLevels]
  | .list items => by rw [valueShape, ValueShape.levels, valueLevels, levelsOfList_shapes items]

theorem levelsOfList_shapes :
    ∀ ps : List Property, ValueShape.levelsOfList (shapes ps) = levelsOfList ps
  | [] => rfl
  | p :: ps => by rw [shapes, ValueShape.levelsOfList, levelsOfList, levels_shape p, levelsOfList_shapes ps]

end

end Property

namespace Tree

theorem levelsOfProperties_shapes (ps : Option (List Property)) :
    Shape.levelsOfProperties (ps.map Property.shapes) = levelsOfProperties ps := by
  cases ps with
  | none => rfl
  | some ps => exact congrArg (1 + ·) (Property.levelsOfList_shapes ps)

mutual

/-- The nesting of the property lists can be told from the shape. -/
theorem propertyLevels_shape : ∀ t : Tree, t.shape.propertyLevels = t.propertyLevels
  | .node _ _ none ps => levelsOfProperties_shapes ps
  | .node _ _ (some cs) ps => by
      rw [shape, Shape.propertyLevels, propertyLevels, levelsOfProperties_shapes,
        propertyLevelsOfList_shapes cs]

theorem propertyLevelsOfList_shapes :
    ∀ ts : List Tree, Shape.propertyLevelsOfList (shapes ts) = propertyLevelsOfList ts
  | [] => rfl
  | t :: ts => by
      rw [shapes, Shape.propertyLevelsOfList, propertyLevelsOfList, propertyLevels_shape t,
        propertyLevelsOfList_shapes ts]

end

end Tree

/-! ## the tags of a shape -/

namespace Page

/-- Attributes with a number in them. -/
def numbered (before : String) (n : Nat) (after : String) : List Char :=
  before.toList ++ Decimal.digitChars n ++ after.toList

mutual

/-- The tags of a value: a list is the only one that has any. -/
def valueTags : ValueShape → List Tag
  | .list items => startTag "ul" [] :: (itemTags items ++ [endTag "ul"])
  | _ => []

/-- The tags of several properties. -/
def itemTags : List ValueShape → List Tag
  | [] => []
  | v :: vs => startTag "li" [] :: (valueTags v ++ [endTag "li"]) ++ itemTags vs

end

/-- The tags of the properties of a node. -/
def listTags : Option (List ValueShape) → List Tag
  | none => []
  | some vs => startTag "ul" [] :: (itemTags vs ++ [endTag "ul"])

/-- The tags of the mark that folds the children of a node. -/
def foldTags (id : Nat) (hasChildren : Bool) : List Tag :=
  if hasChildren then
    [startTag "span" (numbered " class='toggle' onClick='toggleChildren(" id ");'"), endTag "span"]
  else []

/-- The tags of the type and the first line of a node. -/
def headingTags (id : Nat) : List Tag :=
  [startTag "b" (numbered " id='type_" id "'"), endTag "b",
    startTag "span" (numbered " id='text_" id "'"), endTag "span"]

/-- The tags of the box with the full text of a node. -/
def detailTags (id : Nat) (detail : Bool) (rows : Nat) : List Tag :=
  if detail then
    [startTag "span" (numbered " class='toggle' onClick='toggleDetail(" id ");'"), endTag "span",
      startTag "div" (numbered " id='dtl_" id "' class='detailText hide canHide'"),
      startTag "textarea" (numbered " class='detailText' id='txt_" id "'" ++ numbered " rows='" rows "' readonly"),
      endTag "textarea", startTag "script" " type='text/javascript'".toList, endTag "script", endTag "div"]
  else []

/-- The tags inside the item of a node, up to its children. -/
def innerTags (id : Nat) (detail : Bool) (rows : Nat) (hasChildren : Bool)
    (properties : Option (List ValueShape)) : List Tag :=
  foldTags id hasChildren ++ headingTags id ++ detailTags id detail rows ++ listTags properties

mutual

/-- The tags of a node with the number `id` and of all that is below it. -/
def nodeTags (id : Nat) : Shape → List Tag
  | .node detail rows none vs =>
    startTag "li" [] :: (innerTags id detail rows false vs ++ [endTag "li"])
  | .node detail rows (some cs) vs =>
    startTag "li" [] :: (innerTags id detail rows true vs ++
      startTag "ol" (numbered " id='chd_" id "' class='hide canHide'") ::
        (nodesTags (id + 1) cs ++ [endTag "ol"]) ++ [endTag "li"])

/-- The tags of several nodes, numbered on. -/
def nodesTags (id : Nat) : List Shape → List Tag
  | [] => []
  | s :: ss => nodeTags id s ++ nodesTags (id + s.count) ss

end

/-- The tags up to the script. -/
def headTags : List Tag :=
  [startTag "!doctype" " html".toList, startTag "html" [], startTag "head" [],
    startTag "meta" " charset='utf-8' /".toList, startTag "title" [], endTag "title", startTag "style" [],
    endTag "style", startTag "script" []]

/-- The tags from the end of the script up to the list of nodes. -/
def bodyTags : List Tag :=
  [endTag "script", endTag "head", startTag "body" [],
    startTag "input" " type='button' value='Collapse All' onClick='collapseExpandAll(true);' /".toList,
    startTag "input" " type='button' value='Expand All' onClick='collapseExpandAll(false);' /".toList,
    startTag "br" " /".toList, startTag "input" " type='text' id='txt_search' onKeyUp='doSearch();' /".toList,
    startTag "ol" []]

/-- The tags after the list of nodes. -/
def footTags : List Tag := [endTag "ol", endTag "body", endTag "html"]

/-- The tags of the page of a shape. -/
def pageTags (s : Shape) : List Tag := headTags ++ bodyTags ++ nodeTags 0 s ++ footTags

/-! ## nesting -/

/-- The elements of the list of nodes all have an end. -/
theorem not_void {name : String} (h : name ∈ ["b", "div", "li", "ol", "script", "span", "textarea", "ul"]) :
    name.toList ∉ voidNames := by
  revert name
  decide

/-- An element that has an end, around balanced tags. -/
theorem Balanced.element {ts : List Tag} (h : Balanced ts) (name : String) (attributes : List Char)
    (hname : name ∈ ["b", "div", "li", "ol", "script", "span", "textarea", "ul"]) :
    Balanced (startTag name attributes :: (ts ++ [endTag name])) :=
  h.enclose attributes (not_void hname)

mutual

theorem balanced_valueTags : ∀ v : ValueShape, Balanced (valueTags v)
  | .absent | .text | .other => by
      rw [valueTags]
      exact balanced_nil
      all_goals simp
  | .list items => by
      rw [valueTags]
      exact (balanced_itemTags items).element "ul" [] (by simp)

theorem balanced_itemTags : ∀ vs : List ValueShape, Balanced (itemTags vs)
  | [] => balanced_nil
  | v :: vs => by
      rw [itemTags]
      exact ((balanced_valueTags v).element "li" [] (by simp)).append (balanced_itemTags vs)

end

theorem balanced_listTags (vs : Option (List ValueShape)) : Balanced (listTags vs) := by
  cases vs with
  | none => exact balanced_nil
  | some vs => exact (balanced_itemTags vs).element "ul" [] (by simp)

theorem balanced_foldTags (id : Nat) (hasChildren : Bool) : Balanced (foldTags id hasChildren) := by
  cases hasChildren with
  | false => exact balanced_nil
  | true => exact balanced_nil.element "span" _ (by simp)

theorem balanced_headingTags (id : Nat) : Balanced (headingTags id) :=
  (balanced_nil.element "b" _ (by simp)).append (balanced_nil.element "span" _ (by simp))

theorem balanced_detailTags (id : Nat) (detail : Bool) (rows : Nat) :
    Balanced (detailTags id detail rows) := by
  cases detail with
  | false => exact balanced_nil
  | true =>
      have hbox : Balanced [startTag "textarea"
          (numbered " class='detailText' id='txt_" id "'" ++ numbered " rows='" rows "' readonly"),
          endTag "textarea"] := balanced_nil.element "textarea" _ (by simp)
      have hscript : Balanced [startTag "script" " type='text/javascript'".toList, endTag "script"] :=
        balanced_nil.element "script" _ (by simp)
      have hmark : Balanced [startTag "span" (numbered " class='toggle' onClick='toggleDetail(" id ");'"),
          endTag "span"] := balanced_nil.element "span" _ (by simp)
      exact hmark.append ((hbox.append hscript).element "div" _ (by simp))

theorem balanced_innerTags (id : Nat) (detail : Bool) (rows : Nat) (hasChildren : Bool)
    (vs : Option (List ValueShape)) : Balanced (innerTags id detail rows hasChildren vs) :=
  (((balanced_foldTags id hasChildren).append (balanced_headingTags id)).append
    (balanced_detailTags id detail rows)).append (balanced_listTags vs)

mutual

theorem balanced_nodeTags : ∀ (s : Shape) (id : Nat), Balanced (nodeTags id s)
  | .node detail rows none vs, id => by
      rw [nodeTags]
      exact (balanced_innerTags id detail rows false vs).element "li" [] (by simp)
  | .node detail rows (some cs) vs, id => by
      rw [nodeTags]
      have hchildren := (balanced_nodesTags cs (id + 1)).element "ol"
        (numbered " id='chd_" id "' class='hide canHide'") (by simp)
      exact ((balanced_innerTags id detail rows true vs).append hchildren).element "li" [] (by simp)

theorem balanced_nodesTags : ∀ (ss : List Shape) (id : Nat), Balanced (nodesTags id ss)
  | [], _ => balanced_nil
  | s :: ss, id => by
      rw [nodesTags]
      exact (balanced_nodeTags s id).append (balanced_nodesTags ss (id + s.count))

end

/-- **Nesting**: the tags of a page are well nested, whatever the shape. -/
theorem wellNested_pageTags (s : Shape) : WellNested (pageTags s) := by
  have hbefore : nest [] (headTags ++ bodyTags) = some ["ol".toList, "body".toList, "html".toList] := by
    decide +kernel
  have hafter : nest ["ol".toList, "body".toList, "html".toList] footTags = some [] := by
    decide +kernel
  rw [WellNested, pageTags, nest_append, nest_append, hbefore, Option.bind_some, balanced_nodeTags s 0,
    Option.bind_some, hafter]

end Page

end QueryTree
