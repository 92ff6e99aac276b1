import QueryTree.Proofs.Page.Pieces
import QueryTree.Render

/-!
# QueryTree.Proofs.Page.Safety

No string can break a page.

`Safe` says it of one page: its tags are well nested and known from the shape of the
tree, its own texts are those of one fixed page, and every foreign string stands
between tags as character data or in a script as a literal, without the characters that
could end either.  `toHtml_safe` says it of all pages.
-/

namespace QueryTree.Page

/-! ## the page's own texts -/

/-- The text of a piece that is the page's own. -/
def Part.text? : Part → Option String
  | .markup s => some s
  | _ => none

/-- The page's own texts among some pieces. -/
def texts (ps : List Part) : List String := ps.filterMap Part.text?

theorem texts_append (ps qs : List Part) : texts (ps ++ qs) = texts ps ++ texts qs :=
  List.filterMap_append

theorem texts_flatMap_subset {α : Type} {f : α → List Part} {S : List String}
    (h : ∀ x, texts (f x) ⊆ S) (xs : List α) : texts (xs.flatMap f) ⊆ S := by
  induction xs with
  | nil => exact List.nil_subset S
  | cons x xs ih =>
      rw [List.flatMap_cons, texts_append]
      exact List.append_subset.mpr ⟨h x, ih⟩

/-- Properties with which every text around properties occurs. -/
def sampleProperties : Option (List Property) := some [.mk (some "") (.list [])]

/-- A tree on whose page every text of the page itself occurs. -/
def sampleTree : Tree := .node "" "a\nb" (some []) sampleProperties

/-- What the page shows of its root. -/
def sampleView : View := View.ofTree 0 sampleTree

theorem hasDetail_sampleView : sampleView.hasDetail = true := by decide

mutual

theorem texts_propertyParts : ∀ p : Property, texts (propertyParts p) ⊆ texts (listParts sampleProperties)
  | .mk none value => by
      rw [propertyParts, texts_append, texts_append]
      exact List.append_subset.mpr ⟨List.append_subset.mpr ⟨by decide, texts_valueParts value⟩, by decide⟩
  | .mk (some n) value => by
      have hname : texts [line "<li>", line ":"] ⊆ texts (listParts sampleProperties) := by decide
      rw [propertyParts, texts_append, texts_append]
      exact List.append_subset.mpr ⟨List.append_subset.mpr ⟨hname, texts_valueParts value⟩, by decide⟩

theorem texts_valueParts : ∀ v : PropertyValue, texts (valueParts v) ⊆ texts (listParts sampleProperties)
  | .absent => List.nil_subset _
  | .text _ | .other _ => by
      have hline : texts [line ""] ⊆ texts (listParts sampleProperties) := by decide
      exact hline
  | .list items => by
      have hstart : texts [line "<ul>"] ⊆ texts (listParts sampleProperties) := by decide
      rw [valueParts, texts_append]
      refine List.append_subset.mpr ⟨?_, by decide⟩
      exact List.append_subset.mpr ⟨hstart, texts_propertiesParts items⟩

theorem texts_propertiesParts :
    ∀ ps : List Property, texts (propertiesParts ps) ⊆ texts (listParts sampleProperties)
  | [] => List.nil_subset _
  | p :: ps => by
      rw [propertiesParts, texts_append]
      exact List.append_subset.mpr ⟨texts_propertyParts p, texts_propertiesParts ps⟩

end

theorem texts_listParts (ps : Option (List Property)) :
    texts (listParts ps) ⊆ texts (listParts sampleProperties) := by
  cases ps with
  | none => decide
  | some ps =>
      have hstart : texts [line "<ul>"] ⊆ texts (listParts sampleProperties) := by decide
      rw [listParts, texts_append]
      refine List.append_subset.mpr ⟨?_, by decide⟩
      exact List.append_subset.mpr ⟨hstart, texts_propertiesParts ps⟩

theorem texts_foldParts (v : View) : texts (foldParts v) ⊆ texts (foldParts sampleView) := by
  rw [foldParts]
  split
  · exact fun _ h => h
  · exact List.nil_subset _

theorem texts_detailParts (v : View) : texts (detailParts v) ⊆ texts (detailParts sampleView) := by
  rw [detailParts, detailParts, if_pos hasDetail_sampleView]
  split
  · exact fun _ h => h
  · exact List.nil_subset _

/-- The texts around a node are those around the root of the sample. -/
theorem texts_eventParts (e : Event) :
    texts (eventParts e) ⊆
      texts (eventParts (.opened sampleView)) ++ texts (eventParts (.closed sampleView)) := by
  intro s hs
  cases e with
  | closed v => exact List.mem_append_right _ hs
  | opened v =>
      simp only [eventParts, texts_append, List.mem_append] at hs ⊢
      obtain (((hs | hs) | hs) | hs) | hs := hs
      -- the heading differs from that of the sample in numbers and data only, which are no texts
      · have hfold : s ∈ texts (line "<li>" :: foldParts sampleView) :=
          List.cons_subset_cons _ (texts_foldParts v) hs
        exact .inl (.inl (.inl (.inl (.inl hfold))))
      · exact .inl (.inl (.inl (.inl (.inr hs))))
      · exact .inl (.inl (.inl (.inr (texts_detailParts v hs))))
      · exact .inl (.inl (.inr (texts_listParts v.properties hs)))
      · split at hs
        · exact .inl (.inr hs)
        · exact .inr (List.mem_cons_of_mem _ hs)

theorem texts_searchParts (v : View) : texts (searchParts v) ⊆ texts (searchParts sampleView) :=
  fun _ h => h

theorem parts_sampleTree : parts sampleTree =
    [.markup (joinLines headLines), .number 1, .markup (joinLines countLines)] ++ searchParts sampleView ++
      [.markup (joinLines scriptLines)] ++
      (eventParts (.opened sampleView) ++ eventParts (.closed sampleView)) ++
      [.markup "</ol>\n</body>\n</html>"] := by
  rw [parts, eventsOfTree_eq_treeEvents]
  simp [sampleTree, sampleView, treeEvents, treesEvents, openedViews]

/-- **The page's own texts** are the same on every page, up to repetition. -/
theorem texts_parts_subset (t : Tree) : texts (parts t) ⊆ texts (parts sampleTree) := by
  have hsearch := texts_flatMap_subset texts_searchParts (openedViews (eventsOfTree t))
  have hevents := texts_flatMap_subset texts_eventParts (eventsOfTree t)
  intro s hs
  rw [parts] at hs
  rw [parts_sampleTree]
  simp only [texts_append, List.mem_append] at hs ⊢
  obtain (((hs | hs) | hs) | hs) | hs := hs
  · exact .inl (.inl (.inl (.inl hs)))
  · exact .inl (.inl (.inl (.inr (hsearch hs))))
  · exact .inl (.inl (.inr hs))
  · exact .inl (.inr (List.mem_append.mp (hevents hs)))
  · exact .inr hs

/-! ## safety -/

/-- What makes a page safe against the strings of its tree. -/
structure Safe (t : Tree) (page : String) : Prop where
  /-- The page is its pieces, one after the other. -/
  pieces : page.toList = (parts t).flatMap Part.chars
  /-- Its tags, with all their attributes, are those of the shape of the tree. -/
  tags : tags? page.toList = some (pageTags t.shape)
  /-- Every element that is opened is closed, the innermost first. -/
  nested : WellNested (pageTags t.shape)
  /-- The texts of the page itself do not depend on the tree. -/
  own : texts (parts t) ⊆ texts (parts sampleTree)
  /-- Character data stands between tags and holds no angle bracket and no quote. -/
  data : ∀ before s after, parts t = before ++ .data s :: after →
    (run .data (before.flatMap Part.chars)).2 = .data ∧
      ∀ c ∈ (Part.data s).chars, c ≠ '<' ∧ c ≠ '>' ∧ c ≠ '"' ∧ c ≠ '\''
  /-- A literal stands in a script, is one string, and holds nothing that could end the script. -/
  literals : ∀ before s after, parts t = before ++ .literal s :: after →
    (run .data (before.flatMap Part.chars)).2 = .raw script none ∧
      Json.Emits (Part.literal s).chars [.text s] ∧
      ∀ c ∈ (Part.literal s).chars, c ≠ '<' ∧ c ≠ '>' ∧ c ≠ '&' ∧ c ≠ '\''

theorem tags?_write (t : Tree) : tags? (write t).toList = some (pageTags t.shape) := by
  rw [write, String.toList_ofList, chars, tags?, (reads_parts t).run_eq]

theorem safe_write (t : Tree) : Safe t (write t) where
  pieces := by rw [write, String.toList_ofList, chars]
  tags := tags?_write t
  nested := wellNested_pageTags t.shape
  own := texts_parts_subset t
  data before s after h := by
    have hreads := reads_parts t
    rw [h] at hreads
    exact ⟨hreads.mode_data, fun c hc => not_markup_of_mem_data hc⟩
  literals before s after h := by
    have hreads := reads_parts t
    rw [h] at hreads
    refine ⟨hreads.mode_literal, emits_literal s, fun c hc => ?_⟩
    have hactive := not_active_of_mem_literal hc
    simp only [isActive, Bool.or_eq_false_iff, decide_eq_false_iff_not] at hactive
    exact ⟨hactive.1.1.1, hactive.1.1.2, hactive.1.2, hactive.2⟩

/-- **Pages are safe against strings**: every page is `Safe`, there is one unless property lists nest too
deep, and trees of one shape have pages with the same tags, or both none. -/
theorem toHtml_safe :
    (∀ (t : Tree) (page : String), t.toHtml = .ok page → Safe t page) ∧
    (∀ t : Tree, t.propertyLevels ≤ Limits.pageLevels → ∃ page, t.toHtml = .ok page) ∧
    ∀ t t' : Tree, t.shape = t'.shape →
      t.toHtml.map (tags? ∘ String.toList) = t'.toHtml.map (tags? ∘ String.toList) := by
  refine ⟨fun t page h => ?_, fun t h => ?_, fun t t' h => ?_⟩
  · rw [Tree.toHtml] at h
    split at h
    · cases h
    · rw [← Except.ok.inj h]
      exact safe_write t
  · exact ⟨write t, if_neg (Nat.not_lt.mpr h)⟩
  · rw [Tree.toHtml, Tree.toHtml, ← Tree.propertyLevels_shape t, ← Tree.propertyLevels_shape t', h]
    split
    · rfl
    · rw [Except.map, Except.map, Function.comp, tags?_write, Function.comp, tags?_write, h]

/-- A tree whose strings try to end scripts, attributes and lists. -/
def hostileTree : Tree :=
  .node "</b><script>" "\"];</script>'&<li>" (some [.node "'>" "a\n</textarea></div>" none none])
    (some [.mk (some "</ul>") (.text "<!--"), .mk none (.list [.mk (some "&lt;") .absent])])

/-- A tree of the same shape without them. -/
def harmlessTree : Tree :=
  .node "b" "c" (some [.node "d" "e\nf" none none])
    (some [.mk none (.text ""), .mk (some "g") (.list [.mk none .absent])])

theorem toHtml_safe_hostile :
    (∃ page, hostileTree.toHtml = .ok page ∧ Safe hostileTree page) ∧
      hostileTree.shape = harmlessTree.shape ∧
      hostileTree.toHtml.map (tags? ∘ String.toList) = harmlessTree.toHtml.map (tags? ∘ String.toList) := by
  have hlevels : hostileTree.propertyLevels ≤ Limits.pageLevels := by decide
  have hshape : hostileTree.shape = harmlessTree.shape := by cbv
  obtain ⟨page, hpage⟩ := toHtml_safe.2.1 hostileTree hlevels
  exact ⟨⟨page, hpage, toHtml_safe.1 hostileTree page hpage⟩, hshape,
    toHtml_safe.2.2 hostileTree harmlessTree hshape⟩

end QueryTree.Page
