import QueryTree.Proofs.Decoding
import QueryTree.Render

/-!
# QueryTree.Proofs.RoundTrip

Trees written as JSON and read back.

A tree survives the round trip exactly if it is plain and its document is within the
limit of the reader (`json_roundTrip`); every limit of the writer is wider.  Whatever text
a tree was read from, the tree is such a one, so that writing it again gives a text
that is read as the same tree.
-/

namespace QueryTree

open Document

/-! ## plain trees have textual documents -/

namespace Document

theorem isTextual_map_iff {es : List (String × Document)} :
    Json.isTextual (.map es) = true ↔ ∀ e ∈ es, Json.isTextual e.2 = true := by
  rw [Json.isTextual, Json.holdTextual_iff]

mutual

theorem isTextual_propertyDocument :
    ∀ p : Property, p.isPlain = true → Json.isTextual (Style.json.propertyDocument p) = true
  | .mk n v, h => by
      rw [propertyDocument_json, isTextual_map_iff]
      intro e he
      obtain he | he := List.mem_append.mp he
      · obtain ⟨n', _, hn'⟩ := Option.map_eq_some_iff.mp (mem_entry he)
        rw [← hn']
        rfl
      · exact isTextual_ofValue? v e.2 h (mem_entry he)

theorem isTextual_ofValue? :
    ∀ (v : PropertyValue) (d : Document), Property.isPlainValue v = true → ofValue? v = some d →
      Json.isTextual d = true
  | .absent, _, _, hd => nomatch hd
  | .text s, d, _, hd => by
      cases hd
      rfl
  | .list items, d, h, hd => by
      cases hd
      exact areTextual_propertyDocuments items h
  | .other _, _, h, _ => nomatch h

theorem areTextual_propertyDocuments :
    ∀ ps : List Property, Property.arePlain ps = true →
      Json.areTextual (Style.json.propertyDocuments ps) = true
  | [], _ => rfl
  | p :: ps, h => by
      rw [Property.arePlain, Bool.and_eq_true] at h
      rw [Style.propertyDocuments, Json.areTextual, isTextual_propertyDocument p h.1,
        areTextual_propertyDocuments ps h.2]
      rfl

end

theorem isTextual_treeDocument (t : Tree) (h : t.isPlain = true) :
    Json.isTextual (Style.json.treeDocument t) = true := by
  induction t using Tree.induction_on_children with
  | h ty tx cs ps ih =>
      obtain ⟨hcs, hps⟩ := Tree.isPlain_node.mp h
      rw [treeDocument_json, isTextual_map_iff]
      intro e he
      simp only [List.mem_append] at he
      obtain ((he | he) | he) | he := he
      · rw [← Option.some.inj (mem_entry he)]
        rfl
      · rw [← Option.some.inj (mem_entry he)]
        rfl
      · obtain ⟨cs, rfl, hd⟩ := Option.map_eq_some_iff.mp (mem_entry he)
        rw [← hd, Json.isTextual, Json.areTextual_iff, Style.treeDocuments_eq_map, List.forall_mem_map]
        exact fun c hc => ih c hc (hcs c hc)
      · obtain ⟨ps, rfl, hd⟩ := Option.map_eq_some_iff.mp (mem_entry he)
        rw [← hd]
        exact areTextual_propertyDocuments ps hps

/-! ## the limits of the writer are wider -/

theorem filledDepthOfItems_le_filledDepth (ds : List Document) :
    filledDepthOfItems ds ≤ filledDepth (.list ds) :=
  filledDepthOfItems_le_iff.mpr fun _ hd => Nat.le_of_lt (filledDepth_lt_of_mem_list hd)

mutual

theorem levels_le_filledDepth :
    ∀ p : Property, p.levels ≤ (Style.json.propertyDocument p).filledDepth
  | .mk n v => by
      rw [Property.levels, propertyDocument_json]
      cases v with
      | list items =>
          have hitems := levelsOfList_le_filledDepth items
          have hmem : ("Value", Document.list (Style.json.propertyDocuments items)) ∈
              entry "Name" (n.map .text) ++ entry "Value" (ofValue? (.list items)) :=
            List.mem_append_right _ List.mem_cons_self
          have hlt := filledDepth_lt_of_mem_map hmem
          have hle := filledDepthOfItems_le_filledDepth (Style.json.propertyDocuments items)
          rw [Property.valueLevels]
          omega
      | absent | text _ | other _ =>
          rw [Property.valueLevels]
          exact Nat.zero_le _
          all_goals simp

theorem levelsOfList_le_filledDepth :
    ∀ ps : List Property,
      Property.levelsOfList ps ≤ filledDepthOfItems (Style.json.propertyDocuments ps)
  | [] => Nat.le_refl 0
  | p :: ps => by
      have hp := levels_le_filledDepth p
      have hps := levelsOfList_le_filledDepth ps
      rw [Property.levelsOfList, Style.propertyDocuments, filledDepthOfItems]
      omega

end

theorem levelsOfProperties_le_filledDepth (ty tx : String) (cs : Option (List Tree))
    (ps : Option (List Property)) :
    Tree.levelsOfProperties ps ≤ (Style.json.treeDocument (.node ty tx cs ps)).filledDepth := by
  cases ps with
  | none => exact Nat.zero_le _
  | some ps =>
      have hmem : ("Properties", Document.list (Style.json.propertyDocuments ps)) ∈
          entry "TypeName" (some (.text ty)) ++ entry "Text" (some (.text tx)) ++
            entry "Children" (cs.map fun cs => .list (Style.json.treeDocuments cs)) ++
            entry "Properties" ((some ps).map fun ps => .list (Style.json.propertyDocuments ps)) :=
        List.mem_append_right _ List.mem_cons_self
      have hps := levelsOfList_le_filledDepth ps
      have hle := filledDepthOfItems_le_filledDepth (Style.json.propertyDocuments ps)
      have hlt := filledDepth_lt_of_mem_map hmem
      rw [Tree.levelsOfProperties, treeDocument_json]
      omega

theorem propertyLevelsOfList_le_iff {ts : List Tree} {n : Nat} :
    Tree.propertyLevelsOfList ts ≤ n ↔ ∀ t ∈ ts, t.propertyLevels ≤ n := by
  induction ts with
  | nil => simp [Tree.propertyLevelsOfList]
  | cons t ts ih => rw [Tree.propertyLevelsOfList, Nat.max_le, ih, List.forall_mem_cons]

/-- The document of a tree nests at least as deep as the lists of its properties. -/
theorem propertyLevels_le_filledDepth (t : Tree) :
    t.propertyLevels ≤ (Style.json.treeDocument t).filledDepth := by
  induction t using Tree.induction_on_children with
  | h ty tx cs ps ih =>
      have hps := levelsOfProperties_le_filledDepth ty tx cs ps
      cases cs with
      | none => exact hps
      | some cs =>
          rw [Tree.propertyLevels, Nat.max_le, propertyLevelsOfList_le_iff]
          refine ⟨hps, fun c hc => ?_⟩
          have hmem : ("Children", Document.list (Style.json.treeDocuments cs)) ∈
              entry "TypeName" (some (.text ty)) ++ entry "Text" (some (.text tx)) ++
                entry "Children" ((some cs).map fun cs => .list (Style.json.treeDocuments cs)) ++
                entry "Properties" (ps.map fun ps => .list (Style.json.propertyDocuments ps)) :=
            List.mem_append_left _ (List.mem_append_right _ List.mem_cons_self)
          have hdoc : Style.json.treeDocument c ∈ Style.json.treeDocuments cs := by
            rw [Style.treeDocuments_eq_map]
            exact List.mem_map_of_mem hc
          have hitem := filledDepth_lt_of_mem_list hdoc
          have hlist := filledDepth_lt_of_mem_map hmem
          have hc := ih c hc
          rw [treeDocument_json]
          omega

end Document

/-! ## there and back -/

namespace Tree

/-- A tree within the limit of the reader is written. -/
theorem toJson_eq {t : Tree} (h : (Style.json.treeDocument t).filledDepth ≤ Limits.readDepth) :
    t.toJson = .ok (Json.write (Style.json.treeDocument t)) := by
  have hread : Limits.readDepth = 200 := rfl
  have hlevels : ¬ Limits.listLevels < t.propertyLevels := by
    have hle := propertyLevels_le_filledDepth t
    have hlimit : Limits.listLevels = 980 := rfl
    omega
  have hdepth : ¬ Limits.jsonDepth < (Style.json.treeDocument t).depth := by
    have hle := depth_le_filledDepth (Style.json.treeDocument t)
    have hlimit : Limits.jsonDepth = 980 := rfl
    omega
  rw [toJson, if_neg hlevels, ofTree_eq_treeDocument rfl]
  exact if_neg hdepth

/-- A plain tree within the limit of the reader is read back. -/
theorem ofJson_write {t : Tree} (hplain : t.isPlain = true)
    (h : (Style.json.treeDocument t).filledDepth ≤ Limits.readDepth) :
    ofJson (Json.write (Style.json.treeDocument t)) = .ok t := by
  rw [ofJson, Json.read_write (isTextual_treeDocument t hplain) h]
  exact Decode.tree_treeDocument t [] hplain

/-- Whatever a tree is read from, it is plain and within the limit of the reader. -/
theorem fits_of_ofJson {s : String} {t : Tree} (h : ofJson s = .ok t) :
    t.isPlain = true ∧ (Style.json.treeDocument t).filledDepth ≤ Limits.readDepth := by
  rw [ofJson] at h
  split at h
  · cases h
  · next d hd =>
      obtain ⟨hplain, hdepth⟩ := Decode.decodes t [] d h
      exact ⟨hplain, Nat.le_trans hdepth (Json.filledDepth_le_of_read hd)⟩

/-- **JSON there and back**: a tree survives exactly if it is plain and its document is within the limit of
the reader, and whatever text a tree was read from, writing it gives a text that is read as the same
tree and written as itself. -/
theorem json_roundTrip :
    (∀ t : Tree, (∃ s, t.toJson = .ok s ∧ ofJson s = .ok t) ↔
      t.isPlain = true ∧ ∃ d, ofTree .json t = .ok d ∧ d.filledDepth ≤ Limits.readDepth) ∧
    ∀ (s : String) (t : Tree), ofJson s = .ok t →
      ∃ s', t.toJson = .ok s' ∧ ofJson s' = .ok t ∧ ∀ t', ofJson s' = .ok t' → t'.toJson = .ok s' := by
  constructor
  · intro t
    rw [ofTree_eq_treeDocument rfl]
    constructor
    · rintro ⟨s, -, hs⟩
      obtain ⟨hplain, hdepth⟩ := fits_of_ofJson hs
      exact ⟨hplain, _, rfl, hdepth⟩
    · rintro ⟨hplain, d, hd, hdepth⟩
      cases hd
      exact ⟨_, toJson_eq hdepth, ofJson_write hplain hdepth⟩
  · intro s t h
    obtain ⟨hplain, hdepth⟩ := fits_of_ofJson h
    refine ⟨_, toJson_eq hdepth, ofJson_write hplain hdepth, fun t' ht' => ?_⟩
    rw [ofJson_write hplain hdepth] at ht'
    cases ht'
    exact toJson_eq hdepth

/-- A text with second names, an unknown entry, escapes, nothing for a name, and loose white space. -/
def looseText : String :=
  "\x7b \"text\": \"a\\u00e9\\ud83d\\ude00\\n\",\t\"x\": [\"y\"],\n \"properties\": " ++
    "[\x7b\x7d, \x7b\"Name\": null, \"value\": []\x7d], \"type_name\": \"T\" \x7d"

/-- The document in it. -/
def looseDocument : Document :=
  .map [("text", .text "aé😀\n"), ("x", .list [.text "y"]),
    ("properties", .list [.map [], .map [("Name", .null), ("value", .list [])]]),
    ("type_name", .text "T")]

/-- The tree that is read from it. -/
def looseTree : Tree :=
  .node "T" "aé😀\n" none (some [.mk none .absent, .mk none (.list [])])

set_option maxRecDepth 4000 in
theorem read_looseText : Json.read Limits.readDepth looseText.toList = some looseDocument := by
  rfl

theorem ofDocument_looseDocument : ofDocument looseDocument = .ok looseTree := by
  simp [ofDocument, looseDocument, Decode.tree, Decode.typeName, Decode.nodeText, Decode.children,
    Decode.nodeProperties, Decode.properties, Decode.property, Decode.name, Decode.value, Decode.field?,
    Decode.text, Document.lookup?, Decode.both, Except.map, looseTree]

theorem json_roundTrip_loose :
    ofJson looseText = .ok looseTree ∧ looseTree.isPlain = true ∧
      ∃ s', looseTree.toJson = .ok s' ∧ ofJson s' = .ok looseTree := by
  have hread : ofJson looseText = .ok looseTree := by
    rw [ofJson, read_looseText]
    exact ofDocument_looseDocument
  obtain ⟨s', hwritten, hagain, -⟩ := json_roundTrip.2 looseText looseTree hread
  have hplain := ((json_roundTrip.1 looseTree).mp ⟨s', hwritten, hagain⟩).1
  exact ⟨hread, hplain, s', hwritten, hagain⟩

end Tree

end QueryTree
