import QueryTree.Proofs.Document
import QueryTree.Proofs.Json.Reading
import QueryTree.Tree.Decode

/-!
# QueryTree.Proofs.Decoding

Decoding against the documents of trees.

A tree is *plain* if the values of its properties are texts, lists or absent.

* `Tree.Decode.tree_treeDocument` — a plain tree is decoded from its own document, in every
  field at every level, with absent and empty apart;
* `Tree.Decode.decodes` — whatever is decoded, from any document, is plain, and its own
  document nests no deeper than the one it came from.
-/

namespace QueryTree

/-! ## plain trees -/

namespace Property

mutual

/-- Whether the value of a property is plain. -/
def isPlain : Property → Bool
  | .mk _ v => isPlainValue v

/-- Whether a value is absent, a text or a list of plain properties. -/
def isPlainValue : PropertyValue → Bool
  | .absent => true
  | .text _ => true
  | .list items => arePlain items
  | .other _ => false

/-- Whether the values of several properties are plain. -/
def arePlain : List Property → Bool
  | [] => true
  | p :: ps => isPlain p && arePlain ps

end

end Property

namespace Tree

/-- Whether the properties of one node are plain. -/
def arePlainProperties : Option (List Property) → Bool
  | none => true
  | some ps => Property.arePlain ps

mutual

/-- Whether the properties of every node are plain. -/
def isPlain : Tree → Bool
  | .node _ _ none ps => arePlainProperties ps
  | .node _ _ (some cs) ps => arePlain cs && arePlainProperties ps

/-- Whether the properties of every node of several trees are plain. -/
def arePlain : List Tree → Bool
  | [] => true
  | t :: ts => isPlain t && arePlain ts

end

theorem arePlain_iff {ts : List Tree} : arePlain ts = true ↔ ∀ t ∈ ts, t.isPlain = true := by
  induction ts with
  | nil => simp [arePlain]
  | cons t ts ih => rw [arePlain, Bool.and_eq_true, ih, List.forall_mem_cons]

theorem isPlain_node {ty tx : String} {cs : Option (List Tree)} {ps : Option (List Property)} :
    isPlain (.node ty tx cs ps) = true ↔
      (∀ c ∈ cs.getD [], c.isPlain = true) ∧ arePlainProperties ps = true := by
  cases cs with
  | none => simp [isPlain]
  | some cs => rw [isPlain, Bool.and_eq_true, arePlain_iff, Option.getD_some]

end Tree

/-! ## what JSON leaves out -/

namespace Document

/-- The entry for a field, or none if the field is absent. -/
def entry (key : String) : Option Document → List (String × Document)
  | none => []
  | some d => [(key, d)]

theorem mem_entry {key : String} {o : Option Document} {e : String × Document} (h : e ∈ entry key o) :
    o = some e.2 := by
  cases o with
  | none => cases h
  | some d => rw [List.mem_singleton.mp h]

/-- The document of a value, if there is one. -/
def ofValue? : PropertyValue → Option Document
  | .absent => none
  | .text s => some (.text s)
  | .list items => some (.list (Style.json.propertyDocuments items))
  | .other x => some x.document

theorem textEntry_json (key text : String) :
    Style.json.textEntry key text = entry key (some (.text text)) := rfl

theorem nameEntry_json (n : Option String) : Style.json.nameEntry n = entry "Name" (n.map .text) := by
  cases n <;> rfl

theorem valueEntries_json (v : PropertyValue) : Style.json.valueEntries v = entry "Value" (ofValue? v) := by
  cases v <;> rw [Style.valueEntries] <;> rfl

theorem propertiesEntries_json (ps : Option (List Property)) :
    Style.json.propertiesEntries ps =
      entry "Properties" (ps.map fun ps => .list (Style.json.propertyDocuments ps)) := by
  cases ps <;> rfl

theorem childrenEntries_json (cs : Option (List Tree)) :
    Style.json.childrenEntries cs =
      entry "Children" (cs.map fun cs => .list (Style.json.treeDocuments cs)) := by
  cases cs <;> rw [Style.childrenEntries] <;> rfl

/-- The document of a property leaves out what is absent, and nothing else. -/
theorem propertyDocument_json (n : Option String) (v : PropertyValue) :
    Style.json.propertyDocument (.mk n v) =
      .map (entry "Name" (n.map .text) ++ entry "Value" (ofValue? v)) := by
  rw [Style.propertyDocument, nameEntry_json, valueEntries_json]

/-- The document of a node leaves out what is absent, and nothing else. -/
theorem treeDocument_json (ty tx : String) (cs : Option (List Tree)) (ps : Option (List Property)) :
    Style.json.treeDocument (.node ty tx cs ps) =
      .map (entry "TypeName" (some (.text ty)) ++ entry "Text" (some (.text tx)) ++
        entry "Children" (cs.map fun cs => .list (Style.json.treeDocuments cs)) ++
        entry "Properties" (ps.map fun ps => .list (Style.json.propertyDocuments ps))) := by
  rw [Style.treeDocument, textEntry_json, childrenEntries_json, propertiesEntries_json]
  rfl

/-- Of two mappings one after the other, the second wins. -/
theorem lookup?_append (key : String) (xs ys : List (String × Document)) :
    lookup? key (xs ++ ys) = (lookup? key ys).or (lookup? key xs) := by
  induction xs with
  | nil => simp [lookup?]
  | cons x xs ih =>
      rw [List.cons_append, lookup?, lookup?, ih]
      cases lookup? key ys <;> rfl

theorem lookup?_entry (key k : String) (o : Option Document) :
    lookup? key (entry k o) = if k = key then o else none := by
  cases o <;> simp [entry, lookup?]

end Document

namespace Tree.Decode

open Document

/-! ## checks and fields -/

theorem both_eq_ok {α β : Type} {a : Checked α} {b : Checked β} {x : α} {y : β}
    (h : both a b = .ok (x, y)) : a = .ok x ∧ b = .ok y := by
  unfold both at h
  split at h <;> cases h
  exact ⟨rfl, rfl⟩

theorem map_eq_ok {α β : Type} {a : Checked α} {f : α → β} {y : β} (h : a.map f = .ok y) :
    ∃ x, a = .ok x ∧ f x = y := by
  cases a with
  | error fs => cases h
  | ok x => exact ⟨x, rfl, Except.ok.inj h⟩

section Fields

variable {first : String} {entries : List (String × Document)}

theorem field?_eq_first {d : Document} (second : String) (h : lookup? first entries = some d) :
    ∃ hd, field? first second entries = some (first, ⟨d, hd⟩) := by
  refine ⟨Document.sizeOf_lt_of_lookup?_eq_some h, ?_⟩
  unfold field?
  split
  · next d' h' =>
      cases h.symm.trans h'
      rfl
  · next h' => cases h.symm.trans h'

theorem field?_eq_none {second : String} (h : lookup? first entries = none) (h' : lookup? second entries = none) :
    field? first second entries = none := by
  unfold field?
  split
  · next hd => cases h.symm.trans hd
  · split
    · next hd => cases h'.symm.trans hd
    · rfl

/-- A field that is present nests less deep than the mapping it is in. -/
theorem filledDepth_lt_of_field? {k second : String} {d : { d : Document // sizeOf d < sizeOf entries }}
    (h : field? first second entries = some (k, d)) :
    d.val.filledDepth < Document.filledDepth (.map entries) := by
  have hlookup {key : String} (hd : lookup? key entries = some d.val) :
      d.val.filledDepth < Document.filledDepth (.map entries) := by
    obtain ⟨k', hmem⟩ := Document.exists_mem_of_lookup?_eq_some hd
    exact Document.filledDepth_lt_of_mem_map hmem
  unfold field? at h
  split at h
  · next hd =>
      cases h
      exact hlookup hd
  · split at h
    · next hd =>
        cases h
        exact hlookup hd
    · cases h

end Fields

/-! ## from the document of a tree -/

theorem name_eq {entries : List (String × Document)} (n : Option String) (path : List Step)
    (h : lookup? "Name" entries = n.map .text) (h' : lookup? "name" entries = none) :
    name path entries = .ok n := by
  cases n with
  | none => rw [name, field?_eq_none h h']
  | some n =>
      obtain ⟨hd, hfield⟩ := field?_eq_first "name" h
      rw [name, hfield]
      rfl

mutual

theorem property_propertyDocument :
    ∀ (p : Property) (path : List Step), p.isPlain = true →
      property path (Style.json.propertyDocument p) = .ok p
  | .mk n v, path, h => by
      rw [propertyDocument_json, property, name_eq n, value_ofValue? v path _ h]
      · rfl
      -- left are the look-ups in the document, each under a key of its own
      all_goals simp [lookup?_append, lookup?_entry]

theorem value_ofValue? :
    ∀ (v : PropertyValue) (path : List Step) (entries : List (String × Document)),
      Property.isPlainValue v = true → lookup? "Value" entries = ofValue? v →
        lookup? "value" entries = none → value path entries = .ok v
  | .absent, path, entries, _, h, h' => by rw [value, field?_eq_none h h']
  | .text s, path, entries, _, h, _ => by
      obtain ⟨hd, hfield⟩ := field?_eq_first "value" h
      rw [value, hfield]
  | .list items, path, entries, hplain, h, _ => by
      obtain ⟨hd, hfield⟩ := field?_eq_first "value" h
      have hitems := fun path => properties_propertyDocuments items path 0 hplain
      rw [value, hfield]
      simp only [hitems]

theorem properties_propertyDocuments :
    ∀ (ps : List Property) (path : List Step) (i : Nat), Property.arePlain ps = true →
      properties path i (Style.json.propertyDocuments ps) = .ok ps
  | [], _, _, _ => by rw [Style.propertyDocuments, properties]
  | p :: ps, path, i, h => by
      rw [Property.arePlain, Bool.and_eq_true] at h
      rw [Style.propertyDocuments, properties, property_propertyDocument p _ h.1,
        properties_propertyDocuments ps path (i + 1) h.2]
      rfl

end

theorem typeName_eq {entries : List (String × Document)} (ty : String) (path : List Step)
    (h : lookup? "TypeName" entries = some (.text ty)) : typeName path entries = .ok ty := by
  obtain ⟨hd, hfield⟩ := field?_eq_first "type_name" h
  rw [typeName, hfield]
  rfl

theorem nodeText_eq {entries : List (String × Document)} (tx : String) (path : List Step)
    (h : lookup? "Text" entries = some (.text tx)) : nodeText path entries = .ok tx := by
  obtain ⟨hd, hfield⟩ := field?_eq_first "text" h
  rw [nodeText, hfield]
  rfl

theorem nodeProperties_eq {entries : List (String × Document)} (ps : Option (List Property))
    (path : List Step) (hplain : arePlainProperties ps = true)
    (h : lookup? "Properties" entries = ps.map fun ps => .list (Style.json.propertyDocuments ps))
    (h' : lookup? "properties" entries = none) : nodeProperties path entries = .ok ps := by
  cases ps with
  | none => rw [nodeProperties, field?_eq_none h h']
  | some ps =>
      obtain ⟨hd, hfield⟩ := field?_eq_first "properties" h
      rw [nodeProperties, hfield]
      simp only [properties_propertyDocuments ps _ 0 hplain]
      rfl

/-- The children of a node are decoded if each of them is. -/
theorem children_eq {entries : List (String × Document)} (cs : Option (List Tree)) (path : List Step)
    (hcs : ∀ c ∈ cs.getD [], ∀ path, tree path (Style.json.treeDocument c) = .ok c)
    (h : lookup? "Children" entries = cs.map fun cs => .list (Style.json.treeDocuments cs))
    (h' : lookup? "children" entries = none) : children path entries = .ok cs := by
  have htrees (cs : List Tree) (hcs : ∀ c ∈ cs, ∀ path, tree path (Style.json.treeDocument c) = .ok c)
      (path : List Step) (i : Nat) : trees path i (Style.json.treeDocuments cs) = .ok cs := by
    induction cs generalizing i with
    | nil => rw [Style.treeDocuments, trees]
    | cons c cs ih =>
        rw [List.forall_mem_cons] at hcs
        rw [Style.treeDocuments, trees, hcs.1, ih hcs.2]
        rfl
  cases cs with
  | none => rw [children, field?_eq_none h h']
  | some cs =>
      obtain ⟨hd, hfield⟩ := field?_eq_first "children" h
      rw [children, hfield]
      simp only [htrees cs hcs]
      rfl

/-- **Decoding the document of a tree** gives the tree, if it is plain. -/
theorem tree_treeDocument (t : Tree) (path : List Step) (h : t.isPlain = true) :
    tree path (Style.json.treeDocument t) = .ok t := by
  induction t using Tree.induction_on_children generalizing path with
  | h ty tx cs ps ih =>
      obtain ⟨hcs, hps⟩ := isPlain_node.mp h
      rw [treeDocument_json, tree, typeName_eq ty, nodeText_eq tx,
        children_eq cs path fun c hc path => ih c hc path (hcs c hc), nodeProperties_eq ps path hps]
      · rfl
      all_goals simp [lookup?_append, lookup?_entry]

/-! ## from any document -/

/-- A property comes from a mapping, field by field. -/
theorem property_eq_ok {path : List Step} {d : Document} {n : Option String} {v : PropertyValue}
    (h : property path d = .ok (.mk n v)) :
    ∃ entries, d = .map entries ∧ name path entries = .ok n ∧ value path entries = .ok v := by
  cases d with
  | map entries =>
      rw [property] at h
      obtain ⟨⟨n', v'⟩, hboth, hmk⟩ := map_eq_ok h
      cases hmk
      exact ⟨entries, rfl, both_eq_ok hboth⟩
  | _ =>
      rw [property] at h
      cases h
      all_goals simp

/-- A node comes from a mapping, field by field. -/
theorem tree_eq_ok {path : List Step} {d : Document} {ty tx : String} {cs : Option (List Tree)}
    {ps : Option (List Property)} (h : tree path d = .ok (.node ty tx cs ps)) :
    ∃ entries, d = .map entries ∧ typeName path entries = .ok ty ∧ children path entries = .ok cs ∧
      nodeProperties path entries = .ok ps := by
  cases d with
  | map entries =>
      rw [tree] at h
      obtain ⟨⟨⟨ty', tx'⟩, cs', ps'⟩, hboth, hnode⟩ := map_eq_ok h
      cases hnode
      obtain ⟨htexts, hlists⟩ := both_eq_ok hboth
      exact ⟨entries, rfl, (both_eq_ok htexts).1, both_eq_ok hlists⟩
  | _ =>
      rw [tree] at h
      cases h
      all_goals simp

/-- A value comes from no field, or from one that is a text or a list of properties. -/
theorem value_eq_ok {path : List Step} {entries : List (String × Document)} {v : PropertyValue}
    (h : value path entries = .ok v) :
    v = .absent ∨
      (∃ s k d, field? "Value" "value" entries = some (k, d) ∧ v = .text s) ∨
      ∃ k d path' items ps, field? "Value" "value" entries = some (k, d) ∧ d.val = .list items ∧
        properties path' 0 items = .ok ps ∧ v = .list ps := by
  rw [value] at h
  split at h
  · exact .inl (Except.ok.inj h).symm
  · exact .inl (Except.ok.inj h).symm
  · next s _ hfield => exact .inr (.inl ⟨s, _, _, hfield, (Except.ok.inj h).symm⟩)
  · next hfield =>
      simp only at h
      split at h
      · next ps hitems =>
          exact .inr (.inr ⟨_, _, _, _, ps, hfield, rfl, hitems, (Except.ok.inj h).symm⟩)
      · cases h
  · cases h

section Depth

variable {path : List Step} {entries : List (String × Document)}

theorem filledDepth_pos_of_typeName {ty : String} (h : typeName path entries = .ok ty) :
    0 < filledDepth (.map entries) := by
  unfold typeName at h
  split at h
  · next hfield => exact Nat.zero_lt_of_lt (filledDepth_lt_of_field? hfield)
  · cases h

theorem filledDepth_pos_of_name {n : String} (h : name path entries = .ok (some n)) :
    0 < filledDepth (.map entries) := by
  unfold name at h
  split at h
  · cases h
  · next hfield => exact Nat.zero_lt_of_lt (filledDepth_lt_of_field? hfield)
  · cases h

mutual

theorem property_fits :
    ∀ (p : Property) (path : List Step) (d : Document), property path d = .ok p →
      p.isPlain = true ∧ (Style.json.propertyDocument p).filledDepth ≤ d.filledDepth
  | .mk n v, path, d, h => by
      obtain ⟨entries, rfl, hname, hvalue⟩ := property_eq_ok h
      obtain ⟨hplain, hdepth⟩ := value_fits v path entries hvalue
      refine ⟨hplain, ?_⟩
      rw [propertyDocument_json]
      refine filledDepth_map_le fun e he => ?_
      obtain he | he := List.mem_append.mp he
      · obtain ⟨n', rfl, hn'⟩ := Option.map_eq_some_iff.mp (mem_entry he)
        rw [← hn']
        exact filledDepth_pos_of_name hname
      · exact hdepth e.2 (mem_entry he)

theorem value_fits :
    ∀ (v : PropertyValue) (path : List Step) (entries : List (String × Document)),
      value path entries = .ok v → Property.isPlainValue v = true ∧
        ∀ d, ofValue? v = some d → d.filledDepth < filledDepth (.map entries)
  | .absent, _, _, _ => ⟨rfl, fun _ hd => by cases hd⟩
  | .text s, path, entries, h => by
      refine ⟨rfl, fun d hd => ?_⟩
      cases hd
      obtain h | ⟨_, _, _, hfield, _⟩ | ⟨_, _, _, _, _, _, _, _, h⟩ := value_eq_ok h
      · cases h
      · exact Nat.zero_lt_of_lt (filledDepth_lt_of_field? hfield)
      · cases h
  | .list ps, path, entries, h => by
      obtain h | ⟨_, _, _, _, h⟩ | ⟨k, d, path', items, ps', hfield, hd, hitems, h⟩ := value_eq_ok h
      · cases h
      · cases h
      · cases h
        obtain ⟨hplain, hdepths⟩ := properties_fit ps path' 0 items hitems
        refine ⟨hplain, fun c hc => ?_⟩
        cases hc
        have hlt := filledDepth_lt_of_field? hfield
        rw [hd] at hlt
        exact Nat.lt_of_le_of_lt (filledDepth_list_le_list hdepths) hlt
  | .other _, path, entries, h => by
      obtain h | ⟨_, _, _, _, h⟩ | ⟨_, _, _, _, _, _, _, _, h⟩ := value_eq_ok h <;> cases h

theorem properties_fit :
    ∀ (ps : List Property) (path : List Step) (i : Nat) (ds : List Document),
      properties path i ds = .ok ps → Property.arePlain ps = true ∧
        ∀ c ∈ Style.json.propertyDocuments ps, ∃ d ∈ ds, c.filledDepth ≤ d.filledDepth
  | [], _, _, _, _ => ⟨rfl, fun _ hc => nomatch hc⟩
  | p :: ps, path, i, [], h => by
      rw [properties] at h
      cases h
  | p :: ps, path, i, d :: ds, h => by
      rw [properties] at h
      obtain ⟨⟨p', ps'⟩, hboth, hcons⟩ := map_eq_ok h
      cases hcons
      obtain ⟨hp, hps⟩ := both_eq_ok hboth
      obtain ⟨hplain, hdepth⟩ := property_fits p _ d hp
      obtain ⟨hplains, hdepths⟩ := properties_fit ps path (i + 1) ds hps
      rw [Property.arePlain, hplain, hplains, Style.propertyDocuments]
      refine ⟨rfl, List.forall_mem_cons.mpr ⟨⟨d, List.mem_cons_self, hdepth⟩, fun c hc => ?_⟩⟩
      obtain ⟨d', hd', hle⟩ := hdepths c hc
      exact ⟨d', List.mem_cons_of_mem d hd', hle⟩

end

theorem nodeProperties_fit {ps : Option (List Property)} (h : nodeProperties path entries = .ok ps) :
    arePlainProperties ps = true ∧
      ∀ d, (ps.map fun ps => Document.list (Style.json.propertyDocuments ps)) = some d →
        d.filledDepth < filledDepth (.map entries) := by
  unfold nodeProperties at h
  split at h
  · cases h
    exact ⟨rfl, fun _ hd => by cases hd⟩
  · cases h
    exact ⟨rfl, fun _ hd => by cases hd⟩
  · next hfield =>
      obtain ⟨ps', hitems, rfl⟩ := map_eq_ok h
      obtain ⟨hplain, hdepths⟩ := properties_fit ps' _ 0 _ hitems
      refine ⟨hplain, fun d hd => ?_⟩
      cases hd
      exact Nat.lt_of_le_of_lt (filledDepth_list_le_list hdepths) (filledDepth_lt_of_field? hfield)
  · cases h

/-- What is to be shown of a tree: it is plain wherever it comes from, and nests no deeper there. -/
def Decodes (t : Tree) : Prop :=
  ∀ (path : List Step) (d : Document), tree path d = .ok t →
    t.isPlain = true ∧ (Style.json.treeDocument t).filledDepth ≤ d.filledDepth

theorem trees_fit {ts : List Tree} (hts : ∀ t ∈ ts, Decodes t) :
    ∀ (path : List Step) (i : Nat) (ds : List Document), trees path i ds = .ok ts →
      (∀ t ∈ ts, t.isPlain = true) ∧
        ∀ c ∈ Style.json.treeDocuments ts, ∃ d ∈ ds, c.filledDepth ≤ d.filledDepth := by
  induction ts with
  | nil => exact fun _ _ _ _ => ⟨List.forall_mem_nil _, List.forall_mem_nil _⟩
  | cons t ts ih =>
      intro path i ds h
      rw [List.forall_mem_cons] at hts
      cases ds with
      | nil =>
          rw [trees] at h
          cases h
      | cons d ds =>
          rw [trees] at h
          obtain ⟨⟨t', ts'⟩, hboth, hcons⟩ := map_eq_ok h
          cases hcons
          obtain ⟨ht, htrees⟩ := both_eq_ok hboth
          obtain ⟨hplain, hdepth⟩ := hts.1 _ d ht
          obtain ⟨hplains, hdepths⟩ := ih hts.2 path (i + 1) ds htrees
          rw [Style.treeDocuments]
          refine ⟨List.forall_mem_cons.mpr ⟨hplain, hplains⟩,
            List.forall_mem_cons.mpr ⟨⟨d, List.mem_cons_self, hdepth⟩, fun c hc => ?_⟩⟩
          obtain ⟨d', hd', hle⟩ := hdepths c hc
          exact ⟨d', List.mem_cons_of_mem d hd', hle⟩

theorem children_fit {cs : Option (List Tree)} (hcs : ∀ c ∈ cs.getD [], Decodes c)
    (h : children path entries = .ok cs) :
    (∀ c ∈ cs.getD [], c.isPlain = true) ∧
      ∀ d, (cs.map fun cs => Document.list (Style.json.treeDocuments cs)) = some d →
        d.filledDepth < filledDepth (.map entries) := by
  rw [children] at h
  split at h
  · cases h
    exact ⟨List.forall_mem_nil _, fun _ hd => by cases hd⟩
  · cases h
    exact ⟨List.forall_mem_nil _, fun _ hd => by cases hd⟩
  · next hfield =>
      obtain ⟨cs', hitems, rfl⟩ := map_eq_ok h
      obtain ⟨hplain, hdepths⟩ := trees_fit hcs _ 0 _ hitems
      refine ⟨hplain, fun d hd => ?_⟩
      cases hd
      exact Nat.lt_of_le_of_lt (filledDepth_list_le_list hdepths) (filledDepth_lt_of_field? hfield)
  · cases h

/-- **What can be decoded**: a tree that comes from any document is plain, and its own document nests no
deeper. -/
theorem decodes (t : Tree) : Decodes t := by
  induction t using Tree.induction_on_children with
  | h ty tx cs ps ih =>
      intro path d h
      obtain ⟨entries, rfl, htype, hchildren, hproperties⟩ := tree_eq_ok h
      obtain ⟨hplain, hdepth⟩ := children_fit ih hchildren
      obtain ⟨hplain', hdepth'⟩ := nodeProperties_fit hproperties
      refine ⟨isPlain_node.mpr ⟨hplain, hplain'⟩, ?_⟩
      rw [treeDocument_json]
      refine filledDepth_map_le fun e he => ?_
      simp only [List.mem_append] at he
      obtain ((he | he) | he) | he := he
      -- type and text are texts, and the mapping they come from has at least its type
      · rw [← Option.some.inj (mem_entry he)]
        exact filledDepth_pos_of_typeName htype
      · rw [← Option.some.inj (mem_entry he)]
        exact filledDepth_pos_of_typeName htype
      · exact hdepth e.2 (mem_entry he)
      · exact hdepth' e.2 (mem_entry he)

end Depth

end Tree.Decode

end QueryTree
