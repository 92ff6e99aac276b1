import QueryTree.Proofs.Decoding
import QueryTree.Proofs.Sparse
import QueryTree.Proofs.Yaml.Layout

/-!
# QueryTree.Proofs.Faithful

How faithfully YAML carries the document of a tree.

The reader of `QueryTree.Proofs.Yaml.Reader` shares with the writer the classes of characters and the
look-alikes of other types, and nothing else.  What it reads has the keys and the lists of the
document that was written, in the same order, and the texts that are carried:

* `heardEntries_eq_iff` — the entries that are read as themselves;
* `carriesEntries_of_depth` — texts without a next line, in a shallow document, are carried;
* `isOutlined_treeDocument` — the reader knows all that is in the document of a plain tree;
* `Tree.read_toYaml` — what is read from the YAML of a tree.
-/

namespace QueryTree

namespace Yaml

/-! ## documents that are read as themselves -/

mutual

/-- Whether every text is carried, in a value of a collection at `indent`. -/
def carries (place : Place) (indent : Nat) : Document → Bool
  | .text s => isCarried (indent + 2) s.toList
  | .list items => carriesItems (itemIndent place indent) items
  | .map entries => carriesEntries (indent + 2) entries
  | _ => true

/-- Whether every text is carried, in the items of a sequence at `indent`. -/
def carriesItems (indent : Nat) : List Document → Bool
  | [] => true
  | d :: ds => carries .beside indent d && carriesItems indent ds

/-- Whether every text is carried, in the entries of a mapping at `indent`. -/
def carriesEntries (indent : Nat) : List (String × Document) → Bool
  | [] => true
  | (_, d) :: es => carries .below indent d && carriesEntries indent es

end

mutual

theorem heard_eq_iff : ∀ (d : Document) (place : Place) (indent : Nat),
    heard place indent d = d ↔ carries place indent d = true
  | .text s, _, indent => by
      rw [heard, carries, ← heardText_eq_iff, Document.text.injEq, ← String.toList_inj, String.toList_ofList]
  | .list items, place, indent => by
      rw [heard, carries, Document.list.injEq]
      exact heardItems_eq_iff items _
  | .map entries, _, indent => by
      rw [heard, carries, Document.map.injEq]
      exact heardEntries_eq_iff entries _
  | .null, _, _ => by simp [heard, carries]
  | .bool _, _, _ => by simp [heard, carries]
  | .int _, _, _ => by simp [heard, carries]
  | .float _, _, _ => by simp [heard, carries]

theorem heardItems_eq_iff : ∀ (ds : List Document) (indent : Nat),
    heardItems indent ds = ds ↔ carriesItems indent ds = true
  | [], _ => by simp [heardItems, carriesItems]
  | d :: ds, indent => by
      rw [heardItems, carriesItems, List.cons.injEq, Bool.and_eq_true, heard_eq_iff d, heardItems_eq_iff ds]

/-- Entries are read as themselves if and only if every text in them is carried. -/
theorem heardEntries_eq_iff : ∀ (es : List (String × Document)) (indent : Nat),
    heardEntries indent es = es ↔ carriesEntries indent es = true
  | [], _ => by simp [heardEntries, carriesEntries]
  | (k, d) :: es, indent => by
      rw [heardEntries, carriesEntries, List.cons.injEq, Prod.mk.injEq, Bool.and_eq_true, heard_eq_iff d,
        heardEntries_eq_iff es, eq_self, true_and]

end

mutual

/-- Whether no text in a document has a next line. -/
def lacksNextLine : Document → Bool
  | .text s => s.toList.all fun c => c.toNat != 0x85
  | .list items => lackNextLine items
  | .map entries => holdNoNextLine entries
  | _ => true

/-- Whether no text in several documents has a next line. -/
def lackNextLine : List Document → Bool
  | [] => true
  | d :: ds => lacksNextLine d && lackNextLine ds

/-- Whether no text in the values of entries has a next line. -/
def holdNoNextLine : List (String × Document) → Bool
  | [] => true
  | (_, d) :: es => lacksNextLine d && holdNoNextLine es

end

mutual

-- A level of nesting takes two columns at most.
theorem carries_of_depth : ∀ (d : Document) (place : Place) (indent : Nat), lacksNextLine d = true →
    indent + 2 * d.depth + 2 < width → carries place indent d = true
  | .text s, _, indent, hd, hindent => by
      have hmargin : ¬ width ≤ indent + 2 := by omega
      rw [carries, isCarried]
      split
      · rfl
      · exact hd
      · simp [hmargin]
  | .list items, place, indent, hd, hindent => by
      rw [Document.depth] at hindent
      refine carriesItems_of_depth items _ hd ?_
      cases place <;> simp only [itemIndent] <;> omega
  | .map entries, _, indent, hd, hindent => by
      rw [Document.depth] at hindent
      exact carriesEntries_of_depth entries _ hd (by omega)
  | .null, _, _, _, _ => rfl
  | .bool _, _, _, _, _ => rfl
  | .int _, _, _, _, _ => rfl
  | .float _, _, _, _, _ => rfl

theorem carriesItems_of_depth : ∀ (ds : List Document) (indent : Nat), lackNextLine ds = true →
    indent + 2 * Document.depthOfItems ds + 2 < width → carriesItems indent ds = true
  | [], _, _, _ => rfl
  | d :: ds, indent, hds, hindent => by
      rw [lackNextLine, Bool.and_eq_true] at hds
      rw [Document.depthOfItems] at hindent
      rw [carriesItems, carries_of_depth d _ _ hds.1 (by omega), carriesItems_of_depth ds _ hds.2 (by omega)]
      rfl

/-- Texts without a next line are carried where there is room. -/
theorem carriesEntries_of_depth : ∀ (es : List (String × Document)) (indent : Nat), holdNoNextLine es = true →
    indent + 2 * Document.depthOfEntries es + 2 < width → carriesEntries indent es = true
  | [], _, _, _ => rfl
  | (_, d) :: es, indent, hes, hindent => by
      rw [holdNoNextLine, Bool.and_eq_true] at hes
      rw [Document.depthOfEntries] at hindent
      rw [carriesEntries, carries_of_depth d _ _ hes.1 (by omega),
        carriesEntries_of_depth es _ hes.2 (by omega)]
      rfl

end

/-! ## documents of trees -/

theorem holdOutlined_append (es fs : List (String × Document)) :
    holdOutlined (es ++ fs) = (holdOutlined es && holdOutlined fs) := by
  induction es with
  | nil => rfl
  | cons e es ih => simp only [List.cons_append, holdOutlined, ih, Bool.and_assoc]

/-- An entry that may be left out. -/
theorem holdOutlined_ite {k : String} (hk : isPlainKey k = true) {d : Document} (hd : isOutlined d = true)
    (b : Bool) : holdOutlined (if b then [(k, d)] else []) = true := by
  cases b with
  | false => rfl
  | true => simp [holdOutlined, hk, hd]

theorem keys_ite_sublist (k : String) (d : Document) (b : Bool) :
    ((if b then [(k, d)] else []).map Prod.fst).Sublist [k] := by
  cases b with
  | false => exact List.nil_sublist _
  | true => exact List.Sublist.refl _

theorem isOutlined_list {ds : List Document} (h : areOutlined ds = true) : isOutlined (.list ds) = true := h

/-- Keys in a fixed order are different. -/
theorem isOutlined_map (keys : List String) (hkeys : keys.Nodup) {es : List (String × Document)}
    (hsublist : (es.map Prod.fst).Sublist keys) (hes : holdOutlined es = true) :
    isOutlined (.map es) = true := by
  rw [isOutlined, hes, Bool.true_and, decide_eq_true_eq]
  exact hkeys.sublist hsublist

section Style

variable (s : Document.Style)

theorem holdOutlined_nameEntry (name : Option String) : holdOutlined (s.nameEntry name) = true := by
  cases name with
  | none => rfl
  | some name => exact holdOutlined_ite (by decide) rfl _

theorem keys_nameEntry_sublist (name : Option String) :
    ((s.nameEntry name).map Prod.fst).Sublist ["Name"] := by
  cases name with
  | none => exact List.nil_sublist _
  | some name => exact keys_ite_sublist _ _ _

theorem keys_valueEntries_sublist (v : PropertyValue) :
    ((s.valueEntries v).map Prod.fst).Sublist ["Value"] := by
  cases v with
  | absent => exact List.nil_sublist _
  | text t => exact keys_ite_sublist _ _ _
  | list items => exact keys_ite_sublist _ _ _
  | other d => exact keys_ite_sublist _ _ _

mutual

theorem isOutlined_propertyDocument : ∀ p : Property, p.isPlain = true →
    isOutlined (s.propertyDocument p) = true
  | .mk name value, h => by
      refine isOutlined_map ["Name", "Value"] (by decide) ?_ ?_
      · rw [List.map_append]
        exact (keys_nameEntry_sublist s name).append (keys_valueEntries_sublist s value)
      · rw [holdOutlined_append, holdOutlined_nameEntry, holdOutlined_valueEntries value h]
        rfl

theorem holdOutlined_valueEntries : ∀ v : PropertyValue, Property.isPlainValue v = true →
    holdOutlined (s.valueEntries v) = true
  | .absent, _ => rfl
  | .text _, _ => holdOutlined_ite (by decide) rfl _
  | .list items, h => holdOutlined_ite (by decide) (isOutlined_list (areOutlined_propertyDocuments items h)) _

theorem areOutlined_propertyDocuments : ∀ ps : List Property, Property.arePlain ps = true →
    areOutlined (s.propertyDocuments ps) = true
  | [], _ => rfl
  | .mk name value :: ps, h => by
      rw [Property.arePlain, Bool.and_eq_true] at h
      rw [Document.Style.propertyDocuments, areOutlined, isOutlined_propertyDocument _ h.1,
        areOutlined_propertyDocuments ps h.2]
      rfl

end

theorem holdOutlined_propertiesEntries (ps : Option (List Property))
    (h : Tree.arePlainProperties ps = true) : holdOutlined (s.propertiesEntries ps) = true := by
  cases ps with
  | none => rfl
  | some ps => exact holdOutlined_ite (by decide) (isOutlined_list (areOutlined_propertyDocuments s ps h)) _

theorem keys_propertiesEntries_sublist (ps : Option (List Property)) :
    ((s.propertiesEntries ps).map Prod.fst).Sublist ["Properties"] := by
  cases ps with
  | none => exact List.nil_sublist _
  | some ps => exact keys_ite_sublist _ _ _

theorem keys_childrenEntries_sublist (cs : Option (List Tree)) :
    ((s.childrenEntries cs).map Prod.fst).Sublist ["Children"] := by
  cases cs with
  | none => exact List.nil_sublist _
  | some cs => exact keys_ite_sublist _ _ _

/-- The reader knows all that is in the document of a node if it does so for the children. -/
theorem isOutlined_treeDocument_node {ty tx : String} {cs : Option (List Tree)} {ps : Option (List Property)}
    (hcs : holdOutlined (s.childrenEntries cs) = true) (hps : Tree.arePlainProperties ps = true) :
    isOutlined (s.treeDocument (.node ty tx cs ps)) = true := by
  have htext : holdOutlined (s.textEntry "Text" tx) = true := holdOutlined_ite (by decide) rfl _
  rw [Document.Style.treeDocument]
  refine isOutlined_map ["TypeName", "Text", "Children", "Properties"] (by decide) ?_ ?_
  · simp only [List.cons_append, List.map_cons, List.map_append, List.append_assoc]
    exact ((keys_ite_sublist _ _ _).append ((keys_childrenEntries_sublist s cs).append
      (keys_propertiesEntries_sublist s ps))).cons_cons _
  · have hkey : isPlainKey "TypeName" = true := by decide
    simp only [List.cons_append, holdOutlined, holdOutlined_append, hkey, isOutlined, htext, hcs,
      holdOutlined_propertiesEntries s ps hps, Bool.and_self]

mutual

/-- The reader knows all that is in the document of a plain tree. -/
theorem isOutlined_treeDocument : ∀ t : Tree, t.isPlain = true → isOutlined (s.treeDocument t) = true
  | .node _ _ none _, h => isOutlined_treeDocument_node s rfl h
  | .node _ _ (some cs) _, h => by
      rw [Tree.isPlain, Bool.and_eq_true] at h
      have hcs := isOutlined_list (areOutlined_treeDocuments cs h.1)
      exact isOutlined_treeDocument_node s (holdOutlined_ite (by decide) hcs _) h.2

theorem areOutlined_treeDocuments : ∀ ts : List Tree, Tree.arePlain ts = true →
    areOutlined (s.treeDocuments ts) = true
  | [], _ => rfl
  | .node ty tx cs ps :: ts, h => by
      rw [Tree.arePlain, Bool.and_eq_true] at h
      rw [Document.Style.treeDocuments, areOutlined, isOutlined_treeDocument _ h.1,
        areOutlined_treeDocuments ts h.2]
      rfl

end

end Style

end Yaml

/-! ## trees -/

theorem Tree.exists_treeDocument_eq (s : Document.Style) (t : Tree) :
    ∃ e es, s.treeDocument t = .map (e :: es) := by
  cases t with
  | node ty tx cs ps => exact ⟨_, _, rfl⟩

/-- A document within the limits is written. -/
theorem Tree.toYaml_eq_write {t : Tree} {ceiling : Int} {d : Document}
    (hyaml : Document.ofTree (.yaml ceiling) t = .ok d) (hdepth : d.depth ≤ Limits.yamlDepth) :
    t.toYaml ceiling = .ok (Yaml.write d) := by
  rw [toYaml, hyaml]
  exact if_neg (Nat.not_lt.mpr hdepth)

/-- **YAML tells the tree**: the document of a plain tree that is within the limits is written, and is
read with the same keys and lists in the same order, and the texts as they are heard.  It is read as
itself if and only if every text is carried; all are if none has a next line and the document nests
fewer than forty deep. -/
theorem Tree.read_toYaml (t : Tree) (hplain : t.isPlain = true) (ceiling : Int) (d : Document)
    (hyaml : Document.ofTree (.yaml ceiling) t = .ok d) (hdepth : d.depth ≤ Limits.yamlDepth) :
    ∃ text entries, t.toYaml ceiling = .ok text ∧ d = .map entries ∧
      Yaml.read text = some (.map (Yaml.heardEntries 0 entries)) ∧
      (Yaml.read text = some d ↔ Yaml.carriesEntries 0 entries = true) ∧
      (Yaml.lacksNextLine d = true → d.depth < 40 → Yaml.read text = some d) := by
  obtain rfl := Document.eq_treeDocument_of_ofTree_yaml hyaml
  have houtlined := Yaml.isOutlined_treeDocument .sparse t hplain
  obtain ⟨e, es, hdocument⟩ := t.exists_treeDocument_eq .sparse
  rw [hdocument] at hyaml hdepth houtlined ⊢
  have hwritten := toYaml_eq_write hyaml hdepth
  have hread := Yaml.read_write_map houtlined
  have hself : Yaml.read (Yaml.write (.map (e :: es))) = some (.map (e :: es)) ↔
      Yaml.carriesEntries 0 (e :: es) = true := by
    rw [hread, Option.some_inj, Document.map.injEq, Yaml.heardEntries_eq_iff]
  refine ⟨_, _, hwritten, rfl, hread, hself, fun hnextLine hshallow => hself.mpr ?_⟩
  rw [Document.depth] at hshallow
  exact Yaml.carriesEntries_of_depth _ 0 hnextLine (by rw [Yaml.width]; omega)

/-- A tree whose texts have breaks, quotes, escapes, loose ends and words longer than a line, or look like
values of other types; one has a next line in double quotes. -/
def Tree.unruly : Tree :=
  .node "Select" " a\n\n b: 'c' # d\u2028"
    (some [.node "null" "1_000" none none, .node "yes\u0007 \u0085" "" (some []) none])
    (some [.mk none .absent, .mk (some "- a") (.list [.mk (some "é\n") (.text
      "a-word-that-is-longer-than-the-eighty-columns-of-a-line-and-so-is-broken-after-it-only and more")])])

theorem Tree.read_toYaml_unruly :
    Tree.unruly.isPlain = true ∧ ∃ d text, Document.ofTree (.yaml 7) Tree.unruly = .ok d ∧
      d.depth ≤ Limits.yamlDepth ∧ Tree.unruly.toYaml 7 = .ok text ∧ Yaml.read text = some d := by
  have hplain : Tree.unruly.isPlain = true := by decide
  have hyaml : Document.ofTree (.yaml 7) Tree.unruly = .ok (Document.Style.sparse.treeDocument Tree.unruly) := by
    rw [Document.ofTree_within rfl]
    rfl
  have hdepth : (Document.Style.sparse.treeDocument Tree.unruly).depth ≤ Limits.yamlDepth := by decide +kernel
  obtain ⟨text, entries, htext, hentries, -, hself, -⟩ :=
    Tree.read_toYaml Tree.unruly hplain 7 _ hyaml hdepth
  obtain rfl := Document.map.inj hentries
  exact ⟨hplain, _, text, hyaml, hdepth, htext, hself.mpr (by decide +kernel)⟩

/-- Nodes around a tree, each the only child of the one before. -/
def Tree.sunken (t : Tree) : Nat → Tree
  | 0 => t
  | n + 1 => .node "" "" (some [t.sunken n]) none

/-- A bell before a blank, in a margin of eighty columns. -/
def Tree.distantBell : Tree := Tree.sunken (.node "a\u0007 b" "" none none) 39

/-- A next line in single quotes is read as a blank, and the text of `distantBell` as another one. -/
theorem Tree.read_toYaml_nextLine :
    ((Tree.node "a\u0085b" "" none none).toYaml 500 = .ok "TypeName: 'a\u0085  b'\n" ∧
      Yaml.read "TypeName: 'a\u0085  b'\n" = some (.map [("TypeName", .text "a b")])) ∧
    ∃ d text, Document.ofTree (.yaml 500) Tree.distantBell = .ok d ∧
      Tree.distantBell.toYaml 500 = .ok text ∧ Yaml.read text ≠ some d := by
  constructor
  · have hyaml : Document.ofTree (.yaml 500) (.node "a\u0085b" "" none none) =
        .ok (.map [("TypeName", .text "a\u0085b")]) := by
      rw [Document.ofTree_within rfl]
      rfl
    have hwrite : Yaml.write (.map [("TypeName", .text "a\u0085b")]) = "TypeName: 'a\u0085  b'\n" := by
      decide
    rw [Tree.toYaml_eq_write hyaml (by decide), ← hwrite, Yaml.read_write_map (by decide)]
    exact ⟨rfl, rfl⟩
  · have hyaml : Document.ofTree (.yaml 500) Tree.distantBell =
        .ok (Document.Style.sparse.treeDocument Tree.distantBell) := by
      rw [Document.ofTree_yaml _ (by decide)]
      exact Document.within_of_not_lt (by decide +kernel) _
    have houtlined := Yaml.isOutlined_treeDocument .sparse Tree.distantBell (by decide)
    refine ⟨_, _, hyaml, Tree.toYaml_eq_write hyaml (by decide +kernel), ?_⟩
    obtain ⟨e, es, hdocument⟩ := Tree.exists_treeDocument_eq .sparse Tree.distantBell
    rw [hdocument] at houtlined ⊢
    rw [Yaml.read_write_map houtlined, ne_eq, Option.some_inj, Document.map.injEq, Yaml.heardEntries_eq_iff]
    obtain ⟨rfl, rfl⟩ := List.cons.inj (Document.map.inj hdocument)
    decide +kernel

end QueryTree
