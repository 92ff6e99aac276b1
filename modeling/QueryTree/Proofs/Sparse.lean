import QueryTree.Proofs.Ceiling

/-!
# QueryTree.Proofs.Sparse

A tree in YAML is the tree in JSON without what is empty.

One routine makes both documents, and a flag decides at five places whether something
empty stays.  `Document.sparse` deletes from a finished document instead: it goes
through the mappings of nodes and properties, drops their empty fields, and looks into
nothing else.

* `sparse_propertyDocument`, `sparse_treeDocument` — deleting the empty fields of the full
  document gives the one that was made without them;
* `Tree.yaml_eq_sparse_json` — so it is for the documents that are written.

A value of another kind is left as it is, even if it is a mapping with fields of the
same names.
-/

namespace QueryTree

/-! ## deleting what is empty -/

namespace Document

/-- The fields that a mapping may go without; the type of a node is none of them. -/
def isOptional (key : String) : Bool :=
  ["Text", "Children", "Properties", "Name", "Value"].contains key

mutual

/-- The mapping of a node or a property without its empty fields, and so for all nodes and properties
below it. -/
def sparse : Document → Document
  | .map entries => .map (sparseEntries entries)
  | d => d

/-- The entries of a mapping that stay, in their order. -/
def sparseEntries : List (String × Document) → List (String × Document)
  | [] => []
  | (key, d) :: es =>
    if isOptional key && d.isEmpty then sparseEntries es else (key, sparseField d) :: sparseEntries es

/-- A field that stays: a list of nodes or properties is gone through, anything else is left as it is. -/
def sparseField : Document → Document
  | .list items => .list (sparseItems items)
  | d => d

/-- All elements of a list of nodes or properties. -/
def sparseItems : List Document → List Document
  | [] => []
  | d :: ds => sparse d :: sparseItems ds

end

theorem sparseEntries_append (es fs : List (String × Document)) :
    sparseEntries (es ++ fs) = sparseEntries es ++ sparseEntries fs := by
  induction es with
  | nil => simp [sparseEntries]
  | cons e es ih =>
      obtain ⟨key, d⟩ := e
      rw [List.cons_append, sparseEntries, sparseEntries, ih]
      split <;> rfl

/-- An optional field is kept if it is not empty. -/
theorem sparseEntries_optional {key : String} (hkey : isOptional key = true) {d rest : Document}
    {empty : Bool} (hempty : d.isEmpty = empty) (hrest : sparseField d = rest) :
    sparseEntries [(key, d)] = if Style.sparse.keeps empty then [(key, rest)] else [] := by
  rw [sparseEntries, sparseEntries, hkey, hempty, hrest]
  cases empty <;> rfl

namespace Style

/-! ## properties -/

theorem sparse_textEntry {key : String} (hkey : isOptional key = true) (text : String) :
    sparseEntries (Style.json.textEntry key text) = Style.sparse.textEntry key text :=
  sparseEntries_optional hkey rfl rfl

theorem sparse_nameEntry (name : Option String) :
    sparseEntries (Style.json.nameEntry name) = Style.sparse.nameEntry name := by
  cases name with
  | none => rfl
  | some name => exact sparse_textEntry rfl name

theorem isEmpty_propertyDocuments (s : Style) (ps : List Property) :
    (s.propertyDocuments ps).isEmpty = ps.isEmpty := by
  cases ps <;> rfl

mutual

theorem sparse_propertyDocument : ∀ p : Property,
    (Style.json.propertyDocument p).sparse = Style.sparse.propertyDocument p
  | .mk name v => by
      rw [propertyDocument, Document.sparse, sparseEntries_append, sparse_nameEntry,
        sparse_valueEntries v, propertyDocument]

theorem sparse_valueEntries : ∀ v : PropertyValue,
    sparseEntries (Style.json.valueEntries v) = Style.sparse.valueEntries v
  | .absent => rfl
  | .text t => sparse_textEntry rfl t
  | .list items =>
      sparseEntries_optional rfl (isEmpty_propertyDocuments _ items)
        (congrArg Document.list (sparse_propertyDocuments items))
  -- a value of another kind is not looked into
  | .other (.bool _) | .other (.int _) | .other (.float _) | .other (.map _) =>
      sparseEntries_optional rfl rfl rfl

theorem sparse_propertyDocuments : ∀ ps : List Property,
    sparseItems (Style.json.propertyDocuments ps) = Style.sparse.propertyDocuments ps
  | [] => rfl
  | p :: ps => by
      rw [propertyDocuments, sparseItems, sparse_propertyDocument p, sparse_propertyDocuments ps,
        propertyDocuments]

end

theorem sparse_propertiesEntries (ps : Option (List Property)) :
    sparseEntries (Style.json.propertiesEntries ps) = Style.sparse.propertiesEntries ps := by
  cases ps with
  | none => rfl
  | some ps =>
      exact sparseEntries_optional rfl (isEmpty_propertyDocuments _ ps)
        (congrArg Document.list (sparse_propertyDocuments ps))

/-! ## nodes -/

theorem isEmpty_treeDocuments (s : Style) (ts : List Tree) :
    (s.treeDocuments ts).isEmpty = ts.isEmpty := by
  cases ts <;> rfl

/-- The type of a node stays, and its other fields are looked at one by one. -/
theorem sparse_treeDocument_node (ty tx : String) (cs : Option (List Tree)) (ps : Option (List Property))
    (hcs : sparseEntries (Style.json.childrenEntries cs) = Style.sparse.childrenEntries cs) :
    (Style.json.treeDocument (.node ty tx cs ps)).sparse =
      Style.sparse.treeDocument (.node ty tx cs ps) := by
  have htype : sparseEntries [("TypeName", .text ty)] = [("TypeName", .text ty)] := rfl
  rw [treeDocument, Document.sparse, ← List.singleton_append, sparseEntries_append,
    sparseEntries_append, sparseEntries_append, htype, sparse_textEntry rfl, hcs,
    sparse_propertiesEntries ps, treeDocument, List.singleton_append]

mutual

/-- **Deleting what is empty** from the full document of a tree gives its document without it. -/
theorem sparse_treeDocument : ∀ t : Tree,
    (Style.json.treeDocument t).sparse = Style.sparse.treeDocument t
  | .node ty tx none ps => sparse_treeDocument_node ty tx none ps rfl
  | .node ty tx (some cs) ps =>
      sparse_treeDocument_node ty tx (some cs) ps
        (sparseEntries_optional rfl (isEmpty_treeDocuments _ cs)
          (congrArg Document.list (sparse_treeDocuments cs)))

theorem sparse_treeDocuments : ∀ ts : List Tree,
    sparseItems (Style.json.treeDocuments ts) = Style.sparse.treeDocuments ts
  | [] => rfl
  | t :: ts => by
      rw [treeDocuments, sparseItems, sparse_treeDocument t, sparse_treeDocuments ts, treeDocuments]

end

end Style

/-- A document that is within the ceiling is the one by recursion. -/
theorem eq_treeDocument_of_ofTree_yaml {ceiling : Int} {t : Tree} {d : Document}
    (h : ofTree (.yaml ceiling) t = .ok d) : d = Style.sparse.treeDocument t := by
  have hsame : (Style.yaml ceiling).treeDocument t = Style.sparse.treeDocument t :=
    Style.treeDocument_congr (show (Style.yaml ceiling).keeps = Style.sparse.keeps from rfl) t
  rw [ofTree_within rfl, within] at h
  split at h
  · cases h
  · rw [← hsame, ← Except.ok.inj h]

end Document

/-! ## the two documents of a tree -/

/-- **YAML is JSON without what is empty**: if the YAML document of a tree is within its ceiling, it is the
JSON document after deleting the empty fields of all nodes and properties.  Both are what recursion
over the tree gives, although children are taken last to first, and both are what is written. -/
theorem Tree.yaml_eq_sparse_json (t : Tree) (ceiling : Int)
    (yaml : Document) (hyaml : Document.ofTree (.yaml ceiling) t = .ok yaml) :
    ∃ json, Document.ofTree .json t = .ok json ∧ yaml = json.sparse ∧
      json = Document.Style.json.treeDocument t ∧ yaml = Document.Style.sparse.treeDocument t ∧
      (∀ s, t.toJson = .ok s → s = Json.write json) ∧
      ∀ s, t.toYaml ceiling = .ok s → s = Yaml.write json.sparse := by
  have hjson := Document.ofTree_eq_treeDocument (s := .json) rfl t
  have hrecursive := Document.eq_treeDocument_of_ofTree_yaml hyaml
  have hsparse : yaml = (Document.Style.json.treeDocument t).sparse :=
    hrecursive.trans (Document.Style.sparse_treeDocument t).symm
  refine ⟨_, hjson, hsparse, rfl, hrecursive, fun s hs => ?_, fun s hs => ?_⟩
  · rw [toJson, hjson] at hs
    split at hs
    · cases hs
    · dsimp only at hs
      split at hs
      · cases hs
      · exact (Except.ok.inj hs).symm
  · rw [toYaml, hyaml] at hs
    dsimp only at hs
    split at hs
    · cases hs
    · rw [← hsparse]
      exact (Except.ok.inj hs).symm

/-- A tree in which every optional field is empty somewhere, with a value of another kind that has an
empty field of its own. -/
def Tree.patchy : Tree :=
  .node "" "" (some [.node "Leaf" "x" (some []) (some []), .node "Bare" "" none none])
    (some [.mk (some "") (.text ""), .mk (some "zero") (.other (.int 0)), .mk none (.list []),
      .mk (some "map") (.other (.map [("Name", .text "")])), .mk none (.list [.mk none .absent])])

/-- What is left of it. -/
def Tree.patchyRest : Document :=
  .map [("TypeName", .text ""),
    ("Children", .list [.map [("TypeName", .text "Leaf"), ("Text", .text "x")],
      .map [("TypeName", .text "Bare")]]),
    ("Properties", .list [.map [], .map [("Name", .text "zero")], .map [],
      .map [("Name", .text "map"), ("Value", .map [("Name", .text "")])],
      .map [("Value", .list [.map []])]])]

theorem Tree.yaml_eq_sparse_json_patchy :
    Document.ofTree (.yaml 5) Tree.patchy = .ok Tree.patchyRest ∧
    ∃ json, Document.ofTree .json Tree.patchy = .ok json ∧ Tree.patchyRest = json.sparse := by
  have hyaml : Document.ofTree (.yaml 5) Tree.patchy = .ok Tree.patchyRest := by
    rw [Document.ofTree_within rfl]
    rfl
  obtain ⟨json, hjson, hsparse, -⟩ := Tree.yaml_eq_sparse_json Tree.patchy 5 _ hyaml
  exact ⟨hyaml, json, hjson, hsparse⟩

end QueryTree
