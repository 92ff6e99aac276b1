import QueryTree.Document.Assembly

/-!
# QueryTree.Proofs.Document

The document of a tree by recursion.

Documents are assembled from a stack of nodes under way, children last to first.
`Style.treeDocument` says the same by recursion over the tree, and without a ceiling:

* `Style.assemble_frameOf` — a node that was just entered becomes one whose children
  are all done;
* `ofTree_eq_treeDocument` — without a ceiling, the assembled document is the one by
  recursion.
-/

namespace QueryTree

/-- What holds of a node whenever it holds of its children holds of every tree. -/
theorem Tree.induction_on_children {P : Tree → Prop}
    (h : ∀ ty tx cs ps, (∀ c ∈ Option.getD cs [], P c) → P (.node ty tx cs ps)) (t : Tree) : P t := by
  match t with
  | .node ty tx none ps => exact h ty tx none ps (by simp)
  | .node ty tx (some cs) ps =>
      exact h ty tx (some cs) ps fun c hc =>
        have : sizeOf c < sizeOf cs := List.sizeOf_lt_of_mem hc
        Tree.induction_on_children h c
termination_by sizeOf t

namespace Document

namespace Style

/-! ## the document by recursion -/

mutual

/-- The document of a property. -/
def propertyDocument (s : Style) : Property → Document
  | .mk name value => .map (s.nameEntry name ++ valueEntries s value)

/-- The entry for the value of a property, if it stays. -/
def valueEntries (s : Style) : PropertyValue → List (String × Document)
  | .absent => []
  | .text t => s.textEntry "Value" t
  | .list items =>
    if s.keeps items.isEmpty then [("Value", .list (propertyDocuments s items))] else []
  | .other x => if s.keeps x.document.isEmpty then [("Value", x.document)] else []

/-- The documents of several properties. -/
def propertyDocuments (s : Style) : List Property → List Document
  | [] => []
  | p :: ps => propertyDocument s p :: propertyDocuments s ps

end

/-- The entry for the properties of a node, if they stay. -/
def propertiesEntries (s : Style) : Option (List Property) → List (String × Document)
  | none => []
  | some ps => if s.keeps ps.isEmpty then [("Properties", .list (s.propertyDocuments ps))] else []

mutual

/-- The document of a tree. -/
def treeDocument (s : Style) : Tree → Document
  | .node ty tx cs ps =>
    .map (("TypeName", .text ty) :: s.textEntry "Text" tx ++ childrenEntries s cs ++
      s.propertiesEntries ps)

/-- The entry for the children of a node, if they stay. -/
def childrenEntries (s : Style) : Option (List Tree) → List (String × Document)
  | none => []
  | some cs => if s.keeps cs.isEmpty then [("Children", .list (treeDocuments s cs))] else []

/-- The documents of several trees. -/
def treeDocuments (s : Style) : List Tree → List Document
  | [] => []
  | t :: ts => treeDocument s t :: treeDocuments s ts

end

theorem treeDocuments_eq_map (s : Style) (ts : List Tree) :
    s.treeDocuments ts = ts.map s.treeDocument := by
  induction ts with
  | nil => rfl
  | cons t ts ih => rw [treeDocuments, ih, List.map_cons]

/-! ## properties -/

theorem check_eq_ok {s : Style} (hs : s.ceiling = none) (depth : Nat) : s.check depth = .ok () := by
  rw [check, hs]

mutual

theorem property_eq {s : Style} (hs : s.ceiling = none) :
    ∀ (p : Property) (depth : Nat), s.property depth p = .ok (s.propertyDocument p)
  | .mk name value, depth => by
      rw [property, check_eq_ok hs, valueEntry_eq hs value depth]
      rfl

theorem valueEntry_eq {s : Style} (hs : s.ceiling = none) :
    ∀ (v : PropertyValue) (depth : Nat), s.valueEntry depth v = .ok (s.valueEntries v)
  | .absent, _ => rfl
  | .text _, _ => rfl
  | .list items, depth => by
      rw [valueEntry, valueEntries, check_eq_ok hs, properties_eq hs items]
      split <;> rfl
  | .other _, _ => rfl

theorem properties_eq {s : Style} (hs : s.ceiling = none) :
    ∀ (ps : List Property) (depth : Nat), s.properties depth ps = .ok (s.propertyDocuments ps)
  | [], _ => rfl
  | p :: ps, depth => by
      rw [properties, property_eq hs p, properties_eq hs ps]
      rfl

end

theorem propertiesEntry_eq {s : Style} (hs : s.ceiling = none) (depth : Nat)
    (ps : Option (List Property)) : s.propertiesEntry depth ps = .ok (s.propertiesEntries ps) := by
  cases ps with
  | none => rfl
  | some ps =>
      rw [propertiesEntry, propertiesEntries, check_eq_ok hs, properties_eq hs]
      split <;> rfl

/-! ## frames -/

/-- The frame of a node that was just entered. -/
def frameOf (s : Style) (t : Tree) (depth : Nat) : Frame where
  before := ("TypeName", .text t.typeName) :: s.textEntry "Text" t.text
  after := s.propertiesEntries t.properties
  lists := (s.written t.children).isSome
  depth := depth
  pending := ((s.written t.children).getD []).reverse
  done := []

theorem enter_eq {s : Style} (hs : s.ceiling = none) (t : Tree) (depth : Nat) :
    s.enter t depth = .ok (s.frameOf t depth) := by
  simp [enter, check_eq_ok hs, propertiesEntry_eq hs, frameOf, bind, Except.bind, pure, Except.pure]

/-- The frame of a node whose children are all done. -/
def finished (s : Style) (t : Tree) (depth : Nat) : Frame :=
  { s.frameOf t depth with
    pending := []
    done := s.treeDocuments ((s.written t.children).getD []) }

theorem close_finished (s : Style) (t : Tree) (depth : Nat) :
    (s.finished t depth).close = s.treeDocument t := by
  obtain ⟨ty, tx, cs, ps⟩ := t
  rw [Frame.close, treeDocument]
  cases cs with
  | none => rfl
  | some cs =>
      rw [childrenEntries, finished, frameOf, Tree.children, written]
      split <;> rfl

theorem mem_of_mem_written {s : Style} {cs : Option (List Tree)} {c : Tree}
    (h : c ∈ (s.written cs).getD []) : c ∈ cs.getD [] := by
  cases cs with
  | none => exact h
  | some cs =>
      rw [written] at h
      split at h
      · exact h
      · exact absurd h List.not_mem_nil

/-! ## the stack -/

/-- A finished node goes in front of the finished children of the node around it. -/
theorem assemble_done {s : Style} {f : Frame} (hp : f.pending = []) (g : Frame) (gs : List Frame) :
    s.assemble f (g :: gs) = s.assemble { g with done := f.close :: g.done } gs := by
  rw [assemble]
  split
  · rfl
  · next hp' => rw [hp] at hp'; cases hp'

/-- The last finished node is the document. -/
theorem assemble_last {s : Style} {f : Frame} (hp : f.pending = []) :
    s.assemble f [] = .ok f.close := by
  rw [assemble]
  split
  · rfl
  · next hp' => rw [hp] at hp'; cases hp'

/-- A child still to come is started on, and the node around it waits. -/
theorem assemble_enter {s : Style} (hs : s.ceiling = none) {f : Frame} {t : Tree} {ts : List Tree}
    (hp : f.pending = t :: ts) (outer : List Frame) :
    s.assemble f outer = s.assemble (s.frameOf t (f.depth + 2)) ({ f with pending := ts } :: outer) := by
  rw [assemble.eq_def s f]
  split
  · next hp' => rw [hp] at hp'; cases hp'
  · next t' ts' hp' =>
      rw [hp, List.cons.injEq] at hp'
      obtain ⟨rfl, rfl⟩ := hp'
      split
      · next e he => rw [enter_eq hs] at he; cases he
      · next g he =>
          rw [enter_eq hs] at he
          cases he
          rfl

/-- What is to be shown of a child: it goes from the children still to come to those done. -/
def Assembles (s : Style) (t : Tree) : Prop :=
  ∀ (f : Frame) (ts : List Tree) (outer : List Frame), f.pending = t :: ts →
    s.assemble f outer = s.assemble { f with pending := ts, done := s.treeDocument t :: f.done } outer

/-- Children still to come are done last to first. -/
theorem assemble_pending {s : Style} {ts : List Tree} (h : ∀ t ∈ ts, s.Assembles t)
    (f : Frame) (outer : List Frame) (hp : f.pending = ts) :
    s.assemble f outer =
      s.assemble { f with pending := [], done := (s.treeDocuments ts).reverse ++ f.done } outer := by
  induction ts generalizing f with
  | nil =>
      obtain ⟨before, after, lists, depth, pending, done⟩ := f
      cases hp
      rfl
  | cons t ts ih =>
      rw [h t List.mem_cons_self f ts outer hp,
        ih (fun u hu => h u (List.mem_cons_of_mem t hu)) _ rfl, treeDocuments, List.reverse_cons,
        List.append_assoc, List.singleton_append]

/-- A node that was just entered becomes one whose children are all done. -/
theorem assemble_frameOf {s : Style} {t : Tree} (h : ∀ c ∈ t.children.getD [], s.Assembles c)
    (depth : Nat) (outer : List Frame) :
    s.assemble (s.frameOf t depth) outer = s.assemble (s.finished t depth) outer := by
  have hpending : ∀ c ∈ (s.frameOf t depth).pending, s.Assembles c := fun c hc =>
    h c (mem_of_mem_written (List.mem_reverse.mp hc))
  rw [assemble_pending hpending _ _ rfl, finished]
  congr 2
  rw [treeDocuments_eq_map, treeDocuments_eq_map, frameOf, List.map_reverse, List.reverse_reverse,
    List.append_nil]

theorem assembles {s : Style} (hs : s.ceiling = none) (t : Tree) : s.Assembles t := by
  induction t using Tree.induction_on_children with
  | h ty tx cs ps ih =>
      intro f ts outer hp
      rw [assemble_enter hs hp, assemble_frameOf (t := .node ty tx cs ps) ih, assemble_done rfl, close_finished]

end Style

/-- **Documents**: without a ceiling, every tree has a document, and it is the one by recursion. -/
theorem ofTree_eq_treeDocument {s : Style} (hs : s.ceiling = none) (t : Tree) :
    ofTree s t = .ok (s.treeDocument t) := by
  rw [ofTree, Style.enter_eq hs]
  exact (Style.assemble_frameOf (fun c _ => Style.assembles hs c) 1 []).trans <|
    (Style.assemble_last rfl).trans (congrArg Except.ok (Style.close_finished s t 1))

end Document

end QueryTree
