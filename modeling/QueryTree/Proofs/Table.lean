import QueryTree.Proofs.Unfolding
import QueryTree.Tree.Table

/-!
# QueryTree.Proofs.Table

Walks over tables of nodes.  A node without a cycle below it stands for a tree, and
the walk from it lists that tree, parents before children; the budget of the walk is
never used up.

* `walkStack_node` — the stack of a walk against the tree below its first node;
* `walk_eq_preorder` — the walk from a node is the pre-order of its tree.
-/

namespace QueryTree.NodeTable

/-! ## entries -/

@[simp] theorem size_modify (t : NodeTable) (id : NodeId) (f : NodeCell → NodeCell)
    (hf : ∀ cell ∈ t.cells, ∀ k ∈ (f cell).list, k < t.lists.size) :
    (t.modify id f hf).size = t.size := Array.size_modify

@[simp] theorem size_push (t : NodeTable) (e : NodeEntry) : (t.push e).size = t.size + 1 :=
  Array.size_push _

@[simp] theorem size_setProperties (t : NodeTable) (id : NodeId) (ps : Option (List Property)) :
    (t.setProperties id ps).size = t.size := size_modify t id _ _

@[simp] theorem size_setChildren (t : NodeTable) (id : NodeId) (children : Option (List NodeId)) :
    (t.setChildren id children).size = t.size := size_modify _ id _ _

@[simp] theorem size_addChild (t : NodeTable) (parent child : NodeId) :
    (t.addChild parent child).size = t.size := by
  unfold addChild
  split
  · exact size_setChildren t parent _
  · rfl

/-- A stored node has the children that are in its list. -/
theorem resolve_congr {lists lists' : Array (List NodeId)} {cell : NodeCell}
    (h : ∀ k ∈ cell.list, lists'.getD k [] = lists.getD k []) :
    resolve lists' cell = resolve lists cell := by
  rw [resolve, resolve, Option.map_congr h]

/-- A node has its children in the list that it has. -/
theorem children_entry (t : NodeTable) (id : NodeId) :
    (t.entry id).children = (t.list? id).map fun k => t.lists.getD k [] := by
  rw [entry, resolve, list?, Array.getD_eq_getD_getElem?]
  cases t.cells[id]? <;> rfl

/-- Another list changes no node. -/
theorem resolve_withList (t : NodeTable) (children : Option (List NodeId)) {cell : NodeCell}
    (h : ∀ k ∈ cell.list, k < t.lists.size) :
    resolve (t.withList children) cell = resolve t.lists cell := by
  refine resolve_congr fun k hk => ?_
  cases children with
  | none => rfl
  | some ids =>
      have hlt := h k hk
      simp [withList, Array.getD_eq_getD_getElem?, Array.getElem?_push, Nat.ne_of_lt hlt]

/-- A node with its children in a new list. -/
theorem resolve_newList (t : NodeTable) (children : Option (List NodeId)) (cell : NodeCell) :
    resolve (t.withList children) { cell with list := t.newList children } =
      { resolve t.lists cell with children := children } := by
  cases children with
  | none => rfl
  | some ids => simp [resolve, withList, newList, Array.getD_eq_getD_getElem?]

theorem cell_list_lt (t : NodeTable) (i : NodeId) :
    ∀ k ∈ (t.cells.getD i default).list, k < t.lists.size := by
  intro k hk
  rw [Array.getD_eq_getD_getElem?] at hk
  have hlist : t.list? i = some k := by
    rw [list?]
    cases hcell : t.cells[i]? with
    | none => rw [hcell] at hk; cases hk
    | some cell => rw [hcell] at hk; exact hk
  exact list?_lt hlist

/-- Adding a node changes no other. -/
theorem entry_push (t : NodeTable) (e : NodeEntry) (i : NodeId) :
    (t.push e).entry i = if i = t.size then e else t.entry i := by
  by_cases h : i = t.size
  · have hcell : (t.push e).cells.getD i default = e.cell (t.newList e.children) := by
      simp [push, h, size, Array.getD_eq_getD_getElem?]
    rw [if_pos h, entry, hcell]
    exact t.resolve_newList e.children (e.cell none)
  · have hcell : (t.push e).cells.getD i default = t.cells.getD i default := by
      rw [size] at h
      simp [push, Array.getD_eq_getD_getElem?, Array.getElem?_push, h]
    rw [if_neg h, entry, hcell]
    exact t.resolve_withList e.children (t.cell_list_lt i)

/-- Changing a node changes no other. -/
theorem entry_modify (t : NodeTable) (id i : NodeId) (f : NodeCell → NodeCell)
    (hf : ∀ cell ∈ t.cells, ∀ k ∈ (f cell).list, k < t.lists.size) :
    (t.modify id f hf).entry i =
      if id = i ∧ i < t.size then resolve t.lists (f (t.cells.getD i default)) else t.entry i := by
  simp only [entry, modify, size, Array.getD_eq_getD_getElem?, Array.getElem?_modify]
  by_cases h : id = i
  · by_cases hi : i < t.cells.size <;> simp [h, hi]
  · simp [h]

theorem entry_setProperties (t : NodeTable) (id : NodeId) (ps : Option (List Property)) (i : NodeId) :
    (t.setProperties id ps).entry i =
      if id = i ∧ i < t.size then { t.entry i with properties := ps } else t.entry i :=
  t.entry_modify id i _ _

/-- New children of a node change no other. -/
theorem entry_setChildren (t : NodeTable) (id : NodeId) (children : Option (List NodeId)) (i : NodeId) :
    (t.setChildren id children).entry i =
      if id = i ∧ i < t.size then { t.entry i with children := children } else t.entry i := by
  refine (entry_modify (t.addList children) id i _ _).trans ?_
  have hsize : (t.addList children).size = t.size := rfl
  rw [hsize]
  split
  · exact t.resolve_newList children _
  · exact t.resolve_withList children (t.cell_list_lt i)

/-! ## lists -/

/-- A node gets a child when a parent does: it is the parent, or has the same list. -/
def Gains (t : NodeTable) (parent id : NodeId) : Prop :=
  (id = parent ∧ parent < t.size) ∨ (t.list? id ≠ none ∧ t.list? id = t.list? parent)

instance (t : NodeTable) (parent id : NodeId) : Decidable (t.Gains parent id) :=
  inferInstanceAs (Decidable (_ ∨ _))

theorem gains_self {t : NodeTable} {parent : NodeId} (h : parent < t.size) : t.Gains parent parent :=
  .inl ⟨rfl, h⟩

theorem list?_eq_none_of_le {t : NodeTable} {id : NodeId} (h : t.size ≤ id) : t.list? id = none := by
  rw [list?, Array.getElem?_eq_none h]
  rfl

theorem gains_iff_of_none {t : NodeTable} {parent : NodeId} (h : t.list? parent = none) (i : NodeId) :
    t.Gains parent i ↔ parent = i ∧ i < t.size := by
  rw [Gains, h]
  constructor
  · rintro (⟨rfl, hlt⟩ | ⟨hne, heq⟩)
    · exact ⟨rfl, hlt⟩
    · exact absurd heq hne
  · rintro ⟨rfl, hlt⟩
    exact .inl ⟨rfl, hlt⟩

theorem gains_iff_of_some {t : NodeTable} {parent : NodeId} {k : ListId} (h : t.list? parent = some k)
    (i : NodeId) : t.Gains parent i ↔ t.list? i = some k := by
  rw [Gains, h]
  constructor
  · rintro (⟨rfl, -⟩ | ⟨-, heq⟩)
    · exact h
    · exact heq
  · intro heq
    exact .inr ⟨by simp [heq], heq⟩

/-- A list that gets longer is longer for all nodes that have it. -/
theorem entry_appendTo (t : NodeTable) {k : ListId} (hk : k < t.lists.size) (child i : NodeId) :
    (t.appendTo k child).entry i =
      if t.list? i = some k then (t.entry i).addChild child else t.entry i := by
  have hnew : ((t.appendTo k child).entry i).children =
      (t.list? i).map fun j => (t.appendTo k child).lists.getD j [] := children_entry _ i
  have hold : (t.entry i).children = (t.list? i).map fun j => t.lists.getD j [] := children_entry t i
  -- all but the children is as it was
  have hrest : (t.appendTo k child).entry i =
      { t.entry i with children := ((t.appendTo k child).entry i).children } := rfl
  split
  · next h =>
      rw [hrest, hnew, NodeEntry.addChild, NodeEntry.childList, hold, h]
      simp [appendTo, Array.getD_eq_getD_getElem?, Array.getElem?_modify, hk]
  · next h =>
      have hother : ∀ j ∈ t.list? i, (t.appendTo k child).lists.getD j [] = t.lists.getD j [] := by
        intro j hj
        have hne : k ≠ j := fun heq => h (heq ▸ hj)
        simp [appendTo, Array.getD_eq_getD_getElem?, Array.getElem?_modify, hne]
      rw [hrest, hnew, Option.map_congr hother, ← hold]

/-- **One more child**: a node gets it if it has the list of the parent, and nothing else changes. -/
theorem entry_addChild (t : NodeTable) (parent child i : NodeId) :
    (t.addChild parent child).entry i =
      if t.Gains parent i then (t.entry i).addChild child else t.entry i := by
  unfold addChild
  cases hlist : t.list? parent with
  | none =>
      have hchildren : (t.entry parent).children = none := by rw [children_entry, hlist]; rfl
      simp only [gains_iff_of_none hlist, entry_setChildren]
      split
      · next h =>
          obtain ⟨rfl, -⟩ := h
          rw [NodeEntry.addChild, NodeEntry.childList, hchildren]
          rfl
      · rfl
  | some k =>
      simp only [gains_iff_of_some hlist]
      exact t.entry_appendTo (list?_lt hlist) child i

theorem list?_push (t : NodeTable) (e : NodeEntry) (i : NodeId) :
    (t.push e).list? i = if i = t.size then t.newList e.children else t.list? i := by
  by_cases h : i = t.size
  · simp [list?, push, h, size, NodeEntry.cell]
  · rw [size] at h
    simp [list?, push, Array.getElem?_push, size, h]

theorem list?_modify (t : NodeTable) (id i : NodeId) (f : NodeCell → NodeCell)
    (hf : ∀ cell ∈ t.cells, ∀ k ∈ (f cell).list, k < t.lists.size) :
    (t.modify id f hf).list? i =
      if id = i then t.cells[i]?.bind fun cell => (f cell).list else t.list? i := by
  simp only [list?, modify, Array.getElem?_modify]
  split
  · cases t.cells[i]? <;> rfl
  · rfl

theorem list?_setProperties (t : NodeTable) (id : NodeId) (ps : Option (List Property)) (i : NodeId) :
    (t.setProperties id ps).list? i = t.list? i := by
  rw [setProperties, list?_modify]
  split <;> rfl

theorem list?_setChildren (t : NodeTable) (id : NodeId) (children : Option (List NodeId)) (i : NodeId) :
    (t.setChildren id children).list? i =
      if id = i ∧ i < t.size then t.newList children else t.list? i := by
  have hsame : (t.addList children).list? i = t.list? i := rfl
  have hcells : (t.addList children).cells = t.cells := rfl
  refine (list?_modify (t.addList children) id i _ _).trans ?_
  rw [hsame, hcells]
  by_cases h : id = i
  · by_cases hi : i < t.cells.size
    · simp [h, hi, size]
    · have hnone := list?_eq_none_of_le (t := t) (Nat.le_of_not_lt hi)
      simp [h, hi, size, hnone]
  · simp [h]

/-- Nobody else has the list of a node. -/
def Own (t : NodeTable) (id : NodeId) : Prop := ∀ i, t.Gains id i → i = id

/-- Who shares a list depends on who has which. -/
theorem own_congr {t u : NodeTable} (hsame : ∀ i, u.list? i = t.list? i) {id : NodeId}
    (h : t.Own id) : u.Own id := by
  rintro i (⟨rfl, -⟩ | ⟨hne, heq⟩)
  · rfl
  · rw [hsame] at hne
    rw [hsame, hsame] at heq
    exact h i (.inr ⟨hne, heq⟩)

/-- If one node gets a new list or none, and all others have the lists that they had, nobody comes to
share a list. -/
theorem own_of_fresh {t u : NodeTable} (changed : NodeId) {list : Option ListId}
    (hnew : ∀ k ∈ list, t.lists.size ≤ k)
    (hlist : ∀ i, u.list? i = if i = changed then list else t.list? i) {id : NodeId}
    (h : t.Own id ∨ id = changed) : u.Own id := by
  -- the list of the changed node is none of the lists before
  have hfresh : ∀ i, list ≠ none → list ≠ t.list? i := by
    intro i hne heq
    obtain ⟨k, hk⟩ := Option.ne_none_iff_exists'.mp hne
    exact Nat.not_le.mpr (list?_lt (heq.symm.trans hk)) (hnew k hk)
  rintro i (⟨rfl, -⟩ | ⟨hne, heq⟩)
  · rfl
  · rw [hlist] at hne
    rw [hlist, hlist id] at heq
    by_cases hi : i = changed <;> by_cases hid : id = changed
    · exact hi.trans hid.symm
    · rw [if_pos hi] at hne heq
      rw [if_neg hid] at heq
      exact absurd heq (hfresh id hne)
    · rw [if_neg hi] at hne heq
      rw [if_pos hid] at heq
      exact absurd heq.symm (hfresh i (heq ▸ hne))
    · rw [if_neg hi] at hne heq
      rw [if_neg hid] at heq
      exact h.resolve_right hid i (.inr ⟨hne, heq⟩)

theorem size_le_newList (t : NodeTable) (children : Option (List NodeId)) :
    ∀ k ∈ t.newList children, t.lists.size ≤ k := by
  intro k hk
  obtain ⟨_, _, rfl⟩ := Option.map_eq_some_iff.mp hk
  exact Nat.le_refl _

theorem own_push {t : NodeTable} (e : NodeEntry) {id : NodeId} (h : t.Own id ∨ id = t.size) :
    (t.push e).Own id :=
  own_of_fresh t.size (t.size_le_newList e.children) (t.list?_push e) h

theorem own_setChildren {t : NodeTable} {id : NodeId} (h : t.Own id) (changed : NodeId)
    (children : Option (List NodeId)) : (t.setChildren changed children).Own id := by
  by_cases hlt : changed < t.size
  · refine own_of_fresh changed (t.size_le_newList children) (fun i => ?_) (.inl h)
    rw [list?_setChildren]
    by_cases hi : i = changed
    · rw [if_pos ⟨hi.symm, hi ▸ hlt⟩, if_pos hi]
    · rw [if_neg fun hc => hi hc.1.symm, if_neg hi]
  · have hsame : ∀ i, (t.setChildren changed children).list? i = t.list? i := by
      intro i
      rw [list?_setChildren, if_neg]
      rintro ⟨rfl, hi⟩
      exact hlt hi
    exact own_congr hsame h

theorem own_setProperties {t : NodeTable} {id : NodeId} (h : t.Own id) (changed : NodeId)
    (ps : Option (List Property)) : (t.setProperties changed ps).Own id :=
  own_congr (t.list?_setProperties changed ps) h

theorem own_addChild {t : NodeTable} {id : NodeId} (h : t.Own id) (parent child : NodeId) :
    (t.addChild parent child).Own id := by
  unfold addChild
  split
  · exact own_setChildren h parent _
  · exact own_congr (fun _ => rfl) h

/-- A number that is not in use has nothing. -/
theorem entry_eq_default {t : NodeTable} {id : NodeId} (h : t.size ≤ id) : t.entry id = default := by
  rw [entry, Array.getD_eq_getD_getElem?, Array.getElem?_eq_none h, Option.getD_none]
  rfl

theorem lt_size_of_source {t : NodeTable} {id : NodeId} {source : ObjectId}
    (h : (t.entry id).source = some source) : id < t.size := by
  by_contra hge
  rw [entry_eq_default (Nat.le_of_not_lt hge)] at h
  cases h

/-- Numbers that are not in use have no children. -/
theorem childrenOf_eq_nil (t : NodeTable) (id : NodeId) (h : t.size ≤ id) :
    t.childrenOf id = [] := by
  rw [childrenOf, entry_eq_default h]
  rfl

/-- No node has more children than there are pairs of a node and a child. -/
theorem length_childrenOf_le (t : NodeTable) (id : NodeId) :
    (t.childrenOf id).length ≤ t.edgeCount := by
  have hsum : ∀ (cells : List NodeCell) (n : Nat),
      n ≤ cells.foldl (fun n cell => n + (resolve t.lists cell).childList.length) n ∧
      ∀ cell ∈ cells, (resolve t.lists cell).childList.length ≤
        cells.foldl (fun n cell => n + (resolve t.lists cell).childList.length) n := by
    intro cells
    induction cells with
    | nil => simp
    | cons cell cells ih =>
        intro n
        obtain ⟨hle, hmem⟩ := ih (n + (resolve t.lists cell).childList.length)
        rw [List.foldl_cons]
        refine ⟨by omega, ?_⟩
        intro cell' hcell'
        obtain rfl | hcell' := List.mem_cons.mp hcell'
        · omega
        · exact hmem cell' hcell'
  by_cases hid : id < t.cells.size
  · have hcell : t.cells.getD id default ∈ t.cells.toList := by
      rw [Array.getD_eq_getD_getElem?, Array.getElem?_eq_getElem hid, Option.getD_some]
      exact Array.mem_toList_iff.mpr (Array.getElem_mem hid)
    rw [edgeCount, ← Array.foldl_toList]
    exact (hsum t.cells.toList 0).2 _ hcell
  · rw [childrenOf_eq_nil t id (Nat.le_of_not_lt hid)]
    exact Nat.zero_le _

/-! ## the walk -/

mutual

/-- The walk lists the tree of the node on top of the stack, and then goes on with the rest. -/
theorem walkStack_node (t : NodeTable) : ∀ T : Rose, T.Unfolds t.childrenOf →
    ∀ (fuel : Nat) (rest : List NodeId), t.walkStack (T.preorder.length + fuel) (T.root :: rest) =
      (t.walkStack fuel rest).map (T.preorder ++ ·)
  | .node id below, h, fuel, rest => by
      obtain ⟨hkids, hall⟩ := h
      have hlist := walkStack_nodes t below hall fuel rest
      rw [Rose.preorder, List.length_cons, Nat.add_right_comm, Rose.root, walkStack, ← hkids, hlist,
        Option.map_map]
      rfl

/-- The walk lists the trees of the nodes on top of the stack, one after the other. -/
theorem walkStack_nodes (t : NodeTable) : ∀ Ts : List Rose, Rose.UnfoldsAll t.childrenOf Ts →
    ∀ (fuel : Nat) (rest : List NodeId),
      t.walkStack ((Rose.preorderOfList Ts).length + fuel) (Ts.map Rose.root ++ rest) =
        (t.walkStack fuel rest).map (Rose.preorderOfList Ts ++ ·)
  | [], _, fuel, rest => by simp [Rose.preorderOfList]
  | T :: Ts, h, fuel, rest => by
      obtain ⟨hT, hTs⟩ := h
      have hhead := walkStack_node t T hT ((Rose.preorderOfList Ts).length + fuel)
        (Ts.map Rose.root ++ rest)
      have htail := walkStack_nodes t Ts hTs fuel rest
      rw [Rose.preorderOfList, List.length_append, Nat.add_assoc, List.map_cons, List.cons_append,
        hhead, htail, Option.map_map]
      simp [Function.comp_def]

end

/-- **Walks are complete**: from a node whose ways down are no longer than the table, the walk lists
the tree of the node. -/
theorem walk_eq_preorder (t : NodeTable) (id : NodeId) {n : Nat} (hn : n ≤ t.size + 1)
    (h : HeightLE t.childrenOf n id) :
    t.walk id = some (Rose.grow t.childrenOf n id).preorder := by
  have hlen := Rose.length_preorder_grow_le (length_childrenOf_le t) n id
  have hpow : Nat.pow (t.edgeCount + 1) n ≤ t.budget :=
    Nat.pow_le_pow_right (Nat.succ_pos _) hn
  have hbudget : t.budget = (Rose.grow t.childrenOf n id).preorder.length +
      (t.budget - (Rose.grow t.childrenOf n id).preorder.length) := by omega
  have hstack := walkStack_node t (Rose.grow t.childrenOf n id) (Rose.unfolds_grow n id h)
    (t.budget - (Rose.grow t.childrenOf n id).preorder.length) []
  rw [← hbudget, Rose.root_grow] at hstack
  rw [walk, hstack]
  simp [walkStack]

/-- The walk from the root of a tree that stands in the table lists the tree. -/
theorem walk_of_unfolds (t : NodeTable) (T : Rose) (h : T.Unfolds t.childrenOf)
    (hlen : T.preorder.length ≤ t.size + 1) : t.walk T.root = some T.preorder := by
  have hheight := Rose.heightLE_of_unfolds T (t.size + 1) h (Nat.le_succ_of_le hlen)
  have hgrow : Rose.grow t.childrenOf (t.size + 1) T.root = T :=
    Rose.eq_of_unfolds _ _ (Rose.unfolds_grow _ _ hheight) h (Rose.root_grow _ _ _)
  rw [walk_eq_preorder t T.root (Nat.le_refl _) hheight, hgrow]

end QueryTree.NodeTable
