import QueryTree.Document.Assembly
import QueryTree.Proofs.Table

/-!
# QueryTree.Proofs.Preorder

The nodes of a tree in order, parents before children.

A node is known by its place in that order.  What is below it takes the places directly
after it, so a tree and every tree inside it are lists and parts of lists:

* `preorder_slice` — the nodes of a tree inside another stand in one piece;
* `preorder_child` — where the children of a node stand;
* `NodeTable.walk_of_tree?` — a walk over a table lists the tree that is read from it.
-/

namespace QueryTree

namespace Tree

/-- The children of a node as a list, none for a leaf. -/
def childList (t : Tree) : List Tree := t.children.getD []

@[simp] theorem countOfList_nil : countOfList [] = 0 := rfl

@[simp] theorem countOfList_cons (t : Tree) (ts : List Tree) :
    countOfList (t :: ts) = t.count + countOfList ts := rfl

attribute [simp] Document.countOfList_append

@[simp] theorem preorderOfList_nil (d : Nat) : preorderOfList d [] = [] := rfl

@[simp] theorem preorderOfList_cons (d : Nat) (t : Tree) (ts : List Tree) :
    preorderOfList d (t :: ts) = t.preorder d ++ preorderOfList d ts := rfl

@[simp] theorem preorderOfList_append (d : Nat) (ts us : List Tree) :
    preorderOfList d (ts ++ us) = preorderOfList d ts ++ preorderOfList d us := by
  induction ts with
  | nil => simp
  | cons t ts ih => simp [ih]

/-- A node is counted with what is below it. -/
theorem count_eq (t : Tree) : t.count = countOfList t.childList + 1 := by
  obtain ⟨ty, tx, cs, ps⟩ := t
  cases cs <;> simp [childList, children, count, Nat.add_comm]

/-- A node stands before what is below it. -/
theorem preorder_eq (t : Tree) (d : Nat) :
    t.preorder d = (d, t) :: preorderOfList (d + 1) t.childList := by
  obtain ⟨ty, tx, cs, ps⟩ := t
  cases cs <;> simp [childList, children, preorder]

mutual

@[simp] theorem length_preorder (d : Nat) : ∀ t : Tree, (t.preorder d).length = t.count
  | .node _ _ none _ => rfl
  | .node _ _ (some cs) _ => by
      simp [preorder, count, length_preorderOfList (d + 1) cs, Nat.add_comm]

@[simp] theorem length_preorderOfList (d : Nat) :
    ∀ ts : List Tree, (preorderOfList d ts).length = countOfList ts
  | [] => rfl
  | t :: ts => by simp [length_preorder d t, length_preorderOfList d ts]

end

mutual

/-- **Trees inside a tree**: the nodes of the tree of a node stand in one piece, which starts at the
place of the node. -/
theorem preorder_slice {i e : Nat} {s : Tree} : ∀ (t : Tree) (d : Nat),
    (t.preorder d)[i]? = some (e, s) →
      ∃ before after, t.preorder d = before ++ s.preorder e ++ after ∧ before.length = i
  | .node ty tx none ps, d, h => by
      obtain ⟨rfl, rfl, rfl⟩ : i = 0 ∧ d = e ∧ .node ty tx none ps = s := by
        cases i <;> simp_all [preorder]
      exact ⟨[], [], by simp, rfl⟩
  | .node ty tx (some cs) ps, d, h => by
      rw [preorder] at h
      cases i with
      | zero =>
          obtain ⟨rfl, rfl⟩ := Prod.mk.inj (Option.some.inj h)
          exact ⟨[], [], by simp, rfl⟩
      | succ i =>
          obtain ⟨before, after, heq, rfl⟩ := preorderOfList_slice cs (d + 1) h
          exact ⟨(d, .node ty tx (some cs) ps) :: before, after, by simp [preorder, heq], rfl⟩

theorem preorderOfList_slice {i e : Nat} {s : Tree} : ∀ (ts : List Tree) (d : Nat),
    (preorderOfList d ts)[i]? = some (e, s) →
      ∃ before after, preorderOfList d ts = before ++ s.preorder e ++ after ∧ before.length = i
  | [], d, h => by simp at h
  | t :: ts, d, h => by
      rw [preorderOfList_cons, List.getElem?_append] at h
      split at h
      · obtain ⟨before, after, heq, hlength⟩ := preorder_slice t d h
        exact ⟨before, after ++ preorderOfList d ts, by simp [heq], hlength⟩
      · next hi =>
          obtain ⟨before, after, heq, hlength⟩ := preorderOfList_slice ts d h
          refine ⟨t.preorder d ++ before, after, by simp [heq], ?_⟩
          simp only [List.length_append, hlength]
          omega

end

/-- The places of the nodes below a node end before those of the tree do. -/
theorem add_count_le {t s : Tree} {d e i : Nat} (h : (t.preorder d)[i]? = some (e, s)) :
    i + s.count ≤ t.count := by
  obtain ⟨before, after, heq, rfl⟩ := preorder_slice t d h
  have hlength := congrArg List.length heq
  simp only [length_preorder, List.length_append] at hlength
  omega

/-- The nodes below a node are those that follow it. -/
theorem take_drop_preorder {t s : Tree} {d e i : Nat} (h : (t.preorder d)[i]? = some (e, s)) :
    ((t.preorder d).drop i).take s.count = s.preorder e := by
  obtain ⟨before, after, heq, rfl⟩ := preorder_slice t d h
  rw [heq, List.append_assoc, List.drop_left, ← length_preorder e s, List.take_left]

/-- **Children**: the first child of a node stands right after it, and every other after all that is
below the one before it. -/
theorem preorder_child {t s c : Tree} {d e i : Nat} {left right : List Tree}
    (h : (t.preorder d)[i]? = some (e, s)) (hs : s.childList = left ++ c :: right) :
    (t.preorder d)[i + 1 + countOfList left]? = some (e + 1, c) := by
  obtain ⟨before, after, heq, rfl⟩ := preorder_slice t d h
  have hplace : before.length + 1 + countOfList left =
      (before ++ (e, s) :: preorderOfList (e + 1) left).length := by
    simp [Nat.add_assoc, Nat.add_comm]
  have hsplit : t.preorder d = (before ++ (e, s) :: preorderOfList (e + 1) left) ++
      ((e + 1, c) :: (preorderOfList (e + 2) c.childList ++ preorderOfList (e + 1) right ++ after)) := by
    simp [heq, preorder_eq s, hs, preorder_eq c]
  rw [hsplit, hplace, List.getElem?_append_right (Nat.le_refl _), Nat.sub_self, List.getElem?_cons_zero]

end Tree

/-! ## tables -/

namespace NodeTable

/-- What is found for all of some numbers is found by whatever finds more. -/
theorem mapM_eq_some_mono {α β : Type} {f g : α → Option β} (h : ∀ a b, f a = some b → g a = some b)
    {xs : List α} {ys : List β} (hxs : xs.mapM f = some ys) : xs.mapM g = some ys := by
  induction xs generalizing ys with
  | nil => exact hxs
  | cons x xs ih =>
      simp only [List.mapM_cons, Option.bind_eq_bind, Option.bind_eq_some_iff, Option.pure_def] at hxs ⊢
      obtain ⟨y, hy, zs, hzs, heq⟩ := hxs
      exact ⟨y, h x y hy, zs, ih hzs, heq⟩

/-- More levels give the same tree. -/
theorem treeWithin_succ (t : NodeTable) {n : Nat} {id : NodeId} {T : Tree}
    (h : t.treeWithin n id = some T) : t.treeWithin (n + 1) id = some T := by
  induction n generalizing id T with
  | zero => cases h
  | succ n ih =>
      rw [treeWithin] at h ⊢
      cases hcs : (t.entry id).children with
      | none => simpa [hcs] using h
      | some ids =>
          simp only [hcs, Option.map_eq_some_iff] at h ⊢
          obtain ⟨ts, hts, heq⟩ := h
          exact ⟨ts, mapM_eq_some_mono (fun _ _ => ih) hts, heq⟩

theorem treeWithin_mono (t : NodeTable) {n m : Nat} (hnm : n ≤ m) {id : NodeId} {T : Tree}
    (h : t.treeWithin n id = some T) : t.treeWithin m id = some T := by
  induction hnm with
  | refl => exact h
  | step _ ih => exact t.treeWithin_succ ih

/-- The numbers of the tree of a node are, in order, those of the trees inside it.  The induction is on
the levels that are read. -/
theorem map_treeWithin_preorder (t : NodeTable) {most : Nat} (n : Nat) (id : NodeId) (T : Tree) (d : Nat)
    (hmost : n ≤ most) (h : t.treeWithin n id = some T) :
    HeightLE t.childrenOf n id ∧
      (Rose.grow t.childrenOf n id).preorder.map (t.treeWithin most) =
        (T.preorder d).map fun x => some x.2 := by
  induction n generalizing id T d with
  | zero => cases h
  | succ n ih =>
      have htree := t.treeWithin_mono hmost h
      -- the children one by one
      have hlist : ∀ (cs : List NodeId) (ts : List Tree), cs.mapM (t.treeWithin n) = some ts →
          (∀ c ∈ cs, HeightLE t.childrenOf n c) ∧
            (Rose.preorderOfList (cs.map (Rose.grow t.childrenOf n))).map (t.treeWithin most) =
              (Tree.preorderOfList (d + 1) ts).map fun x => some x.2 := by
        intro cs
        induction cs with
        | nil =>
            intro ts hts
            obtain rfl : [] = ts := by simpa using hts
            simp [Rose.preorderOfList]
        | cons c cs ihcs =>
            intro ts hts
            simp only [List.mapM_cons, Option.bind_eq_bind, Option.bind_eq_some_iff, Option.pure_def,
              Option.some.injEq] at hts
            obtain ⟨first, hfirst, rest, hrest, rfl⟩ := hts
            obtain ⟨hheight, hmap⟩ := ih c first (d + 1) (by omega) hfirst
            obtain ⟨hheights, hmaps⟩ := ihcs rest hrest
            refine ⟨List.forall_mem_cons.mpr ⟨hheight, hheights⟩, ?_⟩
            simp [Rose.preorderOfList, hmap, hmaps]
      rw [treeWithin] at h
      cases hcs : (t.entry id).children with
      | none =>
          simp only [hcs, Option.some.injEq] at h
          subst h
          simp [HeightLE, childrenOf, NodeEntry.childList, hcs, Rose.grow, Rose.preorder,
            Rose.preorderOfList, htree, Tree.preorder]
      | some cs =>
          simp only [hcs, Option.map_eq_some_iff] at h
          obtain ⟨ts, hts, rfl⟩ := h
          obtain ⟨hheights, hmaps⟩ := hlist cs ts hts
          have hkids : t.childrenOf id = cs := by simp [childrenOf, NodeEntry.childList, hcs]
          refine ⟨fun c hc => hheights c (hkids ▸ hc), ?_⟩
          simp [Rose.grow, Rose.preorder, hkids, htree, Tree.preorder, hmaps]

/-- **Walks list trees**: if a node stands for a tree, the walk from it comes by the nodes of the tree in
order, and counts them. -/
theorem walk_of_tree? (t : NodeTable) {root : NodeId} {T : Tree} (h : t.tree? root = some T) :
    ∃ ids, t.walk root = some ids ∧ ids.map t.tree? = (T.preorder 0).map (fun x => some x.2) ∧
      t.count root = some T.count := by
  obtain ⟨hheight, hmap⟩ := t.map_treeWithin_preorder (t.size + 1) root T 0 (Nat.le_refl _) h
  have hwalk := t.walk_eq_preorder root (Nat.le_refl _) hheight
  refine ⟨_, hwalk, hmap, ?_⟩
  have hlength := congrArg List.length hmap
  rw [List.length_map, List.length_map, Tree.length_preorder] at hlength
  rw [count, hwalk, Option.map_some, hlength]

end NodeTable

end QueryTree
