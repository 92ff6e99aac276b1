import QueryTree.Page.Template
import QueryTree.Proofs.Page.Events
import QueryTree.Proofs.Preorder

/-!
# QueryTree.Proofs.Page.Numbering

What the events of a tree say about it.

Nodes are numbered as they open, so a number is a place in the order of the nodes, and
the events of the tree of a node stand in one piece whose numbers follow that of the
node.  Everything else is read off from that:

* `openedViews_treeEvents` — the nodes open in order;
* `treeEvents_split` — the events of a tree inside another stand in one piece, and no
  other event has a number of that tree;
* `rebuild_marks` — which event opens and which closes which number is all it takes to
  rebuild the shape of the tree.

Marks are read from the last one back.  Then a closing comes before its opening, and
whether a node has a list of children is known when its opening is reached.
-/

namespace QueryTree

/-- A tree without all that its nodes say. -/
inductive Skeleton where
  /-- A node with its list of children, absent for a leaf. -/
  | node (children : Option (List Skeleton))

namespace Tree

mutual

/-- The tree without all that its nodes say. -/
def skeleton : Tree → Skeleton
  | .node _ _ none _ => .node none
  | .node _ _ (some cs) _ => .node (some (skeletons cs))

/-- Several trees without all that their nodes say. -/
def skeletons : List Tree → List Skeleton
  | [] => []
  | t :: ts => skeleton t :: skeletons ts

end

end Tree

namespace Page

/-! ## events and their numbers -/

/-- The node that an event is about. -/
def Event.view : Event → View
  | .opened v => v
  | .closed v => v

/-- Whether an event opens or closes, and the number of its node. -/
inductive Mark where
  /-- The node with a number is opened. -/
  | opened (id : Nat)
  /-- The node with a number is closed. -/
  | closed (id : Nat)
deriving DecidableEq, Repr

/-- What an event does to which number. -/
def Event.mark : Event → Mark
  | .opened v => .opened v.id
  | .closed v => .closed v.id

/-- The event that closes a node, if it has a list of children. -/
def closing (id : Nat) (t : Tree) : List Event :=
  if t.children.isSome then [.closed (View.ofTree id t)] else []

/-- A node is opened, then its children are shown, and then it may be closed. -/
theorem treeEvents_eq (id : Nat) (t : Tree) :
    treeEvents id t =
      .opened (View.ofTree id t) :: (treesEvents (id + 1) t.childList ++ closing id t) := by
  obtain ⟨ty, tx, cs, ps⟩ := t
  cases cs <;> simp [treeEvents, treesEvents, closing, Tree.childList, Tree.children]

theorem treesEvents_append (id : Nat) (ts us : List Tree) :
    treesEvents id (ts ++ us) = treesEvents id ts ++ treesEvents (id + Tree.countOfList ts) us := by
  induction ts generalizing id with
  | nil => simp [treesEvents]
  | cons t ts ih => simp [treesEvents, ih, Nat.add_assoc]

theorem id_of_mem_closing {id : Nat} {t : Tree} {e : Event} (h : e ∈ closing id t) : e.view.id = id := by
  unfold closing at h
  split at h
  · rw [List.mem_singleton.mp h]
    rfl
  · cases h

mutual

/-- The events of a tree have the numbers from that of its root on. -/
theorem id_of_mem_treeEvents {e : Event} : ∀ (t : Tree) (id : Nat), e ∈ treeEvents id t →
    id ≤ e.view.id ∧ e.view.id < id + t.count
  | .node ty tx none ps, id, h => by
      rw [treeEvents, List.mem_singleton] at h
      subst h
      simp [Event.view, View.ofTree, Tree.count]
  | .node ty tx (some cs) ps, id, h => by
      have hcount : (Tree.node ty tx (some cs) ps).count = 1 + Tree.countOfList cs := rfl
      rw [treeEvents, List.mem_cons, List.mem_append, List.mem_singleton] at h
      obtain rfl | h | rfl := h
      · simp [Event.view, View.ofTree, hcount, Nat.add_comm 1]
      · have hbelow := id_of_mem_treesEvents cs (id + 1) h
        omega
      · simp [Event.view, View.ofTree, hcount, Nat.add_comm 1]

theorem id_of_mem_treesEvents {e : Event} : ∀ (ts : List Tree) (id : Nat), e ∈ treesEvents id ts →
    id ≤ e.view.id ∧ e.view.id < id + Tree.countOfList ts
  | [], id, h => by cases h
  | t :: ts, id, h => by
      rw [treesEvents, List.mem_append] at h
      obtain h | h := h
      · have hfirst := id_of_mem_treeEvents t id h
        simp only [Tree.countOfList_cons]
        omega
      · have hrest := id_of_mem_treesEvents ts (id + t.count) h
        simp only [Tree.countOfList_cons]
        omega

end

/-! ## the order of the nodes -/

theorem openedViews_append (es fs : List Event) :
    openedViews (es ++ fs) = openedViews es ++ openedViews fs := List.filterMap_append

mutual

/-- **Nodes open in order**, and their numbers are their places. -/
theorem openedViews_treeEvents (d : Nat) : ∀ (t : Tree) (id : Nat),
    openedViews (treeEvents id t) = (t.preorder d).mapIdx fun i n => View.ofTree (id + i) n.2
  | .node ty tx none ps, id => rfl
  | .node ty tx (some cs) ps, id => by
      have hbelow := openedViews_treesEvents (d + 1) cs (id + 1)
      have hopened (v : View) (es : List Event) : openedViews (.opened v :: es) = v :: openedViews es := rfl
      rw [treeEvents, Tree.preorder, hopened, openedViews_append, hbelow]
      simp [openedViews, List.mapIdx_cons, Nat.add_assoc, Nat.add_comm 1]

theorem openedViews_treesEvents (d : Nat) : ∀ (ts : List Tree) (id : Nat),
    openedViews (treesEvents id ts) =
      (Tree.preorderOfList d ts).mapIdx fun i n => View.ofTree (id + i) n.2
  | [], id => rfl
  | t :: ts, id => by
      rw [treesEvents, openedViews_append, openedViews_treeEvents d t id,
        openedViews_treesEvents d ts (id + t.count)]
      simp [List.mapIdx_append, Nat.add_assoc, Nat.add_comm t.count]

end

theorem openedViews_eventsOfTree (t : Tree) :
    openedViews (eventsOfTree t) = (t.preorder 0).mapIdx fun i n => View.ofTree i n.2 := by
  have hviews := openedViews_treeEvents 0 t 0
  simpa [eventsOfTree_eq_treeEvents] using hviews

/-- As many nodes are opened as the tree has. -/
theorem length_openedViews (t : Tree) : (openedViews (eventsOfTree t)).length = t.count := by
  simp [openedViews_eventsOfTree]

/-- The numbers are those from zero on. -/
theorem ids_openedViews (t : Tree) :
    (openedViews (eventsOfTree t)).map View.id = List.range t.count := by
  refine List.ext_getElem (by simp [length_openedViews]) fun i hi hi' => ?_
  simp [openedViews_eventsOfTree, View.ofTree]

/-! ## one piece for each tree -/

mutual

/-- **The events of the tree of a node** stand in one piece.  Before it there are only smaller numbers,
and after it none of its own. -/
theorem treeEvents_split {i e : Nat} {s : Tree} (d : Nat) : ∀ (t : Tree) (id : Nat),
    (t.preorder d)[i]? = some (e, s) →
      ∃ before after, treeEvents id t = before ++ treeEvents (id + i) s ++ after ∧
        (∀ x ∈ before, x.view.id < id + i) ∧
        ∀ x ∈ after, x.view.id < id + i ∨ id + i + s.count ≤ x.view.id
  | .node ty tx none ps, id, h => by
      obtain ⟨rfl, rfl⟩ : i = 0 ∧ .node ty tx none ps = s := by
        cases i <;> simp_all [Tree.preorder]
      exact ⟨[], [], by simp⟩
  | .node ty tx (some cs) ps, id, h => by
      rw [Tree.preorder] at h
      cases i with
      | zero =>
          obtain ⟨-, rfl⟩ := Prod.mk.inj (Option.some.inj h)
          exact ⟨[], [], by simp⟩
      | succ i =>
          obtain ⟨before, after, heq, hbefore, hafter⟩ := treesEvents_split (d + 1) cs (id + 1) h
          have hplace : id + (i + 1) = id + 1 + i := by omega
          refine ⟨.opened (View.ofTree id (.node ty tx (some cs) ps)) :: before,
            after ++ [.closed (View.ofTree id (.node ty tx (some cs) ps))], ?_, ?_, ?_⟩
          · simp [treeEvents, heq, hplace]
          · rw [hplace]
            refine List.forall_mem_cons.mpr ⟨?_, hbefore⟩
            show id < id + 1 + i
            omega
          · rw [hplace]
            refine List.forall_mem_append.mpr ⟨hafter, ?_⟩
            refine List.forall_mem_singleton.mpr (.inl ?_)
            show id < id + 1 + i
            omega

theorem treesEvents_split {i e : Nat} {s : Tree} (d : Nat) : ∀ (ts : List Tree) (id : Nat),
    (Tree.preorderOfList d ts)[i]? = some (e, s) →
      ∃ before after, treesEvents id ts = before ++ treeEvents (id + i) s ++ after ∧
        (∀ x ∈ before, x.view.id < id + i) ∧
        ∀ x ∈ after, x.view.id < id + i ∨ id + i + s.count ≤ x.view.id
  | [], id, h => by simp at h
  | t :: ts, id, h => by
      rw [Tree.preorderOfList_cons, List.getElem?_append] at h
      split at h
      · have hle := Tree.add_count_le h
        obtain ⟨before, after, heq, hbefore, hafter⟩ := treeEvents_split d t id h
        refine ⟨before, after ++ treesEvents (id + t.count) ts, by simp [treesEvents, heq], hbefore, ?_⟩
        refine List.forall_mem_append.mpr ⟨hafter, fun x hx => .inr ?_⟩
        have hx := (id_of_mem_treesEvents ts _ hx).1
        omega
      · next hi =>
          rw [Tree.length_preorder] at hi h
          obtain ⟨before, after, heq, hbefore, hafter⟩ := treesEvents_split d ts (id + t.count) h
          have hplace : id + t.count + (i - t.count) = id + i := by omega
          rw [hplace] at heq hbefore hafter
          refine ⟨treeEvents id t ++ before, after, by simp [treesEvents, heq], ?_, hafter⟩
          refine List.forall_mem_append.mpr ⟨fun x hx => ?_, hbefore⟩
          have hx := (id_of_mem_treeEvents t id hx).2
          omega

end

/-! ## rebuilding the shape -/

/-- What is known after the marks of a part of the events have been read from its end. -/
structure Gathering where
  /-- The trees that were found, the first one first. -/
  found : List Skeleton
  /-- The nodes that were closed and are still to be opened, the innermost first, each with the trees
  that were found behind it. -/
  waiting : List (Nat × List Skeleton)

/-- Reads one mark.  An opening is that of a node with a list of children if the innermost waiting node
has its number, and else that of a leaf. -/
def Gathering.read : Mark → Gathering → Gathering
  | .closed id, g => ⟨[], (id, g.found) :: g.waiting⟩
  | .opened id, ⟨found, (id', later) :: rest⟩ =>
    if id = id' then ⟨.node (some found) :: later, rest⟩
    else ⟨.node none :: found, (id', later) :: rest⟩
  | .opened _, ⟨found, []⟩ => ⟨.node none :: found, []⟩

/-- The shape of the tree that the marks are about, if they are about one tree. -/
def rebuild (ms : List Mark) : Option Skeleton :=
  match ms.foldr Gathering.read ⟨[], []⟩ with
  | ⟨[s], []⟩ => some s
  | _ => none

theorem read_leaf {id : Nat} {g : Gathering} (h : ∀ w ∈ g.waiting, w.1 < id) :
    Gathering.read (.opened id) g = ⟨.node none :: g.found, g.waiting⟩ := by
  obtain ⟨found, waiting⟩ := g
  cases waiting with
  | nil => rfl
  | cons w ws =>
      have hne : id ≠ w.1 := Nat.ne_of_gt (h w (by simp))
      simp [Gathering.read, hne]

mutual

/-- Reading the marks of a tree finds its shape.  The nodes that wait are around the tree, so their
numbers are smaller. -/
theorem foldr_marks : ∀ (t : Tree) (id : Nat) (g : Gathering), (∀ w ∈ g.waiting, w.1 < id) →
    ((treeEvents id t).map Event.mark).foldr Gathering.read g = ⟨t.skeleton :: g.found, g.waiting⟩
  | .node ty tx none ps, id, g, h => by
      simpa [treeEvents, Event.mark, View.ofTree, Tree.skeleton] using read_leaf h
  | .node ty tx (some cs) ps, id, g, h => by
      have hwaiting : ∀ w ∈ (id, g.found) :: g.waiting, w.1 < id + 1 :=
        List.forall_mem_cons.mpr ⟨Nat.lt_succ_self id, fun w hw => Nat.lt_succ_of_lt (h w hw)⟩
      have hbelow := foldr_marks_trees cs (id + 1) ⟨[], (id, g.found) :: g.waiting⟩ hwaiting
      simp only [treeEvents, List.map_cons, List.map_append, List.map_nil, List.foldr_cons,
        List.foldr_append, List.foldr_nil, Event.mark, View.ofTree, Gathering.read, hbelow]
      simp [Tree.skeleton]

theorem foldr_marks_trees : ∀ (ts : List Tree) (id : Nat) (g : Gathering), (∀ w ∈ g.waiting, w.1 < id) →
    ((treesEvents id ts).map Event.mark).foldr Gathering.read g =
      ⟨Tree.skeletons ts ++ g.found, g.waiting⟩
  | [], id, g, h => rfl
  | t :: ts, id, g, h => by
      have hlater : ∀ w ∈ g.waiting, w.1 < id + t.count := fun w hw => Nat.lt_add_right _ (h w hw)
      rw [treesEvents, List.map_append, List.foldr_append, foldr_marks_trees ts (id + t.count) g hlater,
        foldr_marks t id ⟨Tree.skeletons ts ++ g.found, g.waiting⟩ h, Tree.skeletons, List.cons_append]

end

/-- **The shape can be rebuilt** from what the events do to which numbers. -/
theorem rebuild_marks (t : Tree) : rebuild ((eventsOfTree t).map Event.mark) = some t.skeleton := by
  have hread := foldr_marks t 0 ⟨[], []⟩ (by simp)
  rw [rebuild, eventsOfTree_eq_treeEvents, hread]

/-! ## what the events say -/

mutual

/-- Every event shows a node of the tree, with the place of the node as its number. -/
theorem exists_of_mem_treeEvents {x : Event} (d : Nat) : ∀ (t : Tree) (id : Nat), x ∈ treeEvents id t →
    ∃ i n, (t.preorder d)[i]? = some n ∧ x.view = View.ofTree (id + i) n.2
  | .node ty tx none ps, id, h => by
      rw [treeEvents, List.mem_singleton] at h
      subst h
      exact ⟨0, _, rfl, rfl⟩
  | .node ty tx (some cs) ps, id, h => by
      rw [treeEvents, List.mem_cons, List.mem_append, List.mem_singleton] at h
      obtain rfl | h | rfl := h
      · exact ⟨0, _, rfl, rfl⟩
      · obtain ⟨i, n, hi, hview⟩ := exists_of_mem_treesEvents (d + 1) cs (id + 1) h
        exact ⟨i + 1, n, hi, by rw [hview, Nat.add_assoc, Nat.add_comm 1]⟩
      · exact ⟨0, _, rfl, rfl⟩

theorem exists_of_mem_treesEvents {x : Event} (d : Nat) : ∀ (ts : List Tree) (id : Nat),
    x ∈ treesEvents id ts →
      ∃ i n, (Tree.preorderOfList d ts)[i]? = some n ∧ x.view = View.ofTree (id + i) n.2
  | [], id, h => by cases h
  | t :: ts, id, h => by
      rw [treesEvents, List.mem_append] at h
      obtain h | h := h
      · obtain ⟨i, n, hi, hview⟩ := exists_of_mem_treeEvents d t id h
        have hlt : i < (t.preorder d).length := (List.getElem?_eq_some_iff.mp hi).1
        exact ⟨i, n, by rw [Tree.preorderOfList_cons, List.getElem?_append_left hlt, hi], hview⟩
      · obtain ⟨i, n, hi, hview⟩ := exists_of_mem_treesEvents d ts (id + t.count) h
        refine ⟨t.count + i, n, ?_, by rw [hview, Nat.add_assoc]⟩
        have hle : (t.preorder d).length ≤ t.count + i := by simp
        rw [Tree.preorderOfList_cons, List.getElem?_append_right hle, Tree.length_preorder,
          Nat.add_sub_cancel_left, hi]

end

/-- Events about other nodes do not close a node. -/
theorem count_closed_eq_zero {es : List Event} {i : Nat} (h : ∀ x ∈ es, x.view.id ≠ i) :
    (es.map Event.mark).count (.closed i) = 0 := by
  rw [List.count_eq_zero, List.mem_map]
  rintro ⟨x, hx, heq⟩
  cases x with
  | opened v => cases heq
  | closed v => exact h _ hx (Mark.closed.inj heq)

/-- Among the events of its own tree, a node is closed once if it has a list of children, and never if
it has none. -/
theorem count_closed_treeEvents (i : Nat) (s : Tree) :
    ((treeEvents i s).map Event.mark).count (.closed i) = if s.children.isSome then 1 else 0 := by
  have hbelow : ((treesEvents (i + 1) s.childList).map Event.mark).count (.closed i) = 0 := by
    refine count_closed_eq_zero fun x hx => ?_
    have hx := (id_of_mem_treesEvents _ _ hx).1
    omega
  rw [treeEvents_eq, List.map_cons, List.map_append, List.count_cons, List.count_append, hbelow, closing]
  split <;> simp [Event.mark, View.ofTree]

/-- What the events of a tree say about it.  `i` is the place of a node and `s` is its tree. -/
structure Describes (t : Tree) (es : List Event) : Prop where
  /-- The nodes open in order, each with its place as its number. -/
  opened : openedViews es = (t.preorder 0).mapIdx fun i n => View.ofTree i n.2
  /-- The numbers are those from zero up to the number of nodes. -/
  ids : (openedViews es).map View.id = List.range t.count
  /-- What an event shows is found among the opened nodes under its number. -/
  views : ∀ x ∈ es, (openedViews es)[x.view.id]? = some x.view
  /-- The nodes below a node have the numbers after it. -/
  below : ∀ i d s, (t.preorder 0)[i]? = some (d, s) → ((t.preorder 0).drop i).take s.count = s.preorder d
  /-- A node is closed once if it has a list of children, and never if it has none. -/
  closed : ∀ i d s, (t.preorder 0)[i]? = some (d, s) →
    (es.map Event.mark).count (.closed i) = if s.children.isSome then 1 else 0
  /-- Between the opening and the closing of a node stand the events of all nodes below it, and no
  others. -/
  nested : ∀ i d s, (t.preorder 0)[i]? = some (d, s) → s.children.isSome = true →
    ∃ before inner after,
      es = before ++ .opened (View.ofTree i s) :: (inner ++ .closed (View.ofTree i s) :: after) ∧
      (∀ x ∈ inner, i < x.view.id ∧ x.view.id < i + s.count) ∧
      ∀ x ∈ before ++ after, x.view.id < i ∨ i + s.count ≤ x.view.id
  /-- The events can be cut between a child and the next one: all events of the one and of what is below
  it come before all events of the other. -/
  siblings : ∀ (i d j : Nat) (s a b : Tree) (left right : List Tree), (t.preorder 0)[i]? = some (d, s) →
    s.childList = left ++ a :: b :: right → j = i + 1 + Tree.countOfList left →
    (t.preorder 0)[j]? = some (d + 1, a) ∧ (t.preorder 0)[j + a.count]? = some (d + 1, b) ∧
      ∃ before after, es = before ++ after ∧ (∀ x ∈ before, x.view.id < j + a.count) ∧
        ∀ x ∈ after, x.view.id < j ∨ j + a.count ≤ x.view.id
  /-- The shape of the tree is rebuilt from what the events do to which numbers. -/
  shape : rebuild (es.map Event.mark) = some t.skeleton

/-- The events of a tree around those of the tree of one of its nodes. -/
theorem eventsOfTree_split {t s : Tree} {i d : Nat} (h : (t.preorder 0)[i]? = some (d, s)) :
    ∃ before after, eventsOfTree t = before ++ treeEvents i s ++ after ∧
      (∀ x ∈ before, x.view.id < i) ∧ ∀ x ∈ after, x.view.id < i ∨ i + s.count ≤ x.view.id := by
  have hsplit := treeEvents_split 0 t 0 h
  rwa [Nat.zero_add, ← eventsOfTree_eq_treeEvents] at hsplit

theorem views_eventsOfTree {t : Tree} {x : Event} (h : x ∈ eventsOfTree t) :
    (openedViews (eventsOfTree t))[x.view.id]? = some x.view := by
  rw [eventsOfTree_eq_treeEvents] at h
  obtain ⟨i, n, hi, hview⟩ := exists_of_mem_treeEvents 0 t 0 h
  rw [Nat.zero_add] at hview
  have hid : x.view.id = i := by simp [hview, View.ofTree]
  rw [openedViews_eventsOfTree, hid, List.getElem?_mapIdx, hi, hview]
  rfl

theorem closed_eventsOfTree {t s : Tree} {i d : Nat} (h : (t.preorder 0)[i]? = some (d, s)) :
    ((eventsOfTree t).map Event.mark).count (.closed i) = if s.children.isSome then 1 else 0 := by
  obtain ⟨before, after, heq, hbefore, hafter⟩ := eventsOfTree_split h
  have hcount : 0 < s.count := by simp [Tree.count_eq]
  have hnone := count_closed_eq_zero fun x hx => Nat.ne_of_lt (hbefore x hx)
  have hnone' : (after.map Event.mark).count (.closed i) = 0 := by
    refine count_closed_eq_zero fun x hx => ?_
    have hx := hafter x hx
    omega
  rw [heq, List.map_append, List.map_append, List.count_append, List.count_append, hnone, hnone',
    count_closed_treeEvents, Nat.zero_add, Nat.add_zero]

theorem nested_eventsOfTree {t s : Tree} {i d : Nat} (h : (t.preorder 0)[i]? = some (d, s))
    (hs : s.children.isSome = true) :
    ∃ before inner after, eventsOfTree t =
        before ++ .opened (View.ofTree i s) :: (inner ++ .closed (View.ofTree i s) :: after) ∧
      (∀ x ∈ inner, i < x.view.id ∧ x.view.id < i + s.count) ∧
      ∀ x ∈ before ++ after, x.view.id < i ∨ i + s.count ≤ x.view.id := by
  obtain ⟨before, after, heq, hbefore, hafter⟩ := eventsOfTree_split h
  refine ⟨before, treesEvents (i + 1) s.childList, after, ?_, fun x hx => ?_, ?_⟩
  · simp [heq, treeEvents_eq, closing, hs]
  · have hx := id_of_mem_treesEvents _ _ hx
    rw [Tree.count_eq]
    omega
  · exact List.forall_mem_append.mpr ⟨fun x hx => .inl (hbefore x hx), hafter⟩

theorem siblings_eventsOfTree {t s a b : Tree} {i d j : Nat} {left right : List Tree}
    (h : (t.preorder 0)[i]? = some (d, s)) (hs : s.childList = left ++ a :: b :: right)
    (hj : j = i + 1 + Tree.countOfList left) :
    (t.preorder 0)[j]? = some (d + 1, a) ∧ (t.preorder 0)[j + a.count]? = some (d + 1, b) ∧
      ∃ before after, eventsOfTree t = before ++ after ∧ (∀ x ∈ before, x.view.id < j + a.count) ∧
        ∀ x ∈ after, x.view.id < j ∨ j + a.count ≤ x.view.id := by
  obtain ⟨before, after, heq, hbefore, hafter⟩ := eventsOfTree_split h
  have hnext : s.childList = (left ++ [a]) ++ b :: right := by simp [hs]
  have hplace : i + 1 + Tree.countOfList (left ++ [a]) = j + a.count := by simp [hj, Nat.add_assoc]
  have hcount : s.count = Tree.countOfList left + a.count + (b.count + Tree.countOfList right) + 1 := by
    simp [Tree.count_eq s, hs, Nat.add_assoc]
  have ha := Tree.preorder_child h hs
  have hb := Tree.preorder_child h hnext
  have htrees := treesEvents_append (i + 1) (left ++ [a]) (b :: right)
  rw [hplace] at hb htrees
  refine ⟨hj ▸ ha, hb, before ++ .opened (View.ofTree i s) :: treesEvents (i + 1) (left ++ [a]),
    treesEvents (j + a.count) (b :: right) ++ closing i s ++ after, ?_, ?_, ?_⟩
  · rw [heq, treeEvents_eq, hnext, htrees]
    simp only [List.append_assoc, List.cons_append]
  · refine List.forall_mem_append.mpr ⟨fun x hx => ?_, List.forall_mem_cons.mpr ⟨?_, fun x hx => ?_⟩⟩
    · have hx := hbefore x hx
      omega
    · show i < j + a.count
      omega
    · have hx := (id_of_mem_treesEvents _ _ hx).2
      omega
  · refine List.forall_mem_append.mpr ⟨List.forall_mem_append.mpr ⟨fun x hx => ?_, fun x hx => ?_⟩,
      fun x hx => ?_⟩
    · have hx := (id_of_mem_treesEvents _ _ hx).1
      omega
    · have hx := id_of_mem_closing hx
      omega
    · have hx := hafter x hx
      omega

/-- The number of nodes stands in front of everything that depends on the tree. -/
theorem parts_count (t : Tree) :
    ∃ rest, parts t = .markup (joinLines headLines) :: .number t.count :: rest := by
  rw [parts, length_openedViews]
  exact ⟨_, rfl⟩

/-- **Events describe the tree**: its nodes open in the order of a walk with their places as numbers, a
node is closed exactly if it has a list of children, after all that is below it and before its next
sibling, and the shape of the tree is rebuilt from that.  So trees of different shapes have different
events, and the page tells the number of nodes. -/
theorem eventsOfTree_describes :
    (∀ t, Describes t (eventsOfTree t)) ∧
    (∀ t, ∃ rest, parts t = .markup (joinLines headLines) :: .number t.count :: rest) ∧
    (∀ t t', (eventsOfTree t).map Event.mark = (eventsOfTree t').map Event.mark →
      t.skeleton = t'.skeleton) ∧
    ∀ (table : NodeTable) root t, table.tree? root = some t →
      ∃ ids, table.walk root = some ids ∧ ids.map table.tree? = (t.preorder 0).map (fun n => some n.2) ∧
        table.count root = some t.count := by
  refine ⟨fun t => ?_, parts_count, fun t t' h => ?_, fun table root t => table.walk_of_tree?⟩
  · exact {
      opened := openedViews_eventsOfTree t
      ids := ids_openedViews t
      views := fun _ => views_eventsOfTree
      below := fun _ _ _ => Tree.take_drop_preorder
      closed := fun _ _ _ => closed_eventsOfTree
      nested := fun _ _ _ => nested_eventsOfTree
      siblings := fun _ _ _ _ _ _ _ _ => siblings_eventsOfTree
      shape := rebuild_marks t }
  · have hsame := rebuild_marks t
    rw [h, rebuild_marks t'] at hsame
    exact (Option.some.inj hsame).symm

/-- A table in which a node has two children, the first with an empty list of children and the second
without one. -/
def unevenTable : NodeTable := .ofEntries [⟨"Select", "SELECT a", some [1, 2], none, none⟩,
  ⟨"Column", "a", some [], none, none⟩, ⟨"Limit", "", none, none, none⟩]

/-- The tree of its first node. -/
def unevenTree : Tree :=
  .node "Select" "SELECT a" (some [.node "Column" "a" (some []) none, .node "Limit" "" none none]) none

theorem eventsOfTree_describes_uneven :
    unevenTable.tree? 0 = some unevenTree ∧ Describes unevenTree (eventsOfTree unevenTree) ∧
    ((eventsOfTree unevenTree).map Event.mark).count (.closed 1) = 1 ∧
    ((eventsOfTree unevenTree).map Event.mark).count (.closed 2) = 0 ∧
    (∃ before after, eventsOfTree unevenTree = before ++ after ∧ (∀ x ∈ before, x.view.id < 2) ∧
      ∀ x ∈ after, x.view.id < 1 ∨ 2 ≤ x.view.id) ∧
    ∃ ids, unevenTable.walk 0 = some ids ∧ unevenTable.count 0 = some 3 := by
  have hdescribes := eventsOfTree_describes.1 unevenTree
  have htree : unevenTable.tree? 0 = some unevenTree := rfl
  obtain ⟨ids, hwalk, -, hcount⟩ := eventsOfTree_describes.2.2.2 unevenTable 0 unevenTree htree
  have hcut := hdescribes.siblings 0 0 1 unevenTree _ _ [] [] rfl rfl rfl
  exact ⟨htree, hdescribes, hdescribes.closed 1 1 _ rfl, hdescribes.closed 2 1 _ rfl, hcut.2.2, ids, hwalk,
    hcount⟩

end Page

end QueryTree
