import QueryTree.Proofs.Unfolding
import QueryTree.Walk.Walker

/-!
# QueryTree.Proofs.Walk

The walk over a graph against the recursion that it stands for.

A walk keeps a stack of what is left to visit at each level.  `Walker.visitTree` says
the same by recursion over the unfolded graph: call the hook; if it asks to go on, visit
what is below, and then do what is to be done on the way out.

* `run_tree` — a stack with a tree on top does what the recursion does, and goes on;
* `traverse_eq_visitTree` — on a graph without cycles, a walk is the recursion over the
  unfolding, and its budget is never used up.
-/

namespace QueryTree

namespace Graph

/-! ## the unfolding of a graph -/

/-- The tree that a graph without cycles unfolds into: what is below an expression is repeated wherever
the expression turns up. -/
def unfolding (g : Graph) (root : ObjectId) : Rose := Rose.grow g.children g.size root

/-- Numbers that are not in use have no children. -/
theorem children_eq_nil (g : Graph) (id : ObjectId) (h : g.size ≤ id) : g.children id = [] := by
  have hobject : g.object id = Object.blank := by
    rw [object, Array.getD_eq_getD_getElem?, Array.getElem?_eq_none h, Option.getD_none]
  rw [children, arguments, hobject]
  rfl

/-- No expression has more children than there are pairs of an expression and a child. -/
theorem length_children_le (g : Graph) (id : ObjectId) : (g.children id).length ≤ g.edgeCount := by
  have hsum : ∀ (ids : List ObjectId) (n : Nat),
      n ≤ ids.foldl (fun n id => n + (g.children id).length) n ∧
      ∀ i ∈ ids, (g.children i).length ≤ ids.foldl (fun n id => n + (g.children id).length) n := by
    intro ids
    induction ids with
    | nil => simp
    | cons i ids ih =>
        intro n
        obtain ⟨hle, hmem⟩ := ih (n + (g.children i).length)
        rw [List.foldl_cons]
        refine ⟨by omega, ?_⟩
        intro j hj
        obtain rfl | hj := List.mem_cons.mp hj
        · omega
        · exact hmem j hj
  by_cases hid : id < g.size
  · exact (hsum (List.range g.size) 0).2 id (List.mem_range.mpr hid)
  · rw [children_eq_nil g id (Nat.le_of_not_lt hid)]
    exact Nat.zero_le _

/-- The unfolding from an expression is the expression with the unfoldings of its children below it. -/
theorem unfolding_eq (g : Graph) (h : Acyclic g.children) (id : ObjectId) :
    g.unfolding id = .node id ((g.children id).map g.unfolding) := by
  have hheight := heightLE_of_acyclic (children_eq_nil g) h id
  rw [unfolding, ← Rose.grow_succ g.size id hheight]
  rfl

theorem unfolds_unfolding (g : Graph) (h : Acyclic g.children) (id : ObjectId) :
    (g.unfolding id).Unfolds g.children :=
  Rose.unfolds_grow g.size id (heightLE_of_acyclic (children_eq_nil g) h id)

end Graph

namespace Walker

variable {σ ε : Type}

/-! ## the recursion -/

mutual

/-- Visits a tree: its root, then what is below if the hook asks for it, then the way out. -/
def visitTree (w : Walker σ ε) (g : Graph) : Rose → σ → Except ε Unit × σ
  | .node id below, s =>
    match w.visit g id s with
    | (.error e, s) => (.error e, s)
    | (.ok none, s) => (.ok (), s)
    | (.ok (some exit), s) =>
      match visitTrees w g below s with
      | (.error e, s) => (.error e, s)
      | (.ok (), s) => (.ok (), leave exit s)

/-- Visits several trees in order, up to the first failure. -/
def visitTrees (w : Walker σ ε) (g : Graph) : List Rose → σ → Except ε Unit × σ
  | [], s => (.ok (), s)
  | t :: ts, s =>
    match visitTree w g t s with
    | (.error e, s) => (.error e, s)
    | (.ok (), s) => visitTrees w g ts s

end

/-- Goes on unless there was a failure. -/
def goOn (r : Except ε Unit × σ) (next : σ → Option (Except ε Unit × σ)) :
    Option (Except ε Unit × σ) :=
  match r with
  | (.error e, s) => some (.error e, s)
  | (.ok (), s) => next s

/-! ## the stack -/

mutual

/-- A stack with a tree on top visits the tree, in at most two steps a node, and goes on. -/
theorem run_tree (w : Walker σ ε) (g : Graph) : ∀ t : Rose, t.Unfolds g.children →
    ∀ (ids : List ObjectId) (exit : Exit σ) (frames : List (Frame σ)) (s : σ),
      ∃ used, used ≤ 2 * t.preorder.length ∧ ∀ fuel,
        w.run g (used + fuel) ((t.root :: ids, exit) :: frames) s =
          goOn (w.visitTree g t s) fun s' => w.run g fuel ((ids, exit) :: frames) s'
  | .node id below, h, ids, exit, frames, s => by
      obtain ⟨hkids, hall⟩ := h
      rw [Rose.preorder, List.length_cons, Rose.root]
      rcases hvisit : w.visit g id s with ⟨e | _ | exit', s₁⟩
      · refine ⟨1, by omega, fun fuel => ?_⟩
        rw [Nat.add_comm, run, visitTree, hvisit]
        rfl
      · refine ⟨1, by omega, fun fuel => ?_⟩
        rw [Nat.add_comm, run, visitTree, hvisit]
        rfl
      · obtain ⟨used, hused, hrun⟩ := run_trees w g below hall exit' ((ids, exit) :: frames) s₁
        refine ⟨used + 1, by omega, fun fuel => ?_⟩
        rw [Nat.add_right_comm, run, visitTree, hvisit]
        simp only
        rw [← hkids, hrun fuel]
        obtain ⟨outcome, s₂⟩ := w.visitTrees g below s₁
        cases outcome <;> rfl

/-- A frame with the roots of several trees visits them all and does what is left on the way out. -/
theorem run_trees (w : Walker σ ε) (g : Graph) : ∀ ts : List Rose, Rose.UnfoldsAll g.children ts →
    ∀ (exit : Exit σ) (frames : List (Frame σ)) (s : σ),
      ∃ used, used ≤ 2 * (Rose.preorderOfList ts).length + 1 ∧ ∀ fuel,
        w.run g (used + fuel) ((ts.map Rose.root, exit) :: frames) s =
          goOn (w.visitTrees g ts s) fun s' => w.run g fuel frames (leave exit s')
  | [], _, exit, frames, s => by
      refine ⟨1, by omega, fun fuel => ?_⟩
      rw [Nat.add_comm, List.map_nil, run, visitTrees]
      rfl
  | t :: ts, h, exit, frames, s => by
      obtain ⟨ht, hts⟩ := h
      obtain ⟨used₁, hused₁, hrun₁⟩ := run_tree w g t ht (ts.map Rose.root) exit frames s
      rw [Rose.preorderOfList, List.length_append, List.map_cons, visitTrees]
      rcases hvisit : w.visitTree g t s with ⟨e | _, s₁⟩
      · refine ⟨used₁, by omega, fun fuel => ?_⟩
        rw [hrun₁ fuel, hvisit]
        rfl
      · obtain ⟨used₂, hused₂, hrun₂⟩ := run_trees w g ts hts exit frames s₁
        refine ⟨used₁ + used₂, by omega, fun fuel => ?_⟩
        rw [Nat.add_assoc, hrun₁ (used₂ + fuel), hvisit]
        exact hrun₂ fuel

end

/-- **Walks are recursions**: on a graph without cycles, a walk visits the unfolding of the graph. -/
theorem traverse_eq_visitTree (w : Walker σ ε) (g : Graph) (h : Acyclic g.children) (root : ObjectId) (s : σ) :
    w.traverse g root s = some (w.visitTree g (g.unfolding root) s) := by
  have hall : Rose.UnfoldsAll g.children [g.unfolding root] :=
    ⟨g.unfolds_unfolding h root, trivial⟩
  obtain ⟨used, hused, hrun⟩ := run_trees w g [g.unfolding root] hall none [] s
  have hlen := Rose.length_preorder_grow_le g.length_children_le g.size root
  have hpow : Nat.pow (g.edgeCount + 1) g.size ≤ Nat.pow (g.edgeCount + 1) (g.size + 1) :=
    Nat.pow_le_pow_right (Nat.succ_pos _) (Nat.le_succ _)
  have hbudget : budget g = used + (budget g - used) := by
    simp only [Rose.preorderOfList, List.append_nil] at hused
    rw [Graph.unfolding] at hused
    rw [budget]
    omega
  have hrun' := hrun (budget g - used)
  rw [← hbudget, List.map_cons, List.map_nil, Graph.unfolding, Rose.root_grow, ← Graph.unfolding]
    at hrun'
  rw [traverse, hrun', visitTrees]
  obtain ⟨e | _, s'⟩ := w.visitTree g (g.unfolding root) s
  · rfl
  · simp [goOn, visitTrees, run, leave]

end Walker

end QueryTree
