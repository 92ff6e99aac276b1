import QueryTree.Proofs.Capture

/-!
# QueryTree.Proofs.Handout

What a capture hands out, properties and all.

The nodes of a captured tree are numbered one after the other, wherever in the table
they stand.  Their properties are those of their sources, reflected in the same order,
so the tree that is read back depends on the graph and the captured expressions only:

* `map_properties_populateNodes` — the properties that the nodes get;
* `handed_build` — the tree or the error that a capture ends with.
-/

namespace QueryTree

namespace Graph

/-- The properties of several objects, reflected one after the other. -/
def reflections (g : Graph) : IdentitySet → List ObjectId → List (Option (List Property))
  | _, [] => []
  | visited, id :: ids =>
    (g.reflect (.ref id) visited).1 :: reflections g (g.reflect (.ref id) visited).2 ids

end Graph

namespace Rose

/-- The tree that a capture of some expressions hands out.  The expressions count as shown from the
start, and their properties are reflected parents before children. -/
def handout (g : Graph) (T : Rose) : Tree :=
  T.dressed g (fun i => (g.reflections ((T.preorder.map .object).foldl IdentitySet.insert .empty)
    T.preorder).getD i none) 0

mutual

/-- Where the numbering starts does not matter. -/
theorem dressed_shift {g : Graph} {p q : Nat → Option (List Property)} : ∀ (T : Rose) (n m : Nat),
    (∀ i, i < T.preorder.length → p (n + i) = q (m + i)) → T.dressed g p n = T.dressed g q m
  | .node source below, n, m, h => by
      simp only [preorder, List.length_cons] at h
      have hroot : p n = q m := h 0 (by omega)
      have hbelow : dressedAll g p (n + 1) below = dressedAll g q (m + 1) below :=
        dressedAll_shift below (n + 1) (m + 1) fun i hi => by
          rw [Nat.add_right_comm n, Nat.add_right_comm m]
          exact h (i + 1) (by omega)
      rw [dressed, dressed, hroot, hbelow]

theorem dressedAll_shift {g : Graph} {p q : Nat → Option (List Property)} :
    ∀ (Ts : List Rose) (n m : Nat),
      (∀ i, i < (preorderOfList Ts).length → p (n + i) = q (m + i)) →
      dressedAll g p n Ts = dressedAll g q m Ts
  | [], _, _, _ => rfl
  | T :: Ts, n, m, h => by
      simp only [preorderOfList, List.length_append] at h
      have hfirst : T.dressed g p n = T.dressed g q m :=
        dressed_shift T n m fun i hi => h i (by omega)
      have hrest : dressedAll g p (n + T.preorder.length) Ts =
          dressedAll g q (m + T.preorder.length) Ts :=
        dressedAll_shift Ts _ _ fun i hi => by
          have := h (T.preorder.length + i) (by omega)
          rwa [← Nat.add_assoc, ← Nat.add_assoc] at this
      rw [dressedAll, dressedAll, hfirst, hrest]

end

end Rose

namespace NodeTable

/-! ## the properties of its nodes -/

mutual

/-- The nodes of a tree that stands in a table have its expressions as their sources. -/
theorem map_source_of_standsAt {g : Graph} {t : NodeTable} : ∀ (T : Rose) (n : Nat),
    StandsAt g t n T →
    (List.range' n T.preorder.length).map (fun id => (t.entry id).source) = T.preorder.map some
  | .node source below, n, h => by
      obtain ⟨-, -, hsource, -, hbelow⟩ := h
      simp [Rose.preorder, List.range'_succ, hsource, map_source_of_standAt below (n + 1) hbelow]

theorem map_source_of_standAt {g : Graph} {t : NodeTable} : ∀ (Ts : List Rose) (n : Nat),
    StandAt g t n Ts →
    (List.range' n (Rose.preorderOfList Ts).length).map (fun id => (t.entry id).source) =
      (Rose.preorderOfList Ts).map some
  | [], _, _ => rfl
  | T :: Ts, n, h => by
      rw [Rose.preorderOfList, List.length_append, ← List.range'_append_1, List.map_append,
        map_source_of_standsAt T n h.1, map_source_of_standAt Ts _ h.2, List.map_append]

end

/-- Nodes that are numbered one after the other get the properties of their sources, reflected in that
order. -/
theorem map_properties_populateNodes (g : Graph) (sources : List ObjectId) (n : Nat) (t : NodeTable)
    (visited : IdentitySet)
    (hsources : (List.range' n sources.length).map (fun id => (t.entry id).source) =
      sources.map some) :
    (List.range' n sources.length).map (fun id =>
      ((populateNodes g t visited (List.range' n sources.length)).1.entry id).properties) =
        g.reflections visited sources := by
  induction sources generalizing n t visited with
  | nil => rfl
  | cons source sources ih =>
      rw [List.length_cons, List.range'_succ, List.map_cons, List.map_cons, List.cons.injEq] at hsources
      obtain ⟨hsource, hrest⟩ := hsources
      have hnot : n ∉ List.range' (n + 1) sources.length := by
        rw [List.mem_range'_1]
        omega
      have hsame : (List.range' (n + 1) sources.length).map (fun id =>
          ((t.setProperties n (g.reflect (.ref source) visited).1).entry id).source) =
            sources.map some := by
        simp only [source_setProperties, hrest]
      have hfirst : ((t.setProperties n (g.reflect (.ref source) visited).1).entry n).properties =
          (g.reflect (.ref source) visited).1 := by
        rw [entry_setProperties, if_pos ⟨rfl, lt_size_of_source hsource⟩]
      have hpopulate : populateNodes g t visited (n :: List.range' (n + 1) sources.length) =
          populateNodes g (t.setProperties n (g.reflect (.ref source) visited).1)
            (g.reflect (.ref source) visited).2 (List.range' (n + 1) sources.length) := by
        simp [populateNodes, populateNode, hsource]
      rw [List.length_cons, List.range'_succ, List.map_cons, hpopulate,
        entry_populateNodes_of_notMem g hnot, hfirst, ih _ _ _ hsame, Graph.reflections]

end NodeTable

namespace Session

/-! ## captures -/

/-- Filling in properties leaves the lists of children to those who have them. -/
theorem own_populate {g : Graph} {s : Session} {node id : NodeId} (h : s.table.Own id) :
    (s.populate g node).table.Own id := by
  rw [populate, NodeTable.populate]
  cases s.table.walk node with
  | none => exact h
  | some ids => exact NodeTable.own_populateNodes g ids _ h

/-- Filling in the properties of a tree changes no other node. -/
theorem entry_populate {g : Graph} {s : Session} {node : Nat} {T : Rose}
    (h : NodeTable.StandsAt g s.table node T) (hsize : node + T.preorder.length ≤ s.table.size)
    {id : NodeId} (hid : ¬ (node ≤ id ∧ id < node + T.preorder.length)) :
    (s.populate g node).table.entry id = s.table.entry id := by
  rw [table_populate h hsize]
  exact NodeTable.entry_populateNodes_of_notMem g (by rwa [List.mem_range'_1]) _ _

/-- A tree whose properties are filled in is read back as what a capture of it hands out. -/
theorem tree_populate {g : Graph} {s : Session} {node : Nat} {T : Rose}
    (h : NodeTable.StandsAt g s.table node T) (hsize : node + T.preorder.length ≤ s.table.size) :
    (s.populate g node).tree node = T.handout g := by
  have hstands := (captures_populate h hsize).stands
  have hsize' : node + T.preorder.length ≤ (s.populate g node).table.size := by
    rwa [size_populate]
  have hcaptured := NodeTable.filterMap_source_of_standsAt T node h
  have hproperties := NodeTable.map_properties_populateNodes g T.preorder node s.table
    (s.table.sources (List.range' node T.preorder.length)) (NodeTable.map_source_of_standsAt T node h)
  rw [← table_populate h hsize, NodeTable.sources, hcaptured] at hproperties
  rw [tree_of_standsAt hstands hsize', Rose.handout]
  refine Rose.dressed_shift T node 0 fun i hi => ?_
  rw [← hproperties]
  simp [List.getD, hi]

/-- What a capture ends with: the tree of the node that it returns, or its error. -/
def handed (r : Except CaptureError NodeId × Session) : Except CaptureError Tree := r.1.map r.2.tree

/-- What a capture from an expression ends with, if every expression plays a role or none.  It fails if
the walk does not get through, and if nothing is left of the unfolded graph; otherwise it hands out the
first tree that is left. -/
def expected (g : Graph) (root : ObjectId) (role : ObjectId → Option Role) :
    Except CaptureError Tree :=
  if (g.unfolding root).clears g role then
    match (g.unfolding root).remains role with
    | [] => .error (.neverVisited (g.typeOf root))
    | T :: _ => .ok (T.handout g)
  else .error (.tooDeep (g.typeOf root))

/-- **Handing out**: what a capture ends with depends on the graph and on the role of each expression,
and on nothing that happened before. -/
theorem handed_build (s : Session) (w : Walker Session TextError) (k : Nat) (g : Graph)
    (root : ObjectId) {role : ObjectId → Option Role} (hk : k < s.recorders.size)
    (hacyclic : Acyclic g.children) (hrole : ∀ id, PlaysAt w k g id (role id)) :
    handed (s.build w k g root) = expected g root role := by
  unfold expected
  obtain ⟨hc, hbuild⟩ | ⟨hc, hforest, hbuild⟩ | ⟨hc, T, rest, s', hforest, -, hplanted, hbuild⟩ :=
    build_outcome s w k g root hk hacyclic hrole
  · rw [if_neg (by simp [hc]), handed, hbuild]
    rfl
  · rw [if_pos hc, hforest, handed, hbuild]
    rfl
  · rw [if_pos hc, hforest, handed, hbuild]
    simp only [Except.map, tree_populate hplanted.stands hplanted.size]

end Session

end QueryTree
