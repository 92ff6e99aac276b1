import QueryTree.Graph.Population
import QueryTree.Proofs.Reflection
import QueryTree.Proofs.Table

/-!
# QueryTree.Proofs.Population

One pass over a tree shows everything once.

The sources of all nodes count as shown before the first node gets its properties.
Each node then reflects its source, starting from what the nodes before it have shown
and with no container open.  So at the end of the pass

* nothing was reflected as the value of a property twice, and no source at all;
* what counts as shown are the sources and all that can be reached from them.
-/

namespace QueryTree

namespace Graph

/-! ## reflecting one object -/

/-- What reflecting an object enters, given what counts as shown before. -/
def reflectEntries (g : Graph) (id : ObjectId) (visited : IdentitySet) : List Entry :=
  entriesAlong (g.convert g.nesting) (g.entries g.nesting []) (g.contents id) ⟨visited, .empty⟩

/-- Reflecting an object converts what it holds, with no container open. -/
theorem reflect_snd (g : Graph) (id : ObjectId) (visited : IdentitySet) (h : g.isThing id = true) :
    (g.reflect (.ref id) visited).2 =
      (stateAfter (g.convert g.nesting) (g.contents id) ⟨visited, .empty⟩).visited := by
  rw [← reflectWith_snd g _ id _ h, reflect]
  split
  · next heq => rw [heq]
  · next heq => rw [heq]

/-- The objects that reflecting an object shows are new. -/
theorem members_reflect (g : Graph) (id : ObjectId) (visited : IdentitySet)
    (h : g.isThing id = true) :
    (g.reflect (.ref id) visited).2.members =
      ((g.things (g.reflectEntries id visited)).map Identity.object).reverse ++ visited.members := by
  rw [reflect_snd g id visited h]
  exact (marks_along (marks_convert g g.nesting []) (g.contents id) ⟨visited, .empty⟩).visited

/-- After an object is reflected, everything counts as shown that it leads to through containers, or
that something shown on the way does. -/
theorem covers_reflect (g : Graph) (id : ObjectId) (visited : IdentitySet)
    (h : g.isThing id = true) (hv : ∀ x, .object x ∈ visited.members → g.isThing x = true) :
    ∀ x ∈ id :: g.things (g.reflectEntries id visited), ∀ v ∈ g.contents x, ∀ target,
      Way g .empty v target → .object target ∈ (g.reflect (.ref id) visited).2.members := by
  have hfuel : (g.enterable ⟨visited, .empty⟩).card < g.nesting :=
    Nat.lt_succ_of_le (card_enterable_le g _)
  have hcovers := covers_along (fun v s => covers_convert g g.nesting [] v s) (g.contents id)
    ⟨visited, .empty⟩ hfuel hv
  rw [reflect_snd g id visited h]
  intro x hx v hv' target hway
  obtain rfl | hx := List.mem_cons.mp hx
  · exact hcovers.values v hv' target hway
  · exact hcovers.marked x hx v hv' target hway

/-- Reflecting an object shows only what can be reached from it. -/
theorem reaches_of_mem_reflectEntries (g : Graph) (id : ObjectId) (visited : IdentitySet) (o : ObjectId)
    (h : o ∈ g.things (g.reflectEntries id visited)) : g.Reaches id o := by
  obtain ⟨e, he, rfl⟩ := List.mem_map.mp (List.mem_filter.mp h).1
  obtain ⟨v, hv, s, hs⟩ := exists_of_mem_entriesAlong he
  obtain ⟨held, rfl, hreach⟩ := leads_convert g g.nesting [] v s e hs
  exact .head ((g.mem_contents id _).mp hv) hreach

/-! ## reflecting several objects -/

/-- What counts as shown after several objects were reflected, one after the other. -/
def visitedAfter (g : Graph) : IdentitySet → List ObjectId → IdentitySet
  | visited, [] => visited
  | visited, id :: ids => visitedAfter g (g.reflect (.ref id) visited).2 ids

/-- What reflecting several objects enters. -/
def passEntries (g : Graph) : IdentitySet → List ObjectId → List Entry
  | _, [] => []
  | visited, id :: ids =>
    g.reflectEntries id visited ++ passEntries g (g.reflect (.ref id) visited).2 ids

/-- The objects that a pass shows are new, and each is shown once. -/
theorem members_visitedAfter (g : Graph) (ids : List ObjectId) (visited : IdentitySet)
    (h : ∀ id ∈ ids, g.isThing id = true) :
    (g.visitedAfter visited ids).members =
      ((g.things (g.passEntries visited ids)).map Identity.object).reverse ++ visited.members := by
  induction ids generalizing visited with
  | nil => rfl
  | cons id ids ih =>
      obtain ⟨hid, hids⟩ := List.forall_mem_cons.mp h
      rw [visitedAfter, passEntries, ih _ hids, members_reflect g id visited hid, things_append,
        List.map_append, List.reverse_append, List.append_assoc]

/-- A pass shows only what can be reached from the objects that it reflects. -/
theorem reaches_of_mem_passEntries (g : Graph) (ids : List ObjectId) (visited : IdentitySet)
    (o : ObjectId) (h : o ∈ g.things (g.passEntries visited ids)) : ∃ id ∈ ids, g.Reaches id o := by
  induction ids generalizing visited with
  | nil => exact absurd h List.not_mem_nil
  | cons id ids ih =>
      rw [passEntries, things_append] at h
      obtain h | h := List.mem_append.mp h
      · exact ⟨id, List.mem_cons_self, reaches_of_mem_reflectEntries g id visited o h⟩
      · obtain ⟨x, hx, hreach⟩ := ih _ h
        exact ⟨x, List.mem_cons_of_mem id hx, hreach⟩

/-- After a pass, everything counts as shown that one of its objects leads to through containers, or
that something shown on the way does. -/
theorem covers_pass (g : Graph) (ids : List ObjectId) (visited : IdentitySet)
    (h : ∀ id ∈ ids, g.isThing id = true)
    (hv : ∀ x, .object x ∈ visited.members → g.isThing x = true) :
    ∀ x, x ∈ ids ∨ x ∈ g.things (g.passEntries visited ids) → ∀ v ∈ g.contents x, ∀ target,
      Way g .empty v target → .object target ∈ (g.visitedAfter visited ids).members := by
  induction ids generalizing visited with
  | nil =>
      intro x hx
      obtain hx | hx := hx <;> exact absurd hx List.not_mem_nil
  | cons id ids ih =>
      obtain ⟨hid, hids⟩ := List.forall_mem_cons.mp h
      have hfirst := covers_reflect g id visited hid hv
      have hthings : ∀ x, .object x ∈ (g.reflect (.ref id) visited).2.members →
          g.isThing x = true := by
        intro x hx
        rw [members_reflect g id visited hid, List.mem_append, List.mem_reverse, List.mem_map] at hx
        obtain ⟨y, hy, heq⟩ | hx := hx
        · rw [← Identity.object.inj heq]
          exact isThing_of_mem_things hy
        · exact hv x hx
      have hrest := ih _ hids hthings
      intro x hx v hv' target hway
      rw [visitedAfter]
      have hkeep : .object target ∈ (g.reflect (.ref id) visited).2.members →
          .object target ∈ (g.visitedAfter (g.reflect (.ref id) visited).2 ids).members := by
        intro hmem
        rw [members_visitedAfter g ids _ hids]
        exact List.mem_append_right _ hmem
      rw [passEntries, things_append, List.mem_cons, List.mem_append] at hx
      obtain (rfl | hx) | hx | hx := hx
      · exact hkeep (hfirst x List.mem_cons_self v hv' target hway)
      · exact hrest x (.inl hx) v hv' target hway
      · exact hkeep (hfirst x (List.mem_cons_of_mem id hx) v hv' target hway)
      · exact hrest x (.inr hx) v hv' target hway

/-- A set that holds whatever its members lead to through containers holds all that can be reached
from a member.  The way is followed object by object; a container on it hands on what it holds. -/
theorem mem_of_reaches {g : Graph} {visited : IdentitySet} {source target : ObjectId}
    (hsource : g.isThing source = true) (hmem : .object source ∈ visited.members)
    (hclosed : ∀ x, .object x ∈ visited.members → ∀ v ∈ g.contents x, ∀ target,
      Way g .empty v target → .object target ∈ visited.members)
    (hreach : g.Reaches source target) (ht : g.isThing target = true) :
    .object target ∈ visited.members := by
  suffices hways : ∀ o, Way g .empty (.ref target) o → .object o ∈ visited.members from
    hways target (.here ht)
  clear ht
  induction hreach with
  | refl =>
      intro o hway
      rwa [hway.eq_of_isThing hsource]
  | @tail b c _ hbc ih =>
      intro o hway
      have hc : .ref c ∈ g.contents b := (g.mem_contents b _).mpr hbc
      cases hb : (g.object b).isContainer with
      | true => exact ih o (.through hb List.not_mem_nil hc hway)
      | false =>
          have hthing : g.isThing b = true := by simp [isThing, hb]
          exact hclosed b (ih b (.here hthing)) (.ref c) hc o hway

/-- Everything that can be reached from the captured objects was shown once, and nothing else.
`entered` is what a pass over the captured objects entered, and `visited` what counts as shown after
it. -/
structure ShownOnce (g : Graph) (captured : List ObjectId) (entered : List Entry)
    (visited : IdentitySet) : Prop where
  /-- No object was reflected as the value of a property twice. -/
  once : (g.things entered).Nodup
  /-- No captured object was reflected as the value of a property. -/
  apart : ∀ o ∈ g.things entered, o ∉ captured
  /-- What counts as shown are the captured objects and all others that can be reached from them and
  are no containers. -/
  mem_visited_iff : ∀ x, x ∈ visited.members ↔ ∃ o, x = .object o ∧
    (o ∈ captured ∨ g.isThing o = true ∧ ∃ source ∈ captured, g.Reaches source o)
  /-- All of those others were reflected as the value of a property. -/
  mem_things_iff : ∀ o, o ∈ g.things entered ↔
    g.isThing o = true ∧ o ∉ captured ∧ ∃ source ∈ captured, g.Reaches source o

/-- A pass over objects that count as shown from the start, and nothing else with them, shows
everything once. -/
theorem shownOnce_pass (g : Graph) (captured : List ObjectId) (visited : IdentitySet)
    (hthings : ∀ id ∈ captured, g.isThing id = true)
    (hvisited : ∀ x, x ∈ visited.members ↔ ∃ o ∈ captured, .object o = x) :
    ShownOnce g captured (g.passEntries visited captured) (g.visitedAfter visited captured) := by
  have hmembers := members_visitedAfter g captured visited hthings
  have hmem : ∀ x, x ∈ (g.visitedAfter visited captured).members ↔
      (∃ o ∈ g.things (g.passEntries visited captured), .object o = x) ∨
        ∃ o ∈ captured, .object o = x := by
    intro x
    rw [hmembers, List.mem_append, List.mem_reverse, List.mem_map, hvisited]
  have hnodup := (g.visitedAfter visited captured).nodup
  rw [hmembers] at hnodup
  obtain ⟨hnew, -, hdisjoint⟩ := List.nodup_append.mp hnodup
  have hapart : ∀ o ∈ g.things (g.passEntries visited captured), o ∉ captured := by
    intro o ho hcaptured
    exact hdisjoint (.object o) (List.mem_reverse.mpr (List.mem_map_of_mem ho)) (.object o)
      ((hvisited _).mpr ⟨o, hcaptured, rfl⟩) rfl
  have hclosed : ∀ x, .object x ∈ (g.visitedAfter visited captured).members → ∀ v ∈ g.contents x,
      ∀ target, Way g .empty v target →
        .object target ∈ (g.visitedAfter visited captured).members := by
    intro x hx
    refine covers_pass g captured visited hthings ?_ x ?_
    · intro y hy
      obtain ⟨o, ho, heq⟩ := (hvisited _).mp hy
      rw [← Identity.object.inj heq]
      exact hthings o ho
    · obtain ⟨o, ho, heq⟩ | ⟨o, ho, heq⟩ := (hmem _).mp hx
      · exact .inr (Identity.object.inj heq ▸ ho)
      · exact .inl (Identity.object.inj heq ▸ ho)
  have hreached : ∀ o, g.isThing o = true → (∃ source ∈ captured, g.Reaches source o) →
      .object o ∈ (g.visitedAfter visited captured).members := by
    rintro o ho ⟨source, hsource, hreach⟩
    exact mem_of_reaches (hthings source hsource) ((hmem _).mpr (.inr ⟨source, hsource, rfl⟩))
      hclosed hreach ho
  refine ⟨List.Nodup.of_map _ (List.nodup_reverse.mp hnew), hapart, ?_, ?_⟩
  · intro x
    constructor
    · intro hx
      obtain ⟨o, ho, rfl⟩ | ⟨o, ho, rfl⟩ := (hmem x).mp hx
      · exact ⟨o, rfl, .inr ⟨isThing_of_mem_things ho, reaches_of_mem_passEntries g _ _ o ho⟩⟩
      · exact ⟨o, rfl, .inl ho⟩
    · rintro ⟨o, rfl, ho | ⟨ho, hreach⟩⟩
      · exact (hmem _).mpr (.inr ⟨o, ho, rfl⟩)
      · exact hreached o ho hreach
  · intro o
    constructor
    · intro ho
      exact ⟨isThing_of_mem_things ho, hapart o ho, reaches_of_mem_passEntries g _ _ o ho⟩
    · rintro ⟨ho, hnot, hreach⟩
      obtain ⟨x, hx, heq⟩ | ⟨x, hx, heq⟩ := (hmem _).mp (hreached o ho hreach)
      · exact Identity.object.inj heq ▸ hx
      · exact absurd (Identity.object.inj heq ▸ hx) hnot

end Graph

namespace NodeTable

/-! ## the pass over a tree -/

/-- The objects that nodes were captured from, in the order of the nodes. -/
def captured (t : NodeTable) (ids : List NodeId) : List ObjectId :=
  ids.filterMap fun id => (t.entry id).source

theorem mem_sources (t : NodeTable) (ids : List NodeId) (x : Identity) :
    x ∈ (t.sources ids).members ↔ ∃ o ∈ t.captured ids, .object o = x := by
  have hfold : ∀ (xs : List Identity) (s : IdentitySet),
      x ∈ (xs.foldl IdentitySet.insert s).members ↔ x ∈ xs ∨ x ∈ s.members := by
    intro xs
    induction xs with
    | nil => simp
    | cons y ys ih =>
        intro s
        rw [List.foldl_cons, ih, IdentitySet.mem_insert, List.mem_cons]
        tauto
  rw [sources, hfold, List.mem_map]
  simp [IdentitySet.empty, captured]

theorem source_setProperties (t : NodeTable) (id i : NodeId) (ps : Option (List Property)) :
    ((t.setProperties id ps).entry i).source = (t.entry i).source := by
  rw [entry_setProperties]
  split <;> rfl

/-- Nodes that are given no properties keep theirs. -/
theorem entry_populateNodes_of_notMem (g : Graph) {ids : List NodeId} {id : NodeId} (h : id ∉ ids)
    (t : NodeTable) (visited : IdentitySet) :
    (populateNodes g t visited ids).1.entry id = t.entry id := by
  induction ids generalizing t visited with
  | nil => rfl
  | cons i ids ih =>
      obtain ⟨hne, hids⟩ := not_or.mp (mt List.mem_cons.mpr h)
      rw [populateNodes, ih hids, populateNode]
      cases (t.entry i).source with
      | none => rfl
      | some source => exact (entry_setProperties t i _ id).trans (if_neg fun hi => hne hi.1.symm)

/-- Giving nodes their properties reflects their sources, one after the other. -/
theorem populateNodes_snd (g : Graph) (ids : List NodeId) (t : NodeTable) (visited : IdentitySet) :
    (populateNodes g t visited ids).2 = g.visitedAfter visited (t.captured ids) := by
  induction ids generalizing t visited with
  | nil => rfl
  | cons id ids ih =>
      rw [populateNodes, ih, populateNode]
      cases hsource : (t.entry id).source with
      | none => simp [captured, hsource]
      | some source =>
          simp [captured, hsource, source_setProperties, Graph.visitedAfter]

/-- **Exactly once**: in a tree whose nodes were captured from expressions, the pass that fills in the
properties ends.  It reflects every object that can be reached from the captured ones, is none of them and
no container, as the value of a property once, and nothing else. -/
theorem populate_shownOnce (g : Graph) (t : NodeTable) (root : NodeId)
    (hacyclic : Acyclic t.childrenOf)
    (hsources : ∀ id, Relation.ReflTransGen (Below t.childrenOf) root id → ∀ source,
      (t.entry id).source = some source → (g.object source).isExpression = true) :
    ∃ ids populated visited, t.walk root = some ids ∧
      t.populate g root = some (populated, visited) ∧
      g.ShownOnce (t.captured ids) (g.passEntries (t.sources ids) (t.captured ids)) visited := by
  have hheight := heightLE_of_acyclic (childrenOf_eq_nil t) hacyclic root
  have hwalk := walk_eq_preorder t root (Nat.le_succ t.size) hheight
  refine ⟨_, _, _, hwalk, by rw [populate, hwalk]; rfl, ?_⟩
  rw [populateNodes_snd]
  apply Graph.shownOnce_pass
  · intro source hsource
    obtain ⟨id, hid, heq⟩ := List.mem_filterMap.mp hsource
    have hexpr := hsources id (Rose.reaches_of_mem_preorder_grow _ root id hid) source heq
    cases hobject : g.object source <;>
      simp_all [Object.isExpression, Graph.isThing, Object.isContainer]
  · exact mem_sources t _

/-- Two expressions that share a list, which holds itself, a map and an object that leads back to all
of them. -/
def tangledGraph : Graph := ⟨#[
  .piece (.named "test" "Select") (some "SELECT a") [("this", .ref 1), ("extra", .ref 3)],
  .piece (.named "test" "Column") (some "a") [("shared", .ref 3)],
  .plain [("owner", .ref 0), ("self", .ref 2), ("list", .ref 3)],
  .list [.ref 3, .ref 2, .ref 4, .ref 2],
  .map [(.scalar (.text "up"), .ref 3), (.scalar (.text "thing"), .ref 2)]]⟩

/-- The tree of the two expressions. -/
def tangledTable : NodeTable := .ofEntries [
  ⟨"Select", "SELECT a", some [1], none, some 0⟩, ⟨"Column", "a", none, none, some 1⟩]

theorem populate_shownOnce_tangled :
    Acyclic tangledTable.childrenOf ∧
    (∀ id, Relation.ReflTransGen (Below tangledTable.childrenOf) 0 id → ∀ source,
      (tangledTable.entry id).source = some source →
        (tangledGraph.object source).isExpression = true) ∧
    ∃ ids populated visited, tangledTable.walk 0 = some ids ∧
      tangledTable.populate tangledGraph 0 = some (populated, visited) ∧
      tangledGraph.ShownOnce (tangledTable.captured ids)
        (tangledGraph.passEntries (tangledTable.sources ids) (tangledTable.captured ids)) visited := by
  have hacyclic : Acyclic tangledTable.childrenOf := by
    refine acyclic_of_lt fun id c hc => ?_
    match id with
    | 0 => rw [show tangledTable.childrenOf 0 = [1] from rfl, List.mem_singleton] at hc; omega
    | 1 => rw [show tangledTable.childrenOf 1 = [] from rfl] at hc; cases hc
    | n + 2 => rw [childrenOf_eq_nil _ _ (Nat.le_add_left 2 n)] at hc; cases hc
  have hsources : ∀ id, Relation.ReflTransGen (Below tangledTable.childrenOf) 0 id → ∀ source,
      (tangledTable.entry id).source = some source →
        (tangledGraph.object source).isExpression = true := by
    intro id _ source hsource
    match id with
    | 0 => cases hsource; rfl
    | 1 => cases hsource; rfl
    | n + 2 => cases hsource
  exact ⟨hacyclic, hsources, populate_shownOnce tangledGraph tangledTable 0 hacyclic hsources⟩

end NodeTable

end QueryTree
