import Mathlib.Data.List.Perm.Subperm
import Mathlib.Logic.Relation

/-!
# QueryTree.Proofs.Unfolding

The tree that a table of numbered things unfolds into.

Graphs of expressions and tables of nodes both list, for every number, the numbers
directly below it.  Without cycles such a table stands for a tree: what is below a
number is repeated wherever the number turns up.  Only numbers under a bound have
anything below them, so the tree is finite, and its height and its size are bounded
by the table:

* `heightLE_of_acyclic` — no way down is longer than the table;
* `length_preorder_grow_le` — the nodes of a tree of a given height;
* `unfolds_grow` — growing a tree to the height of the table unfolds the table.
-/

namespace QueryTree

/-- A tree of numbers. -/
inductive Rose where
  /-- A number and the trees below it. -/
  | node (id : Nat) (below : List Rose)

namespace Rose

/-- The number at the root. -/
def root : Rose → Nat
  | .node id _ => id

mutual

/-- All numbers, parents before children, children in order. -/
def preorder : Rose → List Nat
  | .node id below => id :: preorderOfList below

/-- All numbers of several trees. -/
def preorderOfList : List Rose → List Nat
  | [] => []
  | t :: ts => preorder t ++ preorderOfList ts

end

/-- The numbers of several trees, tree by tree. -/
theorem preorderOfList_eq_flatMap (ts : List Rose) :
    preorderOfList ts = ts.flatMap preorder := by
  induction ts with
  | nil => rfl
  | cons t ts ih => rw [preorderOfList, ih, List.flatMap_cons]

theorem preorderOfList_append (ts us : List Rose) :
    preorderOfList (ts ++ us) = preorderOfList ts ++ preorderOfList us := by
  simp [preorderOfList_eq_flatMap]

mutual

/-- Whether what stands below each number is what a table lists for it. -/
def Unfolds (kids : Nat → List Nat) : Rose → Prop
  | .node id below => below.map root = kids id ∧ UnfoldsAll kids below

/-- Whether several trees unfold a table. -/
def UnfoldsAll (kids : Nat → List Nat) : List Rose → Prop
  | [] => True
  | t :: ts => Unfolds kids t ∧ UnfoldsAll kids ts

end

theorem unfoldsAll_iff {kids : Nat → List Nat} {ts : List Rose} :
    UnfoldsAll kids ts ↔ ∀ t ∈ ts, Unfolds kids t := by
  induction ts with
  | nil => simp [UnfoldsAll]
  | cons t ts ih => simp [UnfoldsAll, ih]

/-- The tree below a number, cut off at a height. -/
def grow (kids : Nat → List Nat) : Nat → Nat → Rose
  | 0, id => .node id []
  | height + 1, id => .node id ((kids id).map (grow kids height))

@[simp] theorem root_grow (kids : Nat → List Nat) (height id : Nat) :
    (grow kids height id).root = id := by
  cases height <;> rfl

end Rose

/-! ## height -/

/-- One number stands directly below another. -/
def Below (kids : Nat → List Nat) (parent child : Nat) : Prop := child ∈ kids parent

/-- Nothing stands below itself, directly or through others. -/
def Acyclic (kids : Nat → List Nat) : Prop := ∀ id, ¬ Relation.TransGen (Below kids) id id

/-- A table in which the numbers grow on the way down has no cycles. -/
theorem acyclic_of_lt {kids : Nat → List Nat} (h : ∀ id, ∀ c ∈ kids id, id < c) :
    Acyclic kids := by
  intro id hcycle
  have hlt : ∀ {a b : Nat}, Relation.TransGen (Below kids) a b → a < b := by
    intro a b hab
    induction hab with
    | single hb => exact h _ _ hb
    | tail _ hc ih => exact Nat.lt_trans ih (h _ _ hc)
  exact Nat.lt_irrefl _ (hlt hcycle)

/-- No way down from a number has more than the given number of steps. -/
def HeightLE (kids : Nat → List Nat) : Nat → Nat → Prop
  | 0, id => kids id = []
  | n + 1, id => ∀ c ∈ kids id, HeightLE kids n c

/-- The way from the top never comes by a number twice, so once it is as long as the table it
cannot go on. -/
theorem heightLE_of_path {kids : Nat → List Nat} {size : Nat}
    (hsize : ∀ id, size ≤ id → kids id = []) (h : Acyclic kids) (n : Nat) :
    ∀ (path : List Nat) (id : Nat), path.Nodup → (∀ p ∈ path, p < size) →
      (∀ p ∈ path, Relation.TransGen (Below kids) p id) → path.length + n = size →
      HeightLE kids n id := by
  have hextend : ∀ (path : List Nat) (id : Nat), path.Nodup → (∀ p ∈ path, p < size) →
      (∀ p ∈ path, Relation.TransGen (Below kids) p id) → kids id ≠ [] →
      (id :: path).Nodup ∧ ∀ p ∈ id :: path, p < size := by
    intro path id hnodup hlt hway hkids
    have hid : id < size := by
      by_contra hge
      exact hkids (hsize id (Nat.le_of_not_lt hge))
    exact ⟨List.nodup_cons.mpr ⟨fun hmem => h id (hway id hmem), hnodup⟩,
      List.forall_mem_cons.mpr ⟨hid, hlt⟩⟩
  induction n with
  | zero =>
      intro path id hnodup hlt hway hlen
      by_contra hkids
      obtain ⟨hnodup', hlt'⟩ := hextend path id hnodup hlt hway hkids
      have hsub : id :: path ⊆ List.range size :=
        fun p hp => List.mem_range.mpr (hlt' p hp)
      have hle := (List.subperm_of_subset hnodup' hsub).length_le
      rw [List.length_cons, List.length_range] at hle
      omega
  | succ n ih =>
      intro path id hnodup hlt hway hlen c hc
      obtain ⟨hnodup', hlt'⟩ := hextend path id hnodup hlt hway (List.ne_nil_of_mem hc)
      refine ih (id :: path) c hnodup' hlt' ?_ (by rw [List.length_cons]; omega)
      intro p hp
      obtain rfl | hp := List.mem_cons.mp hp
      · exact .single hc
      · exact .tail (hway p hp) hc

/-- **Height**: without cycles, no way down is longer than the table. -/
theorem heightLE_of_acyclic {kids : Nat → List Nat} {size : Nat}
    (hsize : ∀ id, size ≤ id → kids id = []) (h : Acyclic kids) (id : Nat) :
    HeightLE kids size id :=
  heightLE_of_path hsize h size [] id .nil (by simp) (by simp) (by simp)

/-! ## the tree of a table -/

namespace Rose

/-- A tree that is grown as high as its ways down are long lacks nothing. -/
theorem unfolds_grow {kids : Nat → List Nat} (n : Nat) :
    ∀ id, HeightLE kids n id → Unfolds kids (grow kids n id) := by
  induction n with
  | zero =>
      intro id h
      rw [HeightLE] at h
      simp [grow, Unfolds, UnfoldsAll, h]
  | succ n ih =>
      intro id h
      refine ⟨by simp [Function.comp_def], unfoldsAll_iff.mpr ?_⟩
      intro t ht
      obtain ⟨c, hc, rfl⟩ := List.mem_map.mp ht
      exact ih c (h c hc)

mutual

/-- A table unfolds in one way only. -/
theorem eq_of_unfolds {kids : Nat → List Nat} : ∀ t u : Rose, Unfolds kids t → Unfolds kids u →
    t.root = u.root → t = u
  | .node id below, .node id' below', ht, hu, hroot => by
      obtain ⟨hkids, hall⟩ := ht
      obtain ⟨hkids', hall'⟩ := hu
      simp only [root] at hroot
      subst hroot
      rw [eq_of_unfoldsAll below below' hall hall' (hkids.trans hkids'.symm)]

theorem eq_of_unfoldsAll {kids : Nat → List Nat} : ∀ ts us : List Rose, UnfoldsAll kids ts →
    UnfoldsAll kids us → ts.map root = us.map root → ts = us
  | [], [], _, _, _ => rfl
  | [], _ :: _, _, _, h => by cases h
  | _ :: _, [], _, _, h => by cases h
  | t :: ts, u :: us, hts, hus, h => by
      rw [List.map_cons, List.map_cons, List.cons.injEq] at h
      rw [eq_of_unfolds t u hts.1 hus.1 h.1, eq_of_unfoldsAll ts us hts.2 hus.2 h.2]

end

mutual

/-- A tree that unfolds a table bounds the ways down from its root by its nodes. -/
theorem heightLE_of_unfolds {kids : Nat → List Nat} : ∀ (t : Rose) (n : Nat), Unfolds kids t →
    t.preorder.length ≤ n + 1 → HeightLE kids n t.root
  | .node id below, n, h, hlen => by
      obtain ⟨hkids, hall⟩ := h
      rw [preorder, List.length_cons] at hlen
      cases n with
      | zero =>
          cases below with
          | nil => exact hkids.symm
          | cons t ts =>
              obtain ⟨id', below'⟩ := t
              simp only [preorderOfList, preorder, List.length_append, List.length_cons] at hlen
              omega
      | succ n =>
          rw [root, HeightLE, ← hkids]
          exact heightLE_of_unfoldsAll below n hall (by omega)

theorem heightLE_of_unfoldsAll {kids : Nat → List Nat} : ∀ (ts : List Rose) (n : Nat),
    UnfoldsAll kids ts → (preorderOfList ts).length ≤ n + 1 →
    ∀ c ∈ ts.map root, HeightLE kids n c
  | [], _, _, _, c, hc => absurd hc List.not_mem_nil
  | t :: ts, n, h, hlen, c, hc => by
      rw [preorderOfList, List.length_append] at hlen
      obtain rfl | hc := List.mem_cons.mp hc
      · exact heightLE_of_unfolds t n h.1 (by omega)
      · exact heightLE_of_unfoldsAll ts n h.2 (by omega) c hc

end

/-- Growing a tree higher than its ways down are long adds nothing. -/
theorem grow_succ {kids : Nat → List Nat} (n : Nat) :
    ∀ id, HeightLE kids n id → grow kids (n + 1) id = grow kids n id := by
  induction n with
  | zero =>
      intro id h
      rw [HeightLE] at h
      simp [grow, h]
  | succ n ih =>
      intro id h
      rw [grow, grow]
      congr 1
      exact List.map_congr_left fun c hc => ih c (h c hc)

/-- A tree of a given height has few nodes if every node has few children. -/
theorem length_preorder_grow_le {kids : Nat → List Nat} {most : Nat}
    (hmost : ∀ id, (kids id).length ≤ most) (n : Nat) :
    ∀ id, (grow kids n id).preorder.length ≤ Nat.pow (most + 1) n := by
  induction n with
  | zero => intro id; simp [grow, preorder, preorderOfList]
  | succ n ih =>
      intro id
      have hlist : ∀ cs : List Nat, (preorderOfList (cs.map (grow kids n))).length ≤
          cs.length * Nat.pow (most + 1) n := by
        intro cs
        induction cs with
        | nil => simp [preorderOfList]
        | cons c cs ihcs =>
            have hc := ih c
            simp only [List.map_cons, preorderOfList, List.length_append, List.length_cons,
              Nat.succ_mul]
            omega
      have hbelow := hlist (kids id)
      have hwidth := Nat.mul_le_mul_right (Nat.pow (most + 1) n) (hmost id)
      have hpos : 0 < Nat.pow (most + 1) n := Nat.pow_pos (Nat.succ_pos most)
      have hpow : Nat.pow (most + 1) (n + 1) =
          most * Nat.pow (most + 1) n + Nat.pow (most + 1) n := by
        rw [Nat.pow_eq, Nat.pow_succ, Nat.mul_comm, Nat.succ_mul]
        rfl
      rw [grow, preorder, List.length_cons, hpow]
      omega

/-- Everything in the tree of a number is below the number. -/
theorem reaches_of_mem_preorder_grow {kids : Nat → List Nat} (n : Nat) :
    ∀ id, ∀ c ∈ (grow kids n id).preorder, Relation.ReflTransGen (Below kids) id c := by
  induction n with
  | zero =>
      intro id c hc
      simp only [grow, preorder, preorderOfList, List.mem_singleton] at hc
      exact hc ▸ .refl
  | succ n ih =>
      intro id c hc
      rw [grow, preorder, preorderOfList_eq_flatMap] at hc
      obtain rfl | hc := List.mem_cons.mp hc
      · exact .refl
      · obtain ⟨t, ht, hct⟩ := List.mem_flatMap.mp hc
        obtain ⟨d, hd, rfl⟩ := List.mem_map.mp ht
        exact .head hd (ih d c hct)

end Rose

end QueryTree
