import Mathlib.Data.List.Perm.Subperm
import Mathlib.Logic.Function.Iterate
import Mathlib.Logic.Relation
import QueryTree.Proofs.Guarding

/-!
# QueryTree.Proofs.Catalog

The types that are found in a hierarchy.

Discovery goes round by round.  A round takes a pending type and meets the types directly
below it: those that are new are found and become pending.  So a type is marked when it
is met and expanded later, and

* `discovering_round` — a type that was found and is not pending any more has all types
  directly below it among those that were found;
* `settled_or_length` — every round expands one more type, and no type is found twice, so
  nothing is pending after as many rounds as there are types;
* `mem_all_iff` — then the types that were found are the base type and all below it.
-/

namespace QueryTree

namespace NodeType

/-! ## the order of types -/

/-- One type comes no later than another, by its module and by its qualified name within a module. -/
def Precedes (s t : NodeType) : Prop :=
  s.home < t.home ∨ s.home = t.home ∧ s.qualified ≤ t.qualified

theorem le_iff {s t : NodeType} : s.le t = true ↔ s.Precedes t := by
  simp only [le, Precedes, Bool.or_eq_true, decide_eq_true_eq, Bool.and_eq_true, beq_iff_eq,
    Bool.not_eq_true', decide_eq_false_iff_not, String.not_lt]

theorem le_trans (r s t : NodeType) (hrs : r.le s = true) (hst : s.le t = true) : r.le t = true := by
  rw [le_iff] at hrs hst ⊢
  obtain hrs | ⟨hrs, hname⟩ := hrs
  · obtain hst | ⟨hst, -⟩ := hst
    · exact .inl (String.lt_trans hrs hst)
    · exact .inl (hst ▸ hrs)
  · obtain hst | ⟨hst, hname'⟩ := hst
    · exact .inl (hrs ▸ hst)
    · exact .inr ⟨hrs.trans hst, String.le_trans hname hname'⟩

theorem le_total (s t : NodeType) : (s.le t || t.le s) = true := by
  rw [Bool.or_eq_true, le_iff, le_iff]
  by_cases hhome : s.home = t.home
  · obtain hname | hname := String.le_total s.qualified t.qualified
    · exact .inl (.inr ⟨hhome, hname⟩)
    · exact .inr (.inr ⟨hhome.symm, hname⟩)
  · obtain hle | hle := String.le_total s.home t.home
    · exact .inl (.inl (Std.lt_of_le_of_ne hle hhome))
    · exact .inr (.inl (Std.lt_of_le_of_ne hle (Ne.symm hhome)))

end NodeType

namespace Hierarchy

/-- One type is declared directly below another. -/
def Directly (h : Hierarchy) (s t : NodeType) : Prop := (s, t) ∈ h.pairs

/-- A type is the base type or below it, directly or through others. -/
def Belongs (h : Hierarchy) : NodeType → Prop := Relation.ReflTransGen h.Directly h.base

theorem mem_below_iff (h : Hierarchy) (s t : NodeType) : t ∈ h.below s ↔ h.Directly s t := by
  simp [below, Directly]

/-! ## rounds -/

/-- The types found so far, and those of them that are pending. -/
abbrev Search := List NodeType × List NodeType

/-- The search before the first round. -/
def start (h : Hierarchy) : Search := ([h.base], [h.base])

/-- One round: a pending type is expanded. -/
def round (h : Hierarchy) : Search → Search
  | (found, []) => (found, [])
  | (found, t :: pending) => meet found pending (h.below t)

/-- Discovery is a number of rounds. -/
theorem discover_eq_iterate (h : Hierarchy) (fuel : Nat) (found pending : List NodeType) :
    h.discover fuel found pending = (h.round^[fuel] (found, pending)).1 := by
  induction fuel generalizing found pending with
  | zero => cases pending <;> rfl
  | succ fuel ih =>
      rw [Function.iterate_succ_apply]
      cases pending with
      | nil =>
          have hdone := ih found []
          cases fuel with
          | zero => rfl
          | succ fuel => exact hdone
      | cons t pending =>
          rw [discover, round]
          exact ih _ _

/-- The types that are met are added at the end of those that were found, and to the pending ones. -/
theorem exists_meet_eq (found pending ts : List NodeType) : ∃ new,
    meet found pending ts = (found ++ new, new.reverse ++ pending) ∧ new.Nodup ∧
    (∀ t ∈ new, t ∈ ts ∧ t ∉ found) ∧ ∀ t ∈ ts, t ∈ found ++ new := by
  induction ts generalizing found pending with
  | nil => exact ⟨[], by simp [meet], .nil, by simp, by simp⟩
  | cons t ts ih =>
      by_cases ht : t ∈ found
      · obtain ⟨new, heq, hnodup, hnew, hall⟩ := ih found pending
        refine ⟨new, by rw [meet, if_pos ht, heq], hnodup, fun u hu => ?_, ?_⟩
        · exact ⟨.tail _ (hnew u hu).1, (hnew u hu).2⟩
        · exact List.forall_mem_cons.mpr ⟨List.mem_append_left new ht, hall⟩
      · obtain ⟨new, heq, hnodup, hnew, hall⟩ := ih (found ++ [t]) (t :: pending)
        have htnew : t ∉ new := fun hmem => (hnew t hmem).2 (by simp)
        refine ⟨t :: new, by simp [meet, if_neg ht, heq], List.nodup_cons.mpr ⟨htnew, hnodup⟩,
          fun u hu => ?_, fun u hu => ?_⟩
        · obtain rfl | hu := List.mem_cons.mp hu
          · exact ⟨.head _, ht⟩
          · exact ⟨.tail _ (hnew u hu).1, fun hmem => (hnew u hu).2 (List.mem_append_left _ hmem)⟩
        · obtain rfl | hu := List.mem_cons.mp hu
          · simp
          · simpa using hall u hu

/-- What holds between rounds. -/
structure Discovering (h : Hierarchy) (s : Search) : Prop where
  /-- The base type is found. -/
  base : h.base ∈ s.1
  /-- No type is found twice. -/
  nodup : s.1.Nodup
  /-- Only types of the hierarchy are found. -/
  belongs : ∀ t ∈ s.1, h.Belongs t
  /-- Only types that were found are pending. -/
  found : ∀ t ∈ s.2, t ∈ s.1
  /-- What is directly below a type that is not pending any more is found. -/
  expanded : ∀ t ∈ s.1, t ∉ s.2 → ∀ u, h.Directly t u → u ∈ s.1

theorem discovering_start (h : Hierarchy) : h.Discovering h.start where
  base := .head _
  nodup := List.nodup_singleton _
  belongs := fun _ ht => List.mem_singleton.mp ht ▸ .refl
  found := fun _ ht => ht
  expanded := fun _ ht hnot => absurd ht hnot

/-- **A round** expands a pending type and keeps what holds. -/
theorem discovering_round {h : Hierarchy} {s : Search} (hs : h.Discovering s) :
    h.Discovering (h.round s) := by
  obtain ⟨found, _ | ⟨t, pending⟩⟩ := s
  · exact hs
  · obtain ⟨new, heq, hnodup, hnew, hall⟩ := exists_meet_eq found pending (h.below t)
    have ht : t ∈ found := hs.found t (.head _)
    rw [round, heq]
    refine ⟨List.mem_append_left _ hs.base, ?_, ?_, ?_, ?_⟩
    · refine List.nodup_append.mpr ⟨hs.nodup, hnodup, fun u hu v hv huv => ?_⟩
      exact (hnew v hv).2 (huv ▸ hu)
    · intro u hu
      obtain hu | hu := List.mem_append.mp hu
      · exact hs.belongs u hu
      · exact (hs.belongs t ht).tail ((h.mem_below_iff t u).mp (hnew u hu).1)
    · intro u hu
      obtain hu | hu := List.mem_append.mp hu
      · exact List.mem_append_right _ (List.mem_reverse.mp hu)
      · exact List.mem_append_left _ (hs.found u (.tail _ hu))
    · intro u hu hnot v hv
      simp only [List.mem_append, List.mem_reverse, not_or] at hu hnot
      have hfound : u ∈ found := hu.resolve_right hnot.1
      by_cases hut : u = t
      · -- the type that was expanded in this round
        exact hall v ((h.mem_below_iff t v).mpr (hut ▸ hv))
      · have hnotPending : u ∉ t :: pending := by simp [hut, hnot.2]
        exact List.mem_append_left _ (hs.expanded u hfound hnotPending v hv)

theorem discovering_iterate (h : Hierarchy) (n : Nat) : h.Discovering (h.round^[n] h.start) := by
  induction n with
  | zero => exact h.discovering_start
  | succ n ih =>
      rw [Function.iterate_succ_apply']
      exact discovering_round ih

/-! ## the end of the search -/

/-- A round that expands a type leaves one pending type less for the types that are found. -/
theorem length_round (h : Hierarchy) {s : Search} (hpending : s.2 ≠ []) :
    (h.round s).1.length + s.2.length = (h.round s).2.length + s.1.length + 1 := by
  obtain ⟨found, _ | ⟨t, pending⟩⟩ := s
  · exact absurd rfl hpending
  · obtain ⟨new, heq, -⟩ := exists_meet_eq found pending (h.below t)
    simp only [round, heq, List.length_append, List.length_reverse, List.length_cons]
    omega

/-- After a number of rounds nothing is pending, or so many types were expanded. -/
theorem settled_or_length (h : Hierarchy) (n : Nat) :
    (h.round^[n] h.start).2 = [] ∨
      (h.round^[n] h.start).1.length = (h.round^[n] h.start).2.length + n := by
  induction n with
  | zero => exact .inr rfl
  | succ n ih =>
      rw [Function.iterate_succ_apply']
      generalize h.round^[n] h.start = s at ih ⊢
      by_cases hpending : s.2 = []
      · obtain ⟨found, pending⟩ := s
        obtain rfl : pending = [] := hpending
        exact .inl rfl
      · have hlength := h.length_round hpending
        have hcount := ih.resolve_left hpending
        exact .inr (by omega)

/-- A type of the hierarchy is the base type, or it is declared below another. -/
theorem mem_of_belongs {h : Hierarchy} {t : NodeType} (ht : h.Belongs t) :
    t ∈ h.base :: h.pairs.map Prod.snd := by
  obtain rfl | ⟨s, -, hst⟩ := Relation.ReflTransGen.cases_tail ht
  · exact .head _
  · exact .tail _ (List.mem_map.mpr ⟨(s, t), hst, rfl⟩)

/-- **The search ends**: nothing is pending after one round more than there are declared pairs. -/
theorem pending_iterate_eq_nil (h : Hierarchy) {n : Nat} (hn : h.pairs.length + 1 ≤ n) :
    (h.round^[n] h.start).2 = [] := by
  have hs := h.discovering_iterate n
  have hsub : (h.round^[n] h.start).1 ⊆ h.base :: h.pairs.map Prod.snd :=
    fun t ht => mem_of_belongs (hs.belongs t ht)
  have hle := (List.subperm_of_subset hs.nodup hsub).length_le
  rw [List.length_cons, List.length_map] at hle
  obtain hnil | hlength := h.settled_or_length n
  · exact hnil
  · exact List.eq_nil_of_length_eq_zero (by omega)

theorem iterate_of_le (h : Hierarchy) {n : Nat} (hn : h.pairs.length + 1 ≤ n) :
    h.round^[n] h.start = (h.all, []) := by
  have hall : h.all = (h.round^[h.pairs.length + 1] h.start).1 := h.discover_eq_iterate _ _ _
  have hend : h.round^[h.pairs.length + 1] h.start = (h.all, []) :=
    Prod.ext hall.symm (h.pending_iterate_eq_nil (Nat.le_refl _))
  induction n, hn using Nat.le_induction with
  | base => exact hend
  | succ n _ ih =>
      rw [Function.iterate_succ_apply', ih]
      rfl

theorem discovering_all (h : Hierarchy) : h.Discovering (h.all, []) := by
  rw [← h.iterate_of_le (Nat.le_refl _)]
  exact h.discovering_iterate _

/-- **Discovery is complete**: the types of the hierarchy are found, and no others. -/
theorem mem_all_iff (h : Hierarchy) (t : NodeType) : t ∈ h.all ↔ h.Belongs t := by
  have hs := h.discovering_all
  refine ⟨hs.belongs t, fun ht => ?_⟩
  induction ht with
  | refl => exact hs.base
  | tail _ hst ih => exact hs.expanded _ ih List.not_mem_nil _ hst

/-! ## the catalog -/

theorem nodup_catalog (h : Hierarchy) : h.catalog.Nodup :=
  (List.mergeSort_perm h.all NodeType.le).nodup_iff.mpr h.discovering_all.nodup

theorem mem_catalog_iff (h : Hierarchy) (t : NodeType) : t ∈ h.catalog ↔ h.Belongs t := by
  rw [catalog, List.mem_mergeSort, mem_all_iff]

theorem pairwise_precedes_catalog (h : Hierarchy) : h.catalog.Pairwise NodeType.Precedes :=
  (List.pairwise_mergeSort NodeType.le_trans NodeType.le_total h.all).imp NodeType.le_iff.mp

open Classical in
/-- **Catalogs are complete**: on every hierarchy the search ends, and the catalog lists the base type
and all types below it, each once and by module and qualified name; types of the same names are all
listed.  So a recorder can be installed on a new walker, and it has its hook at the types of the hierarchy
and at no others. -/
theorem catalog_complete (h : Hierarchy) (s : Session) :
    (∀ n, h.pairs.length + 1 ≤ n → h.round^[n] h.start = (h.all, [])) ∧
    (∀ t, t ∈ h.catalog ↔ h.Belongs t) ∧
    h.catalog.Nodup ∧
    h.catalog.Pairwise NodeType.Precedes ∧
    ∃ w, s.install (.ofHierarchy h) = .ok ({ s with recorders := s.recorders.push .fresh }, w) ∧
      ∀ t, w.hookFor t = if h.Belongs t then some (Session.hook s.recorders.size) else none := by
  obtain ⟨w, hinstall, hw⟩ := Session.Tended.install (s := s) (Session.tended_ofHierarchy h)
  refine ⟨fun n => h.iterate_of_le, h.mem_catalog_iff, h.nodup_catalog, h.pairwise_precedes_catalog,
    w, hinstall, fun t => ?_⟩
  have hmem : t ∈ (Walker.ofHierarchy h : Walker Session TextError).catalog ↔ h.Belongs t :=
    h.mem_catalog_iff t
  rw [hw.hookFor]
  by_cases ht : h.Belongs t
  · rw [if_pos (hmem.mpr ht), if_pos ht]
  · rw [if_neg (mt hmem.mp ht), if_neg ht]

/-- A type below two others, declared through both of them, another one of the same name, and a pair
outside the hierarchy. -/
def diamond : Hierarchy where
  base := .named "core" "Expression"
  pairs := [(.named "core" "Expression", .named "query" "Union"),
    (.named "core" "Expression", .named "core" "Named"),
    (.named "query" "Union", .named "query" "Table"), (.named "core" "Named", .named "query" "Table"),
    (.named "core" "Named", { NodeType.named "query" "Table" with number := 1 }),
    (.named "other" "Base", .named "other" "Leaf")]

theorem catalog_complete_diamond :
    diamond.round^[7] diamond.start = (diamond.all, []) ∧
    diamond.all.length = 5 ∧
    diamond.Belongs (.named "query" "Table") ∧
    diamond.Belongs { NodeType.named "query" "Table" with number := 1 } ∧
    ¬ diamond.Belongs (.named "other" "Leaf") := by
  obtain ⟨hrounds, hmem, -⟩ := catalog_complete diamond .empty
  refine ⟨hrounds 7 (by decide), by decide, (hmem _).mp ?_, (hmem _).mp ?_, mt (hmem _).mpr ?_⟩
  all_goals
    rw [catalog, List.mem_mergeSort]
    decide

end Hierarchy

end QueryTree
