import QueryTree.Proofs.Levels
import QueryTree.Proofs.Sharing

/-!
# QueryTree.Proofs.Enumeration

Sets of values without parts, and the order in which they give their members.

The members of a set are listed by their labels, and members with the same label stay in
the order in which the set gives them.  What is shown of a member is its label, except
for members of an enumeration, of which only the name is shown.  So the order of a set
can be seen through ties between a label and a text that looks like it:

* `display_eq_of_perm` — if equal labels are shown alike, every order is listed alike;
* `exists_display_eq` — the first member with a label that a set gives is listed before
  the others with that label, and after as many members in every order.
-/

namespace QueryTree

namespace Scalar

/-! ## by label -/

/-- Values in the order of their labels; those with the same label keep their order. -/
def inOrder (xs : List Scalar) : List Scalar := xs.mergeSort fun x y => !decide (y.label < x.label)

theorem inOrder_perm (xs : List Scalar) : (inOrder xs).Perm xs := List.mergeSort_perm xs _

theorem pairwise_inOrder (xs : List Scalar) : (inOrder xs).Pairwise fun x y => x.label ≤ y.label :=
  Text.pairwise_mergeSort label xs

/-- Values with the same label keep their order. -/
theorem filter_inOrder (xs : List Scalar) (label : String) :
    (inOrder xs).filter (fun x => x.label = label) = xs.filter fun x => x.label = label := by
  refine Text.filter_mergeSort Scalar.label xs fun x y hx hy => ?_
  simp only [decide_eq_true_eq] at hx hy
  rw [hx, hy]

theorem inOrder_eq_self {xs : List Scalar} (label : String) (h : ∀ x ∈ xs, x.label = label) :
    inOrder xs = xs := by
  have hkept := filter_inOrder xs label
  rwa [List.filter_eq_self.mpr fun x hx => by simpa using h x ((inOrder_perm xs).mem_iff.mp hx),
    List.filter_eq_self.mpr fun x hx => by simpa using h x hx] at hkept

/-! ## what is shown -/

/-- The values that do not count as shown, in the order of their labels. -/
def displayed (s : Progress) (xs : List Scalar) : List Scalar :=
  (inOrder xs).filter fun x => !s.hasShown (.scalar x)

/-- The texts that are shown of several values. -/
def display (s : Progress) (xs : List Scalar) : List String := (displayed s xs).map shown

/-- Values that are to be shown and have the same label are shown alike. -/
def TiesAlike (s : Progress) (xs : List Scalar) : Prop :=
  ∀ x ∈ xs, ∀ y ∈ xs, s.hasShown (.scalar x) = false → s.hasShown (.scalar y) = false →
    x.label = y.label → x.shown = y.shown

variable {s : Progress} {xs ys : List Scalar}

theorem displayed_perm (h : ys.Perm xs) : (displayed s ys).Perm (displayed s xs) :=
  (((inOrder_perm ys).trans h).trans (inOrder_perm xs).symm).filter _

theorem pairwise_displayed (s : Progress) (xs : List Scalar) :
    (displayed s xs).Pairwise fun x y => x.label ≤ y.label :=
  (pairwise_inOrder xs).sublist List.filter_sublist

theorem mem_displayed {x : Scalar} (h : x ∈ displayed s xs) :
    x ∈ xs ∧ s.hasShown (.scalar x) = false := by
  obtain ⟨hmem, hnew⟩ := List.mem_filter.mp h
  exact ⟨(inOrder_perm xs).mem_iff.mp hmem, by simpa using hnew⟩

/-- **Orders that cannot be seen**: if equal labels are shown alike, every order is listed alike. -/
theorem display_eq_of_perm (hties : TiesAlike s xs) (h : ys.Perm xs) : display s ys = display s xs := by
  -- labels together with what is shown of them are in one order only
  have hpairs : (displayed s ys).map (fun x => (x.label, x.shown)) =
      (displayed s xs).map fun x => (x.label, x.shown) := by
    have hsorted : ∀ zs, ((displayed s zs).map fun x => (x.label, x.shown)).Pairwise
        fun a b => a.1 ≤ b.1 := fun zs => List.pairwise_map.mpr (pairwise_displayed s zs)
    refine List.Perm.eq_of_pairwise (fun a b ha hb hab hba => ?_) (hsorted ys) (hsorted xs)
      ((displayed_perm h).map _)
    obtain ⟨x, hx, rfl⟩ := List.mem_map.mp ha
    obtain ⟨y, hy, rfl⟩ := List.mem_map.mp hb
    obtain ⟨hxs, hxnew⟩ := mem_displayed hx
    obtain ⟨hys, hynew⟩ := mem_displayed hy
    have hlabel : x.label = y.label := String.le_antisymm hab hba
    rw [hlabel, hties x (h.mem_iff.mp hxs) y hys hxnew hynew hlabel]
  have hshown := congrArg (List.map Prod.snd) hpairs
  simpa [display, Function.comp_def] using hshown

/-- Sorted values with small labels first. -/
theorem filter_append_filter {p : Scalar → Bool} {zs : List Scalar}
    (hsorted : zs.Pairwise fun x y => x.label ≤ y.label)
    (hp : ∀ x y : Scalar, x.label ≤ y.label → p y = true → p x = true) :
    zs.filter p ++ zs.filter (fun x => !p x) = zs := by
  induction zs with
  | nil => rfl
  | cons z zs ih =>
      obtain ⟨hz, hzs⟩ := List.pairwise_cons.mp hsorted
      by_cases hpz : p z = true
      · simp [hpz, ih hzs]
      · have hnone : zs.filter p = [] :=
          List.filter_eq_nil_iff.mpr fun y hy hpy => hpz (hp z y (hz y hy) hpy)
        have hall := ih hzs
        rw [hnone, List.nil_append] at hall
        simp [hpz, hnone, hall]

/-- How many values are listed before those with a label. -/
def rank (s : Progress) (label : String) (xs : List Scalar) : Nat :=
  (displayed s xs).countP fun x => x.label < label

/-- Values with one label are listed in the order in which they are given. -/
theorem filter_displayed (s : Progress) (xs : List Scalar) (label : String) :
    (displayed s xs).filter (fun x => x.label = label) =
      (xs.filter fun x => x.label = label).filter fun x => !s.hasShown (.scalar x) := by
  rw [displayed, List.filter_comm, filter_inOrder]

/-- The values that are listed have smaller labels than a given one, its own, or larger ones. -/
theorem displayed_eq_append (s : Progress) (xs : List Scalar) (label : String) :
    ∃ smaller larger, smaller.length = rank s label xs ∧
      displayed s xs = smaller ++ ((displayed s xs).filter (fun x => x.label = label) ++ larger) := by
  have hsorted := pairwise_displayed s xs
  have hsmall := filter_append_filter (p := fun x => decide (x.label < label)) hsorted
    fun x y hxy hy => by simpa using Std.lt_of_le_of_lt hxy (by simpa using hy)
  have hlarge := filter_append_filter (p := fun x => decide (x.label ≤ label))
    (hsorted.sublist (List.filter_sublist (p := fun x => !decide (x.label < label))))
    fun x y hxy hy => by simpa using String.le_trans hxy (by simpa using hy)
  have hequal : ((displayed s xs).filter fun x => !decide (x.label < label)).filter
      (fun x => x.label ≤ label) = (displayed s xs).filter fun x => x.label = label := by
    rw [List.filter_filter]
    refine List.filter_congr fun x _ => Bool.eq_iff_iff.mpr ?_
    simp only [Bool.and_eq_true, decide_eq_true_eq, Bool.not_eq_true', decide_eq_false_iff_not,
      String.not_lt]
    exact ⟨fun h => String.le_antisymm h.1 h.2, fun h => h ▸ ⟨String.le_refl _, String.le_refl _⟩⟩
  rw [hequal] at hlarge
  exact ⟨_, _, List.countP_eq_length_filter.symm, by rw [hlarge, hsmall]⟩

/-- **Orders that can be seen**: the first value that is given stands before all with its label. -/
theorem exists_display_eq {z : Scalar} (hz : s.hasShown (.scalar z) = false) (rest : List Scalar) :
    ∃ before after, display s (z :: rest) = before ++ z.shown :: after ∧
      before.length = rank s z.label (z :: rest) := by
  obtain ⟨smaller, larger, hlength, hlisted⟩ := displayed_eq_append s (z :: rest) z.label
  obtain ⟨more, hmore⟩ : ∃ more,
      (displayed s (z :: rest)).filter (fun x => x.label = z.label) = z :: more :=
    ⟨_, by rw [filter_displayed, List.filter_cons_of_pos (by simp),
      List.filter_cons_of_pos (by simp [hz])]⟩
  refine ⟨smaller.map shown, (more ++ larger).map shown, ?_, by rw [List.length_map, hlength]⟩
  rw [display, hlisted, hmore, List.map_append, List.cons_append, List.map_cons]

theorem rank_eq_of_perm (h : ys.Perm xs) (label : String) : rank s label ys = rank s label xs :=
  (displayed_perm h).countP_eq _

/-- Orders are listed alike only if equal labels are shown alike. -/
theorem tiesAlike_of_display (h : ∀ ys, ys.Perm xs → display s ys = display s xs) :
    TiesAlike s xs := by
  -- what stands in the place of a label is what is shown of any member that has it
  have hplace : ∀ z ∈ xs, s.hasShown (.scalar z) = false →
      (display s xs)[rank s z.label xs]? = some z.shown := by
    intro z hz hnew
    obtain ⟨before, after, rfl⟩ := List.append_of_mem hz
    have hfirst : (z :: (before ++ after)).Perm (before ++ z :: after) := List.perm_middle.symm
    obtain ⟨left, right, hdisplay, hlength⟩ := exists_display_eq hnew (before ++ after)
    rw [rank_eq_of_perm hfirst] at hlength
    rw [← h _ hfirst, hdisplay, ← hlength, List.getElem?_append_right le_rfl, Nat.sub_self,
      List.getElem?_cons_zero]
  intro x hx y hy hxnew hynew hlabel
  have hxplace := hplace x hx hxnew
  rw [hlabel, hplace y hy hynew] at hxplace
  exact (Option.some.inj hxplace).symm

/-- **Which orders can be seen.** -/
theorem display_perm_iff :
    (∀ ys, ys.Perm xs → display s ys = display s xs) ↔ TiesAlike s xs :=
  ⟨tiesAlike_of_display, fun hties _ hperm => display_eq_of_perm hties hperm⟩

/-- Only members of an enumeration are shown by less than their label. -/
theorem tiesAlike_of_noMember (h : ∀ x ∈ xs, ∀ family name value, x ≠ .member family name value) :
    TiesAlike s xs := by
  intro x hx y hy _ _ hlabel
  rw [shown_eq_label x (h x hx), shown_eq_label y (h y hy), hlabel]

end Scalar

namespace Graph

open Scalar

/-! ## the members of a set -/

variable {g : Graph} {id : ObjectId} {xs ys : List Scalar} {s : Progress} {fuel : Nat}

/-- A set that gives these values without parts, one after the other, as its members. -/
def Enumerates (g : Graph) (id : ObjectId) (xs : List Scalar) : Prop :=
  g.object id = .set (xs.map .scalar) ∨ g.object id = .frozenset (xs.map .scalar)

/-- A set of the same kind that gives other members. -/
def enumerating (xs : List Scalar) : Object → Object
  | .frozenset _ => .frozenset (xs.map .scalar)
  | _ => .set (xs.map .scalar)

/-- The graph in which one set gives its members in another order. -/
def reordered (g : Graph) (id : ObjectId) (ys : List Scalar) : Graph :=
  ⟨g.objects.modify id (enumerating ys)⟩

theorem byLabel_scalars (g : Graph) (xs : List Scalar) :
    g.byLabel (xs.map .scalar) = (inOrder xs).map .scalar := by
  have hkeys : (xs.map Value.scalar).map (fun v => (g.label v, v)) =
      xs.map fun x => (x.label, Value.scalar x) := by
    simp [label]
  rw [byLabel, hkeys, inOrder, ← List.map_mergeSort (r := fun x y => !decide (y.label < x.label))
    (fun _ _ _ _ => rfl), List.map_map]
  rfl

theorem Enumerates.elements (h : g.Enumerates id xs) :
    g.elements? id = some ((inOrder xs).map .scalar) := by
  rcases h with h | h <;> simp only [elements?, h, byLabel_scalars]

theorem Enumerates.isContainer (h : g.Enumerates id xs) : (g.object id).isContainer = true := by
  rcases h with h | h <;> rw [h] <;> rfl

theorem Enumerates.lt_size (h : g.Enumerates id xs) : id < g.objects.size := by
  by_contra hout
  have hblank : g.object id = Object.blank := by
    simp [object, Array.getD, hout]
  rcases h with h | h <;> simp [hblank, Object.blank, Object.plain] at h

theorem Enumerates.reordered (h : g.Enumerates id xs) (ys : List Scalar) :
    (g.reordered id ys).Enumerates id ys := by
  have hobject : (g.reordered id ys).object id = enumerating ys (g.object id) := by
    simp [object, Graph.reordered, Array.getD, h.lt_size, Array.getElem_modify]
  rcases h with h | h
  · exact .inl (by rw [hobject, h]; rfl)
  · exact .inr (by rw [hobject, h]; rfl)

/-- Members without parts are listed by what is shown of them. -/
theorem convertAll_scalars (g : Graph) (fuel : Nat) (s : Progress) (xs : List Scalar) :
    convertAll (g.convert (fuel + 1)) ((xs.map Value.scalar).map fun v => (none, v)) s =
      (((xs.filter fun x => !s.hasShown (.scalar x)).map shown).map fun t => .mk none (.text t), s) := by
  induction xs with
  | nil => rfl
  | cons x xs ih =>
      simp only [List.map_cons, convertAll]
      by_cases hx : s.hasShown (.scalar x) = true
      · simp only [convert_of_hasShown g fuel s _ hx, ih, consProperty]
        simp [hx]
      · have hshown : g.convert (fuel + 1) (.scalar x) s = (some (.text x.shown), s) := by
          simp [Graph.convert, hx]
        simp only [hshown, ih, consProperty]
        simp [hx]

/-- A set of values without parts is the list of what is shown of them. -/
theorem Enumerates.convert (h : g.Enumerates id xs) (hs : s.hasShown (.ref id) = false)
    (ho : .object id ∉ s.opened.members) :
    g.convert (fuel + 2) (.ref id) s =
      (listValue ((display s xs).map fun t => .mk none (.text t)), s) := by
  rw [convert_container g (fuel + 1) id s hs h.isContainer ho, contentsWith_of_elements h.elements,
    convertAll_scalars, Progress.closing_opening ho]
  rfl

/-- A list as the value of a property can be told from any other. -/
theorem listValue_injective : Function.Injective listValue := by
  rintro (_ | ⟨p, ps⟩) (_ | ⟨q, qs⟩) h
  · rfl
  · simp [listValue] at h
  · simp [listValue] at h
  · simpa [listValue] using h

theorem unnamed_injective : Function.Injective fun t : String => Property.mk none (.text t) :=
  fun _ _ h => by simpa using h

/-- **Which sets are listed alike in every order.**  The order in which a set gives its members can
be seen in the list exactly if the list is shown and has two members with the same label of which
different texts are shown.  Without members of enumerations there are none. -/
theorem convert_reordered_iff (g : Graph) (id : ObjectId) (xs : List Scalar)
    (h : g.Enumerates id xs) (fuel : Nat) (s : Progress) :
    ((∀ ys, ys.Perm xs →
        (g.reordered id ys).convert (fuel + 2) (.ref id) s = g.convert (fuel + 2) (.ref id) s) ↔
      s.hasShown (.ref id) = true ∨ .object id ∈ s.opened.members ∨ TiesAlike s xs) ∧
    ((∀ x ∈ xs, ∀ family name value, x ≠ .member family name value) → TiesAlike s xs) := by
  refine ⟨?_, tiesAlike_of_noMember⟩
  by_cases hs : s.hasShown (.ref id) = true
  · simp [convert_of_hasShown _ _ s _ hs, hs]
  by_cases ho : .object id ∈ s.opened.members
  · have hskip : ∀ ys, (g.reordered id ys).convert (fuel + 2) (.ref id) s = (none, s) :=
      fun ys => convert_opened _ _ id s (h.reordered ys).isContainer ho
    simp [hskip, convert_opened g _ id s h.isContainer ho, ho]
  have hlists : ∀ ys, (g.reordered id ys).convert (fuel + 2) (.ref id) s =
      g.convert (fuel + 2) (.ref id) s ↔ display s ys = display s xs := by
    intro ys
    rw [(h.reordered ys).convert (by simpa using hs) ho, h.convert (by simpa using hs) ho,
      Prod.mk.injEq, listValue_injective.eq_iff, unnamed_injective.list_map.eq_iff]
    exact and_iff_left rfl
  simp only [hlists, display_perm_iff, hs, ho, false_or, Bool.false_eq_true]

/-- Values of several kinds, with labels that look alike but are not the same. -/
def mixedMembers : List Scalar :=
  [.text "E.a", .member "E" "A" "1", .bool true, .int 1, .text "true", .bytes [65]]

/-- A set of such values and a set that holds a text that looks like a member of an enumeration. -/
def setsGraph : Graph := ⟨#[
  .set (mixedMembers.map .scalar),
  .frozenset [.scalar (.text "E.A"), .scalar (.member "E" "A" "1")]]⟩

theorem convert_reordered_iff_mixed :
    setsGraph.Enumerates 0 mixedMembers ∧ ∀ ys, ys.Perm mixedMembers →
      (setsGraph.reordered 0 ys).convert setsGraph.nesting (.ref 0) ⟨.empty, .empty⟩ =
        setsGraph.convert setsGraph.nesting (.ref 0) ⟨.empty, .empty⟩ := by
  have hset : setsGraph.Enumerates 0 mixedMembers := .inl rfl
  have hties : TiesAlike ⟨.empty, .empty⟩ mixedMembers := by
    have hlabels : ∀ x ∈ mixedMembers, ∀ y ∈ mixedMembers, x.label = y.label → x.shown = y.shown := by
      simp only [mixedMembers]
      decide
    exact fun x hx y hy _ _ hlabel => hlabels x hx y hy hlabel
  exact ⟨hset, (convert_reordered_iff setsGraph 0 mixedMembers hset 1 ⟨.empty, .empty⟩).1.mpr
    (.inr (.inr hties))⟩

/-- The same two members in two orders, and two lists. -/
theorem convert_reordered_tied :
    setsGraph.Enumerates 1 [.text "E.A", .member "E" "A" "1"] ∧
    (setsGraph.convert setsGraph.nesting (.ref 1) ⟨.empty, .empty⟩).1 =
      some (.list [.mk none (.text "E.A"), .mk none (.text "A")]) ∧
    ((setsGraph.reordered 1 [.member "E" "A" "1", .text "E.A"]).convert setsGraph.nesting (.ref 1)
      ⟨.empty, .empty⟩).1 = some (.list [.mk none (.text "A"), .mk none (.text "E.A")]) := by
  have hset : setsGraph.Enumerates 1 [.text "E.A", .member "E" "A" "1"] := .inr rfl
  have hnesting : setsGraph.nesting = 1 + 2 := rfl
  have hclosed : Identity.object 1 ∉ IdentitySet.empty.members := by simp [IdentitySet.empty]
  rw [hnesting, hset.convert rfl hclosed, (hset.reordered _).convert rfl hclosed]
  -- both members have the same label, so each order is listed as it is
  refine ⟨hset, ?_, ?_⟩
  · rw [display, displayed, inOrder_eq_self "E.A" (by decide)]
    rfl
  · rw [display, displayed, inOrder_eq_self "E.A" (by decide)]
    rfl

end Graph

end QueryTree
