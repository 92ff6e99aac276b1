import QueryTree.Proofs.Nesting

/-!
# QueryTree.Proofs.Levels

The shape of reflected data.

A list of properties, and every list inside it, is a level.  `Graph.Level` says what a
level of attributes owes to the value that it comes from, and `Graph.Depicts` does so for
the value of one property: which texts and lists there are, in which order and under
which names.  Both speak of the graph alone.  A conversion ends with such levels
(`Converts.depicts`), and so

* no property is without a value, and no list is empty;
* a level has names throughout, in order, or none at all (`Level.even`);
* a list inside a list is one property of it, with a level of its own.

Which objects are left out depends on what was shown before.  A text is left out only if
it counts as shown from the start, since reflecting marks nothing but objects.
-/

namespace QueryTree

namespace Text

/-! ## sorting by a text -/

variable {α : Type} (key : α → String)

theorem key_trans (a b c : α) : (!decide (key b < key a)) = true →
    (!decide (key c < key b)) = true → (!decide (key c < key a)) = true := by
  simp only [Bool.not_eq_true', decide_eq_false_iff_not, String.not_lt]
  exact String.le_trans

theorem key_total (a b : α) : ((!decide (key b < key a)) || !decide (key a < key b)) = true := by
  simp only [Bool.or_eq_true, Bool.not_eq_true', decide_eq_false_iff_not, String.not_lt]
  exact String.le_total _ _

theorem pairwise_mergeSort (xs : List α) :
    (xs.mergeSort fun a b => !decide (key b < key a)).Pairwise fun a b => key a ≤ key b := by
  refine (List.pairwise_mergeSort (key_trans key) (key_total key) xs).imp fun {a b} hab => ?_
  simpa only [Bool.not_eq_true', decide_eq_false_iff_not, String.not_lt] using hab

/-- Elements with the same text are in order already, so sorting leaves them as they are. -/
theorem filter_mergeSort (xs : List α) {p : α → Bool}
    (hp : ∀ a b, p a = true → p b = true → key a = key b) :
    (xs.mergeSort fun a b => !decide (key b < key a)).filter p = xs.filter p := by
  have hsame : (xs.filter p).Pairwise fun a b => (!decide (key b < key a)) = true := by
    refine List.pairwise_of_forall_mem_list fun a ha b hb => ?_
    rw [hp a b (List.mem_filter.mp ha).2 (List.mem_filter.mp hb).2, Bool.not_eq_true',
      decide_eq_false_iff_not]
    exact String.lt_irrefl _
  have hkept : (xs.filter p).Sublist (xs.mergeSort fun a b => !decide (key b < key a)) :=
    List.sublist_mergeSort (key_trans key) (key_total key) hsame List.filter_sublist
  have hsub := hkept.filter p
  simp only [List.filter_filter, Bool.and_self] at hsub
  exact (hsub.eq_of_length ((List.mergeSort_perm xs _).filter _).length_eq.symm).symm

end Text

/-! ## sorting by name -/

/-- The properties of a level all have names, and the names are in order. -/
def Property.Alphabetical (ps : List Property) : Prop :=
  ∃ names : List String, ps.map Property.name = names.map some ∧ names.Pairwise (· ≤ ·)

/-- One list of properties is another one put in the order of names.  Properties with the same name
keep their order. -/
structure Property.Ranks (before after : List Property) : Prop where
  /-- Nothing is lost, and nothing comes up twice. -/
  perm : after.Perm before
  /-- The names are in order. -/
  alphabetical : Property.Alphabetical after
  /-- Properties with the same name keep their order. -/
  stable : ∀ name, after.filter (fun p => p.name = name) = before.filter fun p => p.name = name

namespace Graph

/-- Properties with the same name keep their order. -/
theorem filter_byName (ps : List Property) (name : Option String) :
    (byName ps).filter (fun p => p.name = name) = ps.filter fun p => p.name = name := by
  refine Text.filter_mergeSort sortKey ps fun p q hp hq => ?_
  simp only [decide_eq_true_eq] at hp hq
  simp only [sortKey, hp, hq]

/-- Sorting properties that all have names. -/
theorem ranks_byName {ps : List Property} (hnamed : ∀ p ∈ ps, p.name.isSome = true) :
    Property.Ranks ps (byName ps) where
  perm := List.mergeSort_perm ps _
  alphabetical := by
    refine ⟨(byName ps).map sortKey, ?_, ?_⟩
    · rw [List.map_map]
      refine List.map_congr_left fun p hp => ?_
      obtain ⟨name, hname⟩ := Option.isSome_iff_exists.mp (hnamed p ((mem_byName ps p).mp hp))
      simp [sortKey, hname]
    · rw [List.pairwise_map]
      exact Text.pairwise_mergeSort sortKey ps
  stable := filter_byName ps

/-- Sorting by label loses no member of a set. -/
theorem perm_byLabel (g : Graph) (members : List Value) : (g.byLabel members).Perm members := by
  have hsorted := (List.mergeSort_perm (members.map fun v => (g.label v, v))
    fun a b => !decide (b.1 < a.1)).map Prod.snd
  rw [List.map_map] at hsorted
  simpa [byLabel, Function.comp_def] using hsorted

/-- The members of a set are in the order of their labels. -/
theorem pairwise_byLabel (g : Graph) (members : List Value) :
    (g.byLabel members).Pairwise fun v w => g.label v ≤ g.label w := by
  have hlabel : ∀ a ∈ (members.map fun v => (g.label v, v)).mergeSort (fun a b => !decide (b.1 < a.1)),
      a.1 = g.label a.2 := by
    intro a ha
    rw [List.mem_mergeSort] at ha
    obtain ⟨v, -, rfl⟩ := List.mem_map.mp ha
    rfl
  rw [byLabel, List.pairwise_map]
  refine (Text.pairwise_mergeSort Prod.fst _).imp_of_mem fun {a b} ha hb hab => ?_
  rwa [← hlabel a ha, ← hlabel b hb]

/-! ## what a level owes to its source -/

/-- The elements of an object as they are to be listed: those of a list or a tuple in their own order,
the members of a set in the order of their labels. -/
inductive Lists (g : Graph) : Object → List Value → Prop where
  /-- A list. -/
  | list {items : List Value} : Lists g (.list items) items
  /-- A tuple. -/
  | tuple {items : List Value} : Lists g (.tuple items) items
  /-- A set that can change. -/
  | set {members vs : List Value} : vs.Perm members →
      vs.Pairwise (fun v w => g.label v ≤ g.label w) → Lists g (.set members) vs
  /-- A set that cannot change. -/
  | frozenset {members vs : List Value} : vs.Perm members →
      vs.Pairwise (fun v w => g.label v ≤ g.label w) → Lists g (.frozenset members) vs

/-- Whether a value may be left out.  A value without parts may only if it counts as shown from the
start; for objects it depends on what was shown on the way. -/
def MayOmit (visited : IdentitySet) : Value → Prop
  | .scalar x => (Progress.mk visited .empty).hasShown (.scalar x) = true
  | _ => True

/-- Whether a value is a map, whose names are the labels of its keys. -/
def IsMap (g : Graph) (v : Value) : Prop := ∃ id entries, v = .ref id ∧ g.object id = .map entries

mutual

/-- `Depicts g visited v p`: the value `p` of a property depicts the value `v`. -/
inductive Depicts (g : Graph) (visited : IdentitySet) : Value → PropertyValue → Prop where
  /-- A value without parts is depicted by its text. -/
  | text {x : Scalar} : Depicts g visited (.scalar x) (.text x.shown)
  /-- A sequence or a set is depicted by a list of its own, without names, in the order of its
  elements. -/
  | elements {id : ObjectId} {vs : List Value} {ps : List Property} : g.Lists (g.object id) vs →
      Selects g visited (vs.map fun v => (none, v)) ps → ps ≠ [] →
      Depicts g visited (.ref id) (.list ps)
  /-- Any other object is depicted by a level of its attributes. -/
  | attributes {id : ObjectId} {ps : List Property} : (∀ vs, ¬ g.Lists (g.object id) vs) →
      Level g visited (.ref id) ps → Depicts g visited (.ref id) (.list ps)

/-- `Level g visited v ps`: the properties depict attributes of the value `v`, in the order of their
names.  Only a map can have several under one name: keys with the same label. -/
inductive Level (g : Graph) (visited : IdentitySet) : Value → List Property → Prop where
  /-- Some attributes in the order in which they are declared, sorted by name. -/
  | mk {v : Value} {qs ps : List Property} : Selects g visited (g.attributes v) qs →
      Property.Ranks qs ps → ps ≠ [] → (¬ g.IsMap v → (ps.map Property.name).Nodup) →
      Level g visited v ps

/-- `Selects g visited as ps`: the properties depict some of the values, one property for each, in the
same order and under the same names. -/
inductive Selects (g : Graph) (visited : IdentitySet) :
    List (Option String × Value) → List Property → Prop where
  /-- There are no values left. -/
  | nil : Selects g visited [] []
  /-- A value is left out. -/
  | skip {a : Option String × Value} {as : List (Option String × Value)} {ps : List Property} :
      MayOmit visited a.2 → Selects g visited as ps → Selects g visited (a :: as) ps
  /-- A value is depicted. -/
  | keep {name : Option String} {v : Value} {p : PropertyValue}
      {as : List (Option String × Value)} {ps : List Property} :
      Depicts g visited v p → Selects g visited as ps →
      Selects g visited ((name, v) :: as) (.mk name p :: ps)

end

/-- Every property depicts a value under its name. -/
theorem Selects.exists_of_mem {g : Graph} {visited : IdentitySet} {as : List (Option String × Value)}
    {ps : List Property} : Selects g visited as ps →
    ∀ p ∈ ps, ∃ a ∈ as, p.name = a.1 ∧ Depicts g visited a.2 p.value
  | .nil => fun _ hp => absurd hp List.not_mem_nil
  | .skip _ hrest => fun p hp => by
      obtain ⟨a, ha, hdepicts⟩ := hrest.exists_of_mem p hp
      exact ⟨a, List.mem_cons_of_mem _ ha, hdepicts⟩
  | .keep hfirst hrest => fun p hp => by
      obtain rfl | hp := List.mem_cons.mp hp
      · exact ⟨_, List.mem_cons_self, rfl, hfirst⟩
      · obtain ⟨a, ha, hdepicts⟩ := hrest.exists_of_mem p hp
        exact ⟨a, List.mem_cons_of_mem _ ha, hdepicts⟩

/-- The names are some of those of the values, in the same order. -/
theorem Selects.names_sublist {g : Graph} {visited : IdentitySet} {as : List (Option String × Value)}
    {ps : List Property} : Selects g visited as ps →
    (ps.map Property.name).Sublist (as.map Prod.fst)
  | .nil => .slnil
  | .skip _ hrest => .cons _ hrest.names_sublist
  | .keep _ hrest => .cons_cons _ hrest.names_sublist

/-- Properties of named values have names. -/
theorem Selects.isSome_name {g : Graph} {visited : IdentitySet} {v : Value} {ps : List Property}
    (h : Selects g visited (g.attributes v) ps) : ∀ p ∈ ps, p.name.isSome = true := by
  intro p hp
  obtain ⟨a, ha, hname, -⟩ := h.exists_of_mem p hp
  obtain ⟨b, -, rfl⟩ := List.mem_map.mp ha
  rw [hname]
  rfl

end Graph

/-! ## levels inside levels -/

namespace Property

/-- One list of properties is a level of another: it is the list itself, or a level of the value of one
of its properties. -/
inductive LevelOf : List Property → List Property → Prop where
  /-- The list itself. -/
  | self {ps : List Property} : LevelOf ps ps
  /-- A level of the list that a property has as its value. -/
  | inside {ps qs rs : List Property} {p : Property} : p ∈ ps → p.value = .list qs → LevelOf qs rs →
      LevelOf ps rs

/-- The shape of one level. -/
structure Even (ps : List Property) : Prop where
  /-- There is something on the level. -/
  ne_nil : ps ≠ []
  /-- Every value is a text or a list with something in it. -/
  value : ∀ p ∈ ps, (∃ s, p.value = .text s) ∨ ∃ qs, p.value = .list qs ∧ qs ≠ []
  /-- All properties have names, and these are in order, or none has. -/
  names : Alphabetical ps ∨ ∀ p ∈ ps, p.name = none

end Property

namespace Graph

/-- A list that depicts something is not empty and no value is absent. -/
theorem Depicts.value {g : Graph} {visited : IdentitySet} {v : Value} {p : PropertyValue}
    (h : Depicts g visited v p) : (∃ s, p = .text s) ∨ ∃ qs, p = .list qs ∧ qs ≠ [] := by
  cases h with
  | text => exact .inl ⟨_, rfl⟩
  | elements _ _ hne => exact .inr ⟨_, rfl, hne⟩
  | attributes _ hlevel =>
      cases hlevel with
      | mk _ _ hne _ => exact .inr ⟨_, rfl, hne⟩

/-- A level of attributes, or of elements. -/
def Tier (g : Graph) (visited : IdentitySet) (ps : List Property) : Prop :=
  (∃ v, Level g visited v ps) ∨
    ∃ vs : List Value, Selects g visited (vs.map fun v => (none, v)) ps ∧ ps ≠ []

/-- Every property of a level depicts a value. -/
theorem Tier.exists_depicts {g : Graph} {visited : IdentitySet} {ps : List Property}
    (h : g.Tier visited ps) {p : Property} (hp : p ∈ ps) : ∃ v, Depicts g visited v p.value := by
  obtain ⟨v, hlevel⟩ | ⟨vs, hselects, -⟩ := h
  · obtain ⟨hselects, hranks, -, -⟩ := hlevel
    obtain ⟨a, -, -, hdepicts⟩ := hselects.exists_of_mem p (hranks.perm.mem_iff.mp hp)
    exact ⟨a.2, hdepicts⟩
  · obtain ⟨a, -, -, hdepicts⟩ := hselects.exists_of_mem p hp
    exact ⟨a.2, hdepicts⟩

theorem Tier.even {g : Graph} {visited : IdentitySet} {ps : List Property} (h : g.Tier visited ps) :
    Property.Even ps := by
  have hvalue : ∀ p ∈ ps, (∃ s, p.value = .text s) ∨ ∃ qs, p.value = .list qs ∧ qs ≠ [] := by
    intro p hp
    obtain ⟨v, hdepicts⟩ := h.exists_depicts hp
    exact hdepicts.value
  obtain ⟨v, hlevel⟩ | ⟨vs, hselects, hne⟩ := h
  · obtain ⟨-, hranks, hne, -⟩ := hlevel
    exact ⟨hne, hvalue, .inl hranks.alphabetical⟩
  · refine ⟨hne, hvalue, .inr fun p hp => ?_⟩
    obtain ⟨a, ha, hname, -⟩ := hselects.exists_of_mem p hp
    obtain ⟨v, -, rfl⟩ := List.mem_map.mp ha
    exact hname

/-- The list that is the value of a property is a level again. -/
theorem Tier.inside {g : Graph} {visited : IdentitySet} {ps qs : List Property} {p : Property}
    (h : g.Tier visited ps) (hp : p ∈ ps) (hvalue : p.value = .list qs) : g.Tier visited qs := by
  obtain ⟨v, hdepicts⟩ := h.exists_depicts hp
  rw [hvalue] at hdepicts
  cases hdepicts with
  | elements _ hselects hne => exact .inr ⟨_, hselects, hne⟩
  | attributes _ hlevel => exact .inl ⟨_, hlevel⟩

/-- **Every level is even**, however deep it lies. -/
theorem Level.even {g : Graph} {visited : IdentitySet} {v : Value} {ps qs : List Property}
    (h : Level g visited v ps) (hqs : Property.LevelOf ps qs) : Property.Even qs := by
  have htier : ∀ {ps qs}, Property.LevelOf ps qs → g.Tier visited ps → g.Tier visited qs := by
    intro ps qs hqs
    induction hqs with
    | self => exact id
    | inside hp hvalue _ ih => exact fun htier => ih (htier.inside hp hvalue)
  exact (htier hqs (.inl ⟨v, h⟩)).even

end Graph

/-! ## names -/

/-- The names under which an object keeps its arguments or its attributes. -/
def Object.keys : Object → List String
  | .expression _ _ _ arguments => arguments.map Prod.fst
  | .record _ _ fields _ _ _ => fields.map Prod.fst
  | _ => []

namespace Graph

/-- No object keeps two things under one name. -/
def DistinctKeys (g : Graph) : Prop := ∀ id, (g.object id).keys.Nodup

theorem nodup_withSlot {names : List String} (h : names.Nodup) (slot : String) :
    (withSlot names slot).Nodup := by
  unfold withSlot
  split
  · next hnew =>
      rw [Bool.and_eq_true, Bool.not_eq_true'] at hnew
      refine List.nodup_append.mpr ⟨h, List.nodup_singleton slot, ?_⟩
      rintro name hname _ hslot rfl
      rw [List.mem_singleton] at hslot
      subst hslot
      simp [hname] at hnew
  · exact h

/-- Slots are added to the names only if they are new. -/
theorem nodup_withSlots {names : List String} (h : names.Nodup) (levels : List (List String)) :
    (withSlots names levels).Nodup := by
  unfold withSlots
  generalize levels.flatten = slots
  induction slots generalizing names with
  | nil => exact h
  | cons slot slots ih => exact ih (nodup_withSlot h slot)

/-- Nothing but a map declares two attributes under one name. -/
theorem nodup_declared {g : Graph} (hkeys : g.DistinctKeys) {v : Value} (hv : ¬ g.IsMap v) :
    ((g.declared v).map Prod.fst).Nodup := by
  cases v with
  | none => exact .nil
  | scalar x => cases x <;> simp [declared, scalarAttributes]
  | ref id =>
      have hnames := hkeys id
      cases hobject : g.object id with
      | expression type text arguments =>
          rw [hobject] at hnames
          simp only [declared, hobject]
          exact hnames
      | record fields slots filled unreadable =>
          rw [hobject] at hnames
          simp only [declared, hobject, recordAttributes, List.map_map, Function.comp_def, List.map_id']
          exact nodup_withSlots (hnames.filter _) _
      | map entries => exact absurd ⟨id, entries, rfl, hobject⟩ hv
      | _ =>
          simp only [declared, hobject]
          exact .nil

/-! ## conversions depict values -/

theorem lists_of_elements? {g : Graph} {id : ObjectId} {vs : List Value}
    (h : g.elements? id = some vs) : g.Lists (g.object id) vs := by
  unfold elements? at h
  cases hobject : g.object id <;> simp only [hobject, Option.some.injEq, reduceCtorEq] at h
  case list items => exact h ▸ .list
  case tuple items => exact h ▸ .tuple
  case set members => exact h ▸ .set (g.perm_byLabel members) (g.pairwise_byLabel members)
  case frozenset members =>
    exact h ▸ .frozenset (g.perm_byLabel members) (g.pairwise_byLabel members)

theorem not_lists_of_elements? {g : Graph} {id : ObjectId} (h : g.elements? id = none)
    (vs : List Value) : ¬ g.Lists (g.object id) vs := by
  unfold elements? at h
  intro hlists
  cases hobject : g.object id <;> rw [hobject] at hlists <;> simp only [hobject, reduceCtorEq] at h <;>
    cases hlists

theorem elements?_of_isThing {g : Graph} {id : ObjectId} (h : g.isThing id = true) :
    g.elements? id = none := by
  unfold elements?
  split <;> simp_all [isThing, Object.isContainer]

/-- Marks are for objects only. -/
theorem Marks.hasShown_scalar {s t : Progress} {xs : List ObjectId} (h : Marks s t xs) (x : Scalar) :
    t.hasShown (.scalar x) = s.hasShown (.scalar x) := by
  simp only [Progress.hasShown, Value.identity?]
  cases x.constant? with
  | none => rfl
  | some c => simp [IdentitySet.contains, h.mem_visited]

theorem Converts.marks {g : Graph} {v : Value} {s t : Progress} {shown : Option PropertyValue}
    (h : Converts g v s shown t) : ∃ xs, Marks s t xs := by
  obtain ⟨n, hn⟩ := h.convert_eq
  have hmarks := marks_convert g (n + 0) [] v s
  rw [hn 0] at hmarks
  exact ⟨_, hmarks⟩

/-- In a state, the values without parts that count as shown are those of the start. -/
def AtStart (visited : IdentitySet) (s : Progress) : Prop :=
  ∀ x, s.hasShown (.scalar x) = (Progress.mk visited .empty).hasShown (.scalar x)

theorem AtStart.of_marks {visited : IdentitySet} {s t : Progress} {xs : List ObjectId}
    (h : AtStart visited s) (hm : Marks s t xs) : AtStart visited t := fun x =>
  (hm.hasShown_scalar x).trans (h x)

theorem AtStart.opening {visited : IdentitySet} {s : Progress} (h : AtStart visited s)
    (id : ObjectId) : AtStart visited (s.opening id) := h

theorem AtStart.marking {visited : IdentitySet} {s : Progress} (h : AtStart visited s)
    {id : ObjectId} (hs : s.hasShown (.ref id) = false) : AtStart visited (s.marking id) := by
  have hnew : .object id ∉ s.visited.members := by simp [← s.hasShown_ref, hs]
  have hmark : Marks s (s.marking id) [id] := ⟨rfl, by
    simp [Progress.marking, IdentitySet.insert, hnew]⟩
  exact h.of_marks hmark

/-- What a conversion leaves out may be left out. -/
theorem Converts.mayOmit {g : Graph} {visited : IdentitySet} {v : Value} {s t : Progress}
    {shown : Option PropertyValue} (h : Converts g v s shown t) (hs : AtStart visited s)
    (hnone : shown = none) : MayOmit visited v := by
  cases v with
  | scalar x =>
      rw [MayOmit, ← hs x]
      cases h with
      | seen hshown => exact hshown
      | scalar _ => cases hnone
  | _ => trivial

/-- One more value in front, which is depicted or left out. -/
theorem Selects.consProperty {g : Graph} {visited : IdentitySet} {as : List (Option String × Value)}
    {ps : List Property} (h : Selects g visited as ps) {name : Option String} {v : Value}
    {shown : Option PropertyValue} (hshown : ∀ p, shown = some p → Depicts g visited v p)
    (hnone : shown = none → MayOmit visited v) :
    Selects g visited ((name, v) :: as) (Graph.consProperty name shown ps) := by
  cases shown with
  | none => exact .skip (hnone rfl) h
  | some p => exact .keep (hshown p rfl) h

/-- A list of properties as the value of a property. -/
theorem eq_list_of_listValue {ps : List Property} {p : PropertyValue} (h : listValue ps = some p) :
    p = .list ps ∧ ps ≠ [] := by
  cases ps with
  | nil => cases h
  | cons q qs =>
      cases h
      exact ⟨rfl, List.cons_ne_nil q qs⟩

/-- Attributes that were converted make up a level when they are sorted. -/
theorem Selects.level {g : Graph} (hkeys : g.DistinctKeys) {visited : IdentitySet} {v : Value}
    {ps : List Property} (h : Selects g visited (g.attributes v) ps) (hne : byName ps ≠ []) :
    Level g visited v (byName ps) := by
  have hranks := ranks_byName h.isSome_name
  refine .mk h hranks hne fun hv => ?_
  have hnames : ((g.attributes v).map Prod.fst).Nodup := by
    have hsome := (nodup_declared hkeys hv).map (Option.some_injective String)
    simpa [attributes, Function.comp_def] using hsome
  exact (hranks.perm.map Property.name).nodup_iff.mpr (h.names_sublist.nodup hnames)

mutual

/-- **Conversions depict values.**  The induction is on the way in which the recursion ends. -/
theorem Converts.depicts {g : Graph} (hkeys : g.DistinctKeys) {visited : IdentitySet} {v : Value}
    {s t : Progress} {shown : Option PropertyValue} (hs : AtStart visited s) :
    Converts g v s shown t → ∀ p, shown = some p → Depicts g visited v p
  | .seen _ => fun _ hp => nomatch hp
  | .nothing => fun _ hp => nomatch hp
  | .scalar _ => fun _ hp => Option.some.inj hp ▸ .text
  | .opened _ _ _ => fun _ hp => nomatch hp
  | .sequence _ _ _ hvs hall => fun p hp => by
      obtain ⟨rfl, hne⟩ := eq_list_of_listValue hp
      exact .elements (lists_of_elements? hvs) (hall.selects hkeys (hs.opening _)) hne
  | .map _ _ _ hvs hall => fun p hp => by
      obtain ⟨rfl, hne⟩ := eq_list_of_listValue hp
      exact .attributes (not_lists_of_elements? hvs) ((hall.selects hkeys (hs.opening _)).level hkeys hne)
  | .thing hnew hc hall => fun p hp => by
      obtain ⟨rfl, hne⟩ := eq_list_of_listValue hp
      exact .attributes (not_lists_of_elements? (elements?_of_isThing hc))
        ((hall.selects hkeys (hs.marking hnew)).level hkeys hne)

theorem ConvertsAll.selects {g : Graph} (hkeys : g.DistinctKeys) {visited : IdentitySet}
    {vs : List (Option String × Value)} {s t : Progress} {ps : List Property}
    (hs : AtStart visited s) : ConvertsAll g vs s ps t → Selects g visited vs ps
  | .nil => .nil
  | .cons hfirst hrest => by
      obtain ⟨xs, hmarks⟩ := hfirst.marks
      exact (hrest.selects hkeys (hs.of_marks hmarks)).consProperty (hfirst.depicts hkeys hs)
        (hfirst.mayOmit hs)

end

/-- **The shape of reflected data**: reflecting a value gives nothing, and then every attribute may be left
out, or a list that is a level of its attributes.  That list and every list inside it has something in it,
its values are texts or such lists again, and its properties have names in order, or no names at all. -/
theorem reflect_levels {g : Graph} (hkeys : g.DistinctKeys) (v : Value) (visited : IdentitySet) :
    ((g.reflect v visited).1 = none ∧ Selects g visited (g.attributes v) []) ∨
      ∃ ps, (g.reflect v visited).1 = some ps ∧ Level g visited v ps ∧
        ∀ qs, Property.LevelOf ps qs → Property.Even qs := by
  obtain ⟨ps, t, hall, hresult⟩ := (reflects_iff g v visited _).mpr rfl
  have hselects := hall.selects hkeys fun _ => rfl
  rw [hresult]
  cases hps : byName ps with
  | nil =>
      obtain rfl : ps = [] := List.perm_nil.mp (hps ▸ (List.mergeSort_perm ps _).symm)
      exact .inl ⟨rfl, hselects⟩
  | cons q qs =>
      have hlevel := hselects.level hkeys (hps ▸ List.cons_ne_nil q qs)
      rw [hps] at hlevel
      exact .inr ⟨q :: qs, rfl, hlevel, fun _ hqs => hlevel.even hqs⟩

/-- An expression with lists inside a list, a map with two keys that look alike, a set, and an object
whose class declares a slot twice. -/
def motleyGraph : Graph := ⟨#[
  .piece (.named "test" "Select") (some "SELECT a")
    [("this", .ref 1), ("options", .ref 4), ("alias", .scalar (.text "")), ("kind", .ref 6)],
  .list [.ref 2, .scalar (.bool false), .ref 3, .ref 1, .none],
  .tuple [.scalar (.text "x"), .ref 5],
  .list [],
  .map [(.scalar (.text "True"), .scalar (.text "b")), (.scalar (.text "none"), .ref 3),
    (.scalar (.bool true), .scalar (.text "a"))],
  .set [.scalar (.text "b"), .scalar (.text "a")],
  .record (.named "test" "Label") ⟨"a label", "<label>"⟩ [("label", .scalar (.bool true))]
    [["size", "label"], ["size"]] [("size", .ref 2)] []]⟩

/-- The text of `alias` has to be there, so there is a list. -/
theorem reflect_levels_motley :
    motleyGraph.DistinctKeys ∧ ∃ ps, (motleyGraph.reflect (.ref 0) .empty).1 = some ps ∧
      Level motleyGraph .empty (.ref 0) ps ∧ ∀ qs, Property.LevelOf ps qs → Property.Even qs := by
  have hkeys : motleyGraph.DistinctKeys := by
    intro id
    match id with
    | 0 | 1 | 2 | 3 | 4 | 5 | 6 => decide
    | n + 7 => exact .nil
  refine ⟨hkeys, (reflect_levels hkeys (.ref 0) .empty).resolve_left ?_⟩
  rintro ⟨-, hselects⟩
  have hattributes : motleyGraph.attributes (.ref 0) = [(some "this", .ref 1), (some "options", .ref 4),
      (some "alias", .scalar (.text "")), (some "kind", .ref 6)] := rfl
  rw [hattributes] at hselects
  obtain _ | ⟨-, _ | ⟨-, _ | ⟨homit, -⟩⟩⟩ := hselects
  exact absurd homit (by unfold MayOmit; decide)

/-- Both keys that look alike are there, in their own order. -/
example : (motleyGraph.reflect (.ref 4) .empty).1 = some
    [.mk (some "True") (.text "b"), .mk (some "True") (.text "a")] := by
  cbv

end Graph

end QueryTree
