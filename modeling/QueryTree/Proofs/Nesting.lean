import QueryTree.Proofs.Population

/-!
# QueryTree.Proofs.Nesting

Reflection ends, and how deep its lists nest.

`Graph.convert` is given a nesting that it must not go beyond.  `Graph.Converts` is the
same recursion without such a bound: a conversion has a result only if the recursion
ends.  Every step down leaves one thing less to enter, an object that is marked or a
container that is open (`Graph.enterable`), and so

* `converts_convert` — the recursion ends, with the result of `Graph.convert`;
* `nodup_of_mem_entries` — on no way down is anything entered inside itself;
* `valueLevels_convert_le` — lists nest at most as deep as there are things to enter.

Marks last and open containers do not, but along one way down both only grow.
-/

namespace QueryTree

/-- The lists in several properties nest at most so deep if those in each of them do. -/
theorem Property.levelsOfList_le_iff {ps : List Property} {n : Nat} :
    Property.levelsOfList ps ≤ n ↔ ∀ p ∈ ps, Property.valueLevels p.value ≤ n := by
  induction ps with
  | nil => simp [Property.levelsOfList]
  | cons p ps ih =>
      obtain ⟨name, value⟩ := p
      simp [Property.levelsOfList, Property.levels, Property.value, ih]

namespace Graph

/-! ## the recursion without a bound -/

/-- The elements of a sequence or a set in the order in which they are listed; none for anything
else. -/
def elements? (g : Graph) (id : ObjectId) : Option (List Value) :=
  match g.object id with
  | .list items => some items
  | .tuple items => some items
  | .set members => some (g.byLabel members)
  | .frozenset members => some (g.byLabel members)
  | _ => none

/-- The attributes of a value, with their names. -/
def attributes (g : Graph) (v : Value) : List (Option String × Value) :=
  (g.declared v).map fun a => (some a.1, a.2)

mutual

/-- `Converts g v s shown t`: turning a value into the value of a property, by recursion without a
bound, ends with the value `shown` and leads from state `s` to state `t`. -/
inductive Converts (g : Graph) :
    Value → Progress → Option PropertyValue → Progress → Prop where
  /-- What counts as shown is not shown again. -/
  | seen {v : Value} {s : Progress} : s.hasShown v = true → Converts g v s none s
  /-- Nothing is not shown. -/
  | nothing {s : Progress} : Converts g .none s none s
  /-- A value without parts is a text. -/
  | scalar {x : Scalar} {s : Progress} : s.hasShown (.scalar x) = false →
      Converts g (.scalar x) s (some (.text x.shown)) s
  /-- A container that is being listed is passed over. -/
  | opened {id : ObjectId} {s : Progress} : s.hasShown (.ref id) = false →
      (g.object id).isContainer = true → .object id ∈ s.opened.members →
      Converts g (.ref id) s none s
  /-- A sequence or a set is open while its elements are converted. -/
  | sequence {id : ObjectId} {vs : List Value} {s t : Progress} {ps : List Property} :
      s.hasShown (.ref id) = false → (g.object id).isContainer = true →
      .object id ∉ s.opened.members → g.elements? id = some vs →
      ConvertsAll g (vs.map fun v => (none, v)) (s.opening id) ps t →
      Converts g (.ref id) s (listValue ps) (t.closing id)
  /-- A map is open while its entries are converted, and shows them by name. -/
  | map {id : ObjectId} {s t : Progress} {ps : List Property} :
      s.hasShown (.ref id) = false → (g.object id).isContainer = true →
      .object id ∉ s.opened.members → g.elements? id = none →
      ConvertsAll g (g.attributes (.ref id)) (s.opening id) ps t →
      Converts g (.ref id) s (listValue (byName ps)) (t.closing id)
  /-- Any other object is marked, and shows its attributes by name. -/
  | thing {id : ObjectId} {s t : Progress} {ps : List Property} :
      s.hasShown (.ref id) = false → g.isThing id = true →
      ConvertsAll g (g.attributes (.ref id)) (s.marking id) ps t →
      Converts g (.ref id) s (listValue (byName ps)) t

/-- Several values, with or without names, one after the other. -/
inductive ConvertsAll (g : Graph) :
    List (Option String × Value) → Progress → List Property → Progress → Prop where
  /-- There are no values left. -/
  | nil {s : Progress} : ConvertsAll g [] s [] s
  /-- The first value, and then the others. -/
  | cons {name : Option String} {v : Value} {rest : List (Option String × Value)}
      {s t u : Progress} {shown : Option PropertyValue} {ps : List Property} :
      Converts g v s shown t → ConvertsAll g rest t ps u →
      ConvertsAll g ((name, v) :: rest) s (consProperty name shown ps) u

end

/-- A list of properties, unless there is nothing to show. -/
def nonEmpty : List Property → Option (List Property)
  | [] => none
  | ps => some ps

/-- Reflecting a value, by recursion without a bound and with no container open, ends with this
result. -/
def Reflects (g : Graph) (v : Value) (visited : IdentitySet)
    (r : Option (List Property) × IdentitySet) : Prop :=
  ∃ ps t, ConvertsAll g (g.attributes v) ⟨visited, .empty⟩ ps t ∧
    r = (nonEmpty (byName ps), t.visited)

/-! ## conversions, case by case -/

/-- Several values, with or without names, converted one after the other. -/
def convertAll (f : Converter) : List (Option String × Value) → Progress → List Property × Progress
  | [], s => ([], s)
  | (name, v) :: rest, s =>
    let (shown, s) := f v s
    let (ps, s) := convertAll f rest s
    (consProperty name shown ps, s)

theorem convertNamed_eq (f : Converter) (as : List (String × Value)) (s : Progress) :
    convertNamed f as s = convertAll f (as.map fun a => (some a.1, a.2)) s := by
  induction as generalizing s with
  | nil => rfl
  | cons a as ih => simp only [convertNamed, convertAll, List.map_cons, ih]

theorem convertItems_eq (f : Converter) (vs : List Value) (s : Progress) :
    convertItems f vs s = convertAll f (vs.map fun v => (none, v)) s := by
  induction vs generalizing s with
  | nil => rfl
  | cons v vs ih => simp only [convertItems, convertAll, List.map_cons, ih]

theorem convertAll_snd (f : Converter) (vs : List (Option String × Value)) (s : Progress) :
    (convertAll f vs s).2 = stateAfter f (vs.map Prod.snd) s := by
  induction vs generalizing s with
  | nil => rfl
  | cons v vs ih => exact ih _

theorem reflectWith_eq (g : Graph) (f : Converter) (v : Value) (s : Progress) :
    reflectWith g f v s =
      (byName (convertAll f (g.attributes v) s).1, (convertAll f (g.attributes v) s).2) := by
  rw [reflectWith, convertNamed_eq]
  rfl

theorem contentsWith_of_elements {g : Graph} {id : ObjectId} {vs : List Value}
    (h : g.elements? id = some vs) (f : Converter) (s : Progress) :
    contentsWith g f id s = convertAll f (vs.map fun v => (none, v)) s := by
  rw [← convertItems_eq]
  unfold elements? at h
  unfold contentsWith
  split <;> simp_all

theorem contentsWith_of_no_elements {g : Graph} {id : ObjectId} (h : g.elements? id = none)
    (f : Converter) (s : Progress) : contentsWith g f id s = reflectWith g f (.ref id) s := by
  unfold elements? at h
  unfold contentsWith
  split <;> simp_all

section Cases

variable (g : Graph) (fuel : Nat) (id : ObjectId) (s : Progress)

theorem convert_of_hasShown (v : Value) (h : s.hasShown v = true) :
    g.convert (fuel + 1) v s = (none, s) := by
  simp [convert, h]

theorem convert_opened (hc : (g.object id).isContainer = true)
    (ho : .object id ∈ s.opened.members) : g.convert (fuel + 1) (.ref id) s = (none, s) := by
  by_cases h : s.hasShown (.ref id) = true
  · exact convert_of_hasShown g fuel s _ h
  · simp [convert, h, hc, containerWith, IdentitySet.contains_iff, ho]

theorem convert_container (hs : s.hasShown (.ref id) = false)
    (hc : (g.object id).isContainer = true) (ho : .object id ∉ s.opened.members) :
    g.convert (fuel + 1) (.ref id) s =
      (listValue (contentsWith g (g.convert fuel) id (s.opening id)).1,
        (contentsWith g (g.convert fuel) id (s.opening id)).2.closing id) := by
  simp [convert, hs, hc, containerWith, IdentitySet.contains_iff, ho, Progress.opening,
    Progress.closing]

theorem convert_thing (hs : s.hasShown (.ref id) = false) (hc : g.isThing id = true) :
    g.convert (fuel + 1) (.ref id) s =
      (listValue (reflectWith g (g.convert fuel) (.ref id) (s.marking id)).1,
        (reflectWith g (g.convert fuel) (.ref id) (s.marking id)).2) := by
  simp only [isThing, Bool.not_eq_true'] at hc
  simp [convert, hs, hc, objectWith, Progress.marking]

end Cases

/-! ## the recursion gives the result of the conversion -/

mutual

/-- What the recursion without a bound ends with is the conversion for every nesting that is large
enough.  The induction is on the way in which the recursion ends. -/
theorem Converts.convert_eq {g : Graph} {v : Value} {s t : Progress} {shown : Option PropertyValue} :
    Converts g v s shown t → ∃ n, ∀ fuel, g.convert (n + fuel) v s = (shown, t)
  | .seen h => ⟨1, fun fuel => by rw [Nat.add_comm, convert_of_hasShown g fuel s v h]⟩
  | .nothing => ⟨1, fun fuel => by simp [Nat.add_comm 1, convert]⟩
  | .scalar h => ⟨1, fun fuel => by simp [Nat.add_comm 1, convert, h]⟩
  | .opened _ hc ho => ⟨1, fun fuel => by rw [Nat.add_comm, convert_opened g fuel _ s hc ho]⟩
  | .sequence hs hc ho hvs hall => by
      obtain ⟨n, hn⟩ := hall.convertAll_eq
      refine ⟨n + 1, fun fuel => ?_⟩
      rw [Nat.add_right_comm, convert_container g _ _ s hs hc ho, contentsWith_of_elements hvs, hn]
  | .map hs hc ho hvs hall => by
      obtain ⟨n, hn⟩ := hall.convertAll_eq
      refine ⟨n + 1, fun fuel => ?_⟩
      rw [Nat.add_right_comm, convert_container g _ _ s hs hc ho, contentsWith_of_no_elements hvs,
        reflectWith_eq, hn]
  | .thing hs hc hall => by
      obtain ⟨n, hn⟩ := hall.convertAll_eq
      refine ⟨n + 1, fun fuel => ?_⟩
      rw [Nat.add_right_comm, convert_thing g _ _ s hs hc, reflectWith_eq, hn]

theorem ConvertsAll.convertAll_eq {g : Graph} {vs : List (Option String × Value)} {s t : Progress}
    {ps : List Property} : ConvertsAll g vs s ps t →
    ∃ n, ∀ fuel, convertAll (g.convert (n + fuel)) vs s = (ps, t)
  | .nil => ⟨0, fun _ => rfl⟩
  | .cons hfirst hrest => by
      obtain ⟨n, hn⟩ := hfirst.convert_eq
      obtain ⟨m, hm⟩ := hrest.convertAll_eq
      refine ⟨n + m, fun fuel => ?_⟩
      have hfirst' := hn (m + fuel)
      have hrest' := hm (n + fuel)
      rw [← Nat.add_assoc] at hfirst' hrest'
      rw [Nat.add_comm m n] at hrest'
      rw [convertAll, hfirst']
      simp only [hrest']

end

/-- Conversions in a row end if each of them does.  Each starts with no more to enter than the one
before it. -/
theorem convertsAll_convertAll {g : Graph} {fuel : Nat}
    (h : ∀ v s, (g.enterable s).card < fuel →
      Converts g v s (g.convert fuel v s).1 (g.convert fuel v s).2)
    (vs : List (Option String × Value)) (s : Progress) (hfuel : (g.enterable s).card < fuel) :
    ConvertsAll g vs s (convertAll (g.convert fuel) vs s).1 (convertAll (g.convert fuel) vs s).2 := by
  induction vs generalizing s with
  | nil => exact .nil
  | cons v vs ih =>
      have hless := card_enterable_le_of_marks (g := g) (marks_convert g fuel [] v.2 s)
      exact .cons (h v.2 s hfuel) (ih (g.convert fuel v.2 s).2 (Nat.lt_of_le_of_lt hless hfuel))

/-- Numbers that are not in use stand for objects without attributes. -/
theorem attributes_eq_nil (g : Graph) (id : ObjectId) (hid : g.size ≤ id)
    (hc : g.isThing id = true) : g.attributes (.ref id) = [] := by
  have hcontents := g.contents_eq_nil id hid
  have hdeclared : g.contents id = (g.declared (.ref id)).map Prod.snd := by
    unfold contents
    split <;> simp_all [isThing, Object.isContainer]
  rw [hdeclared, List.map_eq_nil_iff] at hcontents
  rw [attributes, hcontents, List.map_nil]

/-- **The recursion ends** with the result of the conversion, if the nesting is larger than the number
of things that can be entered. -/
theorem converts_convert (g : Graph) (fuel : Nat) (v : Value) (s : Progress)
    (hfuel : (g.enterable s).card < fuel) :
    Converts g v s (g.convert fuel v s).1 (g.convert fuel v s).2 := by
  induction fuel generalizing v s with
  | zero => exact absurd hfuel (Nat.not_lt_zero _)
  | succ fuel ih =>
      obtain hs | ⟨hs, hv⟩ | ⟨id, rfl, hs, hc | ⟨hc, ho⟩ | ⟨hc, ho⟩⟩ := convert_cases g v s
      · rw [convert_of_hasShown g fuel s v hs]
        exact .seen hs
      · rw [Bool.not_eq_true] at hs
        cases v with
        | none => simpa [convert] using Converts.nothing (g := g) (s := s)
        | scalar x => simpa [convert, hs] using Converts.scalar (g := g) hs
        | ref id => exact absurd rfl (hv id)
      · rw [Bool.not_eq_true] at hs
        rw [convert_thing g fuel id s hs hc, reflectWith_eq]
        refine .thing hs hc ?_
        by_cases hid : id < g.size
        · have hnew : .object id ∉ s.visited.members := by simp [← s.hasShown_ref, hs]
          have hless := card_enterable_marking_lt hid hc hnew
          exact convertsAll_convertAll ih _ _ (by omega)
        · rw [attributes_eq_nil g id (Nat.le_of_not_lt hid) hc]
          exact .nil
      · rw [Bool.not_eq_true] at hs
        rw [convert_opened g fuel id s hc ho]
        exact .opened hs hc ho
      · rw [Bool.not_eq_true] at hs
        have hless := card_enterable_opening_lt hc ho
        rw [convert_container g fuel id s hs hc ho]
        cases hvs : g.elements? id with
        | some vs =>
            rw [contentsWith_of_elements hvs]
            exact .sequence hs hc ho hvs (convertsAll_convertAll ih _ _ (by omega))
        | none =>
            rw [contentsWith_of_no_elements hvs, reflectWith_eq]
            exact .map hs hc ho hvs (convertsAll_convertAll ih _ _ (by omega))

theorem reflect_eq (g : Graph) (v : Value) (visited : IdentitySet) :
    g.reflect v visited =
      (nonEmpty (byName (convertAll (g.convert g.nesting) (g.attributes v) ⟨visited, .empty⟩).1),
        (convertAll (g.convert g.nesting) (g.attributes v) ⟨visited, .empty⟩).2.visited) := by
  rw [reflect, reflectWith_eq]
  cases byName (convertAll (g.convert g.nesting) (g.attributes v) ⟨visited, .empty⟩).1 <;> rfl

/-- Reflecting a value by recursion without a bound ends, and has one result only. -/
theorem reflects_iff (g : Graph) (v : Value) (visited : IdentitySet)
    (r : Option (List Property) × IdentitySet) :
    g.Reflects v visited r ↔ r = g.reflect v visited := by
  have hfuel : (g.enterable ⟨visited, .empty⟩).card < g.nesting :=
    Nat.lt_succ_of_le (card_enterable_le g _)
  have hends := convertsAll_convertAll (fun v s => converts_convert g g.nesting v s)
    (g.attributes v) ⟨visited, .empty⟩ hfuel
  constructor
  · rintro ⟨ps, t, hall, rfl⟩
    -- both ways of ending are the conversion for a nesting that is large enough
    obtain ⟨n, hn⟩ := hall.convertAll_eq
    obtain ⟨m, hm⟩ := hends.convertAll_eq
    have hn' := hn m
    have hm' := hm n
    rw [Nat.add_comm, hn'] at hm'
    rw [reflect_eq, ← (Prod.mk.inj hm').1, ← (Prod.mk.inj hm').2]
  · rintro rfl
    exact ⟨_, _, hends, reflect_eq g v visited⟩

/-! ## ways down -/

/-- Nothing of a way down can be entered: its containers are open, and its other objects are
marked. -/
def Held (g : Graph) (within : List ObjectId) (s : Progress) : Prop :=
  ∀ id ∈ within, ((g.object id).isContainer = true → .object id ∈ s.opened.members) ∧
    (g.isThing id = true → .object id ∈ s.visited.members)

theorem Held.of_marks {g : Graph} {within : List ObjectId} {s t : Progress} {xs : List ObjectId}
    (h : g.Held within s) (hm : Marks s t xs) : g.Held within t := by
  intro id hid
  refine ⟨fun hc => ?_, fun hc => (hm.mem_visited _).mpr (.inr ((h id hid).2 hc))⟩
  rw [hm.opened]
  exact (h id hid).1 hc

/-- A container that is opened can be added to the way down. -/
theorem Held.opening {g : Graph} {within : List ObjectId} {s : Progress} {id : ObjectId}
    (h : g.Held within s) (hc : (g.object id).isContainer = true) :
    g.Held (id :: within) (s.opening id) := by
  refine List.forall_mem_cons.mpr ⟨⟨fun _ => ?_, fun ht => by simp [isThing, hc] at ht⟩, ?_⟩
  · exact (IdentitySet.mem_insert _ _ _).mpr (.inl rfl)
  · exact fun x hx => ⟨fun hx' => (IdentitySet.mem_insert _ _ _).mpr (.inr ((h x hx).1 hx')),
      (h x hx).2⟩

/-- An object that is marked can be added to the way down. -/
theorem Held.marking {g : Graph} {within : List ObjectId} {s : Progress} {id : ObjectId}
    (h : g.Held within s) (hc : g.isThing id = true) : g.Held (id :: within) (s.marking id) := by
  refine List.forall_mem_cons.mpr ⟨⟨fun hx => by simp [isThing, hx] at hc, fun _ => ?_⟩, ?_⟩
  · exact (IdentitySet.mem_insert _ _ _).mpr (.inl rfl)
  · exact fun x hx => ⟨(h x hx).1,
      fun hx' => (IdentitySet.mem_insert _ _ _).mpr (.inr ((h x hx).2 hx'))⟩

/-- What conversions in a row enter, one of them enters, in a state in which the way down is still
held. -/
theorem exists_held_of_mem_entriesAlong {g : Graph} {fuel : Nat} {within : List ObjectId}
    {vs : List Value} {s : Progress} (hheld : g.Held within s) {e : Entry}
    (h : e ∈ entriesAlong (g.convert fuel) (g.entries fuel within) vs s) :
    ∃ v ∈ vs, ∃ t, g.Held within t ∧ e ∈ g.entries fuel within v t :=
  exists_kept_of_mem_entriesAlong (fun v _ hs => hs.of_marks (marks_convert g fuel [] v _)) hheld h

/-- **Nothing inside itself**: whatever a conversion enters is none of the objects that it is entered
from, and these are all different. -/
theorem nodup_of_mem_entries (g : Graph) (fuel : Nat) (within : List ObjectId) (v : Value)
    (s : Progress) (hheld : g.Held within s) (hnodup : within.Nodup) (e : Entry)
    (h : e ∈ g.entries fuel within v s) : (e.id :: e.within).Nodup := by
  induction fuel generalizing within v s with
  | zero => exact absurd h List.not_mem_nil
  | succ fuel ih =>
      -- entering an object that is not on the way down, and going on from there
      have henter : ∀ (id : ObjectId) (t : Progress), id ∉ within → g.Held (id :: within) t →
          e ∈ (⟨id, within⟩ : Entry) :: entriesAlong (g.convert fuel) (g.entries fuel (id :: within))
            (g.contents id) t → (e.id :: e.within).Nodup := by
        intro id t hid hheld' he
        have hnodup' : (id :: within).Nodup := List.nodup_cons.mpr ⟨hid, hnodup⟩
        obtain rfl | he := List.mem_cons.mp he
        · exact hnodup'
        · obtain ⟨w, -, t', ht', he'⟩ := exists_held_of_mem_entriesAlong hheld' he
          exact ih (id :: within) w t' ht' hnodup' he'
      obtain hs | ⟨hs, hv⟩ | ⟨id, rfl, hs, hc | ⟨hc, ho⟩ | ⟨hc, ho⟩⟩ := convert_cases g v s
      · rw [entries_of_hasShown g fuel within s v hs] at h
        exact absurd h List.not_mem_nil
      · cases v with
        | none => simp [entries] at h
        | scalar x => simp [entries] at h
        | ref id => exact absurd rfl (hv id)
      · rw [entries_thing g fuel within id s hs hc] at h
        exact henter id _ (fun hid => hs ((s.hasShown_ref id).mpr ((hheld id hid).2 hc)))
          (hheld.marking hc) h
      · rw [entries_opened g fuel within id s hc ho] at h
        exact absurd h List.not_mem_nil
      · rw [entries_container g fuel within id s hs hc ho] at h
        exact henter id _ (fun hid => ho ((hheld id hid).1 hc)) (hheld.opening hc) h

/-- What reflecting a value enters, given what counts as shown before. -/
def attributeEntries (g : Graph) (v : Value) (visited : IdentitySet) : List Entry :=
  entriesAlong (g.convert g.nesting) (g.entries g.nesting []) ((g.attributes v).map Prod.snd)
    ⟨visited, .empty⟩

theorem nodup_of_mem_attributeEntries (g : Graph) (v : Value) (visited : IdentitySet) (e : Entry)
    (h : e ∈ g.attributeEntries v visited) : (e.id :: e.within).Nodup := by
  have hheld : g.Held [] ⟨visited, .empty⟩ := fun _ hid => absurd hid List.not_mem_nil
  obtain ⟨w, -, t, ht, he⟩ := exists_held_of_mem_entriesAlong hheld h
  exact nodup_of_mem_entries g g.nesting [] w t ht .nil e he

/-! ## levels -/

/-- What holds of every value that a conversion gives holds of the properties that conversions in a
row give, if the states in between allow it. -/
theorem forall_mem_convertAll {f : Converter} {Allowed : Progress → Prop} {P : PropertyValue → Prop}
    (hstep : ∀ v s, Allowed s → Allowed (f v s).2)
    (hvalue : ∀ v s p, Allowed s → (f v s).1 = some p → P p)
    (vs : List (Option String × Value)) (s : Progress) (hs : Allowed s) :
    ∀ p ∈ (convertAll f vs s).1, P p.value := by
  induction vs generalizing s with
  | nil => simp [convertAll]
  | cons v vs ih =>
      intro p hp
      have hrest := ih (f v.2 s).2 (hstep v.2 s hs)
      simp only [convertAll] at hp
      cases hshown : (f v.2 s).1 with
      | none =>
          rw [hshown, consProperty] at hp
          exact hrest p hp
      | some value =>
          rw [hshown, consProperty] at hp
          obtain rfl | hp := List.mem_cons.mp hp
          · exact hvalue v.2 s value hs hshown
          · exact hrest p hp

theorem mem_byName (ps : List Property) (p : Property) : p ∈ byName ps ↔ p ∈ ps := by
  rw [byName, List.mem_mergeSort]

theorem levelsOfList_byName_le {ps : List Property} {n : Nat} (h : Property.levelsOfList ps ≤ n) :
    Property.levelsOfList (byName ps) ≤ n := by
  rw [Property.levelsOfList_le_iff] at h ⊢
  exact fun p hp => h p ((mem_byName ps p).mp hp)

/-- A list of properties as a value nests one level deeper than they do. -/
theorem valueLevels_of_listValue {ps : List Property} {p : PropertyValue} {n : Nat}
    (h : listValue ps = some p) (hps : Property.levelsOfList ps < n) :
    Property.valueLevels p ≤ n := by
  cases ps with
  | nil => cases h
  | cons q qs =>
      cases h
      rw [Property.valueLevels]
      omega

/-- Conversions in a row nest as deep as one of them can, which is never more than at their start. -/
theorem levelsOfList_convertAll_le {g : Graph} {fuel : Nat}
    (h : ∀ v s p, (g.convert fuel v s).1 = some p → Property.valueLevels p ≤ (g.enterable s).card)
    (vs : List (Option String × Value)) (s : Progress) :
    Property.levelsOfList (convertAll (g.convert fuel) vs s).1 ≤ (g.enterable s).card := by
  rw [Property.levelsOfList_le_iff]
  have hstep : ∀ v t, (g.enterable t).card ≤ (g.enterable s).card →
      (g.enterable (g.convert fuel v t).2).card ≤ (g.enterable s).card := fun v t ht =>
    Nat.le_trans (card_enterable_le_of_marks (marks_convert g fuel [] v t)) ht
  have hvalue : ∀ v t p, (g.enterable t).card ≤ (g.enterable s).card →
      (g.convert fuel v t).1 = some p → Property.valueLevels p ≤ (g.enterable s).card :=
    fun v t p ht hp => Nat.le_trans (h v t p hp) ht
  exact forall_mem_convertAll hstep hvalue vs s (Nat.le_refl _)

/-- **Levels**: the lists in the value of a property nest at most as deep as there are things to
enter. -/
theorem valueLevels_convert_le (g : Graph) (fuel : Nat) (v : Value) (s : Progress) (p : PropertyValue)
    (h : (g.convert fuel v s).1 = some p) : Property.valueLevels p ≤ (g.enterable s).card := by
  induction fuel generalizing v s p with
  | zero => cases h
  | succ fuel ih =>
      have hall := levelsOfList_convertAll_le ih
      obtain hs | ⟨hs, hv⟩ | ⟨id, rfl, hs, hc | ⟨hc, ho⟩ | ⟨hc, ho⟩⟩ := convert_cases g v s
      · rw [convert_of_hasShown g fuel s v hs] at h
        cases h
      · cases v with
        | none => simp [convert] at h
        | scalar x =>
            obtain rfl : .text x.shown = p := by simpa [convert, hs] using h
            simp [Property.valueLevels]
        | ref id => exact absurd rfl (hv id)
      · rw [Bool.not_eq_true] at hs
        rw [convert_thing g fuel id s hs hc, reflectWith_eq] at h
        by_cases hid : id < g.size
        · have hnew : .object id ∉ s.visited.members := by simp [← s.hasShown_ref, hs]
          have hless := card_enterable_marking_lt hid hc hnew
          exact valueLevels_of_listValue h (Nat.lt_of_le_of_lt (levelsOfList_byName_le (hall _ _)) hless)
        · -- a number that is not in use has nothing to show
          rw [attributes_eq_nil g id (Nat.le_of_not_lt hid) hc] at h
          simp [convertAll, byName, listValue] at h
      · rw [convert_opened g fuel id s hc ho] at h
        cases h
      · rw [Bool.not_eq_true] at hs
        have hless := card_enterable_opening_lt hc ho
        rw [convert_container g fuel id s hs hc ho] at h
        cases hvs : g.elements? id with
        | some vs =>
            rw [contentsWith_of_elements hvs] at h
            exact valueLevels_of_listValue h (Nat.lt_of_le_of_lt (hall _ _) hless)
        | none =>
            rw [contentsWith_of_no_elements hvs, reflectWith_eq] at h
            exact valueLevels_of_listValue h
              (Nat.lt_of_le_of_lt (levelsOfList_byName_le (hall _ _)) hless)

/-- The objects that are no containers and do not count as shown. -/
def unshown (g : Graph) (visited : IdentitySet) : Finset ObjectId :=
  (Finset.range g.size).filter fun id => g.isThing id = true ∧ .object id ∉ visited.members

/-- The containers. -/
def containers (g : Graph) : Finset ObjectId :=
  (Finset.range g.size).filter fun id => (g.object id).isContainer = true

/-- With no container open, all of them can be entered, and so can the objects that do not count as
shown. -/
theorem card_enterable_le_of_empty (g : Graph) (visited : IdentitySet) :
    (g.enterable ⟨visited, .empty⟩).card ≤ (g.unshown visited).card + g.containers.card := by
  refine Nat.le_trans (Finset.card_le_card ?_) (Finset.card_union_le _ _)
  intro id hid
  obtain ⟨hlt, -, hthing⟩ := mem_enterable.mp hid
  rw [Finset.mem_union, unshown, containers, Finset.mem_filter, Finset.mem_filter, Finset.mem_range]
  cases hc : (g.object id).isContainer with
  | true => exact .inr ⟨hlt, rfl⟩
  | false => exact .inl ⟨hlt, by simp [isThing, hc], hthing hc⟩

/-- The more counts as shown, the less is left. -/
theorem card_unshown_le {visited seen : IdentitySet}
    (h : ∀ x ∈ visited.members, x ∈ seen.members) (g : Graph) :
    (g.unshown seen).card ≤ (g.unshown visited).card := by
  refine Finset.card_le_card fun id hid => ?_
  rw [unshown, Finset.mem_filter] at hid ⊢
  exact ⟨hid.1, hid.2.1, fun hmem => hid.2.2 (h _ hmem)⟩

theorem levels_reflect_le (g : Graph) (v : Value) (visited : IdentitySet) :
    Tree.levelsOfProperties (g.reflect v visited).1 ≤
      1 + (g.unshown visited).card + g.containers.card := by
  have hlevels := levelsOfList_byName_le (levelsOfList_convertAll_le
    (fun v s p => valueLevels_convert_le g g.nesting v s p) (g.attributes v) ⟨visited, .empty⟩)
  have hcard := card_enterable_le_of_empty g visited
  rw [reflect_eq]
  cases hps : byName (convertAll (g.convert g.nesting) (g.attributes v) ⟨visited, .empty⟩).1 with
  | nil => exact Nat.zero_le _
  | cons p ps =>
      rw [hps] at hlevels
      simp only [nonEmpty, Tree.levelsOfProperties]
      omega

/-- Reflecting a value ends, never goes in circles, and nests no deeper than there are objects and
containers. -/
structure Bounded (g : Graph) (v : Value) (visited : IdentitySet) : Prop where
  /-- The recursion without a bound ends, and its one result is that of `reflect`. -/
  ends : ∀ r, g.Reflects v visited r ↔ r = g.reflect v visited
  /-- On no way down is an object entered that is being reflected, or a container that is open. -/
  straight : ∀ e ∈ g.attributeEntries v visited, (e.id :: e.within).Nodup
  /-- The list of properties nests at most one level deeper than there are objects that do not count
  as shown and containers. -/
  levels : Tree.levelsOfProperties (g.reflect v visited).1 ≤
    1 + (g.unshown visited).card + g.containers.card

theorem bounded (g : Graph) (v : Value) (visited : IdentitySet) : g.Bounded v visited :=
  ⟨reflects_iff g v visited, nodup_of_mem_attributeEntries g v visited, levels_reflect_le g v visited⟩

end Graph

namespace NodeTable

/-! ## the pass over a tree -/

/-- Reflecting an object makes nothing count as new. -/
theorem mem_reflect_of_mem (g : Graph) (v : Value) (visited : IdentitySet) (x : Identity)
    (h : x ∈ visited.members) : x ∈ (g.reflect v visited).2.members := by
  rw [Graph.reflect_eq, Graph.convertAll_snd]
  exact ((Graph.marks_along (Graph.marks_convert g g.nesting []) _ _).mem_visited x).mpr (.inr h)

theorem mem_visitedAfter_of_mem (g : Graph) (sources : List ObjectId) (visited : IdentitySet)
    (x : Identity) (h : x ∈ visited.members) : x ∈ (g.visitedAfter visited sources).members := by
  induction sources generalizing visited with
  | nil => exact h
  | cons source sources ih => exact ih _ (mem_reflect_of_mem g _ visited x h)

/-- Every node of a pass gets the properties of its source, reflected when that counts as shown which
the nodes before it have shown. -/
theorem properties_populateNodes_eq (g : Graph) {ids : List NodeId} {id : NodeId} (hid : id ∈ ids)
    (t : NodeTable) (visited : IdentitySet) {source : ObjectId}
    (hsource : (t.entry id).source = some source) :
    ∃ before after, ids = before ++ id :: after ∧
      ((populateNodes g t visited ids).1.entry id).properties =
        (g.reflect (.ref source) (g.visitedAfter visited (t.captured before))).1 := by
  induction ids generalizing t visited with
  | nil => exact absurd hid List.not_mem_nil
  | cons i ids ih =>
      by_cases hlater : id ∈ ids
      · -- the last time a node is given properties counts
        rw [populateNodes, populateNode]
        cases hi : (t.entry i).source with
        | none =>
            obtain ⟨before, after, rfl, heq⟩ := ih hlater t visited hsource
            refine ⟨i :: before, after, rfl, ?_⟩
            simpa [captured, hi] using heq
        | some other =>
            obtain ⟨before, after, rfl, heq⟩ := ih hlater
              (t.setProperties i (g.reflect (.ref other) visited).1)
              (g.reflect (.ref other) visited).2 (by rwa [source_setProperties])
            refine ⟨i :: before, after, rfl, ?_⟩
            simpa [captured, hi, source_setProperties, Graph.visitedAfter] using heq
      · obtain rfl : id = i := (List.mem_cons.mp hid).resolve_right hlater
        refine ⟨[], ids, rfl, ?_⟩
        rw [populateNodes, entry_populateNodes_of_notMem g hlater, populateNode, hsource]
        dsimp only
        rw [entry_setProperties, if_pos ⟨rfl, lt_size_of_source hsource⟩]
        rfl

/-- At least that counts as shown then which did before the pass. -/
theorem properties_populateNodes (g : Graph) {ids : List NodeId} {id : NodeId} (hid : id ∈ ids)
    (t : NodeTable) (visited : IdentitySet) {source : ObjectId}
    (hsource : (t.entry id).source = some source) :
    ∃ seen : IdentitySet, (∀ x ∈ visited.members, x ∈ seen.members) ∧
      ((populateNodes g t visited ids).1.entry id).properties = (g.reflect (.ref source) seen).1 := by
  obtain ⟨before, -, -, heq⟩ := properties_populateNodes_eq g hid t visited hsource
  exact ⟨_, mem_visitedAfter_of_mem g _ visited, heq⟩

/-- **Reflection ends**: on every graph, whatever counts as shown before, reflecting a value ends
without going in circles, and its lists nest at most one level deeper than there are objects that do not
count as shown and containers.  The pass over a tree ends too, and so do the reflections that it is made
of; the bound for each of its nodes is that at the start of the pass. -/
theorem populate_bounded (g : Graph) :
    (∀ v visited, g.Bounded v visited) ∧
    ∀ (t : NodeTable) (root : NodeId), Acyclic t.childrenOf →
      ∃ ids populated visited, t.walk root = some ids ∧
        t.populate g root = some (populated, visited) ∧
        ∀ id ∈ ids, ∀ source, (t.entry id).source = some source →
          (∃ seen, g.Bounded (.ref source) seen ∧
            (populated.entry id).properties = (g.reflect (.ref source) seen).1) ∧
          Tree.levelsOfProperties (populated.entry id).properties ≤
            1 + (g.unshown (t.sources ids)).card + g.containers.card := by
  refine ⟨g.bounded, fun t root hacyclic => ?_⟩
  have hheight := heightLE_of_acyclic (childrenOf_eq_nil t) hacyclic root
  have hwalk := walk_eq_preorder t root (Nat.le_succ t.size) hheight
  refine ⟨_, _, _, hwalk, by rw [populate, hwalk]; rfl, fun id hid source hsource => ?_⟩
  obtain ⟨seen, hseen, hproperties⟩ := properties_populateNodes g hid t
    (t.sources (Rose.grow t.childrenOf t.size root).preorder) hsource
  refine ⟨⟨seen, g.bounded _ seen, hproperties⟩, ?_⟩
  have hlevels := g.levels_reflect_le (.ref source) seen
  have hless := Graph.card_unshown_le hseen g
  rw [hproperties]
  omega

/-- A list, a tuple, a map and a set, one inside the other, with objects in between; the innermost
object leads back to the list. -/
def windingGraph : Graph := ⟨#[
  .piece (.named "test" "Select") (some "SELECT a") [("extra", .ref 1)],
  .list [.ref 2, .ref 1],
  .tuple [.ref 3],
  .map [(.scalar (.text "key"), .ref 4)],
  .plain [("self", .ref 4), ("all", .ref 5)],
  .frozenset [.ref 6],
  .plain [("back", .ref 1), ("owner", .ref 0), ("end", .scalar (.text "end"))]]⟩

/-- The tree of the one expression. -/
def windingTable : NodeTable := .ofEntries [⟨"Select", "SELECT a", none, none, some 0⟩]

theorem populate_bounded_winding :
    Acyclic windingTable.childrenOf ∧
    ∃ ids populated visited, windingTable.walk 0 = some ids ∧
      windingTable.populate windingGraph 0 = some (populated, visited) ∧
      ∀ id ∈ ids, ∀ source, (windingTable.entry id).source = some source →
        (∃ seen, windingGraph.Bounded (.ref source) seen ∧
          (populated.entry id).properties = (windingGraph.reflect (.ref source) seen).1) ∧
        Tree.levelsOfProperties (populated.entry id).properties ≤
          1 + (windingGraph.unshown (windingTable.sources ids)).card +
            windingGraph.containers.card := by
  have hacyclic : Acyclic windingTable.childrenOf := by
    refine acyclic_of_lt fun id c hc => ?_
    match id with
    | 0 => cases hc
    | n + 1 => rw [childrenOf_eq_nil _ _ (Nat.le_add_left 1 n)] at hc; cases hc
  exact ⟨hacyclic, (populate_bounded windingGraph).2 windingTable 0 hacyclic⟩

/-- The bound is reached. -/
example : Tree.levelsOfProperties
      (windingGraph.reflect (.ref 0) (windingTable.sources [0])).1 = 7 ∧
    (windingGraph.unshown (windingTable.sources [0])).card = 2 ∧
    windingGraph.containers.card = 4 := by
  decide +kernel

end NodeTable

end QueryTree
