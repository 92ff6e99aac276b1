import QueryTree.Proofs.Nesting

/-!
# QueryTree.Proofs.Locality

Without sharing, the order of a pass does not matter.

One set of what counts as shown goes through a whole pass, but reflecting an object looks
at it only where the object leads to, and adds to it only there.  `Graph.Leads` says where
that is: through containers and objects that were not captured.  So

* `Agrees.reflect` — sets that agree where an object leads to give it the same properties;
* `mem_reflect` — whatever else counts as shown afterwards did so before;
* `properties_pass` — if no two nodes lead to the same object, each gets the properties
  that it would get as the only one.
-/

namespace QueryTree

namespace Graph

/-! ## where an object leads to -/

/-- One object leads to another: it holds it, or it holds a container or an object that was not
captured and leads there. -/
def Leads (g : Graph) (captured : List ObjectId) (source target : ObjectId) : Prop :=
  ∃ first, g.Holds source first ∧
    Relation.ReflTransGen (fun holder held => holder ∉ captured ∧ g.Holds holder held) first target

/-- No object that was not captured, containers aside, is one that both of two objects lead to. -/
def Apart (g : Graph) (captured : List ObjectId) (a b : ObjectId) : Prop :=
  ∀ o, g.isThing o = true → o ∉ captured → ¬ (g.Leads captured a o ∧ g.Leads captured b o)

theorem Apart.symm {g : Graph} {captured : List ObjectId} {a b : ObjectId}
    (h : g.Apart captured a b) : g.Apart captured b a := fun o ho hnot hboth =>
  h o ho hnot hboth.symm

/-- A region that is left only through captured objects. -/
def Enclosed (g : Graph) (captured : List ObjectId) (region : ObjectId → Prop) : Prop :=
  ∀ id, region id → id ∉ captured → ∀ held, g.Holds id held → region held

theorem enclosed_leads (g : Graph) (captured : List ObjectId) (source : ObjectId) :
    g.Enclosed captured (g.Leads captured source) := by
  rintro id ⟨first, hfirst, hway⟩ hnot held hheld
  exact ⟨first, hfirst, .tail hway ⟨hnot, hheld⟩⟩

/-- What an object leads to lies in every such region that its contents lie in. -/
theorem Enclosed.of_leads {g : Graph} {captured : List ObjectId} {region : ObjectId → Prop}
    (h : g.Enclosed captured region) {source target : ObjectId}
    (hsource : ∀ held, g.Holds source held → region held) (hleads : g.Leads captured source target) :
    region target := by
  obtain ⟨first, hfirst, hway⟩ := hleads
  induction hway with
  | refl => exact hsource first hfirst
  | tail _ hstep ih => exact h _ ih hstep.1 _ hstep.2

/-- If a value is an object, it lies in the region. -/
def Inside (region : ObjectId → Prop) (v : Value) : Prop := ∀ id, v = .ref id → region id

instance (xs : List ObjectId) : (v : Value) → Decidable (Inside (· ∈ xs) v)
  | .none => .isTrue fun _ h => by cases h
  | .scalar _ => .isTrue fun _ h => by cases h
  | .ref id => decidable_of_iff (id ∈ xs) ⟨fun h _ heq => by cases heq; exact h, fun h => h id rfl⟩

/-- A list of objects holds what an object holds, and what each of its members does that was not
captured. -/
def Surrounds (g : Graph) (captured : List ObjectId) (source : ObjectId) (xs : List ObjectId) : Prop :=
  (∀ v ∈ g.holdings source, Inside (· ∈ xs) v) ∧
    ∀ id ∈ xs, id ∉ captured → ∀ v ∈ g.holdings id, Inside (· ∈ xs) v

instance (g : Graph) (captured : List ObjectId) (source : ObjectId) (xs : List ObjectId) :
    Decidable (g.Surrounds captured source xs) :=
  inferInstanceAs (Decidable (_ ∧ _))

theorem Surrounds.mem {g : Graph} {captured : List ObjectId} {source target : ObjectId}
    {xs : List ObjectId} (h : g.Surrounds captured source xs) (hleads : g.Leads captured source target) :
    target ∈ xs := by
  have henclosed : g.Enclosed captured (· ∈ xs) := fun id hid hnot held hheld =>
    h.2 id hid hnot _ hheld held rfl
  exact henclosed.of_leads (fun held hheld => h.1 _ hheld held rfl) hleads

/-- Objects are apart if lists around them have only captured objects and containers in common. -/
theorem apart_of_surrounds {g : Graph} {captured : List ObjectId} {a b : ObjectId}
    {xs ys : List ObjectId} (ha : g.Surrounds captured a xs) (hb : g.Surrounds captured b ys)
    (h : ∀ o ∈ xs, o ∈ ys → g.isThing o = true → o ∈ captured) : g.Apart captured a b :=
  fun o hthing hnot hboth => hnot (h o (ha.mem hboth.1) (hb.mem hboth.2) hthing)

/-- Attributes are held. -/
theorem holds_of_mem_attributes {g : Graph} {id held : ObjectId} {name : Option String}
    (h : (name, .ref held) ∈ g.attributes (.ref id)) : g.Holds id held := by
  obtain ⟨a, ha, heq⟩ := List.mem_map.mp h
  obtain ⟨-, hvalue⟩ := Prod.mk.inj heq
  have hmem : .ref held ∈ (g.declared (.ref id)).map Prod.snd := hvalue ▸ List.mem_map_of_mem ha
  unfold Holds holdings
  cases hobject : g.object id <;> simp_all [declared]

/-- Elements are held. -/
theorem holds_of_mem_elements {g : Graph} {id held : ObjectId} {vs : List Value}
    (hvs : g.elements? id = some vs) (h : .ref held ∈ vs) : g.Holds id held := by
  unfold elements? at hvs
  unfold Holds holdings
  cases hobject : g.object id <;> simp only [hobject, Option.some.injEq, reduceCtorEq] at hvs <;>
    subst hvs
  case list items => exact h
  case tuple items => exact h
  case set members => exact (g.mem_byLabel members _).mp h
  case frozenset members => exact (g.mem_byLabel members _).mp h

/-- Whether the captured objects count as shown. -/
def ShowsCaptured (captured : List ObjectId) (s : Progress) : Prop :=
  ∀ id ∈ captured, .object id ∈ s.visited.members

theorem ShowsCaptured.of_marks {captured : List ObjectId} {s t : Progress} {xs : List ObjectId}
    (h : ShowsCaptured captured s) (hm : Marks s t xs) : ShowsCaptured captured t := fun id hid =>
  (hm.mem_visited _).mpr (.inr (h id hid))

theorem ShowsCaptured.marking {captured : List ObjectId} {s : Progress}
    (h : ShowsCaptured captured s) (id : ObjectId) : ShowsCaptured captured (s.marking id) :=
  fun x hx => (IdentitySet.mem_insert _ _ _).mpr (.inr (h x hx))

theorem ShowsCaptured.opening {captured : List ObjectId} {s : Progress}
    (h : ShowsCaptured captured s) (id : ObjectId) : ShowsCaptured captured (s.opening id) := h

/-- What does not count as shown was not captured. -/
theorem ShowsCaptured.notMem {captured : List ObjectId} {s : Progress} {id : ObjectId}
    (h : ShowsCaptured captured s) (hs : s.hasShown (.ref id) = false) : id ∉ captured := by
  intro hid
  have hshown := (s.hasShown_ref id).mpr (h id hid)
  rw [hs] at hshown
  cases hshown

/-! ## states that agree on a region -/

/-- Two states list the same containers, and the same counts as shown in both as far as a region
goes. -/
structure Agrees (region : ObjectId → Prop) (s t : Progress) : Prop where
  /-- The same containers are open. -/
  opened : t.opened = s.opened
  /-- The same values without parts count as shown. -/
  constants : ∀ c, .constant c ∈ t.visited.members ↔ .constant c ∈ s.visited.members
  /-- The same objects of the region count as shown. -/
  objects : ∀ id, region id → (.object id ∈ t.visited.members ↔ .object id ∈ s.visited.members)

namespace Agrees

variable {region : ObjectId → Prop} {s t : Progress}

theorem hasShown_eq (h : Agrees region s t) {v : Value} (hv : Inside region v) :
    t.hasShown v = s.hasShown v := by
  have hcontains : ∀ x, v.identity? = some x → t.visited.contains x = s.visited.contains x := by
    intro x hx
    cases x with
    | constant c => simp [IdentitySet.contains, h.constants c]
    | object id =>
        have href : v = .ref id := by
          cases v with
          | ref id' => simpa [Value.identity?] using hx
          | none => simp [Value.identity?] at hx
          | scalar x => simp [Value.identity?] at hx
        simp [IdentitySet.contains, h.objects id (hv id href)]
  rw [Progress.hasShown, Progress.hasShown]
  cases hidentity : v.identity? with
  | none => rfl
  | some x => exact hcontains x hidentity

theorem opening (h : Agrees region s t) (id : ObjectId) :
    Agrees region (s.opening id) (t.opening id) :=
  ⟨by simp [Progress.opening, h.opened], h.constants, h.objects⟩

theorem closing (h : Agrees region s t) (id : ObjectId) :
    Agrees region (s.closing id) (t.closing id) :=
  ⟨by simp [Progress.closing, h.opened], h.constants, h.objects⟩

theorem marking (h : Agrees region s t) (id : ObjectId) :
    Agrees region (s.marking id) (t.marking id) := by
  refine ⟨h.opened, fun c => ?_, fun o ho => ?_⟩
  · simp [Progress.marking, IdentitySet.mem_insert, h.constants c]
  · simp [Progress.marking, IdentitySet.mem_insert, h.objects o ho]

end Agrees

/-- What a conversion gives agrees for two states: it shows the same, and the states after it agree
again. -/
def Concurs {α : Type} (region : ObjectId → Prop) (x y : α × Progress) : Prop :=
  y.1 = x.1 ∧ Agrees region x.2 y.2

section Conversion

variable {g : Graph} {captured : List ObjectId} {region : ObjectId → Prop}

/-- Conversions in a row agree if each of them does. -/
theorem Agrees.convertAll {fuel : Nat}
    (h : ∀ v s t, Inside region v → ShowsCaptured captured s → Agrees region s t →
      Concurs region (g.convert fuel v s) (g.convert fuel v t))
    (vs : List (Option String × Value)) (s t : Progress) (hvs : ∀ a ∈ vs, Inside region a.2)
    (hs : ShowsCaptured captured s) (hst : Agrees region s t) :
    Concurs region (Graph.convertAll (g.convert fuel) vs s) (Graph.convertAll (g.convert fuel) vs t) := by
  induction vs generalizing s t with
  | nil => exact ⟨rfl, hst⟩
  | cons a vs ih =>
      obtain ⟨ha, hrest⟩ := List.forall_mem_cons.mp hvs
      obtain ⟨hshown, hstates⟩ := h a.2 s t ha hs hst
      have hkept := hs.of_marks (marks_convert g fuel [] a.2 s)
      obtain ⟨hlist, hstates'⟩ := ih _ _ hrest hkept hstates
      refine ⟨?_, hstates'⟩
      simp only [Graph.convertAll, hshown, hlist]

/-- **A conversion is local**: it looks at what counts as shown only in a region that it cannot
leave. -/
theorem Agrees.convert (hregion : g.Enclosed captured region) (fuel : Nat) (v : Value) (s t : Progress)
    (hv : Inside region v) (hs : ShowsCaptured captured s) (hst : Agrees region s t) :
    Concurs region (g.convert fuel v s) (g.convert fuel v t) := by
  induction fuel generalizing v s t with
  | zero => exact ⟨rfl, hst⟩
  | succ fuel ih =>
      have hall := Agrees.convertAll ih
      have hsame := hst.hasShown_eq hv
      obtain hshown | ⟨hnew, hscalar⟩ | ⟨id, rfl, hnew, hc | ⟨hc, ho⟩ | ⟨hc, ho⟩⟩ := convert_cases g v s
      · rw [convert_of_hasShown g fuel s v hshown, convert_of_hasShown g fuel t v (hsame.trans hshown)]
        exact ⟨rfl, hst⟩
      · rw [Bool.not_eq_true] at hnew
        rw [hnew] at hsame
        cases v with
        | none => simp [Concurs, Graph.convert, hst]
        | scalar x => simp [Concurs, Graph.convert, hnew, hsame, hst]
        | ref id => exact absurd rfl (hscalar id)
      · rw [Bool.not_eq_true] at hnew
        rw [hnew] at hsame
        have hattributes : ∀ a ∈ g.attributes (.ref id), Inside region a.2 := by
          rintro ⟨name, w⟩ ha held rfl
          exact hregion id (hv id rfl) (hs.notMem hnew) held (holds_of_mem_attributes ha)
        obtain ⟨hlist, hstates⟩ := hall _ _ _ hattributes (hs.marking id) (hst.marking id)
        rw [convert_thing g fuel id s hnew hc, convert_thing g fuel id t hsame hc, reflectWith_eq,
          reflectWith_eq]
        exact ⟨by rw [hlist], hstates⟩
      · rw [convert_opened g fuel id s hc ho, convert_opened g fuel id t hc (by rwa [hst.opened])]
        exact ⟨rfl, hst⟩
      · rw [Bool.not_eq_true] at hnew
        rw [hnew] at hsame
        have hheld : ∀ held, g.Holds id held → region held :=
          hregion id (hv id rfl) (hs.notMem hnew)
        rw [convert_container g fuel id s hnew hc ho,
          convert_container g fuel id t hsame hc (by rwa [hst.opened])]
        cases hvs : g.elements? id with
        | some vs =>
            have helements : ∀ a ∈ vs.map fun v => ((none : Option String), v), Inside region a.2 := by
              intro a ha held hw
              obtain ⟨w, hmem, rfl⟩ := List.mem_map.mp ha
              exact hheld held (holds_of_mem_elements hvs (hw ▸ hmem))
            obtain ⟨hlist, hstates⟩ := hall _ _ _ helements (hs.opening id) (hst.opening id)
            rw [contentsWith_of_elements hvs, contentsWith_of_elements hvs]
            exact ⟨by rw [hlist], hstates.closing id⟩
        | none =>
            have hattributes : ∀ a ∈ g.attributes (.ref id), Inside region a.2 := by
              rintro ⟨name, w⟩ ha held rfl
              exact hheld held (holds_of_mem_attributes ha)
            obtain ⟨hlist, hstates⟩ := hall _ _ _ hattributes (hs.opening id) (hst.opening id)
            rw [contentsWith_of_no_elements hvs, contentsWith_of_no_elements hvs, reflectWith_eq,
              reflectWith_eq]
            exact ⟨by rw [hlist], hstates.closing id⟩

/-- Whatever a conversion enters lies in a region that it cannot leave. -/
theorem region_of_mem_entries (hregion : g.Enclosed captured region) (fuel : Nat)
    (within : List ObjectId) (v : Value) (s : Progress) (hv : Inside region v)
    (hs : ShowsCaptured captured s) (e : Entry) (h : e ∈ g.entries fuel within v s) : region e.id := by
  induction fuel generalizing within v s with
  | zero => exact absurd h List.not_mem_nil
  | succ fuel ih =>
      -- entering an object of the region, and going on from there
      have henter : ∀ (id : ObjectId) (t : Progress), region id → id ∉ captured →
          ShowsCaptured captured t →
          e ∈ (⟨id, within⟩ : Entry) :: entriesAlong (g.convert fuel) (g.entries fuel (id :: within))
            (g.contents id) t → region e.id := by
        intro id t hid hnot ht he
        obtain rfl | he := List.mem_cons.mp he
        · exact hid
        · obtain ⟨w, hw, t', ht', he'⟩ := exists_kept_of_mem_entriesAlong
            (fun v _ hs => hs.of_marks (marks_convert g fuel [] v _)) ht he
          refine ih (id :: within) w t' ?_ ht' he'
          rintro held rfl
          exact hregion id hid hnot held ((g.mem_contents id _).mp hw)
      obtain hshown | ⟨hnew, hscalar⟩ | ⟨id, rfl, hnew, hc | ⟨hc, ho⟩ | ⟨hc, ho⟩⟩ := convert_cases g v s
      · rw [entries_of_hasShown g fuel within s v hshown] at h
        exact absurd h List.not_mem_nil
      · cases v with
        | none => simp [entries] at h
        | scalar x => simp [entries] at h
        | ref id => exact absurd rfl (hscalar id)
      · rw [entries_thing g fuel within id s hnew hc] at h
        exact henter id _ (hv id rfl) (hs.notMem (Bool.not_eq_true _ ▸ hnew)) (hs.marking id) h
      · rw [entries_opened g fuel within id s hc ho] at h
        exact absurd h List.not_mem_nil
      · rw [entries_container g fuel within id s hnew hc ho] at h
        exact henter id _ (hv id rfl) (hs.notMem (Bool.not_eq_true _ ▸ hnew)) (hs.opening id) h

end Conversion

/-! ## reflecting one object -/

theorem inside_of_mem_attributes {g : Graph} {captured : List ObjectId} {source : ObjectId}
    {a : Option String × Value} (ha : a ∈ g.attributes (.ref source)) :
    Inside (g.Leads captured source) a.2 := by
  obtain ⟨name, v⟩ := a
  rintro held rfl
  exact ⟨held, holds_of_mem_attributes ha, .refl⟩

/-- Sets that agree where an object leads to give it the same properties. -/
theorem Agrees.reflect {g : Graph} {captured : List ObjectId} {source : ObjectId}
    {visited seen : IdentitySet} (hvisited : ShowsCaptured captured ⟨visited, .empty⟩)
    (h : Agrees (g.Leads captured source) ⟨visited, .empty⟩ ⟨seen, .empty⟩) :
    (g.reflect (.ref source) seen).1 = (g.reflect (.ref source) visited).1 := by
  obtain ⟨hlist, -⟩ := Agrees.convertAll
    (fun v s t => Agrees.convert (g.enclosed_leads captured source) g.nesting v s t)
    (g.attributes (.ref source)) _ _ (fun a ha => inside_of_mem_attributes ha) hvisited h
  rw [reflect_eq, reflect_eq, hlist]

/-- What counts as shown after an object was reflected did so before, or is an object that was not
captured and that the reflected one leads to. -/
theorem mem_reflect {g : Graph} {captured : List ObjectId} {source : ObjectId} {visited : IdentitySet}
    (hvisited : ShowsCaptured captured ⟨visited, .empty⟩) {x : Identity}
    (h : x ∈ (g.reflect (.ref source) visited).2.members) : x ∈ visited.members ∨
      ∃ o, .object o = x ∧ g.isThing o = true ∧ o ∉ captured ∧ g.Leads captured source o := by
  have hmarks := marks_along (marks_convert g g.nesting []) ((g.attributes (.ref source)).map Prod.snd)
    ⟨visited, .empty⟩
  rw [reflect_eq, convertAll_snd] at h
  obtain ⟨o, ho, rfl⟩ | hold := (hmarks.mem_visited x).mp h
  · refine .inr ⟨o, rfl, isThing_of_mem_things ho, ?_, ?_⟩
    · -- no object is a member twice, and the captured ones were members before
      intro hcaptured
      have hnodup := (stateAfter (g.convert g.nesting) ((g.attributes (.ref source)).map Prod.snd)
        ⟨visited, .empty⟩).visited.nodup
      rw [hmarks.visited] at hnodup
      exact (List.nodup_append.mp hnodup).2.2 _ (List.mem_reverse.mpr (List.mem_map_of_mem ho)) _
        (hvisited o hcaptured) rfl
    · obtain ⟨e, he, rfl⟩ := List.mem_map.mp (List.mem_filter.mp ho).1
      obtain ⟨v, hv, t, ht, he'⟩ := exists_kept_of_mem_entriesAlong
        (fun v _ hs => hs.of_marks (marks_convert g g.nesting [] v _)) hvisited he
      obtain ⟨a, ha, rfl⟩ := List.mem_map.mp hv
      exact region_of_mem_entries (g.enclosed_leads captured source) g.nesting [] a.2 t
        (inside_of_mem_attributes ha) ht e he'
  · exact .inl hold

/-- The same for several objects that are reflected one after the other. -/
theorem mem_visitedAfter {g : Graph} {captured : List ObjectId} {sources : List ObjectId}
    {visited : IdentitySet} (hvisited : ShowsCaptured captured ⟨visited, .empty⟩) {x : Identity}
    (h : x ∈ (g.visitedAfter visited sources).members) : x ∈ visited.members ∨
      ∃ o, .object o = x ∧ g.isThing o = true ∧ o ∉ captured ∧
        ∃ source ∈ sources, g.Leads captured source o := by
  induction sources generalizing visited with
  | nil => exact .inl h
  | cons source sources ih =>
      have hvisited' : ShowsCaptured captured ⟨(g.reflect (.ref source) visited).2, .empty⟩ :=
        fun id hid => NodeTable.mem_reflect_of_mem g _ visited _ (hvisited id hid)
      obtain hmem | ⟨o, rfl, hthing, hnot, s, hs, hleads⟩ := ih hvisited' h
      · obtain hmem | ⟨o, rfl, hthing, hnot, hleads⟩ := mem_reflect hvisited hmem
        · exact .inl hmem
        · exact .inr ⟨o, rfl, hthing, hnot, source, List.mem_cons_self, hleads⟩
      · exact .inr ⟨o, rfl, hthing, hnot, s, List.mem_cons_of_mem source hs, hleads⟩

/-- Reflecting objects that share nothing with another one changes nothing where that one leads to. -/
theorem agrees_visitedAfter {g : Graph} {captured : List ObjectId} {sources : List ObjectId}
    {source : ObjectId} {visited : IdentitySet} (hvisited : ShowsCaptured captured ⟨visited, .empty⟩)
    (h : ∀ a ∈ sources, g.Apart captured a source) :
    Agrees (g.Leads captured source) ⟨visited, .empty⟩ ⟨g.visitedAfter visited sources, .empty⟩ := by
  have hkeep := NodeTable.mem_visitedAfter_of_mem g sources visited
  refine ⟨rfl, fun c => ⟨fun hmem => ?_, hkeep _⟩, fun o ho => ⟨fun hmem => ?_, hkeep _⟩⟩
  · obtain hmem | ⟨o, heq, -⟩ := mem_visitedAfter hvisited hmem
    · exact hmem
    · cases heq
  · obtain hmem | ⟨_, heq, hthing, hnot, a, ha, hleads⟩ := mem_visitedAfter hvisited hmem
    · exact hmem
    · cases heq
      exact absurd ⟨hleads, ho⟩ (h a ha o hthing hnot)

end Graph

namespace NodeTable

/-! ## the pass over a tree -/

/-- The properties that a node has if it is the only one of the listed nodes whose source is
reflected; those that it has already if it is not listed, or has no source. -/
def propertiesAlone (g : Graph) (t : NodeTable) (visited : IdentitySet) (ids : List NodeId)
    (id : NodeId) : Option (List Property) :=
  match (t.entry id).source with
  | some source => if id ∈ ids then (g.reflect (.ref source) visited).1 else (t.entry id).properties
  | none => (t.entry id).properties

/-- Nodes that were captured from nothing keep their properties. -/
theorem entry_populateNodes_of_source (g : Graph) {id : NodeId} (ids : List NodeId) (t : NodeTable)
    (visited : IdentitySet) (h : (t.entry id).source = none) :
    (populateNodes g t visited ids).1.entry id = t.entry id := by
  induction ids generalizing t visited with
  | nil => rfl
  | cons i ids ih =>
      rw [populateNodes, populateNode]
      cases hi : (t.entry i).source with
      | none => exact ih t visited h
      | some source =>
          have hne : i ≠ id := fun heq => by rw [heq, h] at hi; cases hi
          rw [ih _ _ (by rwa [source_setProperties]), entry_setProperties,
            if_neg fun hboth => hne hboth.1]

/-- **Each on its own**: in a pass over nodes of which no two lead to the same object, every node gets
the properties that it would get as the only one, whatever the order. -/
theorem properties_pass (g : Graph) (t : NodeTable) {visited : IdentitySet} {captured : List ObjectId}
    (hvisited : Graph.ShowsCaptured captured ⟨visited, .empty⟩) {order : List NodeId}
    (hapart : (t.captured order).Pairwise (g.Apart captured)) (id : NodeId) :
    ((populateNodes g t visited order).1.entry id).properties =
      t.propertiesAlone g visited order id := by
  unfold propertiesAlone
  split
  · next source hsource =>
      split
      · next hid =>
          obtain ⟨before, after, rfl, heq⟩ := properties_populateNodes_eq g hid t visited hsource
          have hbefore : ∀ a ∈ t.captured before, g.Apart captured a source := by
            intro a ha
            rw [NodeTable.captured, List.filterMap_append] at hapart
            exact (List.pairwise_append.mp hapart).2.2 a ha source
              (List.mem_filterMap.mpr ⟨id, List.mem_cons_self, hsource⟩)
          rw [heq, (Graph.agrees_visitedAfter hvisited hbefore).reflect hvisited]
      · next hid => rw [entry_populateNodes_of_notMem g hid]
  · next hsource => rw [entry_populateNodes_of_source g order t visited hsource]

/-! ## other orders -/

/-- The captured objects count as shown at the start of a pass. -/
theorem showsCaptured_sources (t : NodeTable) (ids : List NodeId) :
    Graph.ShowsCaptured (t.captured ids) ⟨t.sources ids, .empty⟩ := fun id hid =>
  (t.mem_sources ids _).mpr ⟨id, hid, rfl⟩

/-- What shares nothing in one order shares nothing in any other. -/
theorem pairwise_apart_of_perm {g : Graph} {t : NodeTable} {ids order : List NodeId}
    {captured : List ObjectId} (hperm : order.Perm ids)
    (h : (t.captured ids).Pairwise (g.Apart captured)) :
    (t.captured order).Pairwise (g.Apart captured) :=
  ((hperm.filterMap _).pairwise_iff fun hab => Graph.Apart.symm hab).mpr h

theorem propertiesAlone_of_perm {g : Graph} {t : NodeTable} {visited : IdentitySet}
    {ids order : List NodeId} (hperm : order.Perm ids) (id : NodeId) :
    t.propertiesAlone g visited order id = t.propertiesAlone g visited ids id := by
  simp only [propertiesAlone, hperm.mem_iff]

/-- The same nodes with the children of some of them in another order. -/
structure Reorders (t u : NodeTable) : Prop where
  /-- There are as many nodes. -/
  size : u.size = t.size
  /-- Every node has the same children. -/
  children : ∀ id, (u.childrenOf id).Perm (t.childrenOf id)
  /-- Every node was captured from the same object. -/
  source : ∀ id, (u.entry id).source = (t.entry id).source
  /-- Every node has the same properties. -/
  properties : ∀ id, (u.entry id).properties = (t.entry id).properties

/-- Giving the children of one node in another order reorders. -/
theorem reorders_setChildren {t : NodeTable} {id : NodeId} {children : List NodeId}
    (h : children.Perm (t.childrenOf id)) : Reorders t (t.setChildren id (some children)) := by
  have hentry := t.entry_setChildren id (some children)
  refine ⟨t.size_setChildren id _, fun i => ?_, fun i => ?_, fun i => ?_⟩
  · rw [childrenOf, hentry]
    split
    · next hi => exact hi.1 ▸ h
    · exact .refl _
  · rw [hentry]
    split <;> rfl
  · rw [hentry]
    split <;> rfl

namespace Reorders

variable {t u : NodeTable}

theorem below_iff (h : Reorders t u) (parent child : NodeId) :
    Below u.childrenOf parent child ↔ Below t.childrenOf parent child := (h.children parent).mem_iff

theorem acyclic (h : Reorders t u) (ht : Acyclic t.childrenOf) : Acyclic u.childrenOf :=
  fun id hcycle => ht id (Relation.TransGen.mono (fun parent child => (h.below_iff parent child).mp) _ _ hcycle)

/-- The trees below a node have the same nodes. -/
theorem preorder_perm (h : Reorders t u) (n : Nat) (id : NodeId) :
    (Rose.grow u.childrenOf n id).preorder.Perm (Rose.grow t.childrenOf n id).preorder := by
  induction n generalizing id with
  | zero => exact .refl _
  | succ n ih =>
      simp only [Rose.grow, Rose.preorder, Rose.preorderOfList_eq_flatMap, List.flatMap_map]
      exact ((h.children id).flatMap fun c _ => ih c).cons id

theorem captured_eq (h : Reorders t u) (ids : List NodeId) : u.captured ids = t.captured ids := by
  simp only [captured, h.source]

theorem sources_eq (h : Reorders t u) (ids : List NodeId) : u.sources ids = t.sources ids := by
  simp only [sources, h.source]

theorem propertiesAlone_eq (h : Reorders t u) (g : Graph) (visited : IdentitySet)
    (ids : List NodeId) (id : NodeId) :
    u.propertiesAlone g visited ids id = t.propertiesAlone g visited ids id := by
  simp only [propertiesAlone, h.source, h.properties]

end Reorders

/-- The order of the nodes does not matter for what counts as shown at the start of a pass. -/
theorem agrees_sources_of_perm (t : NodeTable) {ids order : List NodeId} (hperm : order.Perm ids)
    (region : ObjectId → Prop) :
    Graph.Agrees region ⟨t.sources ids, .empty⟩ ⟨t.sources order, .empty⟩ := by
  have hmem : ∀ x, x ∈ (t.sources order).members ↔ x ∈ (t.sources ids).members := fun x => by
    simp only [mem_sources, captured, (hperm.filterMap _).mem_iff]
  exact ⟨rfl, fun c => hmem _, fun o _ => hmem _⟩

theorem propertiesAlone_sources_of_perm (g : Graph) (t : NodeTable) {ids order : List NodeId}
    (hperm : order.Perm ids) (id : NodeId) :
    t.propertiesAlone g (t.sources order) order id = t.propertiesAlone g (t.sources ids) ids id := by
  rw [propertiesAlone_of_perm hperm]
  simp only [propertiesAlone]
  split
  · next source _ =>
      rw [(t.agrees_sources_of_perm hperm (g.Leads (t.captured ids) source)).reflect
        (t.showsCaptured_sources ids)]
  · rfl

/-- **Without sharing, order does not matter**: if no two places of a tree lead to the same object that
was not captured, then every node gets the properties that its source has when it is reflected on its own,
with the captured objects counting as shown.  With the children of any nodes in another order, and with
the nodes reflected in another order, every node gets the same properties. -/
theorem populate_unshared (g : Graph) (t : NodeTable) (root : NodeId) (ids : List NodeId)
    (hacyclic : Acyclic t.childrenOf) (hwalk : t.walk root = some ids)
    (hapart : (t.captured ids).Pairwise (g.Apart (t.captured ids))) :
    ∃ populated visited, t.populate g root = some (populated, visited) ∧
      (∀ id ∈ ids, ∀ source, (t.entry id).source = some source →
        (populated.entry id).properties = (g.reflect (.ref source) (t.sources ids)).1) ∧
      (∀ u, Reorders t u → ∃ populated' visited', u.populate g root = some (populated', visited') ∧
        ∀ id, (populated'.entry id).properties = (populated.entry id).properties) ∧
      ∀ order, order.Perm ids → ∀ id,
        ((populateNodes g t (t.sources ids) order).1.entry id).properties =
          (populated.entry id).properties := by
  have hheight := heightLE_of_acyclic (childrenOf_eq_nil t) hacyclic root
  have hids := hwalk.symm.trans (walk_eq_preorder t root (Nat.le_succ t.size) hheight)
  have hshows := t.showsCaptured_sources ids
  have hpass := properties_pass g t hshows hapart
  refine ⟨_, _, by rw [populate, hwalk]; rfl, fun id hid source hsource => ?_, fun u hu => ?_,
    fun order hperm id => ?_⟩
  · rw [hpass]
    simp only [propertiesAlone, hsource, if_pos hid]
  · have hheight' := heightLE_of_acyclic (childrenOf_eq_nil u) (hu.acyclic hacyclic) root
    have hwalk' := walk_eq_preorder u root (Nat.le_succ u.size) hheight'
    have hperm : (Rose.grow u.childrenOf u.size root).preorder.Perm ids := by
      rw [Option.some.inj hids, hu.size]
      exact hu.preorder_perm t.size root
    have hapart' := pairwise_apart_of_perm hperm hapart
    rw [← hu.captured_eq (Rose.grow u.childrenOf u.size root).preorder] at hapart'
    have hshows' : Graph.ShowsCaptured (t.captured ids)
        ⟨u.sources (Rose.grow u.childrenOf u.size root).preorder, .empty⟩ := fun o ho => by
      rw [hu.sources_eq]
      exact t.showsCaptured_sources _ o ((hperm.filterMap _).mem_iff.mpr ho)
    refine ⟨_, _, by rw [populate, hwalk']; rfl, fun id => ?_⟩
    rw [properties_pass g u hshows' hapart', hu.sources_eq, hu.propertiesAlone_eq,
      propertiesAlone_sources_of_perm g t hperm, hpass]
  · rw [properties_pass g t hshows (pairwise_apart_of_perm hperm hapart),
      propertiesAlone_of_perm hperm, hpass]

/-- Two expressions and a third below them.  They share a list of texts and lead to each other, but the
objects between them belong to one of them each. -/
def looseGraph : Graph := ⟨#[
  .piece (.named "test" "Select") (some "SELECT a, b")
    [("this", .ref 1), ("meta", .ref 3), ("tags", .ref 5)],
  .piece (.named "test" "Column") (some "a") [("tags", .ref 5), ("note", .ref 4)],
  .piece (.named "test" "Column") (some "b") [("tags", .ref 5)],
  .plain [("self", .ref 3), ("owner", .ref 0), ("first", .ref 1), ("size", .scalar (.int 2))],
  .plain [("owner", .ref 0), ("next", .ref 2), ("list", .ref 6)],
  .list [.scalar (.text "x"), .scalar (.text "y")],
  .list [.ref 6, .ref 4, .ref 5]]⟩

/-- The tree of the three expressions. -/
def looseTable : NodeTable := .ofEntries [
  ⟨"Select", "SELECT a, b", some [1, 2], none, some 0⟩, ⟨"Column", "a", none, none, some 1⟩,
  ⟨"Column", "b", none, none, some 2⟩]

theorem populate_unshared_loose :
    Acyclic looseTable.childrenOf ∧ looseTable.walk 0 = some [0, 1, 2] ∧
    (looseTable.captured [0, 1, 2]).Pairwise (looseGraph.Apart (looseTable.captured [0, 1, 2])) ∧
    ∃ populated visited, looseTable.populate looseGraph 0 = some (populated, visited) ∧
      (∀ id ∈ [0, 1, 2], ∀ source, (looseTable.entry id).source = some source →
        (populated.entry id).properties =
          (looseGraph.reflect (.ref source) (looseTable.sources [0, 1, 2])).1) ∧
      (∃ populated' visited', (looseTable.setChildren 0 (some [2, 1])).populate looseGraph 0 =
          some (populated', visited') ∧
        ∀ id, (populated'.entry id).properties = (populated.entry id).properties) ∧
      ∀ id, ((populateNodes looseGraph looseTable (looseTable.sources [0, 1, 2])
          [2, 0, 1]).1.entry id).properties = (populated.entry id).properties := by
  have hacyclic : Acyclic looseTable.childrenOf := by
    refine acyclic_of_lt fun id c hc => ?_
    match id with
    | 0 =>
        rw [show looseTable.childrenOf 0 = [1, 2] from rfl, List.mem_pair] at hc
        omega
    | 1 => cases hc
    | 2 => cases hc
    | n + 3 => rw [childrenOf_eq_nil _ _ (Nat.le_add_left 3 n)] at hc; cases hc
  have hwalk : looseTable.walk 0 = some [0, 1, 2] := by decide +kernel
  have hselect : looseGraph.Surrounds [0, 1, 2] 0 [0, 1, 3, 5] := by decide +kernel
  have hfirst : looseGraph.Surrounds [0, 1, 2] 1 [0, 2, 4, 5, 6] := by decide +kernel
  have hsecond : looseGraph.Surrounds [0, 1, 2] 2 [5] := by decide +kernel
  have hapart : (looseTable.captured [0, 1, 2]).Pairwise
      (looseGraph.Apart (looseTable.captured [0, 1, 2])) := by
    refine .cons (List.forall_mem_cons.mpr ⟨?_, List.forall_mem_cons.mpr ⟨?_, by simp⟩⟩)
      (.cons (List.forall_mem_cons.mpr ⟨?_, by simp⟩) (.cons (by simp) .nil))
    · exact Graph.apart_of_surrounds hselect hfirst (by decide)
    · exact Graph.apart_of_surrounds hselect hsecond (by decide)
    · exact Graph.apart_of_surrounds hfirst hsecond (by decide)
  obtain ⟨populated, visited, hpopulate, halone, hchildren, horder⟩ :=
    populate_unshared looseGraph looseTable 0 [0, 1, 2] hacyclic hwalk hapart
  exact ⟨hacyclic, hwalk, hapart, populated, visited, hpopulate, halone,
    hchildren _ (reorders_setChildren (.swap 1 2 [])), horder [2, 0, 1] (by decide)⟩

end NodeTable

end QueryTree
