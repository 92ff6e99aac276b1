import QueryTree.Proofs.Locality

/-!
# QueryTree.Proofs.Sharing

Containers that several others hold.

A conversion carries two sets along, what counts as shown and which containers are
open.  A container that leads to nothing but values without parts and other containers
is listed from neither of them: `Graph.ListedAs` is its listing by recursion on the graph
alone, where a container is left out only inside itself.

* `Converts.listedAs` — a conversion gives that listing and changes nothing;
* `ListedAs.unique` — there is one such listing;
* `frame_convert`, `frame_reflectWith` — every conversion and every reflection closes
  what it opens, forgets nothing that counts as shown, and adds no container to it;
* `Calls.ready` — so it is at every place that a reflection comes by.
-/

namespace QueryTree

/-- Closing a container that was opened gives the state before. -/
theorem Progress.closing_opening {s : Progress} {id : ObjectId} (h : .object id ∉ s.opened.members) :
    (s.opening id).closing id = s := by
  obtain ⟨visited, members, nodup⟩ := s
  have hmembers : (IdentitySet.insert ⟨members, nodup⟩ (.object id)).members = .object id :: members := by
    simp [IdentitySet.insert, show .object id ∉ members from h]
  simp [Progress.opening, Progress.closing, IdentitySet.erase, hmembers]

/-- A value is left out because it counts as shown. -/
def IdentitySet.hides (s : IdentitySet) (v : Value) : Bool := v.identity?.any s.contains

namespace Graph

/-! ## the listing of a container -/

mutual

/-- `ListedAs g hidden within v shown`: a value that stands inside the containers `within` is listed as
`shown`, if nothing is left out but what is `hidden` and containers inside themselves. -/
inductive ListedAs (g : Graph) (hidden : IdentitySet) :
    List ObjectId → Value → Option PropertyValue → Prop where
  /-- What is hidden is left out. -/
  | hidden {within : List ObjectId} {v : Value} : hidden.hides v = true → ListedAs g hidden within v none
  /-- Nothing is not listed. -/
  | nothing {within : List ObjectId} : ListedAs g hidden within .none none
  /-- A value without parts is a text. -/
  | scalar {within : List ObjectId} {x : Scalar} : hidden.hides (.scalar x) = false →
      ListedAs g hidden within (.scalar x) (some (.text x.shown))
  /-- A container inside itself is left out. -/
  | inside {within : List ObjectId} {id : ObjectId} : id ∈ within → ListedAs g hidden within (.ref id) none
  /-- A sequence or a set lists its elements. -/
  | sequence {within : List ObjectId} {id : ObjectId} {vs : List Value} {ps : List Property} :
      hidden.hides (.ref id) = false → id ∉ within → g.elements? id = some vs →
      ListedAllAs g hidden (id :: within) (vs.map fun v => (none, v)) ps →
      ListedAs g hidden within (.ref id) (listValue ps)
  /-- A map lists its entries by name. -/
  | map {within : List ObjectId} {id : ObjectId} {ps : List Property} :
      hidden.hides (.ref id) = false → id ∉ within → g.elements? id = none →
      ListedAllAs g hidden (id :: within) (g.attributes (.ref id)) ps →
      ListedAs g hidden within (.ref id) (listValue (byName ps))

/-- Several values, with or without names, one after the other. -/
inductive ListedAllAs (g : Graph) (hidden : IdentitySet) :
    List ObjectId → List (Option String × Value) → List Property → Prop where
  /-- There are no values left. -/
  | nil {within : List ObjectId} : ListedAllAs g hidden within [] []
  /-- The first value, and then the others. -/
  | cons {within : List ObjectId} {name : Option String} {v : Value}
      {rest : List (Option String × Value)} {shown : Option PropertyValue} {ps : List Property} :
      ListedAs g hidden within v shown → ListedAllAs g hidden within rest ps →
      ListedAllAs g hidden within ((name, v) :: rest) (consProperty name shown ps)

end

mutual

/-- A value has one listing.  The induction is on the first of two. -/
theorem ListedAs.unique {g : Graph} {hidden : IdentitySet} {within : List ObjectId} {v : Value}
    {shown shown' : Option PropertyValue} :
    ListedAs g hidden within v shown → ListedAs g hidden within v shown' → shown = shown'
  | .hidden h, h' => by cases h' <;> simp_all
  | .nothing, h' => by cases h' <;> rfl
  | .scalar h, h' => by cases h' <;> simp_all
  | .inside h, h' => by cases h' <;> simp_all
  | .sequence h hin hvs hall, h' => by
      cases h' with
      | hidden h' => simp_all
      | inside hin' => exact absurd hin' hin
      | map _ _ hvs' _ => simp_all
      | sequence _ _ hvs' hall' =>
          obtain rfl := Option.some.inj (hvs.symm.trans hvs')
          rw [hall.unique hall']
  | .map h hin hvs hall, h' => by
      cases h' with
      | hidden h' => simp_all
      | inside hin' => exact absurd hin' hin
      | sequence _ _ hvs' _ => simp_all
      | map _ _ _ hall' => rw [hall.unique hall']

theorem ListedAllAs.unique {g : Graph} {hidden : IdentitySet} {within : List ObjectId}
    {vs : List (Option String × Value)} {ps ps' : List Property} :
    ListedAllAs g hidden within vs ps → ListedAllAs g hidden within vs ps' → ps = ps'
  | .nil, .nil => rfl
  | .cons hfirst hrest, .cons hfirst' hrest' => by rw [hfirst.unique hfirst', hrest.unique hrest']

end

/-! ## what is visited -/

/-- From one set to a later one nothing is forgotten, and nothing is new but objects that are no
containers. -/
structure Visits (g : Graph) (before after : IdentitySet) : Prop where
  /-- What counts as shown stays so. -/
  kept : ∀ x ∈ before.members, x ∈ after.members
  /-- Whatever else counts as shown is an object that is no container. -/
  new : ∀ x ∈ after.members, x ∈ before.members ∨ ∃ id, x = .object id ∧ g.isThing id = true

namespace Visits

variable {g : Graph} {a b c : IdentitySet}

theorem refl (g : Graph) (a : IdentitySet) : g.Visits a a := ⟨fun _ h => h, fun _ h => .inl h⟩

theorem trans (h₁ : g.Visits a b) (h₂ : g.Visits b c) : g.Visits a c := by
  constructor
  · exact fun x hx => h₂.kept x (h₁.kept x hx)
  · intro x hx
    obtain hx | hthing := h₂.new x hx
    · exact h₁.new x hx
    · exact .inr hthing

/-- Marking an object that is no container is a visit. -/
theorem marking (s : Progress) {id : ObjectId} (h : g.isThing id = true) :
    g.Visits s.visited (s.marking id).visited := by
  constructor
  · exact fun x hx => (IdentitySet.mem_insert _ _ _).mpr (.inr hx)
  · intro x hx
    obtain rfl | hx := (IdentitySet.mem_insert _ _ _).mp hx
    · exact .inr ⟨id, rfl, h⟩
    · exact .inl hx

theorem of_marks {s t : Progress} {es : List Entry} (h : Marks s t (g.things es)) :
    g.Visits s.visited t.visited := by
  constructor
  · exact fun x hx => (h.mem_visited x).mpr (.inr hx)
  · intro x hx
    obtain ⟨id, hid, rfl⟩ | hx := (h.mem_visited x).mp hx
    · exact .inr ⟨id, rfl, isThing_of_mem_things hid⟩
    · exact .inl hx

/-- Visits hide no value but objects that are no containers. -/
theorem hides_eq (h : g.Visits a b) {v : Value} (hv : ∀ id, v = .ref id → g.isThing id = false) :
    b.hides v = a.hides v := by
  have hmem : ∀ x, v.identity? = some x → (x ∈ b.members ↔ x ∈ a.members) := by
    intro x hx
    refine ⟨fun hb => ?_, h.kept x⟩
    obtain ha | ⟨id, rfl, hthing⟩ := h.new x hb
    · exact ha
    · have href : v = .ref id := by
        cases v <;> simp_all [Value.identity?]
      simp [hv id href] at hthing
  unfold IdentitySet.hides
  cases hx : v.identity? with
  | none => rfl
  | some x => simp [IdentitySet.contains, hmem x hx]

end Visits

/-! ## the frame of a conversion -/

/-- The open containers are the same again, and nothing but visits happened to what counts as
shown. -/
structure Frame (g : Graph) (s t : Progress) : Prop where
  /-- The same containers are open. -/
  opened : t.opened = s.opened
  /-- What counts as shown has only grown, and not by containers. -/
  visited : g.Visits s.visited t.visited

theorem Frame.of_marks {g : Graph} {s t : Progress} {es : List Entry} (h : Marks s t (g.things es)) :
    g.Frame s t := ⟨h.opened, .of_marks h⟩

/-- **The frame of a conversion**: it closes what it opens, and forgets nothing. -/
theorem frame_convert (g : Graph) (fuel : Nat) (v : Value) (s : Progress) :
    g.Frame s (g.convert fuel v s).2 :=
  .of_marks (marks_convert g fuel [] v s)

/-- Conversions in a row have the frame of one. -/
theorem frame_stateAfter (g : Graph) (fuel : Nat) (vs : List Value) (s : Progress) :
    g.Frame s (stateAfter (g.convert fuel) vs s) :=
  .of_marks (marks_along (marks_convert g fuel []) vs s)

/-- A reflection has the same frame, whatever is open around it. -/
theorem frame_reflectWith (g : Graph) (fuel : Nat) (v : Value) (s : Progress) :
    g.Frame s (reflectWith g (g.convert fuel) v s).2 := by
  rw [reflectWith_eq, convertAll_snd]
  exact frame_stateAfter g fuel _ s

theorem visits_reflect (g : Graph) (v : Value) (visited : IdentitySet) :
    g.Visits visited (g.reflect v visited).2 := by
  rw [reflect_eq, convertAll_snd]
  exact (frame_stateAfter g g.nesting _ ⟨visited, .empty⟩).visited

/-! ## plain containers -/

/-- A container that leads to nothing but values without parts and other containers. -/
def Plain (g : Graph) (id : ObjectId) : Prop :=
  ∀ held, g.Reaches id held → (g.object held).isContainer = true

theorem Plain.isContainer {g : Graph} {id : ObjectId} (h : g.Plain id) :
    (g.object id).isContainer = true := h id .refl

theorem Plain.held {g : Graph} {id held : ObjectId} (h : g.Plain id) (hheld : g.Holds id held) :
    g.Plain held := fun x hx => h x (.head hheld hx)

/-- A list of containers that hold nothing outside it has only plain ones. -/
theorem plain_of_mem {g : Graph} (xs : List ObjectId)
    (hcontainers : ∀ x ∈ xs, (g.object x).isContainer = true)
    (hclosed : ∀ x ∈ xs, ∀ v ∈ g.holdings x, Inside (· ∈ xs) v) {id : ObjectId} (hid : id ∈ xs) :
    g.Plain id := by
  intro held hreach
  have hmem : held ∈ xs := by
    induction hreach with
    | refl => exact hid
    | tail _ hstep ih => exact hclosed _ ih _ hstep _ rfl
  exact hcontainers held hmem

/-- As far as an object leads, the open containers are those of the list. -/
def OpenAs (g : Graph) (within : List ObjectId) (s : Progress) (id : ObjectId) : Prop :=
  ∀ held, g.Reaches id held → (.object held ∈ s.opened.members ↔ held ∈ within)

theorem OpenAs.held {g : Graph} {within : List ObjectId} {s : Progress} {id held : ObjectId}
    (h : g.OpenAs within s id) (hheld : g.Holds id held) : g.OpenAs within s held :=
  fun x hx => h x (.head hheld hx)

theorem OpenAs.opening {g : Graph} {within : List ObjectId} {s : Progress} {id : ObjectId}
    (h : g.OpenAs within s id) (opened : ObjectId) :
    g.OpenAs (opened :: within) (s.opening opened) id := by
  intro held hheld
  simp [Progress.opening, IdentitySet.mem_insert, h held hheld]

/-- None of the containers that a container leads to is open, itself included. -/
def Clear (g : Graph) (id : ObjectId) (s : Progress) : Prop :=
  ∀ held, g.Reaches id held → .object held ∉ s.opened.members

theorem Clear.openAs {g : Graph} {id : ObjectId} {s : Progress} (h : g.Clear id s) :
    g.OpenAs [] s id := by
  intro held hheld
  simp [h held hheld]

/-- Whatever holds of all that a container holds holds of its elements. -/
theorem inside_of_mem_elements {g : Graph} {id : ObjectId} {vs : List Value} {P : ObjectId → Prop}
    (hvs : g.elements? id = some vs) (h : ∀ held, g.Holds id held → P held) :
    ∀ a ∈ vs.map fun v => ((none : Option String), v), Inside P a.2 := by
  intro a ha held heq
  obtain ⟨v, hv, rfl⟩ := List.mem_map.mp ha
  obtain rfl : v = .ref held := heq
  exact h held (holds_of_mem_elements hvs hv)

/-- Whatever holds of all that a container holds holds of its entries. -/
theorem inside_of_mem_entries {g : Graph} {id : ObjectId} {P : ObjectId → Prop}
    (h : ∀ held, g.Holds id held → P held) : ∀ a ∈ g.attributes (.ref id), Inside P a.2 := by
  rintro ⟨name, v⟩ ha held rfl
  exact h held (holds_of_mem_attributes ha)

section Listing

variable {g : Graph} {hidden : IdentitySet}

/-- What counts as shown hides of plain values only what it hid before the visits. -/
theorem hasShown_eq_hides {s : Progress} (hs : g.Visits hidden s.visited) {v : Value}
    (hv : Inside g.Plain v) : s.hasShown v = hidden.hides v := by
  have hthing : ∀ id, v = .ref id → g.isThing id = false := by
    intro id hid
    simp [isThing, (hv id hid).isContainer]
  exact hs.hides_eq hthing

mutual

/-- **Plain containers are listed**: the conversion of a plain value gives its listing inside the
containers that are open, and changes nothing. -/
theorem Converts.listedAs {v : Value} {s t : Progress} {shown : Option PropertyValue} :
    Converts g v s shown t → ∀ within : List ObjectId, g.Visits hidden s.visited → Inside g.Plain v →
      Inside (g.OpenAs within s) v → ListedAs g hidden within v shown ∧ t = s
  | .seen h, within, hs, hv, _ => by
      rw [hasShown_eq_hides hs hv] at h
      exact ⟨.hidden h, rfl⟩
  | .nothing, _, _, _, _ => ⟨.nothing, rfl⟩
  | .scalar h, within, hs, hv, _ => by
      rw [hasShown_eq_hides hs hv] at h
      exact ⟨.scalar h, rfl⟩
  | .opened _ _ ho, _, _, _, hopen => ⟨.inside ((hopen _ rfl _ .refl).mp ho), rfl⟩
  | @Converts.sequence _ id _ _ _ _ h _ ho hvs hall, within, hs, hv, hopen => by
      have hplain := hv id rfl
      have hopened := (hopen id rfl).opening id
      have hin : id ∉ within := fun hmem => ho ((hopen id rfl id .refl).mpr hmem)
      rw [hasShown_eq_hides hs hv] at h
      obtain ⟨hlisted, rfl⟩ := hall.listedAs (id :: within) hs
        (inside_of_mem_elements hvs fun _ => hplain.held)
        (inside_of_mem_elements hvs fun _ => hopened.held)
      exact ⟨.sequence h hin hvs hlisted, Progress.closing_opening ho⟩
  | @Converts.map _ id _ _ _ h _ ho hvs hall, within, hs, hv, hopen => by
      have hplain := hv id rfl
      have hopened := (hopen id rfl).opening id
      have hin : id ∉ within := fun hmem => ho ((hopen id rfl id .refl).mpr hmem)
      rw [hasShown_eq_hides hs hv] at h
      obtain ⟨hlisted, rfl⟩ := hall.listedAs (id :: within) hs
        (inside_of_mem_entries fun _ => hplain.held) (inside_of_mem_entries fun _ => hopened.held)
      exact ⟨.map h hin hvs hlisted, Progress.closing_opening ho⟩
  | @Converts.thing _ id _ _ _ _ hc _, _, _, hv, _ => by
      simp [isThing, (hv id rfl).isContainer] at hc

theorem ConvertsAll.listedAs {vs : List (Option String × Value)} {s t : Progress} {ps : List Property} :
    ConvertsAll g vs s ps t → ∀ within : List ObjectId, g.Visits hidden s.visited →
      (∀ a ∈ vs, Inside g.Plain a.2) → (∀ a ∈ vs, Inside (g.OpenAs within s) a.2) →
      ListedAllAs g hidden within vs ps ∧ t = s
  | .nil, _, _, _, _ => ⟨.nil, rfl⟩
  | .cons hfirst hrest, within, hs, hplain, hopen => by
      rw [List.forall_mem_cons] at hplain hopen
      obtain ⟨hlisted, rfl⟩ := hfirst.listedAs within hs hplain.1 hopen.1
      obtain ⟨hlisted', rfl⟩ := hrest.listedAs within hs hplain.2 hopen.2
      exact ⟨.cons hlisted hlisted', rfl⟩

end

/-- A plain container of which nothing is open is converted to its listing, and the state stays as it
is. -/
theorem listedAs_convert {id : ObjectId} (hid : g.Plain id) {s : Progress} {fuel : Nat}
    (hs : g.Visits hidden s.visited) (hclear : g.Clear id s) (hfuel : (g.enterable s).card < fuel) :
    ListedAs g hidden [] (.ref id) (g.convert fuel (.ref id) s).1 ∧ (g.convert fuel (.ref id) s).2 = s := by
  have hends := converts_convert g fuel (.ref id) s hfuel
  refine hends.listedAs [] hs ?_ ?_
  · rintro _ ⟨⟩
    exact hid
  · rintro _ ⟨⟩
    exact hclear.openAs

end Listing

/-! ## the places that a reflection comes by -/

/-- A conversion that takes place: how much nesting is left to it, its value, and its state. -/
structure Call where
  /-- The nesting that is left. -/
  fuel : Nat
  /-- The value that is converted. -/
  value : Value
  /-- What counts as shown and what is open then. -/
  state : Progress

/-- What a conversion gives. -/
def Call.result (g : Graph) (c : Call) : Option PropertyValue × Progress := g.convert c.fuel c.value c.state

/-- The state in which what an object holds is converted; none if it is passed over. -/
def entering (g : Graph) (id : ObjectId) (s : Progress) : Option Progress :=
  if s.hasShown (.ref id) then none
  else if (g.object id).isContainer then
    if s.opened.contains (.object id) then none else some (s.opening id)
  else some (s.marking id)

/-- The conversions that take place during one, itself included. -/
inductive Calls (g : Graph) : Call → Call → Prop where
  /-- The conversion itself. -/
  | here {c : Call} : Calls g c c
  /-- A conversion that takes place during that of something that the value holds, after whatever the
  value holds before it has been converted. -/
  | inside {fuel : Nat} {id : ObjectId} {s t : Progress} {before after : List Value} {v : Value}
      {c : Call} : g.entering id s = some t → g.contents id = before ++ v :: after →
      Calls g ⟨fuel, v, stateAfter (g.convert fuel) before t⟩ c → Calls g ⟨fuel + 1, .ref id, s⟩ c

/-- The conversions that take place while the attributes of a value are reflected, with no container
open at the start. -/
def ReflectCalls (g : Graph) (v : Value) (visited : IdentitySet) (c : Call) : Prop :=
  ∃ before a after, g.declared v = before ++ a :: after ∧
    Calls g ⟨g.nesting, a.2, stateAfter (g.convert g.nesting) (before.map Prod.snd) ⟨visited, .empty⟩⟩ c

/-- A conversion has enough nesting left for all that can still be entered, and since `hidden` there
have been visits only. -/
structure Ready (g : Graph) (hidden : IdentitySet) (c : Call) : Prop where
  /-- The nesting is not used up. -/
  fuel : (g.enterable c.state).card < c.fuel
  /-- What counts as shown comes from visits. -/
  visits : g.Visits hidden c.state.visited

theorem Frame.card_enterable_le {g : Graph} {s t : Progress} (h : g.Frame s t) :
    (g.enterable t).card ≤ (g.enterable s).card := by
  refine Finset.card_le_card (enterable_subset ?_ h.visited.kept)
  rw [h.opened]
  exact fun _ hx => hx

/-- Conversions in a row leave a conversion after them ready. -/
theorem Ready.after {g : Graph} {hidden : IdentitySet} {fuel : Nat} {s : Progress}
    (hfuel : (g.enterable s).card < fuel) (hvisits : g.Visits hidden s.visited) (before : List Value)
    (v : Value) (n : Nat) :
    g.Ready hidden ⟨fuel, v, stateAfter (g.convert n) before s⟩ := by
  have hframe := frame_stateAfter g n before s
  exact ⟨Nat.lt_of_le_of_lt hframe.card_enterable_le hfuel, hvisits.trans hframe.visited⟩

/-- Entering an object leaves less to enter, if there is anything in it to convert. -/
theorem Ready.enter {g : Graph} {hidden : IdentitySet} {fuel : Nat} {id : ObjectId} {s t : Progress}
    (h : g.Ready hidden ⟨fuel + 1, .ref id, s⟩) (ht : g.entering id s = some t)
    (hcontents : g.contents id ≠ []) :
    (g.enterable t).card < fuel ∧ g.Visits hidden t.visited := by
  have hfuel : (g.enterable s).card < fuel + 1 := h.fuel
  have hvisits : g.Visits hidden s.visited := h.visits
  have hsize : id < g.size := by
    by_contra hge
    exact hcontents (g.contents_eq_nil id (Nat.le_of_not_lt hge))
  unfold entering at ht
  split at ht
  · cases ht
  · next hs =>
      split at ht
      · next hc =>
          split at ht
          · cases ht
          · next ho =>
              obtain rfl := Option.some.inj ht
              have hless := card_enterable_opening_lt hc (mt (IdentitySet.contains_iff _ _).mpr ho)
              exact ⟨by omega, hvisits⟩
      · next hc =>
          obtain rfl := Option.some.inj ht
          have hthing : g.isThing id = true := by simpa [isThing] using hc
          have hnew : .object id ∉ s.visited.members := fun hmem => hs ((s.hasShown_ref id).mpr hmem)
          have hless := card_enterable_marking_lt hsize hthing hnew
          exact ⟨by omega, hvisits.trans (.marking s hthing)⟩

/-- All conversions that take place during one that is ready are ready. -/
theorem Calls.ready {g : Graph} {hidden : IdentitySet} {c d : Call} (h : g.Calls c d)
    (hc : g.Ready hidden c) : g.Ready hidden d := by
  induction h with
  | here => exact hc
  | @inside fuel id s t before after v d ht hcontents _ ih =>
      have hne : g.contents id ≠ [] := by simp [hcontents]
      obtain ⟨hfuel, hvisits⟩ := hc.enter ht hne
      exact ih (.after hfuel hvisits before v fuel)

theorem ReflectCalls.ready {g : Graph} {hidden visited : IdentitySet} {v : Value} {c : Call}
    (h : g.ReflectCalls v visited c) (hvisits : g.Visits hidden visited) : g.Ready hidden c := by
  obtain ⟨before, a, after, -, hcalls⟩ := h
  have hfuel : (g.enterable ⟨visited, .empty⟩).card < g.nesting :=
    Nat.lt_succ_of_le (card_enterable_le g _)
  exact hcalls.ready (.after hfuel hvisits (before.map Prod.snd) a.2 g.nesting)

/-- **Shared containers are listed everywhere**: a plain container is converted to one and the same
value, its listing, in every state and at every place of a reflection where none of the containers is
open that it leads to, whatever has been visited since a set of values to leave out, and this changes
nothing.  Every conversion and every reflection leaves the same containers open, and what counts as
shown only grows. -/
theorem convert_everywhere (g : Graph) :
    (∀ id, g.Plain id → ∀ hidden, ∃ shown,
      (∀ shown', ListedAs g hidden [] (.ref id) shown' ↔ shown' = shown) ∧
      (∀ s fuel, g.Visits hidden s.visited → g.Clear id s → (g.enterable s).card < fuel →
        g.convert fuel (.ref id) s = (shown, s)) ∧
      ∀ visited v c, g.Visits hidden visited → g.ReflectCalls v visited c → c.value = .ref id →
        g.Clear id c.state → c.result g = (shown, c.state)) ∧
    (∀ fuel v s, g.Frame s (g.convert fuel v s).2) ∧
    (∀ fuel v s, g.Frame s (reflectWith g (g.convert fuel) v s).2) ∧
    ∀ v visited, g.Visits visited (g.reflect v visited).2 := by
  refine ⟨fun id hid hidden => ?_, frame_convert g, frame_reflectWith g, visits_reflect g⟩
  -- the listing is found where nothing has been visited yet and nothing is open
  have hclear : g.Clear id ⟨hidden, .empty⟩ := fun _ _ hmem => absurd hmem List.not_mem_nil
  have hfirst : ListedAs g hidden [] (.ref id) (g.convert g.nesting (.ref id) ⟨hidden, .empty⟩).1 :=
    (listedAs_convert hid (.refl g hidden) hclear (Nat.lt_succ_of_le (card_enterable_le g _))).1
  have hstate : ∀ s fuel, g.Visits hidden s.visited → g.Clear id s → (g.enterable s).card < fuel →
      g.convert fuel (.ref id) s = ((g.convert g.nesting (.ref id) ⟨hidden, .empty⟩).1, s) := by
    intro s fuel hs hclear hfuel
    obtain ⟨hlisted, hsame⟩ := listedAs_convert hid hs hclear hfuel
    exact Prod.ext (hlisted.unique hfirst) hsame
  refine ⟨_, fun shown' => ⟨fun h => h.unique hfirst, fun h => h ▸ hfirst⟩, hstate, ?_⟩
  rintro visited v ⟨fuel, _, s⟩ hvisits hcalls rfl hclear
  have hready := hcalls.ready hvisits
  exact hstate s fuel hready.visits hclear hready.fuel

/-- A list that holds itself and holds a map twice; two expressions hold the list, one of them inside
the other. -/
def sharedGraph : Graph := ⟨#[
  .piece (.named "test" "Select") (some "SELECT a") [("items", .ref 2), ("next", .ref 1)],
  .piece (.named "test" "Column") (some "a") [("items", .ref 2), ("label", .scalar (.text "a"))],
  .list [.scalar (.text "x"), .ref 3, .ref 2, .none, .ref 3],
  .map [(.scalar (.text "up"), .ref 2), (.scalar (.text "k"), .scalar (.int 1))]]⟩

theorem plain_sharedGraph : sharedGraph.Plain 2 :=
  plain_of_mem [2, 3] (by decide) (by decide) (by decide)

theorem convert_everywhere_shared :
    sharedGraph.Plain 2 ∧
    ∃ shown c d, shown.isSome = true ∧
      sharedGraph.ReflectCalls (.ref 0) .empty c ∧ c.value = .ref 2 ∧
        c.result sharedGraph = (shown, c.state) ∧
      sharedGraph.ReflectCalls (.ref 0) .empty d ∧ d.value = .ref 2 ∧
        d.result sharedGraph = (shown, d.state) ∧
      .object 1 ∉ c.state.visited.members ∧ .object 1 ∈ d.state.visited.members := by
  obtain ⟨shown, -, -, hplaces⟩ := (convert_everywhere sharedGraph).1 2 plain_sharedGraph .empty
  have hclear (visited : IdentitySet) : sharedGraph.Clear 2 ⟨visited, .empty⟩ :=
    fun _ _ hmem => absurd hmem List.not_mem_nil
  -- the list is reached from the outer expression, and then from the inner one, which is marked by then
  have hfirst : sharedGraph.ReflectCalls (.ref 0) .empty ⟨5, .ref 2, ⟨.empty, .empty⟩⟩ :=
    ⟨[], ("items", .ref 2), [("next", .ref 1)], rfl, .here⟩
  have hlisted := hplaces .empty (.ref 0) _ (.refl _ _) hfirst rfl (hclear _)
  have hsecond : sharedGraph.ReflectCalls (.ref 0) .empty
      ⟨4, .ref 2, Progress.marking ⟨.empty, .empty⟩ 1⟩ := by
    have hstate : stateAfter (sharedGraph.convert 5) [.ref 2] ⟨.empty, .empty⟩ = ⟨.empty, .empty⟩ :=
      congrArg Prod.snd hlisted
    have henter : sharedGraph.entering 1 (stateAfter (sharedGraph.convert 5) [.ref 2] ⟨.empty, .empty⟩) =
        some (Progress.marking ⟨.empty, .empty⟩ 1) := by
      rw [hstate]
      rfl
    have hcontents : sharedGraph.contents 1 = [] ++ .ref 2 :: [.scalar (.text "a")] := rfl
    exact ⟨[("items", .ref 2)], ("next", .ref 1), [], rfl, .inside henter hcontents .here⟩
  have hagain := hplaces .empty (.ref 0) _ (.refl _ _) hsecond rfl (hclear _)
  have hsome : (sharedGraph.convert 5 (.ref 2) ⟨.empty, .empty⟩).1.isSome = true := by decide +kernel
  rw [show sharedGraph.convert 5 (.ref 2) ⟨.empty, .empty⟩ = (shown, _) from hlisted] at hsome
  exact ⟨plain_sharedGraph, shown, _, _, hsome, hfirst, rfl, hlisted, hsecond, rfl, hagain, by decide,
    by decide⟩

end Graph

end QueryTree
