import Mathlib.Data.Finset.Card
import Mathlib.Logic.Relation
import QueryTree.Graph.Reflection

/-!
# QueryTree.Proofs.Reflection

What a conversion marks as shown.

A conversion goes down a graph with two kinds of marks: an object that is no container
is marked for good, a container only while its contents are listed.  `Graph.entries`
records what a conversion enters, step by step along the conversion itself.  From the
record it follows that

* `marks_convert` — the objects that are newly marked are exactly those that were
  entered, each once, and the open containers are the same afterwards as before;
* `leads_convert` — only what can be reached is entered;
* `covers_convert` — everything that can be reached without passing an open container
  is marked afterwards.

The last one is where an open container matters: its contents are left to the place
that opened it, and once that place is done, they have all been met
(`Way.detour`).
-/

namespace QueryTree

namespace Graph

/-! ## what objects hold -/

/-- The values that an object holds: the elements of a sequence or a set, the values of a map, and
the declared attributes of anything else. -/
def holdings (g : Graph) (id : ObjectId) : List Value :=
  match g.object id with
  | .list items => items
  | .tuple items => items
  | .set members => members
  | .frozenset members => members
  | _ => (g.declared (.ref id)).map Prod.snd

/-- One object holds another. -/
def Holds (g : Graph) (holder held : ObjectId) : Prop := .ref held ∈ g.holdings holder

/-- One object can be reached from another. -/
def Reaches (g : Graph) : ObjectId → ObjectId → Prop := Relation.ReflTransGen g.Holds

/-- Objects that are no containers. -/
def isThing (g : Graph) (id : ObjectId) : Bool := !(g.object id).isContainer

/-- The values that an object holds, in the order in which they are converted. -/
def contents (g : Graph) (id : ObjectId) : List Value :=
  match g.object id with
  | .list items => items
  | .tuple items => items
  | .set members => g.byLabel members
  | .frozenset members => g.byLabel members
  | _ => (g.declared (.ref id)).map Prod.snd

theorem mem_byLabel (g : Graph) (members : List Value) (v : Value) :
    v ∈ g.byLabel members ↔ v ∈ members := by
  simp [byLabel, List.mem_mergeSort]

/-- Sorting the members of a set changes nothing about what it holds. -/
theorem mem_contents (g : Graph) (id : ObjectId) (v : Value) :
    v ∈ g.contents id ↔ v ∈ g.holdings id := by
  unfold contents holdings
  split <;> simp [mem_byLabel]

/-- Numbers that are not in use stand for objects that hold nothing. -/
theorem contents_eq_nil (g : Graph) (id : ObjectId) (h : g.size ≤ id) : g.contents id = [] := by
  have hobject : g.object id = Object.blank := by
    rw [object, Array.getD_eq_getD_getElem?, Array.getElem?_eq_none h, Option.getD_none]
  simp only [contents, declared, hobject]
  rfl

/-- Containers are in use. -/
theorem lt_size_of_isContainer (g : Graph) (id : ObjectId) (h : (g.object id).isContainer = true) :
    id < g.size := by
  by_contra hge
  rw [object, Array.getD_eq_getD_getElem?, Array.getElem?_eq_none (Nat.le_of_not_lt hge),
    Option.getD_none] at h
  cases h

/-! ## the state after a conversion -/

/-- The state after several conversions in a row. -/
def stateAfter (f : Converter) (vs : List Value) (s : Progress) : Progress :=
  vs.foldl (fun s v => (f v s).2) s

theorem convertNamed_snd (f : Converter) (as : List (String × Value)) (s : Progress) :
    (convertNamed f as s).2 = stateAfter f (as.map Prod.snd) s := by
  induction as generalizing s with
  | nil => rfl
  | cons a as ih => exact ih _

theorem convertItems_snd (f : Converter) (vs : List Value) (s : Progress) :
    (convertItems f vs s).2 = stateAfter f vs s := by
  induction vs generalizing s with
  | nil => rfl
  | cons v vs ih => exact ih _

/-- Listing a container converts what it holds. -/
theorem contentsWith_snd (g : Graph) (f : Converter) (id : ObjectId) (s : Progress) :
    (contentsWith g f id s).2 = stateAfter f (g.contents id) s := by
  cases h : g.object id with
  | list items => simpa only [contentsWith, contents, h] using convertItems_snd f _ s
  | tuple items => simpa only [contentsWith, contents, h] using convertItems_snd f _ s
  | set members => simpa only [contentsWith, contents, h] using convertItems_snd f _ s
  | frozenset members => simpa only [contentsWith, contents, h] using convertItems_snd f _ s
  | expression | record | map =>
      simpa only [contentsWith, contents, reflectWith, h] using
        convertNamed_snd f (g.declared (.ref id)) s

/-- Reflecting an object that is no container converts what it holds. -/
theorem reflectWith_snd (g : Graph) (f : Converter) (id : ObjectId) (s : Progress)
    (h : g.isThing id = true) : (reflectWith g f (.ref id) s).2 = stateAfter f (g.contents id) s := by
  have hcontents : g.contents id = (g.declared (.ref id)).map Prod.snd := by
    unfold contents
    split <;> simp_all [isThing, Object.isContainer]
  rw [hcontents]
  exact convertNamed_snd f _ s

end Graph

/-- The state in which a container is being listed. -/
def Progress.opening (s : Progress) (id : ObjectId) : Progress :=
  { s with opened := s.opened.insert (.object id) }

/-- The state in which a container is no longer listed. -/
def Progress.closing (s : Progress) (id : ObjectId) : Progress :=
  { s with opened := s.opened.erase (.object id) }

/-- The state in which an object counts as shown. -/
def Progress.marking (s : Progress) (id : ObjectId) : Progress :=
  { s with visited := s.visited.insert (.object id) }

@[simp] theorem Progress.visited_opening (s : Progress) (id : ObjectId) :
    (s.opening id).visited = s.visited := rfl

@[simp] theorem Progress.visited_closing (s : Progress) (id : ObjectId) :
    (s.closing id).visited = s.visited := rfl

theorem Progress.hasShown_ref (s : Progress) (id : ObjectId) :
    s.hasShown (.ref id) = true ↔ .object id ∈ s.visited.members := by
  simp [hasShown, Value.identity?, IdentitySet.contains_iff]

namespace Graph

/-- Nothing but an object that is not yet shown changes the state. -/
theorem convert_snd_of_hasShown (g : Graph) (fuel : Nat) (v : Value) (s : Progress)
    (h : s.hasShown v = true) : (g.convert (fuel + 1) v s).2 = s := by
  simp [convert, h]

/-- A container that is being listed already is passed over. -/
theorem convert_snd_opened (g : Graph) (fuel : Nat) (id : ObjectId) (s : Progress)
    (hc : (g.object id).isContainer = true) (ho : .object id ∈ s.opened.members) :
    (g.convert (fuel + 1) (.ref id) s).2 = s := by
  by_cases h : s.hasShown (.ref id) = true
  · exact convert_snd_of_hasShown g fuel _ s h
  · simp [convert, h, hc, containerWith, IdentitySet.contains_iff, ho]

/-- A container is open while its contents are converted. -/
theorem convert_snd_container (g : Graph) (fuel : Nat) (id : ObjectId) (s : Progress)
    (hs : ¬ s.hasShown (.ref id) = true) (hc : (g.object id).isContainer = true)
    (ho : .object id ∉ s.opened.members) :
    (g.convert (fuel + 1) (.ref id) s).2 =
      (stateAfter (g.convert fuel) (g.contents id) (s.opening id)).closing id := by
  rw [← contentsWith_snd]
  simp [convert, hs, hc, containerWith, IdentitySet.contains_iff, ho, Progress.opening,
    Progress.closing]

/-- An object that is no container is marked, and then what it holds is converted. -/
theorem convert_snd_thing (g : Graph) (fuel : Nat) (id : ObjectId) (s : Progress)
    (hs : ¬ s.hasShown (.ref id) = true) (hc : g.isThing id = true) :
    (g.convert (fuel + 1) (.ref id) s).2 =
      stateAfter (g.convert fuel) (g.contents id) (s.marking id) := by
  rw [← reflectWith_snd g _ id _ hc]
  simp only [isThing, Bool.not_eq_true'] at hc
  simp [convert, hs, hc, objectWith, Progress.marking]

/-! ## what a conversion enters -/

/-- An object that a conversion enters, and the objects that it is entered from, the innermost
first. -/
structure Entry where
  /-- The object. -/
  id : ObjectId
  /-- The objects around it. -/
  within : List ObjectId

/-- What several conversions in a row enter, given what one of them does. -/
def entriesAlong (f : Converter) (enters : Value → Progress → List Entry) :
    List Value → Progress → List Entry
  | [], _ => []
  | v :: vs, s => enters v s ++ entriesAlong f enters vs (f v s).2

/-- What a conversion enters, in order: every container that it lists, and every other object that it
reflects as the value of a property. -/
def entries (g : Graph) : Nat → List ObjectId → Value → Progress → List Entry
  | 0, _, _, _ => []
  | fuel + 1, within, v, s =>
    if s.hasShown v then []
    else
      match v with
      | .none => []
      | .scalar _ => []
      | .ref id =>
        let inside := entriesAlong (g.convert fuel) (entries g fuel (id :: within)) (g.contents id)
        if (g.object id).isContainer then
          if s.opened.contains (.object id) then [] else ⟨id, within⟩ :: inside (s.opening id)
        else ⟨id, within⟩ :: inside (s.marking id)

/-- The objects that are reflected as the value of a property: those that are entered and no
containers. -/
def things (g : Graph) (es : List Entry) : List ObjectId := (es.map Entry.id).filter g.isThing

theorem things_append (g : Graph) (es fs : List Entry) :
    g.things (es ++ fs) = g.things es ++ g.things fs := by
  simp [things]

theorem isThing_of_mem_things {g : Graph} {es : List Entry} {id : ObjectId} (h : id ∈ g.things es) :
    g.isThing id = true := (List.mem_filter.mp h).2

section Cases

variable (g : Graph) (fuel : Nat) (within : List ObjectId) (id : ObjectId) (s : Progress)

theorem entries_of_hasShown (v : Value) (h : s.hasShown v = true) :
    g.entries (fuel + 1) within v s = [] := by
  simp [entries, h]

theorem entries_opened (hc : (g.object id).isContainer = true)
    (ho : .object id ∈ s.opened.members) : g.entries (fuel + 1) within (.ref id) s = [] := by
  simp [entries, hc, IdentitySet.contains_iff, ho]

theorem entries_container (hs : ¬ s.hasShown (.ref id) = true)
    (hc : (g.object id).isContainer = true) (ho : .object id ∉ s.opened.members) :
    g.entries (fuel + 1) within (.ref id) s = ⟨id, within⟩ ::
      entriesAlong (g.convert fuel) (g.entries fuel (id :: within)) (g.contents id)
        (s.opening id) := by
  simp [entries, hs, hc, IdentitySet.contains_iff, ho]

theorem entries_thing (hs : ¬ s.hasShown (.ref id) = true) (hc : g.isThing id = true) :
    g.entries (fuel + 1) within (.ref id) s = ⟨id, within⟩ ::
      entriesAlong (g.convert fuel) (g.entries fuel (id :: within)) (g.contents id)
        (s.marking id) := by
  simp only [isThing, Bool.not_eq_true'] at hc
  simp [entries, hs, hc]

end Cases

/-- The five ways in which a conversion can go. -/
theorem convert_cases (g : Graph) (v : Value) (s : Progress) :
    s.hasShown v = true ∨
    (¬ s.hasShown v = true ∧ ∀ id, v ≠ .ref id) ∨
    ∃ id, v = .ref id ∧ ¬ s.hasShown (.ref id) = true ∧
      ((g.isThing id = true) ∨
        ((g.object id).isContainer = true ∧ .object id ∈ s.opened.members) ∨
        ((g.object id).isContainer = true ∧ .object id ∉ s.opened.members)) := by
  by_cases hs : s.hasShown v = true
  · exact .inl hs
  cases v with
  | none => exact .inr (.inl ⟨hs, fun _ => by simp⟩)
  | scalar x => exact .inr (.inl ⟨hs, fun _ => by simp⟩)
  | ref id =>
      refine .inr (.inr ⟨id, rfl, hs, ?_⟩)
      cases hc : (g.object id).isContainer with
      | false => exact .inl (by simp [isThing, hc])
      | true =>
          by_cases ho : .object id ∈ s.opened.members
          · exact .inr (.inl ⟨rfl, ho⟩)
          · exact .inr (.inr ⟨rfl, ho⟩)

/-! ## marks -/

/-- From one state to a later one, exactly the given objects were marked, each once, and no
container was opened for good. -/
structure Marks (s t : Progress) (marked : List ObjectId) : Prop where
  /-- The open containers are the same. -/
  opened : t.opened = s.opened
  /-- Each of the objects is a new member. -/
  visited : t.visited.members = (marked.map Identity.object).reverse ++ s.visited.members

namespace Marks

theorem refl (s : Progress) : Marks s s [] := ⟨rfl, rfl⟩

theorem trans {s t u : Progress} {xs ys : List ObjectId} (h₁ : Marks s t xs) (h₂ : Marks t u ys) :
    Marks s u (xs ++ ys) := by
  refine ⟨h₂.opened.trans h₁.opened, ?_⟩
  rw [h₂.visited, h₁.visited, List.map_append, List.reverse_append, List.append_assoc]

theorem mem_visited {s t : Progress} {xs : List ObjectId} (h : Marks s t xs) (x : Identity) :
    x ∈ t.visited.members ↔ (∃ id ∈ xs, .object id = x) ∨ x ∈ s.visited.members := by
  rw [h.visited]
  simp

end Marks

/-- Conversions in a row mark what each of them marks. -/
theorem marks_along {f : Converter} {enters : Value → Progress → List Entry} {g : Graph}
    (h : ∀ v s, Marks s (f v s).2 (g.things (enters v s))) (vs : List Value) (s : Progress) :
    Marks s (stateAfter f vs s) (g.things (entriesAlong f enters vs s)) := by
  induction vs generalizing s with
  | nil => exact .refl s
  | cons v vs ih =>
      rw [entriesAlong, things_append]
      exact (h v s).trans (ih (f v s).2)

/-- **Marks**: a conversion marks the objects that it reflects as the value of a property and nothing
else, and no object that was marked before. -/
theorem marks_convert (g : Graph) (fuel : Nat) (within : List ObjectId) (v : Value) (s : Progress) :
    Marks s (g.convert fuel v s).2 (g.things (g.entries fuel within v s)) := by
  induction fuel generalizing within v s with
  | zero => exact .refl s
  | succ fuel ih =>
      obtain hs | ⟨hs, hv⟩ | ⟨id, rfl, hs, hc | ⟨hc, ho⟩ | ⟨hc, ho⟩⟩ := convert_cases g v s
      · rw [convert_snd_of_hasShown g fuel v s hs, entries_of_hasShown g fuel within s v hs]
        exact .refl s
      · cases v with
        | none => simpa [convert, entries, hs, things] using Marks.refl s
        | scalar x => simpa [convert, entries, hs, things] using Marks.refl s
        | ref id => exact absurd rfl (hv id)
      · have hin := marks_along (ih (id :: within)) (g.contents id) (s.marking id)
        have hnew : .object id ∉ s.visited.members := fun h => hs ((s.hasShown_ref id).mpr h)
        rw [convert_snd_thing g fuel id s hs hc, entries_thing g fuel within id s hs hc]
        have hmark : Marks s (s.marking id) [id] := ⟨rfl, by
          simp [Progress.marking, IdentitySet.insert, hnew]⟩
        simpa [things, hc] using hmark.trans hin
      · rw [convert_snd_opened g fuel id s hc ho, entries_opened g fuel within id s hc ho]
        exact .refl s
      · have hin := marks_along (ih (id :: within)) (g.contents id) (s.opening id)
        rw [convert_snd_container g fuel id s hs hc ho, entries_container g fuel within id s hs hc ho]
        refine ⟨?_, ?_⟩
        · -- the container was put in front of the open ones, and is taken out again
          have hopened : (s.opening id).opened.members = .object id :: s.opened.members := by
            simp [Progress.opening, IdentitySet.insert, ho]
          cases hmem : s.opened with
          | mk members nodup =>
              simp [Progress.closing, hin.opened, IdentitySet.erase, hopened, hmem]
        · simpa [things, isThing, hc] using hin.visited

/-! ## only what can be reached -/

/-- What conversions in a row enter, one of them enters, in a state that has what the state at their
start has and each of them keeps. -/
theorem exists_kept_of_mem_entriesAlong {f : Converter} {enters : Value → Progress → List Entry}
    {Kept : Progress → Prop} (hstep : ∀ v s, Kept s → Kept (f v s).2) {vs : List Value} {s : Progress}
    (hs : Kept s) {e : Entry} (h : e ∈ entriesAlong f enters vs s) :
    ∃ v ∈ vs, ∃ t, Kept t ∧ e ∈ enters v t := by
  induction vs generalizing s with
  | nil => exact absurd h List.not_mem_nil
  | cons v vs ih =>
      rw [entriesAlong] at h
      obtain h | h := List.mem_append.mp h
      · exact ⟨v, List.mem_cons_self, s, hs, h⟩
      · obtain ⟨w, hw, t, ht, he⟩ := ih (hstep v s hs) h
        exact ⟨w, List.mem_cons_of_mem v hw, t, ht, he⟩

/-- What conversions in a row enter, one of them enters. -/
theorem exists_of_mem_entriesAlong {f : Converter} {enters : Value → Progress → List Entry}
    {vs : List Value} {s : Progress} {e : Entry} (h : e ∈ entriesAlong f enters vs s) :
    ∃ v ∈ vs, ∃ t, e ∈ enters v t := by
  obtain ⟨v, hv, t, -, he⟩ := @exists_kept_of_mem_entriesAlong f enters (fun _ => True)
    (fun _ _ _ => trivial) vs s trivial e h
  exact ⟨v, hv, t, he⟩

/-- **Only what can be reached**: whatever a conversion enters can be reached from the value. -/
theorem leads_convert (g : Graph) (fuel : Nat) (within : List ObjectId) (v : Value) (s : Progress)
    (e : Entry) (h : e ∈ g.entries fuel within v s) : ∃ id, v = .ref id ∧ g.Reaches id e.id := by
  induction fuel generalizing within v s with
  | zero => exact absurd h List.not_mem_nil
  | succ fuel ih =>
      have hinside : ∀ (id : ObjectId) (t : Progress),
          e ∈ (⟨id, within⟩ : Entry) :: entriesAlong (g.convert fuel) (g.entries fuel (id :: within))
            (g.contents id) t → g.Reaches id e.id := by
        intro id t he
        obtain rfl | he := List.mem_cons.mp he
        · exact .refl
        · obtain ⟨w, hw, t', ht'⟩ := exists_of_mem_entriesAlong he
          obtain ⟨held, rfl, hreach⟩ := ih _ _ _ ht'
          exact .head ((g.mem_contents id _).mp hw) hreach
      obtain hs | ⟨hs, hv⟩ | ⟨id, rfl, hs, hc | ⟨hc, ho⟩ | ⟨hc, ho⟩⟩ := convert_cases g v s
      · rw [entries_of_hasShown g fuel within s v hs] at h
        exact absurd h List.not_mem_nil
      · cases v with
        | none => simp [entries] at h
        | scalar x => simp [entries] at h
        | ref id => exact absurd rfl (hv id)
      · rw [entries_thing g fuel within id s hs hc] at h
        exact ⟨id, rfl, hinside id _ h⟩
      · rw [entries_opened g fuel within id s hc ho] at h
        exact absurd h List.not_mem_nil
      · rw [entries_container g fuel within id s hs hc ho] at h
        exact ⟨id, rfl, hinside id _ h⟩

/-! ## everything that can be reached -/

/-- A way from a value through containers to an object that is no container.  None of the containers
is in the set that is to be avoided. -/
inductive Way (g : Graph) (avoided : IdentitySet) : Value → ObjectId → Prop where
  /-- The value is the object. -/
  | here {id : ObjectId} : g.isThing id = true → Way g avoided (.ref id) id
  /-- The value is a container, and the way goes on from something that it holds. -/
  | through {id target : ObjectId} {v : Value} : (g.object id).isContainer = true →
      .object id ∉ avoided.members → v ∈ g.contents id → Way g avoided v target →
      Way g avoided (.ref id) target

namespace Way

variable {g : Graph} {avoided : IdentitySet} {v : Value} {target : ObjectId}

/-- From an object that is no container there is only the way to itself. -/
theorem eq_of_isThing {id : ObjectId} (hc : g.isThing id = true)
    (h : Way g avoided (.ref id) target) : target = id := by
  cases h with
  | here _ => rfl
  | through hcontainer _ _ _ => simp [isThing, hcontainer] at hc

/-- No way leads through a container that is to be avoided. -/
theorem not_mem_of_isContainer {id : ObjectId} (hc : (g.object id).isContainer = true)
    (h : Way g avoided (.ref id) target) : .object id ∉ avoided.members := by
  cases h with
  | here hthing => simp [isThing, hc] at hthing
  | through _ havoid _ _ => exact havoid

/-- A way either does without a given container, or its part after the last visit there does. -/
theorem detour (id : ObjectId) (h : Way g avoided v target) :
    Way g (avoided.insert (.object id)) v target ∨
      ∃ w ∈ g.contents id, Way g (avoided.insert (.object id)) w target := by
  induction h with
  | here hthing => exact .inl (.here hthing)
  | @through c target w hc havoid hw _ ih =>
      obtain hway | hafter := ih
      · by_cases hsame : c = id
        · subst hsame
          exact .inr ⟨w, hw, hway⟩
        · refine .inl (.through hc ?_ hw hway)
          rw [IdentitySet.mem_insert]
          rintro (heq | hmem)
          · exact hsame (Identity.object.inj heq)
          · exact havoid hmem
      · exact .inr hafter

end Way

/-- The objects that a conversion can still enter: those that are not marked, and the containers that
are not open. -/
def enterable (g : Graph) (s : Progress) : Finset ObjectId :=
  (Finset.range g.size).filter fun id =>
    if (g.object id).isContainer then .object id ∉ s.opened.members
    else .object id ∉ s.visited.members

theorem mem_enterable {g : Graph} {s : Progress} {id : ObjectId} :
    id ∈ g.enterable s ↔ id < g.size ∧
      ((g.object id).isContainer = true → .object id ∉ s.opened.members) ∧
      ((g.object id).isContainer = false → .object id ∉ s.visited.members) := by
  rw [enterable, Finset.mem_filter, Finset.mem_range]
  cases (g.object id).isContainer <;> simp

theorem card_enterable_le (g : Graph) (s : Progress) : (g.enterable s).card ≤ g.size := by
  have hle := Finset.card_le_card (Finset.filter_subset (fun id =>
    if (g.object id).isContainer then .object id ∉ s.opened.members
    else .object id ∉ s.visited.members) (Finset.range g.size))
  rwa [Finset.card_range] at hle

/-- What is opened or marked stays so, and so there is never more to enter. -/
theorem enterable_subset {g : Graph} {s t : Progress}
    (hopened : ∀ x ∈ s.opened.members, x ∈ t.opened.members)
    (hvisited : ∀ x ∈ s.visited.members, x ∈ t.visited.members) : g.enterable t ⊆ g.enterable s := by
  intro id hid
  rw [mem_enterable] at hid ⊢
  exact ⟨hid.1, fun hc ho => hid.2.1 hc (hopened _ ho), fun hc hv => hid.2.2 hc (hvisited _ hv)⟩

/-- Marks leave less to enter. -/
theorem card_enterable_le_of_marks {g : Graph} {s t : Progress} {xs : List ObjectId}
    (h : Marks s t xs) : (g.enterable t).card ≤ (g.enterable s).card := by
  refine Finset.card_le_card (enterable_subset ?_ ?_)
  · rw [h.opened]
    exact fun _ hx => hx
  · exact fun x hx => (h.mem_visited x).mpr (.inr hx)

/-- An opened container can no longer be entered. -/
theorem card_enterable_opening_lt {g : Graph} {s : Progress} {id : ObjectId}
    (hc : (g.object id).isContainer = true) (ho : .object id ∉ s.opened.members) :
    (g.enterable (s.opening id)).card < (g.enterable s).card := by
  have hsubset : g.enterable (s.opening id) ⊆ g.enterable s :=
    enterable_subset (fun x hx => (IdentitySet.mem_insert _ _ _).mpr (.inr hx)) fun _ hx => hx
  have hbefore : id ∈ g.enterable s :=
    mem_enterable.mpr ⟨g.lt_size_of_isContainer id hc, fun _ => ho, fun hc' => absurd hc' (by simp [hc])⟩
  have hafter : id ∉ g.enterable (s.opening id) := fun h =>
    (mem_enterable.mp h).2.1 hc ((IdentitySet.mem_insert _ _ _).mpr (.inl rfl))
  exact Finset.card_lt_card ((Finset.ssubset_iff_of_subset hsubset).mpr ⟨id, hbefore, hafter⟩)

/-- A marked object can no longer be entered. -/
theorem card_enterable_marking_lt {g : Graph} {s : Progress} {id : ObjectId}
    (hid : id < g.size) (hc : g.isThing id = true) (hv : .object id ∉ s.visited.members) :
    (g.enterable (s.marking id)).card < (g.enterable s).card := by
  have hcontainer : (g.object id).isContainer = false := by simpa [isThing] using hc
  have hsubset : g.enterable (s.marking id) ⊆ g.enterable s :=
    enterable_subset (fun _ hx => hx) fun x hx => (IdentitySet.mem_insert _ _ _).mpr (.inr hx)
  have hbefore : id ∈ g.enterable s :=
    mem_enterable.mpr ⟨hid, fun hc' => absurd hc' (by simp [hcontainer]), fun _ => hv⟩
  have hafter : id ∉ g.enterable (s.marking id) := fun h =>
    (mem_enterable.mp h).2.2 hcontainer ((IdentitySet.mem_insert _ _ _).mpr (.inl rfl))
  exact Finset.card_lt_card ((Finset.ssubset_iff_of_subset hsubset).mpr ⟨id, hbefore, hafter⟩)

/-- No container counts as shown. -/
def OnlyThings (g : Graph) (s : Progress) : Prop :=
  ∀ id, .object id ∈ s.visited.members → g.isThing id = true

theorem OnlyThings.of_marks {g : Graph} {s t : Progress} {es : List Entry} (h : g.OnlyThings s)
    (hm : Marks s t (g.things es)) : g.OnlyThings t := by
  intro id hid
  obtain ⟨x, hx, heq⟩ | hold := (hm.mem_visited _).mp hid
  · rw [← Identity.object.inj heq]
    exact isThing_of_mem_things hx
  · exact h id hold

/-- Everything that some values lead to around the open containers, and everything that the marked
objects lead to around them, is marked in a later state. -/
structure Covers (g : Graph) (s t : Progress) (vs : List Value) (marked : List ObjectId) : Prop where
  /-- From the values. -/
  values : ∀ v ∈ vs, ∀ target, Way g s.opened v target → .object target ∈ t.visited.members
  /-- From the marked objects. -/
  marked : ∀ id ∈ marked, ∀ v ∈ g.contents id, ∀ target, Way g s.opened v target →
    .object target ∈ t.visited.members

/-- Conversions in a row cover what each of them covers. -/
theorem covers_along {g : Graph} {fuel : Nat} {within : List ObjectId}
    (h : ∀ v s, (g.enterable s).card < fuel → g.OnlyThings s →
      Covers g s (g.convert fuel v s).2 [v] (g.things (g.entries fuel within v s)))
    (vs : List Value) (s : Progress) (hfuel : (g.enterable s).card < fuel) (hs : g.OnlyThings s) :
    Covers g s (stateAfter (g.convert fuel) vs s) vs
      (g.things (entriesAlong (g.convert fuel) (g.entries fuel within) vs s)) := by
  induction vs generalizing s with
  | nil => exact ⟨by simp, by simp [entriesAlong, things]⟩
  | cons v vs ih =>
      have hm := marks_convert g fuel within v s
      have hrest := marks_along (marks_convert g fuel within) vs (g.convert fuel v s).2
      have hfirst := h v s hfuel hs
      have hothers := ih (g.convert fuel v s).2
        (Nat.lt_of_le_of_lt (card_enterable_le_of_marks hm) hfuel) (hs.of_marks hm)
      rw [entriesAlong, things_append]
      constructor
      · intro w hw target hway
        obtain rfl | hw := List.mem_cons.mp hw
        · exact (hrest.mem_visited _).mpr (.inr (hfirst.values w (by simp) target hway))
        · exact hothers.values w hw target (by rwa [hm.opened])
      · intro id hid w hw target hway
        obtain hid | hid := List.mem_append.mp hid
        · exact (hrest.mem_visited _).mpr (.inr (hfirst.marked id hid w hw target hway))
        · exact hothers.marked id hid w hw target (by rwa [hm.opened])

/-- **Everything that can be reached**: after a conversion all objects are marked that the value, or an
object marked on the way, leads to around the containers that were open before. -/
theorem covers_convert (g : Graph) (fuel : Nat) (within : List ObjectId) (v : Value) (s : Progress)
    (hfuel : (g.enterable s).card < fuel) (hs : g.OnlyThings s) :
    Covers g s (g.convert fuel v s).2 [v] (g.things (g.entries fuel within v s)) := by
  induction fuel generalizing within v s with
  | zero => exact absurd hfuel (Nat.not_lt_zero _)
  | succ fuel ih =>
      obtain hshown | ⟨hnew, hv⟩ | ⟨id, rfl, hnew, hc | ⟨hc, ho⟩ | ⟨hc, ho⟩⟩ := convert_cases g v s
      · rw [convert_snd_of_hasShown g fuel v s hshown, entries_of_hasShown g fuel within s v hshown]
        refine ⟨?_, by simp [things]⟩
        intro w hw target hway
        rw [List.mem_singleton.mp hw] at hway
        -- what counts as shown is no container, so the way ends where it starts
        cases v with
        | none => cases hway
        | scalar x => cases hway
        | ref id =>
            have hid := (s.hasShown_ref id).mp hshown
            rw [hway.eq_of_isThing (hs id hid)]
            exact hid
      · refine ⟨?_, ?_⟩
        · intro w hw target hway
          rw [List.mem_singleton.mp hw] at hway
          cases hway with
          | here _ => exact absurd rfl (hv _)
          | through _ _ _ _ => exact absurd rfl (hv _)
        · cases v with
          | none => simp [entries, things]
          | scalar x => simp [entries, things]
          | ref id => exact absurd rfl (hv id)
      · have hvisited : .object id ∉ s.visited.members := fun h => hnew ((s.hasShown_ref id).mpr h)
        have hmark : Marks s (s.marking id) (g.things [⟨id, within⟩]) := ⟨rfl, by
          simp [things, hc, Progress.marking, IdentitySet.insert, hvisited]⟩
        have hrest := marks_along (marks_convert g fuel (id :: within)) (g.contents id) (s.marking id)
        -- a number that is not in use holds nothing, so running out of fuel does no harm
        have hin : Covers g (s.marking id) (stateAfter (g.convert fuel) (g.contents id) (s.marking id))
            (g.contents id) (g.things (entriesAlong (g.convert fuel) (g.entries fuel (id :: within))
              (g.contents id) (s.marking id))) := by
          by_cases hid : id < g.size
          · have hless := card_enterable_marking_lt hid hc hvisited
            exact covers_along (fun v s => ih (id :: within) v s) _ _ (by omega) (hs.of_marks hmark)
          · rw [g.contents_eq_nil id (Nat.le_of_not_lt hid)]
            exact ⟨by simp, by simp [entriesAlong, things]⟩
        rw [convert_snd_thing g fuel id s hnew hc, entries_thing g fuel within id s hnew hc]
        constructor
        · intro w hw target hway
          rw [List.mem_singleton.mp hw] at hway
          rw [hway.eq_of_isThing hc]
          refine (hrest.mem_visited _).mpr (.inr ?_)
          simp [Progress.marking, IdentitySet.mem_insert]
        · intro x hx w hw target hway
          rw [things, List.map_cons, List.filter_cons_of_pos hc] at hx
          obtain rfl | hx := List.mem_cons.mp hx
          · exact hin.values w hw target hway
          · exact hin.marked x hx w hw target hway
      · rw [convert_snd_opened g fuel id s hc ho, entries_opened g fuel within id s hc ho]
        refine ⟨?_, by simp [things]⟩
        intro w hw target hway
        rw [List.mem_singleton.mp hw] at hway
        exact absurd ho (hway.not_mem_of_isContainer hc)
      · have hless := card_enterable_opening_lt hc ho
        have hin := covers_along (fun v s => ih (id :: within) v s) (g.contents id) (s.opening id)
          (by omega) hs
        rw [convert_snd_container g fuel id s hnew hc ho,
          entries_container g fuel within id s hnew hc ho]
        constructor
        · intro w hw target hway
          rw [List.mem_singleton.mp hw] at hway
          obtain hround | ⟨x, hx, hafter⟩ := hway.detour id
          · exact absurd (by simp [IdentitySet.mem_insert]) (hround.not_mem_of_isContainer hc)
          · exact hin.values x hx target hafter
        · intro x hx w hw target hway
          rw [things, List.map_cons, List.filter_cons_of_neg (by simp [isThing, hc])] at hx
          obtain hround | ⟨y, hy, hafter⟩ := hway.detour id
          · exact hin.marked x hx w hw target hround
          · exact hin.values y hy target hafter

end Graph

end QueryTree
