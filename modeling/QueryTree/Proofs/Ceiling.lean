import QueryTree.Proofs.Document
import QueryTree.Render

/-!
# QueryTree.Proofs.Ceiling

A ceiling on the nesting of a document is exact.

Depth is never computed while a document is assembled: every check looks at one
collection, and stands where that collection is started.  `Style.below` adds up what
the checks of a tree look at.  Documents are assembled from a list of pending nodes,
and `Sketch` is a document with gaps where those nodes still belong:

* `enter_within` — what the checks for one node come to;
* `agrees_enter` — filling a gap changes neither the document that the sketch stands
  for nor whether it goes beyond the ceiling;
* `settles` — in whatever order the gaps are filled, it ends in the same way;
* `ofTree_within` — and so it does in the order in which documents are assembled.

The depth of the finished document is what was checked, as long as the values that
properties do not have of themselves are no collections (`depth_treeDocument`).
-/

namespace QueryTree

/-! ## values that are no collections -/

/-- Whether a document is a sequence or a mapping. -/
def Document.isCollection : Document → Bool
  | .list _ => true
  | .map _ => true
  | _ => false

namespace Property

mutual

/-- Whether no value of a property is a collection of another kind than a list of properties. -/
def isFlat : Property → Bool
  | .mk _ v => isFlatValue v

/-- Whether a value is absent, a text, a list of flat properties, or no collection. -/
def isFlatValue : PropertyValue → Bool
  | .absent => true
  | .text _ => true
  | .list items => areFlat items
  | .other x => !x.document.isCollection

/-- Whether several properties are flat. -/
def areFlat : List Property → Bool
  | [] => true
  | p :: ps => isFlat p && areFlat ps

end

end Property

namespace Tree

/-- Whether the properties of one node are flat. -/
def areFlatProperties : Option (List Property) → Bool
  | none => true
  | some ps => Property.areFlat ps

mutual

/-- Whether the properties of every node are flat. -/
def isFlat : Tree → Bool
  | .node _ _ none ps => areFlatProperties ps
  | .node _ _ (some cs) ps => areFlat cs && areFlatProperties ps

/-- Whether the properties of every node of several trees are flat. -/
def areFlat : List Tree → Bool
  | [] => true
  | t :: ts => isFlat t && areFlat ts

end

end Tree

namespace Document

/-- A result, unless a collection at the given depth is above the ceiling. -/
def within {α : Type} (limit : Int) (depth : Nat) (x : α) : Except RenderError α :=
  if limit < depth then .error (.ceiling limit) else .ok x

theorem within_of_lt {α : Type} {limit : Int} {depth : Nat} (h : limit < depth) (x : α) :
    within limit depth x = .error (.ceiling limit) := if_pos h

theorem within_of_not_lt {α : Type} {limit : Int} {depth : Nat} (h : ¬ limit < depth) (x : α) :
    within limit depth x = .ok x := if_neg h

/-- One check after the other is a check of the deeper one. -/
theorem within_bind {α β : Type} (limit : Int) (a b : Nat) (x : α) (f : α → β) :
    (within limit a x >>= fun y => within limit b (f y)) = within limit (max a b) (f x) := by
  by_cases ha : limit < a
  · rw [within_of_lt ha, within_of_lt (show limit < (max a b : Nat) by omega)]
    rfl
  · rw [within_of_not_lt ha]
    by_cases hb : limit < b
    · rw [within_of_lt (show limit < (max a b : Nat) by omega)]
      exact within_of_lt hb (f x)
    · rw [within_of_not_lt (show ¬ limit < (max a b : Nat) by omega)]
      exact within_of_not_lt hb (f x)

theorem within_map {α β : Type} (limit : Int) (a : Nat) (x : α) (f : α → β) :
    (within limit a x >>= fun y => (.ok (f y) : Except RenderError β)) = within limit a (f x) := by
  unfold within
  split <;> rfl

namespace Style

/-! ## what the checks look at -/

mutual

/-- How many collections deep a property goes, its own mapping included. -/
def propertyHeight (s : Style) : Property → Nat
  | .mk _ v => 1 + valueHeight s v

/-- How many collections deep the entry for a value goes. -/
def valueHeight (s : Style) : PropertyValue → Nat
  | .list items => if s.keeps items.isEmpty then 1 + heightOfProperties s items else 0
  | _ => 0

/-- How many collections deep several properties go. -/
def heightOfProperties (s : Style) : List Property → Nat
  | [] => 0
  | p :: ps => max (propertyHeight s p) (heightOfProperties s ps)

end

/-- How many collections deep the entry for the properties of a node goes. -/
def propertiesHeight (s : Style) : Option (List Property) → Nat
  | none => 0
  | some ps => if s.keeps ps.isEmpty then 1 + s.heightOfProperties ps else 0

/-- How many collections deep a node goes below its own mapping, the nodes below it apart. -/
def ownHeight (s : Style) (t : Tree) : Nat :=
  max (if (s.written t.children).isSome then 1 else 0) (s.propertiesHeight t.properties)

mutual

/-- How many collections deep a tree goes below the mapping of its root. -/
def below (s : Style) : Tree → Nat
  | .node _ _ cs ps => max (childrenBelow s cs) (s.propertiesHeight ps)

/-- How many collections deep the entry for the children of a node goes. -/
def childrenBelow (s : Style) : Option (List Tree) → Nat
  | none => 0
  | some cs => if s.keeps cs.isEmpty then 1 + belowOfList s cs else 0

/-- How many collections deep several trees go. -/
def belowOfList (s : Style) : List Tree → Nat
  | [] => 0
  | t :: ts => max (1 + below s t) (belowOfList s ts)

end

section Checks

variable {s : Style} {limit : Int}

theorem check_within (hs : s.ceiling = some limit) (depth : Nat) :
    s.check depth = within limit depth () := by
  rw [check, hs]
  rfl

mutual

theorem property_within (hs : s.ceiling = some limit) : ∀ (p : Property) (depth : Nat),
    s.property depth p = within limit (depth + s.propertyHeight p) (s.propertyDocument p)
  | .mk name value, depth => by
      rw [property, check_within hs, propertyHeight, propertyDocument]
      by_cases h : limit < (depth + 1 : Nat)
      · rw [within_of_lt h, within_of_lt (show limit < (depth + (1 + s.valueHeight value) : Nat) by omega)]
        rfl
      · rw [within_of_not_lt h, valueEntry_within hs value depth h, ← Nat.add_assoc]
        exact within_map limit _ _ _

theorem valueEntry_within (hs : s.ceiling = some limit) : ∀ (v : PropertyValue) (depth : Nat),
    ¬ limit < (depth + 1 : Nat) →
    s.valueEntry depth v = within limit (depth + 1 + s.valueHeight v) (s.valueEntries v)
  | .absent, _, h => (within_of_not_lt h _).symm
  | .text _, _, h => (within_of_not_lt h _).symm
  | .other _, _, h => (within_of_not_lt h _).symm
  | .list items, depth, h => by
      rw [valueEntry, valueHeight, valueEntries]
      split
      · rw [check_within hs]
        by_cases h' : limit < (depth + 2 : Nat)
        · rw [within_of_lt h', within_of_lt
            (show limit < (depth + 1 + (1 + s.heightOfProperties items) : Nat) by omega)]
          rfl
        · have hitems := properties_within hs items (depth + 2) h'
          rw [within_of_not_lt h', hitems, show depth + 1 + (1 + s.heightOfProperties items) =
            depth + 2 + s.heightOfProperties items by omega]
          exact within_map limit _ _ _
      · exact (within_of_not_lt h _).symm

theorem properties_within (hs : s.ceiling = some limit) : ∀ (ps : List Property) (depth : Nat),
    ¬ limit < (depth : Nat) →
    s.properties depth ps = within limit (depth + s.heightOfProperties ps) (s.propertyDocuments ps)
  | [], _, h => (within_of_not_lt h _).symm
  | p :: ps, depth, h => by
      rw [properties, property_within hs p, properties_within hs ps depth h, heightOfProperties,
        propertyDocuments, ← Nat.add_max_add_left]
      exact (congrArg _ (funext fun d => within_map limit _ _ _)).trans (within_bind limit _ _ _ _)

end

theorem propertiesEntry_within (hs : s.ceiling = some limit) (ps : Option (List Property))
    (depth : Nat) (h : ¬ limit < (depth : Nat)) :
    s.propertiesEntry depth ps =
      within limit (depth + s.propertiesHeight ps) (s.propertiesEntries ps) := by
  cases ps with
  | none => exact (within_of_not_lt h _).symm
  | some ps =>
      rw [propertiesEntry, propertiesHeight, propertiesEntries]
      split
      · rw [check_within hs]
        by_cases h' : limit < (depth + 1 : Nat)
        · rw [within_of_lt h', within_of_lt
            (show limit < (depth + (1 + s.heightOfProperties ps) : Nat) by omega)]
          rfl
        · rw [within_of_not_lt h', properties_within hs ps (depth + 1) h', ← Nat.add_assoc]
          exact within_map limit _ _ _
      · exact (within_of_not_lt h _).symm

/-- Starting on a node fails if the ceiling is below what stands in the node besides its children. -/
theorem enter_within (hs : s.ceiling = some limit) (t : Tree) (depth : Nat) :
    s.enter t depth = within limit (depth + s.ownHeight t) (s.frameOf t depth) := by
  rw [enter, check_within hs, ownHeight]
  by_cases h : limit < (depth : Nat)
  · rw [within_of_lt h, within_of_lt (by omega)]
    rfl
  · rw [within_of_not_lt h, propertiesEntry_within hs t.properties depth h, ← Nat.add_max_add_left]
    have hafter := within_map limit (depth + s.propertiesHeight t.properties)
      (s.propertiesEntries t.properties)
      fun after => ({ s.frameOf t depth with after := after } : Frame)
    by_cases hw : (s.written t.children).isSome
    · rw [if_pos hw, if_pos hw, check_within hs]
      exact (congrArg _ (funext fun _ => hafter)).trans (within_bind limit _ _ () fun _ => _)
    · rw [if_neg hw, if_neg hw, Nat.add_zero, Nat.max_eq_right (Nat.le_add_right _ _)]
      exact hafter

end Checks

end Style

/-! ## documents with gaps -/

/-- A document under way. -/
inductive Sketch where
  /-- A gap for a node that is to stand at the given depth. -/
  | gap (t : Tree) (depth : Nat)
  /-- A finished document. -/
  | ready (d : Document)
  /-- A node that was started, with the entries before and after its children, and whether the children
  are written. -/
  | node (before : List (String × Document)) (lists : Bool) (children : List Sketch)
      (after : List (String × Document))

namespace Sketch

mutual

/-- The pending nodes, with their depths. -/
def pending : Sketch → List (Tree × Nat)
  | .gap t depth => [(t, depth)]
  | .ready _ => []
  | .node _ _ children _ => pendingOfList children

/-- The pending nodes of several sketches. -/
def pendingOfList : List Sketch → List (Tree × Nat)
  | [] => []
  | x :: xs => pending x ++ pendingOfList xs

end

mutual

/-- The document that a sketch stands for once its gaps are filled. -/
def document (s : Style) : Sketch → Document
  | .gap t _ => s.treeDocument t
  | .ready d => d
  | .node before lists children after =>
    .map (before ++ (if lists then [("Children", .list (documents s children))] else []) ++ after)

/-- The documents that several sketches stand for. -/
def documents (s : Style) : List Sketch → List Document
  | [] => []
  | x :: xs => document s x :: documents s xs

end

theorem pendingOfList_eq_flatMap (xs : List Sketch) : pendingOfList xs = xs.flatMap pending := by
  induction xs with
  | nil => rfl
  | cons x xs ih => rw [pendingOfList, ih, List.flatMap_cons]

theorem documents_eq_map (s : Style) (xs : List Sketch) : documents s xs = xs.map (document s) := by
  induction xs with
  | nil => rfl
  | cons x xs ih => rw [documents, ih, List.map_cons]

theorem pendingOfList_append (xs ys : List Sketch) :
    pendingOfList (xs ++ ys) = pendingOfList xs ++ pendingOfList ys := by
  simp [pendingOfList_eq_flatMap]

theorem pendingOfList_gaps (ts : List Tree) (depth : Nat) :
    pendingOfList (ts.map fun t => .gap t depth) = ts.map fun t => (t, depth) := by
  induction ts with
  | nil => rfl
  | cons t ts ih => rw [List.map_cons, pendingOfList, ih, pending, List.map_cons, List.singleton_append]

theorem pendingOfList_ready (ds : List Document) : pendingOfList (ds.map .ready) = [] := by
  induction ds with
  | nil => rfl
  | cons d ds ih => rw [List.map_cons, pendingOfList, ih, pending, List.append_nil]

/-- Whether one of the pending nodes goes beyond the ceiling. -/
def Exceeds (s : Style) (limit : Int) (x : Sketch) : Prop :=
  ∃ p ∈ x.pending, limit < (p.2 + s.below p.1 : Nat)

instance (s : Style) (limit : Int) (x : Sketch) : Decidable (x.Exceeds s limit) :=
  inferInstanceAs (Decidable (∃ p ∈ x.pending, limit < (p.2 + s.below p.1 : Nat)))

/-- How filling the gaps of a sketch is to end. -/
def outcome (s : Style) (limit : Int) (x : Sketch) : Except RenderError Document :=
  if x.Exceeds s limit then .error (.ceiling limit) else .ok (x.document s)

/-- Two sketches that are to end in the same way, also as parts of others. -/
structure Same (s : Style) (limit : Int) (x y : Sketch) : Prop where
  /-- They stand for the same document. -/
  document : x.document s = y.document s
  /-- Either both go beyond the ceiling or none. -/
  exceeds : x.Exceeds s limit ↔ y.Exceeds s limit

theorem Same.outcome_eq {s : Style} {limit : Int} {x y : Sketch} (h : Same s limit x y) :
    x.outcome s limit = y.outcome s limit := by
  simp only [outcome, h.document, h.exceeds]

/-- Whether going on from a sketch in a given way leaves open nothing but how it is to end: with another
sketch that ends in the same way, or with a failure if it goes beyond the ceiling. -/
def Agrees (s : Style) (limit : Int) (x : Sketch) : Except RenderError Sketch → Prop
  | .ok y => Same s limit x y
  | .error e => x.Exceeds s limit ∧ e = .ceiling limit

section Children

variable {s : Style} {limit : Int} {before after : List (String × Document)} {lists : Bool}

theorem exceeds_gap {t : Tree} {depth : Nat} :
    (gap t depth).Exceeds s limit ↔ limit < (depth + s.below t : Nat) := by
  simp [Exceeds, pending]

theorem not_exceeds_of_pending {x : Sketch} (h : x.pending = []) : ¬ x.Exceeds s limit := by
  simp [Exceeds, h]

theorem exceeds_node {children : List Sketch} :
    (node before lists children after).Exceeds s limit ↔
      ∃ x ∈ children, x.Exceeds s limit := by
  simp only [Exceeds, pending, pendingOfList_eq_flatMap, List.mem_flatMap]
  constructor
  · rintro ⟨p, ⟨x, hx, hp⟩, hlt⟩
    exact ⟨x, hx, p, hp, hlt⟩
  · rintro ⟨x, hx, p, hp, hlt⟩
    exact ⟨p, ⟨x, hx, hp⟩, hlt⟩

/-- A child may be replaced by one that ends in the same way. -/
theorem Same.child {x y : Sketch} (h : Same s limit x y) (xs ys : List Sketch) :
    Same s limit (node before lists (xs ++ x :: ys) after)
      (node before lists (xs ++ y :: ys) after) := by
  constructor
  · simp only [Sketch.document, documents_eq_map, List.map_append, List.map_cons, h.document]
  · simp only [exceeds_node, List.mem_append, List.mem_cons, or_and_right, exists_or,
      exists_eq_left, h.exceeds]

end Children

end Sketch

/-! ## filling gaps -/

/-- A node under way as a sketch: gaps for the children to come, then the children that are done. -/
def Frame.sketch (f : Frame) : Sketch :=
  .node f.before f.lists
    ((f.pending.reverse.map fun t => .gap t (f.depth + 2)) ++ f.done.map .ready) f.after

/-- The children to come are what is pending. -/
theorem Frame.pending_sketch (f : Frame) :
    f.sketch.pending = f.pending.reverse.map fun t => (t, f.depth + 2) := by
  rw [Frame.sketch, Sketch.pending, Sketch.pendingOfList_append, Sketch.pendingOfList_gaps,
    Sketch.pendingOfList_ready, List.append_nil]

theorem Frame.exceeds_sketch {s : Style} {limit : Int} (f : Frame) :
    f.sketch.Exceeds s limit ↔ ∃ t ∈ f.pending, limit < (f.depth + 2 + s.below t : Nat) := by
  rw [Sketch.Exceeds, f.pending_sketch]
  constructor
  · rintro ⟨p, hp, hlt⟩
    obtain ⟨t, ht, rfl⟩ := List.mem_map.mp hp
    exact ⟨t, List.mem_reverse.mp ht, hlt⟩
  · rintro ⟨t, ht, hlt⟩
    exact ⟨_, List.mem_map_of_mem (List.mem_reverse.mpr ht), hlt⟩

namespace Style

section Gaps

variable (s : Style) (limit : Int)

theorem lt_add_belowOfList_iff (ts : List Tree) (depth : Nat) :
    limit < (depth + s.belowOfList ts : Nat) ↔
      limit < (depth : Nat) ∨ ∃ t ∈ ts, limit < (depth + 1 + s.below t : Nat) := by
  induction ts with
  | nil => simp [belowOfList]
  | cons t ts ih =>
      simp only [belowOfList, List.mem_cons, or_and_right, exists_or, exists_eq_left]
      rw [or_left_comm, ← ih]
      omega

/-- A tree goes beyond the ceiling if its root does so by itself or one of its children does. -/
theorem lt_add_below_iff (t : Tree) (depth : Nat) :
    limit < (depth + s.below t : Nat) ↔ limit < (depth + s.ownHeight t : Nat) ∨
      ∃ c ∈ (s.written t.children).getD [], limit < (depth + 2 + s.below c : Nat) := by
  obtain ⟨ty, tx, cs, ps⟩ := t
  rw [below, ownHeight, Tree.children, Tree.properties]
  cases cs with
  | none => simp [childrenBelow, written]
  | some cs =>
      rw [childrenBelow, written]
      by_cases hkeeps : s.keeps cs.isEmpty = true
      · rw [if_pos hkeeps, if_pos hkeeps, Option.isSome_some, if_pos rfl, Option.getD_some]
        have hlist := lt_add_belowOfList_iff s limit cs (depth + 1)
        by_cases hchild : ∃ c ∈ cs, limit < (depth + 2 + s.below c : Nat)
        · have hdeep := hlist.mpr (.inr hchild)
          exact ⟨fun _ => .inr hchild, fun _ => by omega⟩
        · simp only [hchild, or_false] at hlist ⊢
          omega
      · simp [if_neg hkeeps]

/-- **Filling a gap**: starting on a node, with gaps for its children, agrees with the gap for it. -/
theorem agrees_enter (hs : s.ceiling = some limit) (t : Tree) (depth : Nat) :
    Sketch.Agrees s limit (.gap t depth) ((s.enter t depth).map Frame.sketch) := by
  rw [enter_within hs]
  have hbelow := lt_add_below_iff s limit t depth
  by_cases hlt : limit < (depth + s.ownHeight t : Nat)
  · rw [within_of_lt hlt]
    exact ⟨Sketch.exceeds_gap.mpr (hbelow.mpr (.inl hlt)), rfl⟩
  · rw [within_of_not_lt hlt]
    constructor
    · rw [Sketch.document, ← close_finished s t depth]
      simp [Sketch.document, Frame.sketch, Sketch.documents_eq_map, frameOf, finished, Frame.close,
        treeDocuments_eq_map, Function.comp_def]
    · rw [Sketch.exceeds_gap, hbelow, or_iff_right hlt, Frame.exceeds_sketch]
      simp [frameOf]

end Gaps

end Style

/-! ## any order -/

namespace Sketch

/-- One of the pending nodes is taken, whichever it may be: it is started on, and leaves gaps for its
children, or that fails. -/
inductive Moves (s : Style) : Sketch → Except RenderError Sketch → Prop where
  /-- The node is started on. -/
  | take {t : Tree} {depth : Nat} :
      Moves s (.gap t depth) ((s.enter t depth).map Frame.sketch)
  /-- The node stands somewhere below a child. -/
  | inside {before after : List (String × Document)} {lists : Bool} {xs ys : List Sketch}
      {x : Sketch} {r : Except RenderError Sketch} : Moves s x r →
      Moves s (.node before lists (xs ++ x :: ys) after)
        (r.map fun y => .node before lists (xs ++ y :: ys) after)

/-- Taking the pending nodes one after the other ends with the given result, in whatever order they are
taken. -/
inductive Settles (s : Style) (r : Except RenderError Document) : Sketch → Prop where
  /-- No node is pending, and the result is the document. -/
  | done {x : Sketch} : x.pending = [] → r = .ok (x.document s) → Settles s r x
  /-- Some node can be taken.  If that fails, the result is the failure; and if not, the rest ends with
  the result. -/
  | next {x : Sketch} : (∃ o, Moves s x o) → (∀ e, Moves s x (.error e) → r = .error e) →
      (∀ y, Moves s x (.ok y) → Settles s r y) → Settles s r x

section Order

variable {s : Style} {limit : Int}

theorem Moves.agrees (hs : s.ceiling = some limit) {x : Sketch} {r : Except RenderError Sketch}
    (h : Moves s x r) : Agrees s limit x r := by
  induction h with
  | take => exact Style.agrees_enter s limit hs _ _
  | @inside before after lists xs ys x r _ ih =>
      cases r with
      | error e => exact ⟨exceeds_node.mpr ⟨x, by simp, ih.1⟩, ih.2⟩
      | ok y => exact ih.child xs ys

mutual

/-- A pending node can be taken. -/
theorem exists_moves (s : Style) : ∀ x : Sketch, x.pending ≠ [] → ∃ r, Moves s x r
  | .gap _ _, _ => ⟨_, .take⟩
  | .ready _, h => absurd rfl h
  | .node _ _ children _, h => by
      obtain ⟨xs, x, ys, r, rfl, hr⟩ := exists_moves_of_list s children h
      exact ⟨_, .inside hr⟩

theorem exists_moves_of_list (s : Style) : ∀ children : List Sketch, pendingOfList children ≠ [] →
    ∃ xs x ys r, children = xs ++ x :: ys ∧ Moves s x r
  | [], h => absurd rfl h
  | x :: rest, h => by
      by_cases hx : x.pending = []
      · rw [pendingOfList, hx, List.nil_append] at h
        obtain ⟨xs, y, ys, r, rfl, hr⟩ := exists_moves_of_list s rest h
        exact ⟨x :: xs, y, ys, r, rfl, hr⟩
      · obtain ⟨r, hr⟩ := exists_moves s x hx
        exact ⟨[], x, rest, r, rfl, hr⟩

end

/-- The number of nodes that are pending or stand below a pending one. -/
def work (x : Sketch) : Nat := Tree.countOfList (x.pending.map Prod.fst)

theorem work_node (before after : List (String × Document)) (lists : Bool) (xs ys : List Sketch)
    (x : Sketch) : (node before lists (xs ++ x :: ys) after).work =
      (node before lists (xs ++ ys) after).work + x.work := by
  simp only [work, pending, pendingOfList_eq_flatMap, List.flatMap_append, List.flatMap_cons,
    List.map_append, countOfList_append]
  omega

theorem work_sketch (f : Frame) : f.sketch.work = Tree.countOfList f.pending := by
  simp [work, f.pending_sketch, Function.comp_def, countOfList_reverse]

/-- Every move leaves less to do. -/
theorem Moves.work_lt {x : Sketch} {r : Except RenderError Sketch} (h : Moves s x r) :
    ∀ y, r = .ok y → y.work < x.work := by
  induction h with
  | @take t depth =>
      intro y hy
      cases he : s.enter t depth with
      | error e =>
          rw [he] at hy
          cases hy
      | ok f =>
          rw [he] at hy
          cases hy
          have hless := Style.work_enter_lt he
          rw [Frame.work] at hless
          have hcount : (gap t depth).work = t.count := rfl
          rw [work_sketch, hcount]
          omega
  | @inside before after lists xs ys x r _ ih =>
      intro y hy
      cases r with
      | error e => cases hy
      | ok z =>
          cases hy
          have hless := ih z rfl
          rw [work_node, work_node]
          omega

/-- **Any order**: taking the pending nodes of a sketch one after the other ends, and in the same way
whatever the order.  The induction is on the number of nodes that are left. -/
theorem settles (hs : s.ceiling = some limit) (x : Sketch) : Settles s (x.outcome s limit) x := by
  by_cases hx : x.pending = []
  · refine .done hx ?_
    rw [outcome, if_neg (not_exceeds_of_pending hx)]
  · refine .next (exists_moves s x hx) (fun e he => ?_) (fun y hy => ?_)
    · obtain ⟨hexceeds, rfl⟩ := he.agrees hs
      rw [outcome, if_pos hexceeds]
    · have hsame : Same s limit x y := hy.agrees hs
      have hless := hy.work_lt y rfl
      rw [hsame.outcome_eq]
      exact settles hs y
termination_by x.work

end Order

end Sketch

/-! ## the order of assembly -/

/-- A sketch in the place of the child that a node under way is waiting for. -/
def Frame.around (f : Frame) (x : Sketch) : Sketch :=
  .node f.before f.lists
    ((f.pending.reverse.map fun t => .gap t (f.depth + 2)) ++ x :: f.done.map .ready) f.after

/-- A sketch inside the nodes that wait for it. -/
def Sketch.inside : Sketch → List Frame → Sketch
  | x, [] => x
  | x, f :: fs => inside (f.around x) fs

theorem Sketch.Same.inside {s : Style} {limit : Int} {x y : Sketch} (h : Sketch.Same s limit x y)
    (fs : List Frame) : Sketch.Same s limit (x.inside fs) (y.inside fs) := by
  induction fs generalizing x y with
  | nil => exact h
  | cons f fs ih => exact ih (h.child _ _)

theorem Sketch.Exceeds.inside {s : Style} {limit : Int} {x : Sketch} (h : x.Exceeds s limit)
    (fs : List Frame) : (x.inside fs).Exceeds s limit := by
  induction fs generalizing x with
  | nil => exact h
  | cons f fs ih => exact ih (Sketch.exceeds_node.mpr ⟨x, by simp, h⟩)

theorem Frame.document_sketch {s : Style} {f : Frame} (h : f.pending = []) :
    f.sketch.document s = f.close := by
  simp [Frame.sketch, Frame.close, Sketch.document, Sketch.documents_eq_map, h, Function.comp_def]

/-- A node under way waits for the last of the children to come. -/
theorem Frame.sketch_eq_around {f : Frame} {t : Tree} {ts : List Tree} (h : f.pending = t :: ts) :
    f.sketch = ({ f with pending := ts } : Frame).around (.gap t (f.depth + 2)) := by
  simp [Frame.sketch, Frame.around, h]

/-- The stack of nodes under way does what is to be done with the sketch that it stands for.  The
induction is on the steps of the assembly. -/
theorem Style.assemble_eq_outcome {s : Style} {limit : Int} (hs : s.ceiling = some limit) (f : Frame)
    (outer : List Frame) : s.assemble f outer = (f.sketch.inside outer).outcome s limit := by
  fun_induction assemble s f outer with
  | case1 f hp =>
      have hnone : f.sketch.pending = [] := by simp [Frame.pending_sketch, hp]
      rw [Sketch.inside, Sketch.outcome,
        if_neg (Sketch.not_exceeds_of_pending hnone), Frame.document_sketch hp]
  | case2 f hp g gs ih =>
      -- a node whose children are done is as good as its document
      have hsame : Sketch.Same s limit f.sketch (.ready f.close) := by
        refine ⟨Frame.document_sketch hp, iff_of_false ?_ ?_⟩
        · exact Sketch.not_exceeds_of_pending (by simp [Frame.pending_sketch, hp])
        · exact Sketch.not_exceeds_of_pending rfl
      rw [ih, (hsame.inside (g :: gs)).outcome_eq]
      rfl
  | case3 f outer t ts hp e he =>
      have hagrees := agrees_enter s limit hs t (f.depth + 2)
      rw [he] at hagrees
      obtain ⟨hexceeds, rfl⟩ := hagrees
      have hinside := hexceeds.inside ({ f with pending := ts } :: outer)
      rw [Frame.sketch_eq_around hp, Sketch.outcome]
      exact (if_pos hinside).symm
  | case4 f outer t ts hp g he ih =>
      have hagrees := agrees_enter s limit hs t (f.depth + 2)
      rw [he] at hagrees
      have hsame : Sketch.Same s limit (.gap t (f.depth + 2)) g.sketch := hagrees
      rw [ih, ← (hsame.inside _).outcome_eq, Frame.sketch_eq_around hp]
      rfl

/-- Assembling the document of a tree does what is to be done with a gap for the tree. -/
theorem ofTree_eq_outcome {s : Style} {limit : Int} (hs : s.ceiling = some limit) (t : Tree) :
    ofTree s t = (Sketch.gap t 1).outcome s limit := by
  have hagrees := Style.agrees_enter s limit hs t 1
  rw [ofTree]
  cases he : s.enter t 1 with
  | error e =>
      rw [he] at hagrees
      obtain ⟨hexceeds, rfl⟩ := hagrees
      exact (if_pos hexceeds).symm
  | ok f =>
      rw [he] at hagrees
      have hsame : Sketch.Same s limit (.gap t 1) f.sketch := hagrees
      rw [hsame.outcome_eq]
      exact Style.assemble_eq_outcome hs f []

/-- **Assembly**: a tree has a document if the ceiling is not below what is checked. -/
theorem ofTree_within {s : Style} {limit : Int} (hs : s.ceiling = some limit) (t : Tree) :
    ofTree s t = within limit (1 + s.below t) (s.treeDocument t) := by
  rw [ofTree_eq_outcome hs]
  simp only [Sketch.outcome, Sketch.exceeds_gap, Sketch.document]
  rfl

/-! ## the depth of the document -/

theorem depthOfEntries_append (es fs : List (String × Document)) :
    depthOfEntries (es ++ fs) = max (depthOfEntries es) (depthOfEntries fs) := by
  induction es with
  | nil => simp [depthOfEntries]
  | cons e es ih => rw [List.cons_append, depthOfEntries, ih, depthOfEntries, Nat.max_assoc]

namespace Style

theorem depthOfEntries_textEntry (s : Style) (key text : String) :
    depthOfEntries (s.textEntry key text) = 0 := by
  rw [textEntry]
  split <;> rfl

theorem depthOfEntries_nameEntry (s : Style) (name : Option String) :
    depthOfEntries (s.nameEntry name) = 0 := by
  cases name with
  | none => rfl
  | some name => exact depthOfEntries_textEntry s "Name" name

theorem depth_of_not_isCollection {d : Document} (h : d.isCollection = false) : d.depth = 0 := by
  cases d with
  | list items => cases h
  | map entries => cases h
  | _ => rfl

mutual

theorem depth_propertyDocument (s : Style) : ∀ p : Property, p.isFlat = true →
    (s.propertyDocument p).depth = s.propertyHeight p
  | .mk name v, h => by
      rw [propertyDocument, propertyHeight, depth, depthOfEntries_append, depthOfEntries_nameEntry,
        depth_valueEntries s v h, Nat.zero_max]

theorem depth_valueEntries (s : Style) : ∀ v : PropertyValue, Property.isFlatValue v = true →
    depthOfEntries (s.valueEntries v) = s.valueHeight v
  | .absent, _ => rfl
  | .text t, _ => depthOfEntries_textEntry s "Value" t
  | .list items, h => by
      rw [valueEntries, valueHeight]
      split
      · rw [depthOfEntries, depthOfEntries, depth, depth_propertyDocuments s items h, Nat.max_zero]
      · rfl
  | .other x, h => by
      have hdepth : x.document.depth = 0 := depth_of_not_isCollection (by simpa [Property.isFlatValue] using h)
      rw [valueEntries]
      split
      · rw [depthOfEntries, depthOfEntries, hdepth]
        rfl
      · rfl

theorem depth_propertyDocuments (s : Style) : ∀ ps : List Property, Property.areFlat ps = true →
    depthOfItems (s.propertyDocuments ps) = s.heightOfProperties ps
  | [], _ => rfl
  | p :: ps, h => by
      rw [Property.areFlat, Bool.and_eq_true] at h
      rw [propertyDocuments, depthOfItems, heightOfProperties, depth_propertyDocument s p h.1,
        depth_propertyDocuments s ps h.2]

end

theorem depth_propertiesEntries (s : Style) (ps : Option (List Property))
    (h : Tree.areFlatProperties ps = true) :
    depthOfEntries (s.propertiesEntries ps) = s.propertiesHeight ps := by
  cases ps with
  | none => rfl
  | some ps =>
      rw [propertiesEntries, propertiesHeight]
      split
      · rw [depthOfEntries, depthOfEntries, depth, depth_propertyDocuments s ps h, Nat.max_zero]
      · rfl

/-- The document of a tree is one level deep above the deepest of the entries of its root. -/
theorem depth_treeDocument_node (s : Style) (ty tx : String) (cs : Option (List Tree))
    (ps : Option (List Property)) : (s.treeDocument (.node ty tx cs ps)).depth =
      1 + max (depthOfEntries (s.childrenEntries cs)) (depthOfEntries (s.propertiesEntries ps)) := by
  rw [treeDocument, depth, depthOfEntries_append, depthOfEntries_append, depthOfEntries,
    depthOfEntries_textEntry, depth, Nat.zero_max, Nat.zero_max]
  all_goals simp

mutual

/-- **Depth**: the depth of the document of a flat tree is what is checked. -/
theorem depth_treeDocument (s : Style) : ∀ t : Tree, t.isFlat = true →
    (s.treeDocument t).depth = 1 + s.below t
  | .node ty tx none ps, h => by
      rw [depth_treeDocument_node, depth_propertiesEntries s ps h, below]
      rfl
  | .node ty tx (some cs) ps, h => by
      rw [Tree.isFlat, Bool.and_eq_true] at h
      rw [depth_treeDocument_node, depth_propertiesEntries s ps h.2, below, childrenEntries,
        childrenBelow]
      split
      · rw [depthOfEntries, depthOfEntries, depth, depth_treeDocuments s cs h.1, Nat.max_zero]
      · rfl

theorem depth_treeDocuments (s : Style) : ∀ ts : List Tree, Tree.areFlat ts = true →
    depthOfItems (s.treeDocuments ts) = s.belowOfList ts
  | [], _ => rfl
  | t :: ts, h => by
      rw [Tree.areFlat, Bool.and_eq_true] at h
      rw [treeDocuments, depthOfItems, belowOfList, depth_treeDocument s t h.1,
        depth_treeDocuments s ts h.2]

end

/-! ## the ceiling has no part in what a document looks like -/

section Congr

variable {s u : Style}

theorem textEntry_congr (h : s.keeps = u.keeps) (key text : String) :
    s.textEntry key text = u.textEntry key text := by
  rw [textEntry, textEntry, h]

theorem nameEntry_congr (h : s.keeps = u.keeps) (name : Option String) :
    s.nameEntry name = u.nameEntry name := by
  cases name with
  | none => rfl
  | some name => exact textEntry_congr h "Name" name

mutual

theorem propertyDocument_congr (h : s.keeps = u.keeps) :
    ∀ p : Property, s.propertyDocument p = u.propertyDocument p
  | .mk name v => by
      rw [propertyDocument, propertyDocument, nameEntry_congr h, valueEntries_congr h v]

theorem valueEntries_congr (h : s.keeps = u.keeps) :
    ∀ v : PropertyValue, s.valueEntries v = u.valueEntries v
  | .absent => rfl
  | .text t => textEntry_congr h "Value" t
  | .list items => by rw [valueEntries, valueEntries, h, propertyDocuments_congr h items]
  | .other x => by rw [valueEntries, valueEntries, h]

theorem propertyDocuments_congr (h : s.keeps = u.keeps) :
    ∀ ps : List Property, s.propertyDocuments ps = u.propertyDocuments ps
  | [] => rfl
  | p :: ps => by
      rw [propertyDocuments, propertyDocuments, propertyDocument_congr h p, propertyDocuments_congr h ps]

end

theorem propertiesEntries_congr (h : s.keeps = u.keeps) (ps : Option (List Property)) :
    s.propertiesEntries ps = u.propertiesEntries ps := by
  cases ps with
  | none => rfl
  | some ps => rw [propertiesEntries, propertiesEntries, h, propertyDocuments_congr h ps]

mutual

theorem treeDocument_congr (h : s.keeps = u.keeps) : ∀ t : Tree, s.treeDocument t = u.treeDocument t
  | .node ty tx none ps => by
      rw [treeDocument, treeDocument, textEntry_congr h, propertiesEntries_congr h ps, childrenEntries,
        childrenEntries]
  | .node ty tx (some cs) ps => by
      rw [treeDocument, treeDocument, textEntry_congr h, propertiesEntries_congr h ps, childrenEntries,
        childrenEntries, h, treeDocuments_congr h cs]

theorem treeDocuments_congr (h : s.keeps = u.keeps) :
    ∀ ts : List Tree, s.treeDocuments ts = u.treeDocuments ts
  | [] => rfl
  | t :: ts => by rw [treeDocuments, treeDocuments, treeDocument_congr h t, treeDocuments_congr h ts]

end

end Congr

/-- Leaves out what is empty, and has no ceiling. -/
def sparse : Style := ⟨true, none⟩

end Style

/-- With a ceiling, a flat tree has its document without the empty things, unless that nests deeper than
the ceiling. -/
theorem ofTree_yaml (t : Tree) (hflat : t.isFlat = true) (ceiling : Int) :
    ofTree (.yaml ceiling) t =
      within ceiling (Style.sparse.treeDocument t).depth (Style.sparse.treeDocument t) := by
  have hsparse : (Style.yaml ceiling).treeDocument t = Style.sparse.treeDocument t :=
    Style.treeDocument_congr (show (Style.yaml ceiling).keeps = Style.sparse.keeps from rfl) t
  rw [ofTree_within rfl, ← Style.depth_treeDocument _ t hflat, hsparse]

end Document

/-- **The ceiling is exact**: a tree whose properties have no collections of another kind has a YAML
document if and only if its document without the empty things nests no deeper than the ceiling, and then
that is it; without a ceiling it always has that document.  Whatever order the pending nodes are taken
in, it ends in the same way; and a document that is below one ceiling is the same below every higher
one. -/
theorem Tree.toYaml_ceiling (t : Tree) (hflat : t.isFlat = true) (ceiling : Int) :
    Document.ofTree .sparse t = .ok (Document.Style.sparse.treeDocument t) ∧
    Document.ofTree (.yaml ceiling) t =
      (if ceiling < (Document.Style.sparse.treeDocument t).depth then .error (.ceiling ceiling)
        else .ok (Document.Style.sparse.treeDocument t)) ∧
    (t.toYaml ceiling = .error (.ceiling ceiling) ↔
      ceiling < (Document.Style.sparse.treeDocument t).depth) ∧
    Document.Sketch.Settles (.yaml ceiling) (Document.ofTree (.yaml ceiling) t) (.gap t 1) ∧
    ∀ higher d, ceiling ≤ higher → Document.ofTree (.yaml ceiling) t = .ok d →
      Document.ofTree (.yaml higher) t = .ok d := by
  have hexact := Document.ofTree_yaml t hflat
  refine ⟨Document.ofTree_eq_treeDocument rfl t, hexact ceiling, ?_, ?_, ?_⟩
  · rw [toYaml, hexact]
    by_cases hlt : ceiling < (Document.Style.sparse.treeDocument t).depth
    · simp [Document.within_of_lt hlt, hlt]
    · simp only [Document.within_of_not_lt hlt, hlt]
      split <;> simp
  · rw [Document.ofTree_eq_outcome rfl]
    exact Document.Sketch.settles rfl _
  · intro higher d hle hd
    rw [hexact] at hd ⊢
    by_cases hlt : ceiling < (Document.Style.sparse.treeDocument t).depth
    · rw [Document.within_of_lt hlt] at hd
      cases hd
    · rw [Document.within_of_not_lt hlt] at hd
      rw [Document.within_of_not_lt (by omega), hd]

/-- A node with an empty list of children below it, a property without name and value in a list in a
list, and a value that properties do not have of themselves. -/
def Tree.uneven : Tree :=
  .node "Select" "" (some [.node "Column" "a" (some []) (some [])])
    (some [.mk (some "outer") (.list [.mk none (.list [.mk none .absent])]), .mk none (.other (.int 3))])

theorem Tree.toYaml_ceiling_uneven :
    Tree.uneven.isFlat = true ∧
    Document.ofTree (.yaml 6) Tree.uneven = .error (.ceiling 6) ∧
    Document.ofTree (.yaml 7) Tree.uneven = .ok (Document.Style.sparse.treeDocument Tree.uneven) ∧
    Document.Sketch.Settles (.yaml 6) (.error (.ceiling 6)) (.gap Tree.uneven 1) := by
  have hflat : Tree.uneven.isFlat = true := rfl
  have hdepth : (Document.Style.sparse.treeDocument Tree.uneven).depth = 7 := by decide
  obtain ⟨-, hbelow, -, hsettles, -⟩ := Tree.toYaml_ceiling Tree.uneven hflat 6
  obtain ⟨-, habove, -⟩ := Tree.toYaml_ceiling Tree.uneven hflat 7
  rw [hdepth] at hbelow habove
  rw [hbelow] at hsettles
  exact ⟨hflat, hbelow, habove, hsettles⟩

end QueryTree
