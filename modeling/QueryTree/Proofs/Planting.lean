import QueryTree.Graph.Population
import QueryTree.Proofs.Table

/-!
# QueryTree.Proofs.Planting

Trees of captured expressions in a table of nodes.

A capture enters the nodes of a tree parents before children, and hangs each below the
node that was entered last and not left.  `NodeTable.plant` does that for a whole tree.
The numbers of its nodes then follow each other, so what stands where can be said
without looking at the order of events:

* `standsAt_plant` — a planted tree stands in the table, node by node;
* `walk_of_standsAt`, `treeWithin_eq_dressed` — walking the table and reading the tree back;
* `entry_populateNodes` — filling in properties changes nothing else.
-/

namespace QueryTree

namespace NodeTable

/-! ## planting -/

/-- The node of an expression, before anything hangs below it. -/
def nodeFor (g : Graph) (source : ObjectId) : NodeEntry :=
  { NodeEntry.leaf (g.typeOf source).name ((g.text? source).getD "") with source := some source }

/-- Hangs a node below another one, if there is one. -/
def hang (t : NodeTable) (parent : Option NodeId) (node : NodeId) : NodeTable :=
  match parent with
  | none => t
  | some p => t.addChild p node

mutual

/-- Makes the nodes of a tree, the root below a given node. -/
def plant (g : Graph) (parent : Option NodeId) : NodeTable → Rose → NodeTable
  | t, .node source below =>
    plantAll g (some t.size) ((t.push (nodeFor g source)).hang parent t.size) below

/-- Makes the nodes of several trees, the roots below a given node. -/
def plantAll (g : Graph) (parent : Option NodeId) : NodeTable → List Rose → NodeTable
  | t, [] => t
  | t, T :: Ts => plantAll g parent (plant g parent t T) Ts

end

/-- The numbers of the roots of trees whose nodes are numbered one after the other. -/
def rootsFrom : Nat → List Rose → List NodeId
  | _, [] => []
  | n, T :: Ts => n :: rootsFrom (n + T.preorder.length) Ts

mutual

/-- Whether a tree of expressions stands in a table, with its nodes numbered parents before children
from `n` on.  Every node has the type, the text and the source of its expression; its children are the
roots of the trees below it, and are absent if there are none. -/
def StandsAt (g : Graph) (t : NodeTable) : Nat → Rose → Prop
  | n, .node source below =>
    (t.entry n).typeName = (g.typeOf source).name ∧
    (t.entry n).text = (g.text? source).getD "" ∧
    (t.entry n).source = some source ∧
    (t.entry n).children = (if below.isEmpty then none else some (rootsFrom (n + 1) below)) ∧
    StandAt g t (n + 1) below

/-- Whether several trees stand in a table, one after the other from `n` on. -/
def StandAt (g : Graph) (t : NodeTable) : Nat → List Rose → Prop
  | _, [] => True
  | n, T :: Ts => StandsAt g t n T ∧ StandAt g t (n + T.preorder.length) Ts

end

/-! ## what planting changes -/

@[simp] theorem size_hang (t : NodeTable) (parent : Option NodeId) (node : NodeId) :
    (t.hang parent node).size = t.size := by
  cases parent with
  | none => rfl
  | some p => exact size_addChild t p node

/-- Hanging a node below another one changes that one only, if nobody else has its list. -/
theorem entry_hang (t : NodeTable) {parent : Option NodeId} (hown : ∀ p, parent = some p → t.Own p)
    (node i : Nat) (hi : i < t.size) :
    (t.hang parent node).entry i =
      if parent = some i then (t.entry i).addChild node else t.entry i := by
  cases parent with
  | none => rfl
  | some p =>
      have hgains : t.Gains p i ↔ some p = some i := by
        rw [Option.some.injEq]
        exact ⟨fun h => (hown p rfl i h).symm, fun h => h ▸ gains_self (h ▸ hi)⟩
      rw [hang, entry_addChild]
      simp only [hgains]

theorem own_hang {t : NodeTable} {id : NodeId} (h : t.Own id) (parent : Option NodeId)
    (node : NodeId) : (t.hang parent node).Own id := by
  cases parent with
  | none => exact h
  | some p => exact own_addChild h p node

/-- Nobody shares a list with a new node. -/
theorem own_new (t : NodeTable) (e : NodeEntry) (parent : Option NodeId) :
    ((t.push e).hang parent t.size).Own t.size := own_hang (own_push e (.inr rfl)) parent t.size

mutual

theorem size_plant (g : Graph) (parent : Option NodeId) : ∀ (T : Rose) (t : NodeTable),
    (plant g parent t T).size = t.size + T.preorder.length
  | .node source below, t => by
      rw [plant, size_plantAll g _ below, size_hang, size_push, Rose.preorder, List.length_cons]
      omega

theorem size_plantAll (g : Graph) (parent : Option NodeId) : ∀ (Ts : List Rose) (t : NodeTable),
    (plantAll g parent t Ts).size = t.size + (Rose.preorderOfList Ts).length
  | [], t => by simp [plantAll, Rose.preorderOfList]
  | T :: Ts, t => by
      rw [plantAll, size_plantAll g parent Ts, size_plant g parent T, Rose.preorderOfList,
        List.length_append]
      omega

end

mutual

/-- A node that nobody shares a list with keeps its list to itself, whatever is planted. -/
theorem own_plant (g : Graph) (parent : Option NodeId) : ∀ (T : Rose) {t : NodeTable} {id : NodeId},
    t.Own id → (plant g parent t T).Own id
  | .node source below, _, _, h => by
      rw [plant]
      exact own_plantAll g _ below (own_hang (own_push _ (.inl h)) parent _)

theorem own_plantAll (g : Graph) (parent : Option NodeId) : ∀ (Ts : List Rose) {t : NodeTable}
    {id : NodeId}, t.Own id → (plantAll g parent t Ts).Own id
  | [], _, _, h => h
  | T :: Ts, _, _, h => by
      rw [plantAll]
      exact own_plantAll g parent Ts (own_plant g parent T h)

end

mutual

/-- Planting a tree changes no earlier node but the one that it is planted below. -/
theorem entry_plant_of_lt (g : Graph) (parent : Option NodeId) : ∀ (T : Rose) (t : NodeTable)
    (i : Nat), (∀ p, parent = some p → t.Own p) → i < t.size → (plant g parent t T).entry i =
      if parent = some i then (t.entry i).addChild t.size else t.entry i
  | .node source below, t, i, hown, hi => by
      have hlt : i < (t.push (nodeFor g source)).size := by rw [size_push]; omega
      have hne : i ≠ t.size := Nat.ne_of_lt hi
      have hparent : ∀ p, parent = some p → (t.push (nodeFor g source)).Own p :=
        fun p hp => own_push _ (.inl (hown p hp))
      have hroot : ∀ p, some t.size = some p →
          ((t.push (nodeFor g source)).hang parent t.size).Own p := by
        intro p hp
        rw [← Option.some.inj hp]
        exact own_new t (nodeFor g source) parent
      rw [plant, entry_plantAll_of_lt g _ below _ i hroot (by rwa [size_hang]),
        if_neg fun h => hne (Option.some.inj h).symm, entry_hang _ hparent _ _ hlt, entry_push,
        if_neg hne]

/-- Planting trees changes no earlier node but the one that they are planted below. -/
theorem entry_plantAll_of_lt (g : Graph) (parent : Option NodeId) : ∀ (Ts : List Rose)
    (t : NodeTable) (i : Nat), (∀ p, parent = some p → t.Own p) → i < t.size →
      (plantAll g parent t Ts).entry i =
        if parent = some i then (rootsFrom t.size Ts).foldl NodeEntry.addChild (t.entry i)
        else t.entry i
  | [], t, i, _, _ => by simp [plantAll, rootsFrom]
  | T :: Ts, t, i, hown, hi => by
      have hsize := size_plant g parent T t
      rw [plantAll, entry_plantAll_of_lt g parent Ts _ i
          (fun p hp => own_plant g parent T (hown p hp)) (by omega),
        entry_plant_of_lt g parent T t i hown hi, hsize, rootsFrom, List.foldl_cons]
      by_cases h : parent = some i <;> simp [h]

end

/-- A leaf under which nodes are hung one after the other has them as its children. -/
theorem foldl_addChild (e : NodeEntry) (ids : List NodeId) :
    ids.foldl NodeEntry.addChild e =
      { e with children := if ids.isEmpty then e.children else some (e.childList ++ ids) } := by
  induction ids generalizing e with
  | nil => rfl
  | cons id ids ih =>
      rw [List.foldl_cons, ih]
      cases ids <;> simp [NodeEntry.addChild, NodeEntry.childList]

theorem plantAll_append (g : Graph) (parent : Option NodeId) (Ts Us : List Rose) (t : NodeTable) :
    plantAll g parent t (Ts ++ Us) = plantAll g parent (plantAll g parent t Ts) Us := by
  induction Ts generalizing t with
  | nil => rfl
  | cons T Ts ih => rw [List.cons_append, plantAll, plantAll, ih]

/-! ## where planted trees stand -/

mutual

/-- Whether a tree stands in a table depends on its own nodes only. -/
theorem standsAt_congr {g : Graph} {t u : NodeTable} : ∀ (T : Rose) (n : Nat),
    (∀ i, n ≤ i → i < n + T.preorder.length →
      (u.entry i).typeName = (t.entry i).typeName ∧ (u.entry i).text = (t.entry i).text ∧
      (u.entry i).source = (t.entry i).source ∧ (u.entry i).children = (t.entry i).children) →
    StandsAt g t n T → StandsAt g u n T
  | .node source below, n, hsame, h => by
      obtain ⟨htype, htext, hsource, hchildren, hbelow⟩ := h
      rw [Rose.preorder, List.length_cons] at hsame
      obtain ⟨h₁, h₂, h₃, h₄⟩ := hsame n (Nat.le_refl n) (by omega)
      exact ⟨h₁.trans htype, h₂.trans htext, h₃.trans hsource, h₄.trans hchildren,
        standAt_congr below (n + 1) (fun i hlo hhi => hsame i (by omega) (by omega)) hbelow⟩

theorem standAt_congr {g : Graph} {t u : NodeTable} : ∀ (Ts : List Rose) (n : Nat),
    (∀ i, n ≤ i → i < n + (Rose.preorderOfList Ts).length →
      (u.entry i).typeName = (t.entry i).typeName ∧ (u.entry i).text = (t.entry i).text ∧
      (u.entry i).source = (t.entry i).source ∧ (u.entry i).children = (t.entry i).children) →
    StandAt g t n Ts → StandAt g u n Ts
  | [], _, _, _ => trivial
  | T :: Ts, n, hsame, h => by
      rw [Rose.preorderOfList, List.length_append] at hsame
      exact ⟨standsAt_congr T n (fun i hlo hhi => hsame i hlo (by omega)) h.1,
        standAt_congr Ts _ (fun i hlo hhi => hsame i (by omega) (by omega)) h.2⟩

end

mutual

/-- **Planting**: a planted tree stands at the end of the table. -/
theorem standsAt_plant (g : Graph) (parent : Option NodeId) : ∀ (T : Rose) (t : NodeTable),
    (∀ p : Nat, parent = some p → p < t.size ∧ t.Own p) → StandsAt g (plant g parent t T) t.size T
  | .node source below, t, hparent => by
      have hown : ((t.push (nodeFor g source)).hang parent t.size).Own t.size :=
        own_new t (nodeFor g source) parent
      have hbelow := standAt_plantAll g (some t.size) below
        ((t.push (nodeFor g source)).hang parent t.size)
        (fun p hp => by obtain rfl := Option.some.inj hp; exact ⟨by simp, hown⟩)
      have hsize : ((t.push (nodeFor g source)).hang parent t.size).size = t.size + 1 := by simp
      have hnot : parent ≠ some t.size := fun h => Nat.lt_irrefl _ (hparent _ h).1
      -- what the root looks like once everything hangs below it
      have hroot := entry_plantAll_of_lt g (some t.size) below
        ((t.push (nodeFor g source)).hang parent t.size) t.size
        (fun p hp => Option.some.inj hp ▸ hown) (by omega)
      rw [if_pos rfl, entry_hang _ (fun p hp => own_push _ (.inl (hparent p hp).2)) _ _ (by simp),
        if_neg hnot, entry_push, if_pos rfl, foldl_addChild, hsize] at hroot
      rw [hsize] at hbelow
      rw [plant, StandsAt, hroot]
      refine ⟨rfl, rfl, rfl, ?_, hbelow⟩
      cases below <;> rfl

/-- Planted trees stand at the end of the table, one after the other. -/
theorem standAt_plantAll (g : Graph) (parent : Option NodeId) : ∀ (Ts : List Rose) (t : NodeTable),
    (∀ p : Nat, parent = some p → p < t.size ∧ t.Own p) →
      StandAt g (plantAll g parent t Ts) t.size Ts
  | [], _, _ => trivial
  | T :: Ts, t, hparent => by
      have hsize := size_plant g parent T t
      have hlater : ∀ p : Nat, parent = some p →
          p < (plant g parent t T).size ∧ (plant g parent t T).Own p := by
        intro p hp
        obtain ⟨hlt, hown⟩ := hparent p hp
        exact ⟨by omega, own_plant g parent T hown⟩
      have hrest := standAt_plantAll g parent Ts (plant g parent t T) hlater
      rw [hsize] at hrest
      refine ⟨standsAt_congr T t.size ?_ (standsAt_plant g parent T t hparent), hrest⟩
      intro i hlo hhi
      have hnot : parent ≠ some i := fun h => Nat.not_le.mpr (hparent i h).1 hlo
      rw [plantAll, entry_plantAll_of_lt g parent Ts _ i (fun p hp => (hlater p hp).2) (by omega),
        if_neg hnot]
      exact ⟨rfl, rfl, rfl, rfl⟩

end

/-! ## reading planted trees -/

mutual

/-- A tree with its nodes numbered from `n` on, parents before children. -/
def numbered : Nat → Rose → Rose
  | n, .node _ below => .node n (numberedAll (n + 1) below)

/-- Several trees with their nodes numbered from `n` on. -/
def numberedAll : Nat → List Rose → List Rose
  | _, [] => []
  | n, T :: Ts => numbered n T :: numberedAll (n + T.preorder.length) Ts

end

mutual

theorem preorder_numbered : ∀ (T : Rose) (n : Nat),
    (numbered n T).preorder = List.range' n T.preorder.length
  | .node _ below, n => by
      rw [numbered, Rose.preorder, Rose.preorder, preorder_numberedAll below, List.length_cons,
        List.range'_succ]

theorem preorder_numberedAll : ∀ (Ts : List Rose) (n : Nat),
    Rose.preorderOfList (numberedAll n Ts) = List.range' n (Rose.preorderOfList Ts).length
  | [], n => by simp [numberedAll, Rose.preorderOfList]
  | T :: Ts, n => by
      rw [numberedAll, Rose.preorderOfList, Rose.preorderOfList, preorder_numbered T,
        preorder_numberedAll Ts, List.length_append, ← List.range'_append_1]

end

@[simp] theorem root_numbered (n : Nat) (T : Rose) : (numbered n T).root = n := by
  cases T
  rfl

theorem map_root_numberedAll (Ts : List Rose) (n : Nat) :
    (numberedAll n Ts).map Rose.root = rootsFrom n Ts := by
  induction Ts generalizing n with
  | nil => rfl
  | cons T Ts ih => rw [numberedAll, List.map_cons, root_numbered, ih, rootsFrom]

mutual

/-- The numbers of a tree that stands in a table unfold the table. -/
theorem unfolds_numbered {g : Graph} {t : NodeTable} : ∀ (T : Rose) (n : Nat),
    StandsAt g t n T → (numbered n T).Unfolds t.childrenOf
  | .node source below, n, h => by
      obtain ⟨-, -, -, hchildren, hbelow⟩ := h
      refine ⟨?_, unfoldsAll_numberedAll below (n + 1) hbelow⟩
      rw [map_root_numberedAll, childrenOf, NodeEntry.childList, hchildren]
      cases below <;> rfl

theorem unfoldsAll_numberedAll {g : Graph} {t : NodeTable} : ∀ (Ts : List Rose) (n : Nat),
    StandAt g t n Ts → Rose.UnfoldsAll t.childrenOf (numberedAll n Ts)
  | [], _, _ => trivial
  | T :: Ts, n, h => ⟨unfolds_numbered T n h.1, unfoldsAll_numberedAll Ts _ h.2⟩

end

/-- The walk over a tree that stands in a table takes its nodes one number after the other. -/
theorem walk_of_standsAt {g : Graph} {t : NodeTable} {T : Rose} {n : Nat} (h : StandsAt g t n T)
    (hsize : n + T.preorder.length ≤ t.size) :
    t.walk n = some (List.range' n T.preorder.length) := by
  have hlen : (numbered n T).preorder.length = T.preorder.length := by
    rw [preorder_numbered, List.length_range']
  have hwalk := walk_of_unfolds t (numbered n T) (unfolds_numbered T n h) (by omega)
  rwa [root_numbered, preorder_numbered] at hwalk

mutual

/-- The sources of the nodes of a tree are its expressions, in the same order. -/
theorem filterMap_source_of_standsAt {g : Graph} {t : NodeTable} : ∀ (T : Rose) (n : Nat),
    StandsAt g t n T →
    (List.range' n T.preorder.length).filterMap (fun id => (t.entry id).source) = T.preorder
  | .node source below, n, h => by
      obtain ⟨-, -, hsource, -, hbelow⟩ := h
      rw [Rose.preorder, List.length_cons, List.range'_succ, List.filterMap_cons]
      simp only [hsource, filterMap_source_of_standAt below (n + 1) hbelow]

theorem filterMap_source_of_standAt {g : Graph} {t : NodeTable} : ∀ (Ts : List Rose) (n : Nat),
    StandAt g t n Ts →
    (List.range' n (Rose.preorderOfList Ts).length).filterMap (fun id => (t.entry id).source) =
      Rose.preorderOfList Ts
  | [], _, _ => rfl
  | T :: Ts, n, h => by
      rw [Rose.preorderOfList, List.length_append, ← List.range'_append_1, List.filterMap_append,
        filterMap_source_of_standsAt T n h.1, filterMap_source_of_standAt Ts _ h.2]

end

end NodeTable

/-! ## trees with and without their properties -/

namespace Tree

mutual

/-- A tree without the properties of its nodes. -/
def bare : Tree → Tree
  | .node ty tx none _ => .node ty tx none none
  | .node ty tx (some cs) _ => .node ty tx (some (bareOfList cs)) none

/-- Several trees without the properties of their nodes. -/
def bareOfList : List Tree → List Tree
  | [] => []
  | t :: ts => bare t :: bareOfList ts

end

end Tree

namespace Rose

mutual

/-- The tree of captured expressions, without properties: every node has the type and the text of its
expression, and a list of children only if it has children. -/
def tree (g : Graph) : Rose → Tree
  | .node source below =>
    .node (g.typeOf source).name ((g.text? source).getD "")
      (if below.isEmpty then none else some (treesOf g below)) none

/-- The trees of several trees of captured expressions. -/
def treesOf (g : Graph) : List Rose → List Tree
  | [] => []
  | t :: ts => tree g t :: treesOf g ts

end

mutual

/-- The tree of captured expressions with properties, which are looked up by the numbers of the nodes;
those are numbered parents before children from `n` on. -/
def dressed (g : Graph) (properties : Nat → Option (List Property)) : Nat → Rose → Tree
  | n, .node source below =>
    .node (g.typeOf source).name ((g.text? source).getD "")
      (if below.isEmpty then none else some (dressedAll g properties (n + 1) below)) (properties n)

/-- The trees of several trees of captured expressions with properties. -/
def dressedAll (g : Graph) (properties : Nat → Option (List Property)) : Nat → List Rose → List Tree
  | _, [] => []
  | n, T :: Ts => dressed g properties n T :: dressedAll g properties (n + T.preorder.length) Ts

end

mutual

/-- Without its properties, it is the same tree. -/
theorem bare_dressed (g : Graph) (properties : Nat → Option (List Property)) :
    ∀ (T : Rose) (n : Nat), (T.dressed g properties n).bare = T.tree g
  | .node source [], _ => rfl
  | .node source (T :: Ts), n => by
      have hbelow := bareOfList_dressedAll g properties (T :: Ts) (n + 1)
      simp [dressed, tree, Tree.bare, hbelow]

theorem bareOfList_dressedAll (g : Graph) (properties : Nat → Option (List Property)) :
    ∀ (Ts : List Rose) (n : Nat),
      Tree.bareOfList (dressedAll g properties n Ts) = treesOf g Ts
  | [], _ => rfl
  | T :: Ts, n => by
      rw [dressedAll, Tree.bareOfList, bare_dressed g properties T n,
        bareOfList_dressedAll g properties Ts, treesOf]

end

end Rose

namespace NodeTable

mutual

/-- A tree that stands in a table is read back from it with the properties of its nodes. -/
theorem treeWithin_eq_dressed {g : Graph} {t : NodeTable} : ∀ (T : Rose) (n fuel : Nat),
    StandsAt g t n T → T.preorder.length ≤ fuel →
    t.treeWithin fuel n = some (T.dressed g (fun i => (t.entry i).properties) n)
  | .node source below, n, 0, _, hfuel => by
      rw [Rose.preorder, List.length_cons] at hfuel
      omega
  | .node source below, n, fuel + 1, h, hfuel => by
      obtain ⟨htype, htext, -, hchildren, hbelow⟩ := h
      rw [Rose.preorder, List.length_cons] at hfuel
      have htrees := treesWithin_eq_dressedAll below (n + 1) fuel hbelow (by omega)
      cases below with
      | nil => simp [treeWithin, hchildren, Rose.dressed, htype, htext]
      | cons T Ts => simp [treeWithin, hchildren, Rose.dressed, htype, htext, htrees]

theorem treesWithin_eq_dressedAll {g : Graph} {t : NodeTable} : ∀ (Ts : List Rose) (n fuel : Nat),
    StandAt g t n Ts → (Rose.preorderOfList Ts).length ≤ fuel →
    (rootsFrom n Ts).mapM (t.treeWithin fuel) =
      some (Rose.dressedAll g (fun i => (t.entry i).properties) n Ts)
  | [], _, _, _, _ => rfl
  | T :: Ts, n, fuel, h, hfuel => by
      rw [Rose.preorderOfList, List.length_append] at hfuel
      have hfirst := treeWithin_eq_dressed T n fuel h.1 (by omega)
      have hrest := treesWithin_eq_dressedAll Ts _ fuel h.2 (by omega)
      rw [rootsFrom, List.mapM_cons, hfirst, hrest]
      rfl

end

/-! ## filling in properties -/

/-- Giving nodes their properties keeps everything else of all nodes. -/
theorem entry_populateNodes (g : Graph) (ids : List NodeId) (t : NodeTable) (visited : IdentitySet)
    (i : Nat) : ((populateNodes g t visited ids).1.entry i).typeName = (t.entry i).typeName ∧
      ((populateNodes g t visited ids).1.entry i).text = (t.entry i).text ∧
      ((populateNodes g t visited ids).1.entry i).source = (t.entry i).source ∧
      ((populateNodes g t visited ids).1.entry i).children = (t.entry i).children := by
  induction ids generalizing t visited with
  | nil => exact ⟨rfl, rfl, rfl, rfl⟩
  | cons id ids ih =>
      rw [populateNodes, populateNode]
      cases hsource : (t.entry id).source with
      | none => exact ih t visited
      | some source =>
          obtain ⟨h₁, h₂, h₃, h₄⟩ := ih (t.setProperties id (g.reflect (.ref source) visited).1)
            (g.reflect (.ref source) visited).2
          rw [entry_setProperties] at h₁ h₂ h₃ h₄
          refine ⟨h₁.trans ?_, h₂.trans ?_, h₃.trans ?_, h₄.trans ?_⟩ <;> split <;> rfl

theorem size_populateNodes (g : Graph) (ids : List NodeId) (t : NodeTable) (visited : IdentitySet) :
    (populateNodes g t visited ids).1.size = t.size := by
  induction ids generalizing t visited with
  | nil => rfl
  | cons id ids ih =>
      rw [populateNodes, populateNode]
      cases hsource : (t.entry id).source with
      | none => exact ih t visited
      | some source => exact (ih _ _).trans (size_setProperties t id _)

theorem own_populateNodes (g : Graph) (ids : List NodeId) {t : NodeTable} (visited : IdentitySet)
    {id : NodeId} (h : t.Own id) : (populateNodes g t visited ids).1.Own id := by
  induction ids generalizing t visited with
  | nil => exact h
  | cons i ids ih =>
      rw [populateNodes, populateNode]
      cases (t.entry i).source with
      | none => exact ih visited h
      | some source => exact ih _ (own_setProperties h i _)

end NodeTable

end QueryTree
