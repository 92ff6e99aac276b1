import QueryTree.Capture.Session
import QueryTree.Proofs.Planting
import QueryTree.Proofs.Population
import QueryTree.Proofs.Walk

/-!
# QueryTree.Proofs.Capture

What a capture hands out.

The types of a walker play three roles for a recorder: nodes are recorded, passed
through, or cut off with all that is below them.  `Rose.contract` says what that makes
of a tree: cut-off subtrees vanish, and what is recorded below a node that is only
passed through moves up to the nearest recorded node around it.

A walk keeps two stacks in step, its own and the path of the recorder.  Seen from
outside, visiting a tree plants its contraction below the last node of that path
(`visitTree_outcome`).  So a capture hands out the first tree of the contraction of the
unfolded graph (`build_contract`).  Up to there, roles are those of single expressions,
and an expression without a role is one at which the walk fails.
-/

namespace QueryTree

/-- What becomes of the nodes of a type during a capture. -/
inductive Role where
  /-- They are recorded. -/
  | recorded
  /-- They are passed through. -/
  | passed
  /-- They are cut off with all that is below them. -/
  | pruned
deriving DecidableEq, Repr

namespace Rose

mutual

/-- What is left of a tree when the nodes that are cut off are gone with all that is below them, and
those that are passed through have made room for what is below them. -/
def contract (role : Nat → Role) : Rose → List Rose
  | .node id below =>
    match role id with
    | .recorded => [.node id (contractAll role below)]
    | .passed => contractAll role below
    | .pruned => []

/-- What is left of several trees. -/
def contractAll (role : Nat → Role) : List Rose → List Rose
  | [] => []
  | t :: ts => contract role t ++ contractAll role ts

end

mutual

/-- A tree of recorded nodes only stays as it is. -/
theorem contract_recorded {role : Nat → Role} (h : ∀ id, role id = .recorded) :
    ∀ t : Rose, t.contract role = [t]
  | .node id below => by rw [contract, h id, contractAll_recorded h below]

theorem contractAll_recorded {role : Nat → Role} (h : ∀ id, role id = .recorded) :
    ∀ ts : List Rose, contractAll role ts = ts
  | [] => rfl
  | t :: ts => by
      rw [contractAll, contract_recorded h t, contractAll_recorded h ts, List.singleton_append]

end

end Rose

/-- Whether the texts of all expressions of some trees can be written. -/
def Graph.Writable (g : Graph) (ts : List Rose) : Prop :=
  ∀ id ∈ Rose.preorderOfList ts, (g.text? id).isSome = true

theorem Graph.writable_append {g : Graph} {ts us : List Rose} :
    g.Writable (ts ++ us) ↔ g.Writable ts ∧ g.Writable us := by
  simp only [Graph.Writable, Rose.preorderOfList_append, List.forall_mem_append]

theorem Graph.writable_node {g : Graph} {id : ObjectId} {ts : List Rose} :
    g.Writable [.node id ts] ↔ (g.text? id).isSome = true ∧ g.Writable ts := by
  simp [Graph.Writable, Rose.preorderOfList, Rose.preorder]

namespace Rose

/-- What is left of a tree whose nodes may be without a role. -/
def remains (role : Nat → Option Role) (T : Rose) : List Rose :=
  T.contract fun id => (role id).getD .pruned

mutual

/-- Whether a walk over a tree gets through: it comes by no node without a role, and by no recorded one
whose text cannot be written. -/
def clears (g : Graph) (role : Nat → Option Role) : Rose → Bool
  | .node id below =>
    match role id with
    | some .recorded => (g.text? id).isSome && clearsAll g role below
    | some .passed => clearsAll g role below
    | some .pruned => true
    | none => false

/-- Whether a walk over several trees gets through. -/
def clearsAll (g : Graph) (role : Nat → Option Role) : List Rose → Bool
  | [] => true
  | t :: ts => clears g role t && clearsAll g role ts

end

mutual

/-- If all nodes have a role, a walk gets through exactly if all that is left can be written. -/
theorem clears_iff {g : Graph} (role : Nat → Role) : ∀ T : Rose,
    T.clears g (fun id => some (role id)) = true ↔ g.Writable (T.contract role)
  | .node id below => by
      rw [clears, contract]
      cases role id with
      | recorded => simp [Graph.writable_node, clearsAll_iff role below]
      | passed => exact clearsAll_iff role below
      | pruned => simp [Graph.Writable, preorderOfList]

theorem clearsAll_iff {g : Graph} (role : Nat → Role) : ∀ Ts : List Rose,
    clearsAll g (fun id => some (role id)) Ts = true ↔ g.Writable (contractAll role Ts)
  | [] => by simp [clearsAll, contractAll, Graph.Writable, preorderOfList]
  | T :: Ts => by
      rw [clearsAll, contractAll, Graph.writable_append, Bool.and_eq_true, clears_iff role T,
        clearsAll_iff role Ts]

end

end Rose

namespace Session

/-! ## roles -/

/-- Whether the nodes of a type play a role in the captures of recorder `k`.  They are recorded by the
hook of the recorder.  They are passed through without a hook, and with one that asks to go on and does
nothing else.  They are cut off by a hook that never asks to go on. -/
def Plays (w : Walker Session TextError) (k : Nat) (type : NodeType) : Role → Prop
  | .recorded => w.hookFor type = some (hook k)
  | .passed => w.hookFor type = none ∨ ∃ h, w.hookFor type = some h ∧ ∀ g id s, ∃ requests exit,
      h g id s = (.ok requests, s) ∧ requests.getLast? = some exit ∧ ∀ s, Walker.leave exit s = s
  | .pruned => ∃ h, w.hookFor type = some h ∧ ∀ g id s, h g id s = (.ok [], s)

section Visit

variable {w : Walker Session TextError} {k : Nat} {g : Graph} {id : ObjectId}

theorem visit_recorded (h : Plays w k (g.typeOf id) .recorded) (s : Session) :
    w.visit g id s = match g.text? id with
      | none => (.error ⟨⟩, s)
      | some text => (.ok (some (some (leave k))), s.enter k (g.typeOf id).name text id) := by
  rw [Plays] at h
  rw [Walker.visit, h]
  simp only [hook]
  cases g.text? id <;> rfl

theorem visit_passed (h : Plays w k (g.typeOf id) .passed) (s : Session) :
    ∃ exit, w.visit g id s = (.ok (some exit), s) ∧ ∀ s, Walker.leave exit s = s := by
  obtain h | ⟨hook, h, hpass⟩ := h
  · exact ⟨none, by rw [Walker.visit, h], fun _ => rfl⟩
  · obtain ⟨requests, exit, hrun, hlast, hexit⟩ := hpass g id s
    exact ⟨exit, by rw [Walker.visit, h]; simp only [hrun, hlast], hexit⟩

theorem visit_pruned (h : Plays w k (g.typeOf id) .pruned) (s : Session) :
    w.visit g id s = (.ok none, s) := by
  obtain ⟨hook, h, hprune⟩ := h
  rw [Walker.visit, h]
  simp only [hprune g id s]
  rfl

/-- Whether one expression plays a role in the captures of recorder `k`: what visiting it does.  Without a
role, it makes the walk fail. -/
def PlaysAt (w : Walker Session TextError) (k : Nat) (g : Graph) (id : ObjectId) : Option Role → Prop
  | some .recorded => ∀ s, w.visit g id s = match g.text? id with
      | none => (.error ⟨⟩, s)
      | some text => (.ok (some (some (leave k))), s.enter k (g.typeOf id).name text id)
  | some .passed => ∀ s, ∃ exit, w.visit g id s = (.ok (some exit), s) ∧
      ∀ s, Walker.leave exit s = s
  | some .pruned => ∀ s, w.visit g id s = (.ok none, s)
  | none => ∀ s, w.visit g id s = (.error ⟨⟩, s)

theorem Plays.playsAt {role : Role} (h : Plays w k (g.typeOf id) role) :
    PlaysAt w k g id (some role) := by
  cases role with
  | recorded => exact visit_recorded h
  | passed => exact visit_passed h
  | pruned => exact visit_pruned h

end Visit

/-! ## recorders -/

theorem recorder_onRecorder (s : Session) (k : Nat) (f : Recorder → Recorder)
    (hk : k < s.recorders.size) : (s.onRecorder k f).recorder k = f (s.recorder k) := by
  simp only [recorder, onRecorder, Array.getD_eq_getD_getElem?, Array.getElem?_modify, if_true]
  rw [Array.getElem?_eq_getElem hk]
  rfl

theorem size_onRecorder (s : Session) (k : Nat) (f : Recorder → Recorder) :
    (s.onRecorder k f).recorders.size = s.recorders.size := Array.size_modify

/-- Entering makes a node, below the last node on the path. -/
theorem table_enter (s : Session) (k : Nat) (typeName text : String) (source : ObjectId) :
    (s.enter k typeName text source).table =
      (s.table.push { NodeEntry.leaf typeName text with source := some source }).hang
        (s.recorder k).path.head? s.table.size := by
  cases hpath : (s.recorder k).path with
  | nil => simp [enter, hpath, onRecorder, NodeTable.hang]
  | cons p path => simp [enter, hpath, onRecorder, NodeTable.hang]

theorem recorder_enter (s : Session) (k : Nat) (typeName text : String) (id : ObjectId)
    (hk : k < s.recorders.size) :
    (s.enter k typeName text id).recorder k = (s.recorder k).enter s.table.size :=
  recorder_onRecorder _ k _ hk

/-- From one state to a later one, recorder `k` planted some trees below the last node on its path, and
is back where it was. -/
structure Recorded (g : Graph) (k : Nat) (s s' : Session) (ts : List Rose) : Prop where
  /-- The trees were planted. -/
  table : s'.table = NodeTable.plantAll g (s.recorder k).path.head? s.table ts
  /-- The path is the same. -/
  path : (s'.recorder k).path = (s.recorder k).path
  /-- The first tree became the root if there was none. -/
  root : (s'.recorder k).root =
    (s.recorder k).root.or (if ts.isEmpty then none else some s.table.size)
  /-- There are as many recorders. -/
  size : s'.recorders.size = s.recorders.size

namespace Recorded

theorem refl (g : Graph) (k : Nat) (s : Session) : Recorded g k s s [] :=
  ⟨rfl, rfl, by simp, rfl⟩

theorem trans {g : Graph} {k : Nat} {s₁ s₂ s₃ : Session} {ts us : List Rose}
    (h₁ : Recorded g k s₁ s₂ ts) (h₂ : Recorded g k s₂ s₃ us) : Recorded g k s₁ s₃ (ts ++ us) := by
  refine ⟨?_, h₂.path.trans h₁.path, ?_, h₂.size.trans h₁.size⟩
  · rw [h₂.table, h₁.table, h₁.path, NodeTable.plantAll_append]
  · rw [h₂.root, h₁.root, h₁.table]
    cases ts with
    | nil => simp [NodeTable.plantAll]
    | cons T ts => cases (s₁.recorder k).root <;> simp

/-- A node is entered, trees are planted below it, and it is left again. -/
theorem node {g : Graph} {k : Nat} {s s' : Session} {id : ObjectId} {text : String}
    {below : List Rose} (htext : g.text? id = some text) (hk : k < s.recorders.size)
    (h : Recorded g k (s.enter k (g.typeOf id).name text id) s' below) :
    Recorded g k s (leave k s') [.node id below] := by
  have henter := recorder_enter s k (g.typeOf id).name text id hk
  have hsize : (s.enter k (g.typeOf id).name text id).recorders.size = s.recorders.size :=
    size_onRecorder _ k _
  have hleave : (leave k s').recorder k = (s'.recorder k).leave :=
    recorder_onRecorder s' k _ (by rw [h.size, hsize]; exact hk)
  refine ⟨?_, ?_, ?_, (size_onRecorder s' k _).trans (h.size.trans hsize)⟩
  · have htable := h.table
    rw [henter, table_enter] at htable
    rw [NodeTable.plantAll, NodeTable.plantAll, NodeTable.plant, NodeTable.nodeFor, htext]
    exact htable
  · rw [hleave, Recorder.leave, h.path, henter]
    rfl
  · rw [hleave, Recorder.leave, h.root, henter]
    cases hroot : (s.recorder k).root <;> simp [Recorder.enter, hroot]

end Recorded

/-! ## visits -/

/-- How a visit ends that should plant some trees: it gets through and plants them, or it fails. -/
def Outcome (g : Graph) (k : Nat) (s : Session) (clears : Bool) (ts : List Rose)
    (r : Except TextError Unit × Session) : Prop :=
  (clears = true ∧ ∃ s', r = (.ok (), s') ∧ Recorded g k s s' ts) ∨
    (clears = false ∧ ∃ s', r = (.error ⟨⟩, s'))

mutual

/-- Visiting a tree plants its contraction.  The induction is on the tree; the path of the recorder is
back where it was before whenever the walk leaves a node. -/
theorem visitTree_outcome {g : Graph} {w : Walker Session TextError} {k : Nat}
    {role : ObjectId → Option Role} (hrole : ∀ id, PlaysAt w k g id (role id)) :
    ∀ (T : Rose) (s : Session), k < s.recorders.size →
      Outcome g k s (T.clears g role) (T.remains role) (w.visitTree g T s)
  | .node id below, s, hk => by
      have hplays := hrole id
      rw [Rose.clears, Rose.remains, Rose.contract, Walker.visitTree]
      cases hr : role id with
      | none =>
          rw [hr] at hplays
          rw [hplays s]
          exact .inr ⟨rfl, s, rfl⟩
      | some r =>
          rw [hr] at hplays
          cases r with
          | recorded =>
              rw [hplays s]
              cases htext : g.text? id with
              | none => exact .inr ⟨rfl, s, rfl⟩
              | some text =>
                  have hk' : k < (s.enter k (g.typeOf id).name text id).recorders.size := by
                    rw [enter, size_onRecorder]
                    exact hk
                  obtain ⟨hc, s', hs', hrec⟩ | ⟨hc, s', hs'⟩ := visitTrees_outcome hrole below _ hk'
                  · refine .inl ⟨by simp [hc], leave k s', ?_, hrec.node htext hk⟩
                    simp only [hs']
                    rfl
                  · exact .inr ⟨by simp [hc], s', by simp only [hs']⟩
          | passed =>
              obtain ⟨exit, hvisit, hexit⟩ := hplays s
              rw [hvisit]
              obtain ⟨hc, s', hs', hrec⟩ | ⟨hc, s', hs'⟩ := visitTrees_outcome hrole below s hk
              · exact .inl ⟨hc, s', by simp only [hs', hexit], hrec⟩
              · exact .inr ⟨hc, s', by simp only [hs']⟩
          | pruned =>
              rw [hplays s]
              exact .inl ⟨rfl, s, rfl, .refl g k s⟩

theorem visitTrees_outcome {g : Graph} {w : Walker Session TextError} {k : Nat}
    {role : ObjectId → Option Role} (hrole : ∀ id, PlaysAt w k g id (role id)) :
    ∀ (Ts : List Rose) (s : Session), k < s.recorders.size →
      Outcome g k s (Rose.clearsAll g role Ts)
        (Rose.contractAll (fun id => (role id).getD .pruned) Ts) (w.visitTrees g Ts s)
  | [], s, _ => .inl ⟨rfl, s, rfl, .refl g k s⟩
  | T :: Ts, s, hk => by
      rw [Rose.clearsAll, Rose.contractAll, Walker.visitTrees]
      obtain ⟨hc, s', hs', hrec⟩ | ⟨hc, s', hs'⟩ := visitTree_outcome hrole T s hk
      · obtain ⟨hcs, s'', hs'', hrecs⟩ | ⟨hcs, s'', hs''⟩ :=
          visitTrees_outcome hrole Ts s' (by rw [hrec.size]; exact hk)
        · exact .inl ⟨by simp [hc, hcs], s'', by simp only [hs', hs''], hrec.trans hrecs⟩
        · exact .inr ⟨by simp [hcs], s'', by simp only [hs', hs'']⟩
      · exact .inr ⟨by simp [hc], s', by simp only [hs']⟩

end

/-! ## captures -/

/-- What a capture of a tree of expressions hands out at a node. -/
structure Captures (g : Graph) (s : Session) (node : NodeId) (T : Rose) : Prop where
  /-- The tree stands there, with the types, texts and sources of its expressions. -/
  stands : NodeTable.StandsAt g s.table node T
  /-- Read as a tree without properties, it is the tree of the expressions. -/
  tree : (s.tree node).bare = T.tree g
  /-- A walk over it comes by the expressions parents before children. -/
  walk : ∃ ids, s.table.walk node = some ids ∧ s.table.captured ids = T.preorder
  /-- It has as many nodes as the tree of expressions. -/
  count : s.table.count node = some T.preorder.length

/-- A tree that stands in the table of a session is read back with the properties of its nodes. -/
theorem tree_of_standsAt {g : Graph} {s : Session} {node : Nat} {T : Rose}
    (h : NodeTable.StandsAt g s.table node T) (hsize : node + T.preorder.length ≤ s.table.size) :
    s.tree node = T.dressed g (fun i => (s.table.entry i).properties) node := by
  rw [tree, NodeTable.tree?, NodeTable.treeWithin_eq_dressed T node _ h (by omega), Option.getD_some]

/-- A tree that stands in the table of a session can be handed out. -/
theorem captures_of_standsAt {g : Graph} {s : Session} {node : Nat} {T : Rose}
    (h : NodeTable.StandsAt g s.table node T)
    (hsize : node + T.preorder.length ≤ s.table.size) : Captures g s node T := by
  have hwalk := NodeTable.walk_of_standsAt h hsize
  refine ⟨h, ?_, ⟨_, hwalk, NodeTable.filterMap_source_of_standsAt T node h⟩, ?_⟩
  · rw [tree_of_standsAt h hsize, Rose.bare_dressed]
  · rw [NodeTable.count, hwalk, Option.map_some, List.length_range']

theorem recorders_populate (s : Session) (g : Graph) (node : NodeId) :
    (s.populate g node).recorders = s.recorders := by
  rw [populate]
  split <;> rfl

theorem size_populate (s : Session) (g : Graph) (node : NodeId) :
    (s.populate g node).table.size = s.table.size := by
  rw [populate, NodeTable.populate]
  cases s.table.walk node with
  | none => rfl
  | some ids => exact NodeTable.size_populateNodes g ids s.table _

/-- Filling in the properties of a tree gives them to its nodes one number after the other. -/
theorem table_populate {g : Graph} {s : Session} {node : Nat} {T : Rose}
    (h : NodeTable.StandsAt g s.table node T) (hsize : node + T.preorder.length ≤ s.table.size) :
    (s.populate g node).table = (NodeTable.populateNodes g s.table
      (s.table.sources (List.range' node T.preorder.length))
      (List.range' node T.preorder.length)).1 := by
  rw [populate, NodeTable.populate, NodeTable.walk_of_standsAt h hsize]
  rfl

/-- Filling in the properties of a tree leaves it where it stands. -/
theorem captures_populate {g : Graph} {s : Session} {node : Nat} {T : Rose}
    (h : NodeTable.StandsAt g s.table node T)
    (hsize : node + T.preorder.length ≤ s.table.size) : Captures g (s.populate g node) node T := by
  apply captures_of_standsAt
  · rw [table_populate h hsize]
    exact NodeTable.standsAt_congr T node
      (fun i _ _ => NodeTable.entry_populateNodes g _ s.table _ i) h
  · rw [size_populate]
    exact hsize

/-- The trees that a capture from an expression can hand out: the contraction of the unfolded graph. -/
def forest (g : Graph) (role : NodeType → Role) (root : ObjectId) : List Rose :=
  (g.unfolding root).contract fun id => role (g.typeOf id)

/-- The walk of a capture plants what is left of the unfolded graph on its own, or fails. -/
theorem trace_outcome (s : Session) (w : Walker Session TextError) (k : Nat) (g : Graph)
    (root : ObjectId) {role : ObjectId → Option Role} (hk : k < s.recorders.size)
    (hacyclic : Acyclic g.children) (hrole : ∀ id, PlaysAt w k g id (role id)) :
    ((g.unfolding root).clears g role = true ∧ ∃ s', s.trace w k g root = (.ok (), s') ∧
      Recorded g k (s.onRecorder k fun _ => .fresh) s' ((g.unfolding root).remains role)) ∨
    ((g.unfolding root).clears g role = false ∧
      ∃ s', s.trace w k g root = (.error (.tooDeep (g.typeOf root)), s')) := by
  have houtcome := visitTree_outcome hrole (g.unfolding root) (s.onRecorder k fun _ => .fresh)
    (by rw [size_onRecorder]; exact hk)
  rw [trace, w.traverse_eq_visitTree g hacyclic root]
  obtain ⟨hc, s', hs', hrec⟩ | ⟨hc, s', hs'⟩ := houtcome
  · exact .inl ⟨hc, s', by rw [hs'], hrec⟩
  · exact .inr ⟨hc, s', by rw [hs']⟩

/-- What the walk of a capture leaves behind when it has planted a tree and some others after it. -/
structure Planted (g : Graph) (k : Nat) (s s' : Session) (T : Rose) (rest : List Rose) : Prop where
  /-- The recorder started afresh. -/
  recorded : Recorded g k (s.onRecorder k fun _ => .fresh) s' (T :: rest)
  /-- The tree stands where the table ended before. -/
  stands : NodeTable.StandsAt g s'.table s.table.size T
  /-- The table has room for it. -/
  size : s.table.size + T.preorder.length ≤ s'.table.size

/-- The three ways in which a capture can end, expression by expression. -/
theorem build_outcome (s : Session) (w : Walker Session TextError) (k : Nat) (g : Graph)
    (root : ObjectId) {role : ObjectId → Option Role} (hk : k < s.recorders.size)
    (hacyclic : Acyclic g.children) (hrole : ∀ id, PlaysAt w k g id (role id)) :
    ((g.unfolding root).clears g role = false ∧
      (s.build w k g root).1 = .error (.tooDeep (g.typeOf root))) ∨
    ((g.unfolding root).clears g role = true ∧ (g.unfolding root).remains role = [] ∧
      (s.build w k g root).1 = .error (.neverVisited (g.typeOf root))) ∨
    ((g.unfolding root).clears g role = true ∧ ∃ T rest s',
      (g.unfolding root).remains role = T :: rest ∧ s.trace w k g root = (.ok (), s') ∧
      Planted g k s s' T rest ∧ s.build w k g root = (.ok s.table.size, s'.populate g s.table.size)) := by
  have hfresh : (s.onRecorder k fun _ => .fresh).recorder k = .fresh :=
    recorder_onRecorder s k _ hk
  obtain ⟨hc, s', hs', hrec⟩ | ⟨hc, s', hs'⟩ := trace_outcome s w k g root hk hacyclic hrole
  · have hroot := hrec.root
    rw [hfresh] at hroot
    cases hforest : (g.unfolding root).remains role with
    | nil =>
        rw [hforest] at hroot
        refine .inr (.inl ⟨hc, rfl, ?_⟩)
        simp only [build, hs', rootNode, hroot]
        rfl
    | cons T rest =>
        rw [hforest] at hrec hroot
        have htable : s'.table = NodeTable.plantAll g none s.table (T :: rest) := by
          rw [hrec.table, hfresh]
          rfl
        have hstand := NodeTable.standAt_plantAll g none (T :: rest) s.table (by simp)
        have hsize := NodeTable.size_plantAll g none (T :: rest) s.table
        rw [← htable] at hstand hsize
        rw [Rose.preorderOfList, List.length_append] at hsize
        refine .inr (.inr ⟨hc, T, rest, s', rfl, hs', ⟨hrec, hstand.1, by omega⟩, ?_⟩)
        simp only [build, hs', rootNode, hroot]
        rfl
  · exact .inl ⟨hc, by simp only [build, hs']⟩

/-- The three ways in which a capture can end. -/
theorem build_cases (s : Session) (w : Walker Session TextError) (k : Nat) (g : Graph)
    (root : ObjectId) (role : NodeType → Role) (hk : k < s.recorders.size)
    (hacyclic : Acyclic g.children) (hrole : ∀ type, Plays w k type (role type)) :
    (¬ g.Writable (forest g role root) ∧
      (s.build w k g root).1 = .error (.tooDeep (g.typeOf root))) ∨
    (forest g role root = [] ∧ (s.build w k g root).1 = .error (.neverVisited (g.typeOf root))) ∨
    (∃ T rest, forest g role root = T :: rest ∧ g.Writable (forest g role root) ∧
      ∃ node s', s.build w k g root = (.ok node, s') ∧ Captures g s' node T) := by
  have hclears := Rose.clears_iff (g := g) (fun id => role (g.typeOf id)) (g.unfolding root)
  obtain ⟨hc, hbuild⟩ | ⟨-, h⟩ | ⟨hc, T, rest, s', hforest, -, hplanted, hbuild⟩ :=
    build_outcome s w k g root hk hacyclic fun id => (hrole (g.typeOf id)).playsAt
  · refine .inl ⟨fun hw => ?_, hbuild⟩
    rw [hclears.mpr hw] at hc
    cases hc
  · exact .inr (.inl h)
  · exact .inr (.inr ⟨T, rest, hforest, hclears.mp hc, _, _, hbuild,
      captures_populate hplanted.stands hplanted.size⟩)

/-- **Captures**: on a graph without cycles, and whatever the roles of the types, a capture hands out
the first tree of the contraction of the unfolded graph.  It fails because the walk came by no node
exactly if the contraction is empty, and because a text cannot be written exactly if the contraction has
an expression whose text cannot.  If all types are recorded, the contraction is the unfolded graph. -/
theorem build_contract (s : Session) (w : Walker Session TextError) (k : Nat) (g : Graph)
    (root : ObjectId) (role : NodeType → Role) (hk : k < s.recorders.size)
    (hacyclic : Acyclic g.children) (hrole : ∀ type, Plays w k type (role type)) :
    ((s.build w k g root).1 = .error (.neverVisited (g.typeOf root)) ↔ forest g role root = []) ∧
    ((s.build w k g root).1 = .error (.tooDeep (g.typeOf root)) ↔
      ¬ g.Writable (forest g role root)) ∧
    (∀ T rest, forest g role root = T :: rest → g.Writable (forest g role root) →
      ∃ node s', s.build w k g root = (.ok node, s') ∧ Captures g s' node T) ∧
    ((∀ type, role type = .recorded) → forest g role root = [g.unfolding root]) := by
  have hall : (∀ type, role type = .recorded) → forest g role root = [g.unfolding root] :=
    fun h => Rose.contract_recorded (fun id => h (g.typeOf id)) (g.unfolding root)
  obtain ⟨hw, hbuild⟩ | ⟨hforest, hbuild⟩ | ⟨T, rest, hforest, hw, node, s', hbuild, hcaptures⟩ :=
    build_cases s w k g root role hk hacyclic hrole
  · have hne : forest g role root ≠ [] := by
      intro hnil
      rw [hnil] at hw
      exact hw (by simp [Graph.Writable, Rose.preorderOfList])
    exact ⟨by simp [hbuild, hne], by simp [hbuild, hw], fun _ _ _ h => absurd h hw, hall⟩
  · have hw : g.Writable (forest g role root) := by
      rw [hforest]
      simp [Graph.Writable, Rose.preorderOfList]
    refine ⟨by simp [hbuild, hforest], by simp [hbuild, hw], ?_, hall⟩
    intro T rest h
    rw [hforest] at h
    cases h
  · have hresult : (s.build w k g root).1 = .ok node := by rw [hbuild]
    refine ⟨by simp [hresult, hforest], by simp [hresult, hw], ?_, hall⟩
    intro T' rest' h _
    rw [hforest, List.cons.injEq] at h
    exact ⟨node, s', hbuild, h.1 ▸ hcaptures⟩

/-- An expression that is passed through, above two that share a child, next to one that is cut off. -/
def sharingGraph : Graph := ⟨#[
  .piece (.named "test" "Outer") (some "outer") [("this", .ref 1), ("expressions", .ref 5)],
  .piece (.named "test" "Node") (some "left") [("this", .ref 3), ("cut", .ref 4)],
  .piece (.named "test" "Node") (some "right") [("this", .ref 3)],
  .piece (.named "test" "Node") (some "shared") [],
  .piece (.named "test" "Cut") none [("this", .ref 6)],
  .list [.ref 2, .scalar (.int 1)],
  .piece (.named "test" "Node") none []]⟩

/-- A walker that records one type, cuts off another and passes through the rest. -/
def sharingWalker : Walker Session TextError :=
  { catalog := [], known := []
    hooks := [(.named "test" "Node", hook 0), (.named "test" "Cut", fun _ _ s => (.ok [], s))] }

/-- The roles of the types for that walker. -/
def sharingRole (type : NodeType) : Role :=
  if type = .named "test" "Node" then .recorded else if type = .named "test" "Cut" then .pruned else .passed

theorem build_contract_sharing :
    Acyclic sharingGraph.children ∧
    (∀ type, Plays sharingWalker 0 type (sharingRole type)) ∧
    forest sharingGraph sharingRole 0 = [.node 1 [.node 3 []], .node 2 [.node 3 []]] ∧
    sharingGraph.Writable (forest sharingGraph sharingRole 0) ∧
    ∃ node s', (⟨.empty, #[.fresh]⟩ : Session).build sharingWalker 0 sharingGraph 0 = (.ok node, s') ∧
      Captures sharingGraph s' node (.node 1 [.node 3 []]) := by
  have hacyclic : Acyclic sharingGraph.children := by
    refine acyclic_of_lt fun id c hc => ?_
    by_cases hid : id < 7
    · revert c
      revert id
      decide
    · rw [Graph.children_eq_nil _ _ (Nat.le_of_not_lt hid)] at hc
      cases hc
  have hrole : ∀ type, Plays sharingWalker 0 type (sharingRole type) := by
    intro type
    unfold sharingRole
    split
    · next h => subst h; rfl
    · split
      · next h => subst h; exact ⟨_, rfl, fun _ _ _ => rfl⟩
      · next h₁ h₂ =>
          refine .inl ?_
          simp [Walker.hookFor, sharingWalker, Ne.symm h₁, Ne.symm h₂]
  have hforest : forest sharingGraph sharingRole 0 = [.node 1 [.node 3 []], .node 2 [.node 3 []]] := by
    rfl
  have hwritable : sharingGraph.Writable (forest sharingGraph sharingRole 0) := by
    rw [hforest]
    unfold Graph.Writable
    decide
  exact ⟨hacyclic, hrole, hforest, hwritable,
    (build_contract _ sharingWalker 0 sharingGraph 0 sharingRole (by decide) hacyclic hrole).2.2.1
      _ _ hforest hwritable⟩

end Session

end QueryTree
