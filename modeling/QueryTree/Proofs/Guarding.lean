import QueryTree.Proofs.Handout

/-!
# QueryTree.Proofs.Guarding

Several recorders on one walker.

Whatever was done before, the hooks of a walker are those of the recorder that was
installed last, and hooks that keep out of the session (`Session.Tended`).  So a walk
changes the state of that recorder and the nodes on its path, and nothing else:

* `capture_eq_expected` — what a new recorder on a new walker captures;
* `Tended.preserves` — what the latest recorder does not undo, no walk undoes;
* `handed_eq_of_sameTable` — it captures what a new recorder would capture;
* `Tended.build_stale_iff` — an earlier recorder captures nothing;
* `Guards.build`, `Guards.keeps` — the nodes of a tree that was handed out are on no
  path, so the tree stays as it is.
-/

namespace QueryTree

namespace Walker

variable {σ ε : Type}

/-! ## what walks preserve -/

/-- Whether all that a walker does preserves a property of the state: its visits, and what they ask for
on the way out. -/
def Preserves (w : Walker σ ε) (P : σ → Prop) : Prop :=
  ∀ g id s, P s → P (w.visit g id s).2 ∧
    ∀ exit, (w.visit g id s).1 = .ok (some exit) → ∀ t, P t → P (leave exit t)

/-- What the visits preserve, a stack preserves on which only harmless exits wait.  The induction is on
the steps. -/
theorem run_preserves {w : Walker σ ε} {P : σ → Prop} (h : w.Preserves P) (g : Graph) (fuel : Nat)
    (frames : List (Frame σ)) (s : σ) (hframes : ∀ f ∈ frames, ∀ t, P t → P (leave f.2 t))
    (hs : P s) {r : Except ε Unit × σ} (hrun : w.run g fuel frames s = some r) : P r.2 := by
  fun_induction w.run g fuel frames s with
  | case1 => cases hrun; exact hs
  | case2 => cases hrun
  | case3 fuel exit frames s ih =>
      obtain ⟨hexit, hrest⟩ := List.forall_mem_cons.mp hframes
      exact ih hrest (hexit s hs) hrun
  | case4 fuel id ids exit frames s e s' hvisit =>
      cases hrun
      have hP := (h g id s hs).1
      rwa [hvisit] at hP
  | case5 fuel id ids exit frames s s' hvisit ih =>
      have hP := (h g id s hs).1
      rw [hvisit] at hP
      exact ih (List.forall_mem_cons.mpr (List.forall_mem_cons.mp hframes)) hP hrun
  | case6 fuel id ids exit frames s exit' s' hvisit ih =>
      obtain ⟨hP, hexit⟩ := h g id s hs
      rw [hvisit] at hP hexit
      refine ih (List.forall_mem_cons.mpr ⟨hexit exit' rfl, ?_⟩) hP hrun
      exact List.forall_mem_cons.mpr (List.forall_mem_cons.mp hframes)

theorem traverse_preserves {w : Walker σ ε} {P : σ → Prop} (h : w.Preserves P) {g : Graph}
    {root : ObjectId} {s : σ} (hs : P s) {r : Except ε Unit × σ}
    (hrun : w.traverse g root s = some r) : P r.2 := by
  exact run_preserves h g _ _ s (by simp [leave]) hs hrun

theorem visit_congr {w w₀ : Walker σ ε} {g : Graph} {id : ObjectId}
    (h : w.hookFor (g.typeOf id) = w₀.hookFor (g.typeOf id)) (s : σ) :
    w.visit g id s = w₀.visit g id s := by
  rw [visit, visit, h]

/-! ## other hooks -/

/-- A walker that has other hooks and is the same otherwise. -/
structure Rehooked (w w' : Walker σ ε) (hooks : NodeType → Option (Hook σ ε)) : Prop where
  /-- The hooks that it has. -/
  hookFor : ∀ type, w'.hookFor type = hooks type
  /-- The same types are listed. -/
  catalog : w'.catalog = w.catalog
  /-- Hooks can be registered for the same types. -/
  known : w'.known = w.known

/-- Registering a hook for a type that is visited. -/
theorem register_some (w : Walker σ ε) {type : NodeType} (hook : Hook σ ε)
    (hknown : type ∈ w.known) :
    ∃ w', w.register type (some hook) = .ok w' ∧
      Rehooked w w' fun t => if t = type then some hook else w.hookFor t := by
  refine ⟨{ w with hooks := (type, hook) :: w.hooks }, ?_, ?_, rfl, rfl⟩
  · simp [register, hknown]
  · intro t
    by_cases ht : t = type
    · simp [hookFor, ht]
    · simp [hookFor, ht, Ne.symm ht]

/-- Registering for a type that is not visited, or something that is no hook. -/
theorem register_error (w : Walker σ ε) {type : NodeType} {hook : Option (Hook σ ε)}
    (h : type ∈ w.known → hook = none) : ∃ e, w.register type hook = .error e := by
  by_cases hknown : type ∈ w.known
  · exact ⟨.notHook type, by simp [register, hknown, h hknown]⟩
  · exact ⟨.unknownType type, by simp [register, hknown]⟩

end Walker

/-- A hook that keeps out of the session.  Whether it fails and what it asks for depends on the
expression only, and it changes nothing, neither when it is called nor on the way out. -/
def Bystander (h : Hook Session TextError) : Prop :=
  ∀ g id, ∃ answer, (∀ s, h g id s = (answer, s)) ∧
    ∀ requests, answer = .ok requests → ∀ exit ∈ requests, ∀ s, Walker.leave exit s = s

namespace Session

/-! ## the hooks of a walker -/

/-- The hooks of a walker that a number of recorders were installed on. -/
structure Tended (w : Walker Session TextError) (recorders : Nat) : Prop where
  /-- They are the hook of the latest recorder, and hooks that keep out of the session. -/
  hooks : ∀ type h, w.hookFor type = some h → (∃ k, k + 1 = recorders ∧ h = hook k) ∨ Bystander h
  /-- Only listed types have one. -/
  mem_catalog : ∀ type h, w.hookFor type = some h → type ∈ w.catalog
  /-- Hooks can be registered for the listed types. -/
  known : w.known = w.catalog

theorem tended_ofHierarchy (h : Hierarchy) {n : Nat} : Tended (.ofHierarchy h) n :=
  ⟨by simp [Walker.hookFor, Walker.ofHierarchy], by simp [Walker.hookFor, Walker.ofHierarchy], rfl⟩

theorem Tended.of_rehooked {w w' : Walker Session TextError}
    {hooks : NodeType → Option (Hook Session TextError)} {n n' : Nat} (ht : Tended w n)
    (h : Walker.Rehooked w w' hooks)
    (hhooks : ∀ type h, hooks type = some h → type ∈ w.catalog ∧
      ((∃ k, k + 1 = n' ∧ h = hook k) ∨ Bystander h)) : Tended w' n' := by
  refine ⟨fun type h' hh => ?_, fun type h' hh => ?_, ?_⟩
  · rw [h.hookFor] at hh
    exact (hhooks type h' hh).2
  · rw [h.hookFor] at hh
    rw [h.catalog]
    exact (hhooks type h' hh).1
  · rw [h.known, h.catalog, ht.known]

/-- A property that the latest recorder preserves when it enters and leaves nodes is preserved by all
that a walker does. -/
theorem Tended.preserves {w : Walker Session TextError} {n : Nat} (ht : Tended w n)
    {P : Session → Prop}
    (henter : ∀ k, k + 1 = n → ∀ (s : Session) typeName text id, P s → P (s.enter k typeName text id))
    (hleave : ∀ k, k + 1 = n → ∀ s, P s → P (leave k s)) : w.Preserves P := by
  intro g id s hs
  rw [Walker.visit]
  cases hhook : w.hookFor (g.typeOf id) with
  | none => exact ⟨hs, fun exit hexit t ht => by cases hexit; exact ht⟩
  | some h =>
      obtain ⟨k, hk, rfl⟩ | hbystander := ht.hooks _ _ hhook
      · simp only [hook]
        cases g.text? id with
        | none => exact ⟨hs, fun exit hexit => by cases hexit⟩
        | some text =>
            refine ⟨henter k hk s _ text id hs, fun exit hexit t ht => ?_⟩
            cases hexit
            exact hleave k hk t ht
      · obtain ⟨e | requests, hrun, hexits⟩ := hbystander g id
        · simp only [hrun]
          exact ⟨hs, fun exit hexit => by cases hexit⟩
        · simp only [hrun]
          refine ⟨hs, fun exit hexit t ht => ?_⟩
          rw [hexits requests rfl exit (List.mem_of_getLast? (Except.ok.inj hexit)) t]
          exact ht

/-- Installing the hook of a recorder for several types. -/
theorem hookAll_ok (h : Hook Session TextError) (types : List NodeType) (w : Walker Session TextError)
    (hknown : ∀ t ∈ types, t ∈ w.known) :
    ∃ w', hookAll Walker.register h w types = .ok w' ∧
      Walker.Rehooked w w' fun t => if t ∈ types then some h else w.hookFor t := by
  induction types generalizing w with
  | nil => exact ⟨w, rfl, by simp, rfl, rfl⟩
  | cons type types ih =>
      obtain ⟨htype, htypes⟩ := List.forall_mem_cons.mp hknown
      obtain ⟨w₁, hregister, h₁⟩ := w.register_some h htype
      obtain ⟨w₂, hall, h₂⟩ := ih w₁ fun t ht => by rw [h₁.known]; exact htypes t ht
      refine ⟨w₂, by rw [hookAll, hregister]; exact hall, ?_, h₂.catalog.trans h₁.catalog,
        h₂.known.trans h₁.known⟩
      intro t
      rw [h₂.hookFor, h₁.hookFor]
      by_cases ht : t = type <;> by_cases hts : t ∈ types <;> simp [ht, hts]

/-- A recorder can be installed on every walker that is only used in this way.  All hooks are then those
of the recorder. -/
theorem Tended.install {w : Walker Session TextError} {s : Session}
    (ht : Tended w s.recorders.size) :
    ∃ w', s.install w = .ok ({ s with recorders := s.recorders.push .fresh }, w') ∧
      Walker.Rehooked w w' fun t => if t ∈ w.catalog then some (hook s.recorders.size) else none := by
  obtain ⟨w', hall, hw'⟩ := hookAll_ok (hook s.recorders.size) w.catalog w
    fun t h => by rw [ht.known]; exact h
  have hhooks : ∀ t, w'.hookFor t =
      if t ∈ w.catalog then some (hook s.recorders.size) else none := by
    intro t
    rw [hw'.hookFor]
    by_cases hmem : t ∈ w.catalog
    · simp only [if_pos hmem]
    · cases hhook : w.hookFor t with
      | none => rfl
      | some h => exact absurd (ht.mem_catalog t h hhook) hmem
  have hmissing : w'.catalog.filter (fun t => (w'.hookFor t).isNone) = [] := by
    rw [List.filter_eq_nil_iff, hw'.catalog]
    intro t hmem
    simp [hhooks, hmem]
  refine ⟨w', ?_, hhooks, hw'.catalog, hw'.known⟩
  simp only [Session.install, installBy, hookCatalog, hall, hmissing]

/-- Two walkers have the same hooks, with the hook of one recorder in the place of that of another. -/
structure SameTable (w : Walker Session TextError) (k : Nat) (w₀ : Walker Session TextError)
    (k₀ : Nat) : Prop where
  /-- The hooks are those of the two recorders, or the same one that keeps out of the session. -/
  hookFor : ∀ type, (w.hookFor type = some (hook k) ∧ w₀.hookFor type = some (hook k₀)) ∨
    (w.hookFor type = w₀.hookFor type ∧ ∀ h, w.hookFor type = some h → Bystander h)

theorem Tended.sameTable {w : Walker Session TextError} {k : Nat} (ht : Tended w (k + 1)) :
    SameTable w k w k := by
  refine ⟨fun type => ?_⟩
  cases hhook : w.hookFor type with
  | none => exact .inr ⟨rfl, fun h hh => by cases hh⟩
  | some h =>
      obtain ⟨j, hj, rfl⟩ | hbystander := ht.hooks type h hhook
      · rw [Nat.succ.inj hj]
        exact .inl ⟨rfl, rfl⟩
      · refine .inr ⟨rfl, fun h' hh' => ?_⟩
        cases hh'
        exact hbystander

/-- An expression whose hook keeps out of the session is passed through or cut off, or the walk fails
there; it is not recorded. -/
theorem playsAt_of_bystander {w : Walker Session TextError} {g : Graph} {id : ObjectId}
    (h : ∀ hook, w.hookFor (g.typeOf id) = some hook → Bystander hook) (k : Nat) :
    ∃ role, role ≠ some .recorded ∧ PlaysAt w k g id role := by
  cases hhook : w.hookFor (g.typeOf id) with
  | none => exact ⟨some .passed, by decide, Plays.playsAt (.inl hhook)⟩
  | some hook =>
      obtain ⟨e | requests, hrun, hexits⟩ := h hook hhook g id
      · refine ⟨none, by decide, fun s => ?_⟩
        simp only [Walker.visit, hhook, hrun]
      · cases hlast : requests.getLast? with
        | none =>
            refine ⟨some .pruned, by decide, fun s => ?_⟩
            simp only [Walker.visit, hhook, hrun, hlast]
        | some exit =>
            refine ⟨some .passed, by decide, fun s => ⟨exit, ?_, ?_⟩⟩
            · simp only [Walker.visit, hhook, hrun, hlast]
            · exact hexits requests rfl exit (List.mem_of_getLast? hlast)

/-- What an expression does that is not recorded has nothing to do with a recorder. -/
theorem PlaysAt.of_visit_eq {w w₀ : Walker Session TextError} {k : Nat} (k₀ : Nat) {g : Graph}
    {id : ObjectId} {role : Option Role} (h : PlaysAt w k g id role) (hrole : role ≠ some .recorded)
    (hvisit : ∀ s, w.visit g id s = w₀.visit g id s) : PlaysAt w₀ k₀ g id role := by
  match role, hrole with
  | some .passed, _ => exact fun s => hvisit s ▸ h s
  | some .pruned, _ => exact fun s => (hvisit s).symm.trans (h s)
  | none, _ => exact fun s => (hvisit s).symm.trans (h s)

/-- Every expression plays the same role for two walkers with the same hooks. -/
theorem SameTable.exists_role {w w₀ : Walker Session TextError} {k k₀ : Nat}
    (h : SameTable w k w₀ k₀) (g : Graph) (id : ObjectId) :
    ∃ role, PlaysAt w k g id role ∧ PlaysAt w₀ k₀ g id role := by
  obtain ⟨hw, hw₀⟩ | ⟨heq, hbystander⟩ := h.hookFor (g.typeOf id)
  · exact ⟨some .recorded, visit_recorded hw, visit_recorded hw₀⟩
  · obtain ⟨role, hrole, hplays⟩ := playsAt_of_bystander hbystander k
    exact ⟨role, hplays, hplays.of_visit_eq k₀ hrole (Walker.visit_congr heq)⟩

/-- What a capture ends with is the same on all sessions and for all recorders, if only the hooks are
the same. -/
theorem handed_eq_of_sameTable {w w₀ : Walker Session TextError} {k k₀ : Nat}
    (h : SameTable w k w₀ k₀) {s s₀ : Session} (hk : k < s.recorders.size)
    (hk₀ : k₀ < s₀.recorders.size) {g : Graph} (hacyclic : Acyclic g.children) (root : ObjectId) :
    handed (s.build w k g root) = handed (s₀.build w₀ k₀ g root) := by
  choose role hrole hrole₀ using h.exists_role g
  rw [handed_build s w k g root hk hacyclic hrole, handed_build s₀ w₀ k₀ g root hk₀ hacyclic hrole₀]

/-! ## earlier recorders -/

/-- Changing a recorder changes no other. -/
theorem recorder_onRecorder_cases (s : Session) (k j : Nat) (f : Recorder → Recorder) :
    (s.onRecorder k f).recorder j = s.recorder j ∨
      j = k ∧ (s.onRecorder k f).recorder j = f (s.recorder j) := by
  by_cases hj : j = k
  · by_cases hk : k < s.recorders.size
    · exact .inr ⟨hj, by rw [hj]; exact recorder_onRecorder s k f hk⟩
    · refine .inl ?_
      simp [recorder, onRecorder, Array.getD_eq_getD_getElem?, hj, hk]
  · refine .inl ?_
    simp [recorder, onRecorder, Array.getD_eq_getD_getElem?, Array.getElem?_modify, Ne.symm hj]

theorem recorder_onRecorder_of_ne (s : Session) {k j : Nat} (h : j ≠ k) (f : Recorder → Recorder) :
    (s.onRecorder k f).recorder j = s.recorder j :=
  (recorder_onRecorder_cases s k j f).resolve_right fun hj => h hj.1

/-- A recorder that starts afresh, whether there is one with its number or not. -/
theorem recorder_reset (s : Session) (k : Nat) :
    (s.onRecorder k fun _ => .fresh).recorder k = .fresh := by
  by_cases hk : k < s.recorders.size
  · exact recorder_onRecorder s k _ hk
  · simp [recorder, onRecorder, Array.getD_eq_getD_getElem?, hk]
    rfl

/-- No walk changes the state of an earlier recorder, or the number of recorders. -/
theorem Tended.preserves_recorder {w : Walker Session TextError} {n : Nat} (ht : Tended w n)
    {k : Nat} (hk : k + 1 ≠ n) (r : Recorder) : w.Preserves fun s => s.recorder k = r := by
  refine ht.preserves (fun j hj s _ _ _ hs => ?_) fun j hj s hs => ?_
  · exact (recorder_onRecorder_of_ne _ (by omega) _).trans hs
  · exact (recorder_onRecorder_of_ne s (by omega) _).trans hs

theorem Tended.preserves_size {w : Walker Session TextError} {n : Nat} (ht : Tended w n)
    (size : Nat) : w.Preserves fun s => s.recorders.size = size :=
  ht.preserves (fun k _ _ _ _ _ hs => (size_onRecorder _ k _).trans hs)
    fun k _ s hs => (size_onRecorder s k _).trans hs

theorem trace_preserves {w : Walker Session TextError} {P : Session → Prop} (h : w.Preserves P)
    {s : Session} {k : Nat} (hs : P s) (hreset : P (s.onRecorder k fun _ => .fresh)) (g : Graph)
    (root : ObjectId) : P (s.trace w k g root).2 := by
  rw [trace]
  split
  · exact hs
  · next hrun => exact Walker.traverse_preserves h hreset hrun
  · next hrun => exact Walker.traverse_preserves h hreset hrun

/-- A capture with an earlier recorder never hands out a tree.  The recorder started afresh and the walk
did not change it, so it has no root. -/
theorem Tended.build_of_stale {w : Walker Session TextError} {n : Nat} (ht : Tended w n) {k : Nat}
    (hk : k + 1 ≠ n) (s : Session) {g : Graph} (hacyclic : Acyclic g.children) (root : ObjectId) :
    (s.build w k g root).1 =
      (s.trace w k g root).1.bind fun _ => .error (.neverVisited (g.typeOf root)) := by
  have hrun := w.traverse_eq_visitTree g hacyclic root (s.onRecorder k fun _ => .fresh)
  have hrecorder := Walker.traverse_preserves (ht.preserves_recorder hk .fresh) (recorder_reset s k)
    hrun
  rw [build, trace, hrun]
  rcases hvisit : w.visitTree g (g.unfolding root) (s.onRecorder k fun _ => .fresh)
    with ⟨e | _, s'⟩
  · rfl
  · rw [hvisit] at hrecorder
    simp only [rootNode, hrecorder]
    rfl

/-- An earlier recorder fails because a text cannot be written exactly if the latest one does, and
otherwise because the walk did not come by it. -/
theorem Tended.build_stale_iff {w : Walker Session TextError} {last : Nat} (ht : Tended w (last + 1))
    {s : Session} (hlast : last < s.recorders.size) {k : Nat} (hk : k ≠ last) {g : Graph}
    (hacyclic : Acyclic g.children) (root : ObjectId) :
    ((s.build w k g root).1 = .error (.neverVisited (g.typeOf root)) ∨
      (s.build w k g root).1 = .error (.tooDeep (g.typeOf root))) ∧
    ((s.build w k g root).1 = .error (.tooDeep (g.typeOf root)) ↔
      handed (s.build w last g root) = .error (.tooDeep (g.typeOf root))) := by
  choose role hrole _ using ht.sameTable.exists_role g
  have hstale := ht.build_of_stale (fun h => hk (Nat.succ.inj h)) s hacyclic root
  have houtcome := visitTree_outcome hrole (g.unfolding root) (s.onRecorder k fun _ => .fresh)
    (by rw [size_onRecorder]; exact hlast)
  rw [handed_build s w last g root hlast hacyclic hrole, expected, hstale, trace,
    w.traverse_eq_visitTree g hacyclic root]
  obtain ⟨hc, s', hs', -⟩ | ⟨hc, s', hs'⟩ := houtcome
  · rw [hs', if_pos hc]
    refine ⟨.inl rfl, ?_⟩
    cases (g.unfolding root).remains role <;> simp [Except.bind]
  · rw [hs', if_neg (by simp [hc])]
    exact ⟨.inr rfl, by simp [Except.bind]⟩

/-! ## trees that were handed out -/

/-- Some nodes are as they are in a given table, and no recorder can hang anything below them. -/
structure Guards (kept : Nat → Prop) (t : NodeTable) (s : Session) : Prop where
  /-- The nodes are as they are in the table. -/
  same : ∀ id, kept id → s.table.entry id = t.entry id
  /-- Their numbers are in use. -/
  lt : ∀ id, kept id → id < s.table.size
  /-- They are on no path. -/
  path : ∀ j, ∀ p ∈ (s.recorder j).path, p < s.table.size ∧ ¬ kept p
  /-- Nobody shares a list of children with a node on a path. -/
  own : ∀ j, ∀ p ∈ (s.recorder j).path, s.table.Own p

namespace Guards

variable {kept : Nat → Prop} {t : NodeTable} {s : Session}

/-- A recorder changes in such a way that its path stays clear of the nodes. -/
theorem onRecorder (h : Guards kept t s) {k : Nat} {f : Recorder → Recorder}
    (hf : ∀ p ∈ (f (s.recorder k)).path, (p < s.table.size ∧ ¬ kept p) ∧ s.table.Own p) :
    Guards kept t (s.onRecorder k f) := by
  have hpath : ∀ j, ∀ p ∈ ((s.onRecorder k f).recorder j).path,
      (p < s.table.size ∧ ¬ kept p) ∧ s.table.Own p := by
    intro j
    obtain hj | ⟨rfl, hj⟩ := recorder_onRecorder_cases s k j f
    · rw [hj]
      exact fun p hp => ⟨h.path j p hp, h.own j p hp⟩
    · rw [hj]
      exact hf
  exact ⟨h.same, h.lt, fun j p hp => (hpath j p hp).1, fun j p hp => (hpath j p hp).2⟩

theorem leave (h : Guards kept t s) (k : Nat) : Guards kept t (leave k s) :=
  h.onRecorder fun p hp =>
    ⟨h.path k p (List.mem_of_mem_tail hp), h.own k p (List.mem_of_mem_tail hp)⟩

/-- A node is entered.  It is new, and it is hung below the last node of the path. -/
theorem enter (h : Guards kept t s) (k : Nat) (typeName text : String) (source : ObjectId) :
    Guards kept t (s.enter k typeName text source) := by
  have htable := table_enter s k typeName text source
  have hsize : (s.enter k typeName text source).table.size = s.table.size + 1 := by
    rw [htable, NodeTable.size_hang, NodeTable.size_push]
  have hhead : ∀ p, (s.recorder k).path.head? = some p → s.table.Own p :=
    fun p hp => h.own k p (List.mem_of_mem_head? hp)
  have hpath : ∀ j, ∀ p ∈ ((s.enter k typeName text source).recorder j).path,
      (p < s.table.size + 1 ∧ ¬ kept p) ∧ (s.enter k typeName text source).table.Own p := by
    intro j p hp
    have hold : ∀ p ∈ (s.recorder j).path, (p < s.table.size + 1 ∧ ¬ kept p) ∧
        (s.enter k typeName text source).table.Own p := by
      intro p hp
      rw [htable]
      exact ⟨⟨Nat.lt_succ_of_lt (h.path j p hp).1, (h.path j p hp).2⟩,
        NodeTable.own_hang (NodeTable.own_push _ (.inl (h.own j p hp))) _ _⟩
    have hrecorder : (s.enter k typeName text source).recorder j =
        (s.onRecorder k (·.enter s.table.size)).recorder j := rfl
    rw [hrecorder] at hp
    obtain hj | ⟨rfl, hj⟩ := recorder_onRecorder_cases s k j (·.enter s.table.size)
    · rw [hj] at hp
      exact hold p hp
    · rw [hj] at hp
      obtain rfl | hp := List.mem_cons.mp hp
      · rw [htable]
        exact ⟨⟨Nat.lt_succ_self _, fun hkept => Nat.lt_irrefl _ (h.lt _ hkept)⟩,
          NodeTable.own_new _ _ _⟩
      · exact hold p hp
  refine ⟨fun id hid => ?_, fun id hid => ?_, fun j p hp => ?_, fun j p hp => (hpath j p hp).2⟩
  · have hlt := h.lt id hid
    have hparent : (s.recorder k).path.head? ≠ some id :=
      fun hhead => (h.path k id (List.mem_of_mem_head? hhead)).2 hid
    rw [htable, NodeTable.entry_hang _ (fun p hp => NodeTable.own_push _ (.inl (hhead p hp))) _ _
        (by rw [NodeTable.size_push]; omega),
      if_neg hparent, NodeTable.entry_push, if_neg (Nat.ne_of_lt hlt), h.same id hid]
  · have hlt := h.lt id hid
    omega
  · rw [hsize]
    exact (hpath j p hp).1

/-- One more recorder has no path yet. -/
theorem push (h : Guards kept t s) :
    Guards kept t { s with recorders := s.recorders.push .fresh } := by
  have hpath : ∀ j, ∀ p ∈ (recorder { s with recorders := s.recorders.push .fresh } j).path,
      p ∈ (s.recorder j).path := by
    intro j p hp
    by_cases hj : j = s.recorders.size
    · simp [recorder, Array.getD_eq_getD_getElem?, hj, Recorder.fresh] at hp
    · simpa [recorder, Array.getD_eq_getD_getElem?, Array.getElem?_push, hj] using hp
  exact ⟨h.same, h.lt, fun j p hp => h.path j p (hpath j p hp), fun j p hp => h.own j p (hpath j p hp)⟩

/-- The properties of another tree are filled in. -/
theorem populate (h : Guards kept t s) {g : Graph} {node : Nat} {T : Rose}
    (hstands : NodeTable.StandsAt g s.table node T)
    (hsize : node + T.preorder.length ≤ s.table.size) (hnode : ∀ id, kept id → id < node) :
    Guards kept t (s.populate g node) := by
  refine ⟨fun id hid => ?_, fun id hid => ?_, fun j => ?_, fun j p hp => ?_⟩
  · have hlt := hnode id hid
    rw [entry_populate hstands hsize (by omega), h.same id hid]
  · rw [size_populate]
    exact h.lt id hid
  · rw [size_populate, recorder, recorders_populate]
    exact h.path j
  · rw [recorder, recorders_populate] at hp
    exact own_populate (h.own j p hp)

end Guards

theorem Tended.preserves_guards {w : Walker Session TextError} {n : Nat} (ht : Tended w n)
    (kept : Nat → Prop) (t : NodeTable) : w.Preserves (Guards kept t) :=
  ht.preserves (fun k _ _ typeName text id hs => hs.enter k typeName text id)
    fun k _ _ hs => hs.leave k

theorem Tended.size_build {w : Walker Session TextError} {n : Nat} (ht : Tended w n) (s : Session)
    (k : Nat) (g : Graph) (root : ObjectId) :
    (s.build w k g root).2.recorders.size = s.recorders.size := by
  have htrace : (s.trace w k g root).2.recorders.size = s.recorders.size :=
    trace_preserves (ht.preserves_size _) rfl (size_onRecorder s k _) g root
  rw [build]
  rcases hs' : s.trace w k g root with ⟨e | _, s'⟩ <;> rw [hs'] at htrace
  · exact htrace
  · cases hroot : s'.rootNode k g root with
    | error e => simp only [hroot, htrace]
    | ok node => simp only [hroot, recorders_populate, htrace]

/-- A capture that fails leaves behind what its walk did. -/
theorem build_snd_of_error {s : Session} {w : Walker Session TextError} {k : Nat} {g : Graph}
    {root : ObjectId} {e : CaptureError} (h : (s.build w k g root).1 = .error e) :
    (s.build w k g root).2 = (s.trace w k g root).2 := by
  rw [build] at h ⊢
  rcases htrace : s.trace w k g root with ⟨e' | _, s'⟩
  · rfl
  · rw [htrace] at h
    cases hroot : s'.rootNode k g root with
    | error e' => simp only [hroot]
    | ok node =>
        simp only [hroot] at h
        cases h

/-- A capture that hands out a tree is one of the latest recorder.  The tree stands where the table
ended before. -/
theorem Tended.planted_of_build {w : Walker Session TextError} {s : Session}
    (ht : Tended w s.recorders.size) {k : Nat} {g : Graph} (hacyclic : Acyclic g.children)
    {root : ObjectId} {node : NodeId} {s'' : Session}
    (hbuild : s.build w k g root = (.ok node, s'')) :
    k + 1 = s.recorders.size ∧ node = s.table.size ∧
      ∃ T rest s', s.trace w k g root = (.ok (), s') ∧ Planted g k s s' T rest ∧
        s'' = s'.populate g s.table.size := by
  by_cases hk : k + 1 = s.recorders.size
  · rw [← hk] at ht
    choose role hrole _ using ht.sameTable.exists_role g
    obtain ⟨-, h⟩ | ⟨-, -, h⟩ | ⟨-, T, rest, s', -, htrace, hplanted, h⟩ :=
      build_outcome s w k g root (by omega) hacyclic hrole
    · rw [hbuild] at h
      cases h
    · rw [hbuild] at h
      cases h
    · rw [hbuild, Prod.mk.injEq, Except.ok.injEq] at h
      exact ⟨hk, h.1, T, rest, s', htrace, hplanted, h.2⟩
  · have hstale := ht.build_of_stale hk s hacyclic root
    rw [hbuild] at hstale
    cases htrace : (s.trace w k g root).1 <;> rw [htrace] at hstale <;> cases hstale

/-- Captures keep away from the nodes. -/
theorem Guards.build {kept : Nat → Prop} {t : NodeTable} {s : Session} (h : Guards kept t s)
    {w : Walker Session TextError} (ht : Tended w s.recorders.size) (k : Nat) {g : Graph}
    (hacyclic : Acyclic g.children) (root : ObjectId) : Guards kept t (s.build w k g root).2 := by
  have hreset : Guards kept t (s.onRecorder k fun _ => .fresh) :=
    h.onRecorder (by simp [Recorder.fresh])
  have htrace := trace_preserves (ht.preserves_guards kept t) h hreset g root
  rcases hbuild : s.build w k g root with ⟨e | node, s''⟩
  · have hsnd := build_snd_of_error (e := e) (by rw [hbuild])
    rw [hbuild] at hsnd
    rw [hsnd]
    exact htrace
  · obtain ⟨-, -, T, rest, s', hs', hplanted, rfl⟩ := ht.planted_of_build hacyclic hbuild
    rw [hs'] at htrace
    exact htrace.populate hplanted.stands hplanted.size h.lt

/-- A tree that is handed out can be guarded from then on: the recorder that made it has left all of its
nodes, and the paths of the others have not changed. -/
theorem Guards.of_build {t : NodeTable} {s : Session} (h : Guards (fun _ => False) t s)
    {w : Walker Session TextError} (ht : Tended w s.recorders.size) {k : Nat} {g : Graph}
    (hacyclic : Acyclic g.children) {root : ObjectId} {node : Nat} {s'' : Session}
    (hbuild : s.build w k g root = (.ok node, s'')) :
    ∃ T, NodeTable.StandsAt g s''.table node T ∧ node + T.preorder.length ≤ s''.table.size ∧
      Guards (fun id => node ≤ id ∧ id < node + T.preorder.length) s''.table s'' := by
  obtain ⟨hk, rfl, T, rest, s', hs', hplanted, rfl⟩ := ht.planted_of_build hacyclic hbuild
  have hsize := hplanted.size
  have hpath : ∀ j, ∀ p ∈ (s'.recorder j).path, j ≠ k ∧ p ∈ (s.recorder j).path := by
    intro j p hp
    by_cases hj : j = k
    · have hfresh := hplanted.recorded.path
      rw [recorder_reset] at hfresh
      rw [hj, hfresh] at hp
      exact absurd hp List.not_mem_nil
    · have hrecorder : (s.trace w k g root).2.recorder j = s.recorder j :=
        trace_preserves (ht.preserves_recorder (by omega) _) rfl (recorder_onRecorder_of_ne s hj _) g
          root
      rw [hs'] at hrecorder
      rw [hrecorder] at hp
      exact ⟨hj, hp⟩
  have htrace := trace_preserves (ht.preserves_guards (fun _ => False) t) h
    (h.onRecorder (k := k) (by simp [Recorder.fresh])) g root
  rw [hs'] at htrace
  refine ⟨T, (captures_populate hplanted.stands hsize).stands, by rw [size_populate]; exact hsize,
    fun _ _ => rfl, fun id hid => by rw [size_populate]; omega, fun j p hp => ?_, fun j p hp => ?_⟩
  · rw [recorder, recorders_populate, ← recorder] at hp
    have hlt := (h.path j p (hpath j p hp).2).1
    rw [size_populate]
    exact ⟨Nat.lt_of_lt_of_le hlt (Nat.le_of_add_right_le hsize), fun hp => Nat.not_le.mpr hlt hp.1⟩
  · rw [recorder, recorders_populate, ← recorder] at hp
    exact own_populate (htrace.own j p hp)

/-- The tree of a node is the same in a later session. -/
structure Keeps (s s' : Session) (node : NodeId) : Prop where
  /-- It has the same nodes, and they have the same types, texts, children and properties. -/
  walk : ∃ ids, s.table.walk node = some ids ∧ s'.table.walk node = some ids ∧
    ∀ id ∈ ids, s'.table.entry id = s.table.entry id
  /-- It is read back as the same tree. -/
  tree : s'.tree node = s.tree node

theorem Guards.keeps {g : Graph} {s s' : Session} {node : Nat} {T : Rose}
    (hstands : NodeTable.StandsAt g s.table node T)
    (hsize : node + T.preorder.length ≤ s.table.size)
    (h : Guards (fun id => node ≤ id ∧ id < node + T.preorder.length) s.table s') :
    Keeps s s' node := by
  have hstands' : NodeTable.StandsAt g s'.table node T :=
    NodeTable.standsAt_congr T node (fun i hlo hhi => by simp [h.same i ⟨hlo, hhi⟩]) hstands
  have hlength : 0 < T.preorder.length := by
    cases T
    exact Nat.succ_pos _
  have hsize' : node + T.preorder.length ≤ s'.table.size := by
    have := h.lt (node + T.preorder.length - 1) ⟨by omega, by omega⟩
    omega
  refine ⟨⟨_, NodeTable.walk_of_standsAt hstands hsize, NodeTable.walk_of_standsAt hstands' hsize',
    fun id hid => h.same id (List.mem_range'_1.mp hid)⟩, ?_⟩
  rw [tree_of_standsAt hstands hsize, tree_of_standsAt hstands' hsize']
  refine Rose.dressed_shift T node node fun i hi => ?_
  rw [h.same (node + i) ⟨by omega, by omega⟩]

end Session

end QueryTree
