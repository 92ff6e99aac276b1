import QueryTree.Proofs.Guarding

/-!
# QueryTree.Proofs.Reuse

Recorders keep nothing from one capture to the next.

A walker is used again and again: recorders are installed on it, other hooks are
registered, and graphs are captured with any of the recorders.  Captures fail half-way
with nodes still entered, and the walks of earlier recorders drive the latest one.
`Workbench.run` is any number of such operations.

* `tended_after`, `guards_after` — what each operation preserves;
* `mirrors_run` — the hooks are those after the last installation on a new walker;
* `run_memoryless` — the latest recorder captures like a new one, the others capture
  nothing, and no operation changes a tree that was handed out.
-/

namespace QueryTree

/-- What is done with a walker and the recorders on it. -/
inductive Operation where
  /-- One more recorder is installed. -/
  | install
  /-- A hook is registered for a type, or something that is no hook. -/
  | register (type : NodeType) (hook : Option (Hook Session TextError))
  /-- A graph is captured from a node on with recorder `k`. -/
  | build (k : Nat) (g : Graph) (root : ObjectId)

namespace Operation

/-- Whether registered hooks keep out of the session and captured graphs have no cycles. -/
def Orderly : Operation → Prop
  | .install => True
  | .register _ hook => ∀ h, hook = some h → Bystander h
  | .build _ g _ => Acyclic g.children

/-- Whether a recorder is installed. -/
def isInstall : Operation → Bool
  | .install => true
  | _ => false

/-- Keeps those operations that the hooks of a walker come from, when one more is done: an installation
makes up for all before it, and captures change no hook. -/
def settle : List Operation → Operation → List Operation
  | _, .install => [.install]
  | ops, .register type hook => ops ++ [.register type hook]
  | ops, .build _ _ _ => ops

/-- The last installation and the registrations after it. -/
def settled (ops : List Operation) : List Operation := ops.foldl settle []

end Operation

/-- A session and the walker that its recorders are installed on. -/
structure Workbench where
  /-- The session. -/
  session : Session
  /-- The walker. -/
  walker : Walker Session TextError

namespace Workbench

open Session (hook)

/-- A new walker for the types of a hierarchy, without recorders. -/
def ofHierarchy (h : Hierarchy) : Workbench := ⟨.empty, .ofHierarchy h⟩

/-- A capture with recorder `k`. -/
def build (b : Workbench) (k : Nat) (g : Graph) (root : ObjectId) :
    Except CaptureError NodeId × Session :=
  b.session.build b.walker k g root

/-- What is left after an operation; an installation or a registration that fails changes nothing. -/
def after (b : Workbench) : Operation → Workbench
  | .install =>
    match b.session.install b.walker with
    | .error _ => b
    | .ok (s, w) => ⟨s, w⟩
  | .register type hook =>
    match b.walker.register type hook with
    | .error _ => b
    | .ok w => { b with walker := w }
  | .build k g root => { b with session := (b.build k g root).2 }

/-- What is left after several operations. -/
def run (b : Workbench) (ops : List Operation) : Workbench := ops.foldl after b

theorem run_append_cons (b : Workbench) (earlier : List Operation) (op : Operation)
    (later : List Operation) :
    b.run (earlier ++ op :: later) = ((b.run earlier).after op).run later := by
  simp [run]

/-- The hooks of the walker are those of the latest recorder, and hooks that keep out of the session. -/
def Tended (b : Workbench) : Prop := Session.Tended b.walker b.session.recorders.size

/-! ## one operation -/

section After

variable {b : Workbench} (ht : b.Tended)
include ht

/-- Installations never fail. -/
theorem after_install : ∃ w,
    b.after .install = ⟨{ b.session with recorders := b.session.recorders.push .fresh }, w⟩ ∧
    Walker.Rehooked b.walker w fun t =>
      if t ∈ b.walker.catalog then some (hook b.session.recorders.size) else none := by
  obtain ⟨w, hinstall, hw⟩ := Session.Tended.install ht
  exact ⟨w, by simp only [after, hinstall], hw⟩

/-- A registration has an effect if there is a hook, and the type is visited. -/
theorem after_register (type : NodeType) (hook : Option (Hook Session TextError)) :
    ((type ∈ b.walker.catalog → hook = none) ∧ b.after (.register type hook) = b) ∨
    ∃ h w, hook = some h ∧ type ∈ b.walker.catalog ∧
      b.after (.register type hook) = { b with walker := w } ∧
      Walker.Rehooked b.walker w fun t => if t = type then some h else b.walker.hookFor t := by
  by_cases heffect : type ∈ b.walker.catalog → hook = none
  · have hknown : type ∈ b.walker.known → hook = none := by rwa [ht.known]
    obtain ⟨e, herror⟩ := b.walker.register_error hknown
    exact .inl ⟨heffect, by simp only [after, herror]⟩
  · obtain ⟨hmem, hsome⟩ := Classical.not_imp.mp heffect
    obtain ⟨h, rfl⟩ := Option.ne_none_iff_exists'.mp hsome
    have hknown : type ∈ b.walker.known := by rwa [ht.known]
    obtain ⟨w, hregister, hw⟩ := b.walker.register_some h hknown
    exact .inr ⟨h, w, rfl, hmem, by simp only [after, hregister], hw⟩

/-- The number of recorders counts the installations. -/
theorem size_after (op : Operation) : (b.after op).session.recorders.size =
    b.session.recorders.size + if op.isInstall then 1 else 0 := by
  cases op with
  | install =>
      obtain ⟨w, hafter, -⟩ := after_install ht
      rw [hafter]
      exact Array.size_push _
  | register type hook =>
      obtain ⟨-, hafter⟩ | ⟨h, w, -, -, hafter, -⟩ := after_register ht type hook <;> rw [hafter] <;> rfl
  | build k g root => exact Session.Tended.size_build ht b.session k g root

theorem tended_after {op : Operation} (hop : op.Orderly) : (b.after op).Tended := by
  cases op with
  | install =>
      obtain ⟨w, hafter, hw⟩ := after_install ht
      rw [hafter, Tended, Array.size_push]
      refine Session.Tended.of_rehooked ht hw fun type h hh => ?_
      obtain ⟨hmem, hhook⟩ := Option.ite_none_right_eq_some.mp hh
      exact ⟨hmem, .inl ⟨_, rfl, (Option.some.inj hhook).symm⟩⟩
  | register type hook =>
      obtain ⟨-, hafter⟩ | ⟨h, w, hsome, hmem, hafter, hw⟩ := after_register ht type hook
      · rw [hafter]
        exact ht
      · rw [hafter]
        refine Session.Tended.of_rehooked ht hw fun t h' hh => ?_
        by_cases htype : t = type
        · rw [if_pos htype] at hh
          rw [htype]
          exact ⟨hmem, .inr (Option.some.inj hh ▸ hop h hsome)⟩
        · rw [if_neg htype] at hh
          exact ⟨ht.mem_catalog t h' hh, ht.hooks t h' hh⟩
  | build k g root =>
      have hsize := Session.Tended.size_build ht b.session k g root
      rw [Tended, after, build, hsize]
      exact ht

/-- No operation changes a node that is on no path. -/
theorem guards_after {op : Operation} (hop : op.Orderly) {kept : Nat → Prop} {t : NodeTable}
    (h : Session.Guards kept t b.session) : Session.Guards kept t (b.after op).session := by
  cases op with
  | install =>
      obtain ⟨w, hafter, -⟩ := after_install ht
      rw [hafter]
      exact h.push
  | register type hook =>
      obtain ⟨-, hafter⟩ | ⟨_, w, -, -, hafter, -⟩ := after_register ht type hook <;> rw [hafter] <;>
        exact h
  | build k g root => exact h.build ht k hop root

end After

/-! ## any number of operations -/

theorem tended_run {b : Workbench} (ht : b.Tended) {ops : List Operation}
    (hops : ∀ op ∈ ops, op.Orderly) : (b.run ops).Tended ∧
      (b.run ops).session.recorders.size =
        b.session.recorders.size + ops.countP Operation.isInstall := by
  induction ops generalizing b with
  | nil => exact ⟨ht, rfl⟩
  | cons op ops ih =>
      obtain ⟨hop, hops⟩ := List.forall_mem_cons.mp hops
      obtain ⟨ht', hsize⟩ := ih (tended_after ht hop) hops
      refine ⟨ht', ?_⟩
      rw [size_after ht] at hsize
      rw [List.countP_cons, ← Nat.add_assoc, Nat.add_right_comm]
      exact hsize

theorem guards_run {b : Workbench} (ht : b.Tended) {ops : List Operation}
    (hops : ∀ op ∈ ops, op.Orderly) {kept : Nat → Prop} {t : NodeTable}
    (h : Session.Guards kept t b.session) : Session.Guards kept t (b.run ops).session := by
  induction ops generalizing b with
  | nil => exact h
  | cons op ops ih =>
      obtain ⟨hop, hops⟩ := List.forall_mem_cons.mp hops
      exact ih (tended_after ht hop) hops (guards_after ht hop h)

/-! ## a new recorder -/

/-- A walker with one new recorder on it, if any, has the same hooks as another one, for the types of a
hierarchy. -/
structure Mirrors (h : Hierarchy) (b b₀ : Workbench) : Prop where
  /-- Both are only used for captures. -/
  tended : b.Tended ∧ b₀.Tended
  /-- They list the types of the hierarchy. -/
  catalog : b.walker.catalog = h.catalog ∧ b₀.walker.catalog = h.catalog
  /-- The recorder has not been used. -/
  session : b₀.session = ⟨.empty, if b.session.recorders.size = 0 then #[] else #[.fresh]⟩
  /-- The hooks are those of the latest recorders, or the same one that keeps out of the session. -/
  hookFor : ∀ type, (∃ k, k + 1 = b.session.recorders.size ∧ b.walker.hookFor type = some (hook k) ∧
      b₀.walker.hookFor type = some (hook 0)) ∨
    (b.walker.hookFor type = b₀.walker.hookFor type ∧
      ∀ h, b.walker.hookFor type = some h → Bystander h)

theorem mirrors_ofHierarchy (h : Hierarchy) : Mirrors h (ofHierarchy h) (ofHierarchy h) :=
  ⟨⟨Session.tended_ofHierarchy h, Session.tended_ofHierarchy h⟩, ⟨rfl, rfl⟩, rfl,
    fun _ => .inr ⟨rfl, fun _ hh => by cases hh⟩⟩

namespace Mirrors

variable {h : Hierarchy} {b b₀ : Workbench} (hm : Mirrors h b b₀)
include hm

/-- After an installation, all hooks are those of a recorder that was not used. -/
theorem install : Mirrors h (b.after .install) ((ofHierarchy h).after .install) := by
  have hstart := (mirrors_ofHierarchy h).tended.1
  obtain ⟨w, hafter, hw⟩ := after_install hm.tended.1
  obtain ⟨w₀, hafter₀, hw₀⟩ := after_install hstart
  refine ⟨⟨tended_after hm.tended.1 trivial, tended_after hstart trivial⟩, ?_, ?_, fun type => ?_⟩
  · rw [hafter, hafter₀]
    exact ⟨hw.catalog.trans hm.catalog.1, hw₀.catalog⟩
  · rw [hafter, hafter₀]
    simp [ofHierarchy, Session.empty]
  · rw [hafter, hafter₀]
    simp only [hw.hookFor, hw₀.hookFor, hm.catalog.1, Array.size_push]
    by_cases hmem : type ∈ h.catalog
    · refine .inl ⟨_, rfl, if_pos hmem, if_pos hmem⟩
    · refine .inr ⟨?_, fun h' hh => ?_⟩
      · rw [if_neg hmem]
        exact (if_neg hmem).symm
      · rw [if_neg hmem] at hh
        cases hh

theorem register {type : NodeType} {hook : Option (Hook Session TextError)}
    (hop : (Operation.register type hook).Orderly) :
    Mirrors h (b.after (.register type hook)) (b₀.after (.register type hook)) := by
  have htended := tended_after hm.tended.1 hop
  have htended₀ := tended_after hm.tended.2 hop
  obtain ⟨heffect, hafter⟩ | ⟨f, w, hsome, hmem, hafter, hw⟩ :=
    after_register hm.tended.1 type hook <;>
  obtain ⟨heffect₀, hafter₀⟩ | ⟨f₀, w₀, hsome₀, hmem₀, hafter₀, hw₀⟩ :=
    after_register hm.tended.2 type hook
  · rw [hafter, hafter₀]
    exact hm
  · -- the two walkers visit the same types
    rw [hm.catalog.2, ← hm.catalog.1] at hmem₀
    rw [heffect hmem₀] at hsome₀
    cases hsome₀
  · rw [hm.catalog.1, ← hm.catalog.2] at hmem
    rw [heffect₀ hmem] at hsome
    cases hsome
  · rw [hafter] at htended
    rw [hafter₀] at htended₀
    rw [hafter, hafter₀]
    obtain rfl : f = f₀ := Option.some.inj (hsome.symm.trans hsome₀)
    refine ⟨⟨htended, htended₀⟩, ⟨hw.catalog.trans hm.catalog.1, hw₀.catalog.trans hm.catalog.2⟩,
      hm.session, fun t => ?_⟩
    simp only [hw.hookFor, hw₀.hookFor]
    by_cases ht : t = type
    · refine .inr ⟨by rw [if_pos ht, if_pos ht], fun h' hh => ?_⟩
      rw [if_pos ht] at hh
      exact Option.some.inj hh ▸ hop f hsome
    · simp only [if_neg ht]
      exact hm.hookFor t

theorem build {k : Nat} {g : Graph} {root : ObjectId}
    (hop : (Operation.build k g root).Orderly) : Mirrors h (b.after (.build k g root)) b₀ := by
  have hsize := Session.Tended.size_build hm.tended.1 b.session k g root
  refine ⟨⟨tended_after hm.tended.1 hop, hm.tended.2⟩, hm.catalog, ?_, fun type => ?_⟩
  · rw [after, Workbench.build, hsize]
    exact hm.session
  · rw [after, Workbench.build, hsize]
    exact hm.hookFor type

theorem sameTable {k : Nat} (hk : b.session.recorders.size = k + 1) :
    b₀.session = ⟨.empty, #[.fresh]⟩ ∧ Session.SameTable b.walker k b₀.walker 0 := by
  have hsession := hm.session
  rw [hk] at hsession
  refine ⟨hsession, ⟨fun type => ?_⟩⟩
  obtain ⟨j, hj, hhook⟩ | hsame := hm.hookFor type
  · obtain rfl : j = k := by omega
    exact .inl hhook
  · exact .inr hsame

end Mirrors

/-- After any number of operations, the hooks are those that the last installation and the registrations
after it leave on a new walker. -/
theorem mirrors_run (h : Hierarchy) (ops : List Operation) (hops : ∀ op ∈ ops, op.Orderly) :
    Mirrors h ((ofHierarchy h).run ops) ((ofHierarchy h).run (Operation.settled ops)) := by
  induction ops using List.reverseRecOn with
  | nil => exact mirrors_ofHierarchy h
  | append_singleton ops op ih =>
      have hm := ih fun o ho => hops o (List.mem_append_left _ ho)
      have hop := hops op (List.mem_append_right _ List.mem_cons_self)
      rw [run_append_cons, Operation.settled, List.foldl_append, ← Operation.settled]
      cases op with
      | install => exact hm.install
      | register type hook =>
          have hrun := run_append_cons (ofHierarchy h) (Operation.settled ops) (.register type hook) []
          simp only [List.foldl_cons, List.foldl_nil, Operation.settle]
          rw [hrun]
          exact hm.register hop
      | build k g root => exact hm.build hop

theorem guards_ofHierarchy (h : Hierarchy) :
    Session.Guards (fun _ => False) .empty (ofHierarchy h).session := by
  have hpath : ∀ j, ((ofHierarchy h).session.recorder j).path = [] := by
    simp [ofHierarchy, Session.empty, Session.recorder, Recorder.fresh, default]
  refine ⟨fun _ hid => hid.elim, fun _ hid => hid.elim, fun j p hp => ?_, fun j p hp => ?_⟩ <;>
    rw [hpath] at hp <;> cases hp

/-- A tree that is handed out stays as it is, whatever is done later. -/
theorem keeps_run {b : Workbench} (ht : b.Tended)
    (hguards : Session.Guards (fun _ => False) .empty b.session) {k : Nat} {g : Graph}
    {root : ObjectId} (hacyclic : Acyclic g.children) {node : NodeId} {s : Session}
    (hbuild : b.build k g root = (.ok node, s)) {later : List Operation}
    (hlater : ∀ op ∈ later, op.Orderly) :
    Session.Keeps s ((b.after (.build k g root)).run later).session node := by
  obtain ⟨T, hstands, hsize, hguards'⟩ := hguards.of_build ht hacyclic hbuild
  have hafter : (b.after (.build k g root)).session = s := by rw [after, hbuild]
  rw [← hafter] at hguards'
  have hop : (Operation.build k g root).Orderly := hacyclic
  have hlast := guards_run (tended_after ht hop) hlater hguards'
  rw [hafter] at hlast
  exact hlast.keeps hstands hsize

/-- **No memory**: on a new walker, recorders are installed, hooks registered that keep out of the
session, and graphs without cycles captured, in any order.  Whatever happened before, a capture with the
latest recorder ends like one with a new recorder on a walker with the same hooks, such as the one that
the last installation and the registrations after it make.  A capture with an earlier recorder fails
because the walk did not come by it, unless a text could not be written.  And nothing changes a tree that
was handed out. -/
theorem run_memoryless (h : Hierarchy) (ops : List Operation) (hops : ∀ op ∈ ops, op.Orderly) :
    ∃ b, (ofHierarchy h).run ops = b ∧
      b.session.recorders.size = ops.countP Operation.isInstall ∧
      (∀ last, b.session.recorders.size = last + 1 →
        (∃ w₀, (ofHierarchy h).run (Operation.settled ops) = ⟨⟨.empty, #[.fresh]⟩, w₀⟩ ∧
          Session.SameTable b.walker last w₀ 0) ∧
        (∀ w₀, Session.SameTable b.walker last w₀ 0 → ∀ g root, Acyclic g.children →
          Session.handed (b.build last g root) =
            Session.handed (Workbench.build ⟨⟨.empty, #[.fresh]⟩, w₀⟩ 0 g root)) ∧
        ∀ k, k < last → ∀ g root, Acyclic g.children →
          ((b.build k g root).1 = .error (.neverVisited (g.typeOf root)) ∨
            (b.build k g root).1 = .error (.tooDeep (g.typeOf root))) ∧
          ((b.build k g root).1 = .error (.tooDeep (g.typeOf root)) ↔
            Session.handed (b.build last g root) = .error (.tooDeep (g.typeOf root)))) ∧
      ∀ earlier k g root later, ops = earlier ++ .build k g root :: later → ∀ node s,
        ((ofHierarchy h).run earlier).build k g root = (.ok node, s) →
          Session.Keeps s b.session node := by
  have hstart : (ofHierarchy h).Tended := Session.tended_ofHierarchy h
  obtain ⟨ht, hsize⟩ := tended_run hstart hops
  refine ⟨_, rfl, hsize.trans (Nat.zero_add _), fun last hlast => ⟨?_, ?_, ?_⟩, ?_⟩
  · obtain ⟨hsession, hsame⟩ := (mirrors_run h ops hops).sameTable hlast
    exact ⟨_, by rw [← hsession], hsame⟩
  · intro w₀ hsame g root hacyclic
    have hnew : 0 < (⟨.empty, #[.fresh]⟩ : Session).recorders.size := Nat.one_pos
    exact Session.handed_eq_of_sameTable hsame (by omega) hnew hacyclic root
  · intro k hk g root hacyclic
    rw [Tended, hlast] at ht
    exact ht.build_stale_iff (by omega) (Nat.ne_of_lt hk) hacyclic root
  · rintro earlier k g root later rfl node s hbuild
    obtain ⟨hearlier, hrest⟩ := List.forall_mem_append.mp hops
    obtain ⟨hacyclic, hlater⟩ := List.forall_mem_cons.mp hrest
    rw [run_append_cons]
    exact keeps_run (tended_run hstart hearlier).1 (guards_run hstart hearlier (guards_ofHierarchy h))
      hacyclic hbuild hlater

/-- An expression with two below it; the text of the second one cannot be written. -/
def spoiledGraph : Graph := ⟨#[
  .piece (.named "test" "Node") (some "top") [("this", .ref 1), ("expression", .ref 2)],
  .piece (.named "test" "Node") (some "left") [("limit", .scalar (.text "ten"))],
  .piece (.named "test" "Bad") none []]⟩

/-- The types of those expressions. -/
def spoiledTypes : Hierarchy := ⟨.named "test" "Bad", [(.named "test" "Bad", .named "test" "Node")]⟩

/-- A recorder captures the first expression below and fails at the top.  Another one takes its place and
fails there too, and then the first one drives it.  At last the expression that spoils it all is cut off. -/
def spoiledHistory : List Operation := [
  .install, .build 0 spoiledGraph 1, .build 0 spoiledGraph 0,
  .install, .build 1 spoiledGraph 0, .build 0 spoiledGraph 1,
  .register (.named "test" "Bad") (some fun _ _ s => (.ok [], s))]

theorem run_memoryless_spoiled :
    (∀ op ∈ spoiledHistory, op.Orderly) ∧
    ∃ b w₀, (ofHierarchy spoiledTypes).run spoiledHistory = b ∧
      (ofHierarchy spoiledTypes).run (Operation.settled spoiledHistory) =
        ⟨⟨.empty, #[.fresh]⟩, w₀⟩ ∧
      (b.build 1 spoiledGraph 0).1 = .ok 6 ∧
      Session.handed (b.build 1 spoiledGraph 0) =
        Session.handed (Workbench.build ⟨⟨.empty, #[.fresh]⟩, w₀⟩ 0 spoiledGraph 0) ∧
      (b.build 0 spoiledGraph 1).1 = .error (.neverVisited (.named "test" "Node")) ∧
      ∃ s, ((ofHierarchy spoiledTypes).run [.install]).build 0 spoiledGraph 1 = (.ok 0, s) ∧
        Session.Keeps s b.session 0 := by
  have hacyclic : Acyclic spoiledGraph.children := by
    refine acyclic_of_lt fun id c hc => ?_
    by_cases hid : id < 3
    · revert c
      revert id
      decide
    · rw [Graph.children_eq_nil _ _ (Nat.le_of_not_lt hid)] at hc
      cases hc
  have hcut : Bystander fun _ _ s => (.ok [], s) := fun _ _ =>
    ⟨.ok [], fun _ => rfl, fun _ hnil => Except.ok.inj hnil ▸ by simp⟩
  have horderly : ∀ op ∈ spoiledHistory, op.Orderly := by
    simp only [spoiledHistory, List.forall_mem_cons]
    refine ⟨trivial, hacyclic, hacyclic, trivial, hacyclic, hacyclic, ?_, by simp⟩
    intro h hh
    exact Option.some.inj hh ▸ hcut
  -- the walker, with its types in order
  have hstart : ofHierarchy spoiledTypes = ⟨.empty, [.named "test" "Bad", .named "test" "Node"],
      [.named "test" "Bad", .named "test" "Node"], []⟩ := by
    have hcatalog : spoiledTypes.catalog = [.named "test" "Bad", .named "test" "Node"] :=
      List.mergeSort_of_pairwise (by decide +kernel)
    rw [ofHierarchy, Walker.ofHierarchy, hcatalog]
  obtain ⟨b, hb, hsize, hlast, hkept⟩ := run_memoryless spoiledTypes spoiledHistory horderly
  obtain ⟨⟨w₀, hnew, hsame⟩, hhanded, hstale⟩ := hlast 1 hsize
  refine ⟨horderly, b, w₀, hb, hnew, ?_, hhanded w₀ hsame spoiledGraph 0 hacyclic, ?_, ?_⟩
  · rw [← hb, hstart]
    decide +kernel
  · refine (hstale 0 Nat.one_pos spoiledGraph 1 hacyclic).1.resolve_right ?_
    rw [← hb, hstart]
    decide +kernel
  · have hfirst : (((ofHierarchy spoiledTypes).run [.install]).build 0 spoiledGraph 1).1 = .ok 0 := by
      rw [hstart]
      decide +kernel
    rcases hbuild : ((ofHierarchy spoiledTypes).run [.install]).build 0 spoiledGraph 1 with ⟨r, s⟩
    rw [hbuild] at hfirst
    cases hfirst
    exact ⟨s, rfl, hkept [.install] 0 spoiledGraph 1 _ rfl 0 s hbuild⟩

end Workbench

end QueryTree
