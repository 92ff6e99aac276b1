import QueryTree.Proofs.Walk

/-!
# QueryTree.Proofs.Recount

What happens on a walk, in order.

`Walker.noting` makes every hook of a walker note its calls: which expression it was
called for, how often it asked to go on, and what of that was done on the way out.
The notes do not change the walk.  `Walker.recount` gives the same events by recursion
over the unfolded graph, for hooks that do not fail and may otherwise do what they like:

* `visitTree_noting` — a walk that is noted, against the recursion;
* `encloses_of_mem_recount` — the events of a call stand around those of all that is
  below its expression, and nothing else stands in between;
* `traverse_recount` — both for whole walks.
-/

namespace QueryTree

/-- What happens on a walk. -/
inductive Event where
  /-- A hook is called for an expression; the calls of a walk are numbered in order.  It asks to go on
  once for every element of `asked`, which says whether there is something to do on the way out. -/
  | enter (call : Nat) (id : ObjectId) (asked : List Bool)
  /-- What a call asked for with one of its requests is done on the way out. -/
  | exit (call request : Nat)
deriving DecidableEq, Repr

namespace Event

/-- The number of the call that an event belongs to. -/
def call : Event → Nat
  | .enter call _ _ => call
  | .exit call _ => call

/-- What is done on the way out of a call: what its last request asked for, if that was anything. -/
def exits (call : Nat) (asked : List Bool) : List Event :=
  if asked.getLast? = some true then [.exit call (asked.length - 1)] else []

theorem call_of_mem_exits {call : Nat} {asked : List Bool} {e : Event} (h : e ∈ exits call asked) :
    e.call = call := by
  unfold exits at h
  split at h
  · rw [List.mem_singleton.mp h]
    rfl
  · exact absurd h List.not_mem_nil

theorem enter_notMem_exits {n call : Nat} {id : ObjectId} {asked asked' : List Bool} :
    .enter call id asked ∉ exits n asked' := by
  unfold exits
  split <;> simp

/-- What is done on the way out of a call, request by request. -/
theorem count_exits (call request : Nat) (asked : List Bool) :
    (exits call asked).count (.exit call request) =
      if request + 1 = asked.length ∧ asked.getLast? = some true then 1 else 0 := by
  unfold exits
  by_cases hlast : asked.getLast? = some true
  · have hlength : 0 < asked.length := by
      cases asked with
      | nil => cases hlast
      | cons b bs => exact Nat.succ_pos _
    by_cases hrequest : request + 1 = asked.length
    · have heq : asked.length - 1 = request := by omega
      simp [hlast, hrequest, heq]
    · have hne : asked.length - 1 ≠ request := by omega
      simp [hlast, hrequest, hne]
  · simp [hlast]

end Event

/-- The state of a walk with what was noted of it. -/
structure Noted (σ : Type) where
  /-- The state. -/
  state : σ
  /-- The number of calls of hooks so far. -/
  calls : Nat
  /-- The events so far. -/
  log : List Event

/-- What stands below the root of an unfolding are the unfoldings of the children. -/
theorem Graph.eq_map_unfolding {g : Graph} (hacyclic : Acyclic g.children) {id : ObjectId}
    {below : List Rose} (h : (Rose.node id below).Unfolds g.children) :
    below = (g.children id).map g.unfolding := by
  have heq := Rose.eq_of_unfolds _ (g.unfolding id) h (g.unfolds_unfolding hacyclic id)
    (Rose.root_grow ..).symm
  rw [g.unfolding_eq hacyclic id] at heq
  exact (Rose.node.inj heq).2

namespace Walker

variable {σ : Type}

/-! ## notes -/

/-- Notes that something is done on the way out. -/
def noteExit (call request : Nat) (f : σ → σ) (s : Noted σ) : Noted σ :=
  { s with state := f s.state, log := s.log ++ [.exit call request] }

/-- Notes the calls of a hook, and what they ask for on the way out. -/
def noteHook (h : Hook σ Empty) : Hook (Noted σ) Empty := fun g id s =>
  match h g id s.state with
  | (.error e, _) => e.elim
  | (.ok requests, state) =>
    (.ok (requests.mapIdx fun i exit => exit.map (noteExit s.calls i)),
      ⟨state, s.calls + 1, s.log ++ [.enter s.calls id (requests.map Option.isSome)]⟩)

/-- The walker that notes the calls of all its hooks. -/
def noting (w : Walker σ Empty) : Walker (Noted σ) Empty :=
  ⟨w.catalog, w.known, w.hooks.map fun h => (h.1, noteHook h.2)⟩

mutual

/-- The events of a walk over a tree, the state after it and the number of the next call, by
recursion.  Without a hook, only what is below the root is walked.  A hook is called; if it never asks
to go on, that is all.  If it does, what is below is walked, and then that is done on the way out
which it asked for last. -/
def recount (w : Walker σ Empty) (g : Graph) : Rose → σ → Nat → Noted σ
  | .node id below, s, n =>
    match w.hookFor (g.typeOf id) with
    | none => recountAll w g below s n
    | some hook =>
      match hook g id s with
      | (.error e, _) => e.elim
      | (.ok requests, s) =>
        match requests.getLast? with
        | none => ⟨s, n + 1, [.enter n id []]⟩
        | some exit =>
          let r := recountAll w g below s (n + 1)
          ⟨leave exit r.state, r.calls, .enter n id (requests.map Option.isSome) ::
            (r.log ++ Event.exits n (requests.map Option.isSome))⟩

/-- The events of walks over several trees in order. -/
def recountAll (w : Walker σ Empty) (g : Graph) : List Rose → σ → Nat → Noted σ
  | [], s, n => ⟨s, n, []⟩
  | t :: ts, s, n =>
    let first := recount w g t s n
    let rest := recountAll w g ts first.state first.calls
    ⟨rest.state, rest.calls, first.log ++ rest.log⟩

end

/-! ## a walk that is noted -/

theorem hookFor_noting (w : Walker σ Empty) (type : NodeType) :
    w.noting.hookFor type = (w.hookFor type).map noteHook := by
  simp only [hookFor, noting, List.find?_map, Option.map_map]
  rfl

section Calls

variable {w : Walker σ Empty} {g : Graph} {id : ObjectId} {below : List Rose} {s t : σ}
  {requests : List (Exit σ)} {hook : Hook σ Empty}

/-- What is noted of a call of a hook. -/
theorem visit_noting (hhook : w.hookFor (g.typeOf id) = some hook)
    (hcall : hook g id s = (.ok requests, t)) (n : Nat) (log : List Event) :
    w.noting.visit g id ⟨s, n, log⟩ =
      (.ok (requests.getLast?.map fun exit => exit.map (noteExit n (requests.length - 1))),
        ⟨t, n + 1, log ++ [.enter n id (requests.map Option.isSome)]⟩) := by
  simp only [visit, hookFor_noting, hhook, Option.map_some, noteHook, hcall, List.getLast?_mapIdx]

theorem visit_of_hook (hhook : w.hookFor (g.typeOf id) = some hook)
    (hcall : hook g id s = (.ok requests, t)) : w.visit g id s = (.ok requests.getLast?, t) := by
  simp only [visit, hhook, hcall]

/-- An expression without a hook. -/
theorem recount_passed (hhook : w.hookFor (g.typeOf id) = none) (n : Nat) :
    w.recount g (.node id below) s n = w.recountAll g below s n := by
  rw [recount, hhook]

/-- A hook that never asks to go on. -/
theorem recount_pruned (hhook : w.hookFor (g.typeOf id) = some hook)
    (hcall : hook g id s = (.ok requests, t)) (hlast : requests.getLast? = none) (n : Nat) :
    w.recount g (.node id below) s n = ⟨t, n + 1, [.enter n id []]⟩ := by
  simp only [recount, hhook, hcall, hlast]

/-- A hook that asks to go on. -/
theorem recount_hooked {exit : Exit σ} (hhook : w.hookFor (g.typeOf id) = some hook)
    (hcall : hook g id s = (.ok requests, t)) (hlast : requests.getLast? = some exit) (n : Nat) :
    w.recount g (.node id below) s n =
      ⟨leave exit (w.recountAll g below t (n + 1)).state, (w.recountAll g below t (n + 1)).calls,
        .enter n id (requests.map Option.isSome) :: ((w.recountAll g below t (n + 1)).log ++
          Event.exits n (requests.map Option.isSome))⟩ := by
  simp only [recount, hhook, hcall, hlast]

end Calls

/-- The three ways in which the visit of an expression can go. -/
theorem call_cases (w : Walker σ Empty) (g : Graph) (id : ObjectId) (s : σ) :
    w.hookFor (g.typeOf id) = none ∨
    ∃ hook requests t, w.hookFor (g.typeOf id) = some hook ∧ hook g id s = (.ok requests, t) ∧
      (requests.getLast? = none ∨ ∃ exit, requests.getLast? = some exit) := by
  cases hhook : w.hookFor (g.typeOf id) with
  | none => exact .inl rfl
  | some hook =>
      rcases hcall : hook g id s with ⟨e | requests, t⟩
      · exact e.elim
      · refine .inr ⟨hook, requests, t, rfl, hcall, ?_⟩
        cases requests.getLast? with
        | none => exact .inl rfl
        | some exit => exact .inr ⟨exit, rfl⟩

/-- The last request says what is done on the way out. -/
theorem exits_of_getLast? {requests : List (Exit σ)} {exit : Exit σ}
    (hlast : requests.getLast? = some exit) (n : Nat) :
    Event.exits n (requests.map Option.isSome) =
      if exit.isSome then [.exit n (requests.length - 1)] else [] := by
  rw [Event.exits, List.getLast?_map, hlast, List.length_map]
  cases exit <;> rfl

/-- Leaving a call, with and without notes. -/
theorem leave_noting {requests : List (Exit σ)} {exit : Exit σ} (hlast : requests.getLast? = some exit)
    (n : Nat) (r : Noted σ) :
    leave (exit.map (noteExit n (requests.length - 1))) r =
      ⟨leave exit r.state, r.calls,
        r.log ++ Event.exits n (requests.map Option.isSome)⟩ := by
  rw [exits_of_getLast? hlast]
  cases exit with
  | none => simp [leave]
  | some f => simp [leave, noteExit]

mutual

/-- **Notes**: walking a tree goes as the recursion says, and what is noted are its events.  The
induction is on the tree. -/
theorem visitTree_noting (w : Walker σ Empty) (g : Graph) : ∀ (T : Rose) (s : σ) (n : Nat)
    (log : List Event),
    w.visitTree g T s = (.ok (), (w.recount g T s n).state) ∧
    w.noting.visitTree g T ⟨s, n, log⟩ = (.ok (), ⟨(w.recount g T s n).state,
      (w.recount g T s n).calls, log ++ (w.recount g T s n).log⟩)
  | .node id below, s, n, log => by
      obtain hhook | ⟨hook, requests, t, hhook, hcall, hlast | ⟨exit, hlast⟩⟩ := call_cases w g id s
      · obtain ⟨hplain, hnoted⟩ := visitTrees_noting w g below s n log
        have hvisit : w.visit g id s = (.ok (some none), s) := by rw [visit, hhook]
        have hvisit' : w.noting.visit g id ⟨s, n, log⟩ = (.ok (some none), ⟨s, n, log⟩) := by
          rw [visit, hookFor_noting, hhook]
          rfl
        simp only [visitTree, hvisit, hvisit', recount_passed hhook, hplain, hnoted]
        exact ⟨rfl, rfl⟩
      · have hvisit := visit_of_hook hhook hcall
        have hvisit' := visit_noting hhook hcall n log
        rw [hlast] at hvisit hvisit'
        have hnil : requests = [] := List.getLast?_eq_none_iff.mp hlast
        simp [visitTree, hvisit, hvisit', recount_pruned hhook hcall hlast, hnil]
      · obtain ⟨hplain, hnoted⟩ := visitTrees_noting w g below t (n + 1)
          (log ++ [.enter n id (requests.map Option.isSome)])
        have hvisit := visit_of_hook hhook hcall
        have hvisit' := visit_noting hhook hcall n log
        rw [hlast] at hvisit hvisit'
        rw [recount_hooked hhook hcall hlast]
        simp only [visitTree, hvisit, hvisit', Option.map_some, hplain, hnoted, leave_noting hlast]
        simp

theorem visitTrees_noting (w : Walker σ Empty) (g : Graph) : ∀ (Ts : List Rose) (s : σ) (n : Nat)
    (log : List Event),
    w.visitTrees g Ts s = (.ok (), (w.recountAll g Ts s n).state) ∧
    w.noting.visitTrees g Ts ⟨s, n, log⟩ = (.ok (), ⟨(w.recountAll g Ts s n).state,
      (w.recountAll g Ts s n).calls, log ++ (w.recountAll g Ts s n).log⟩)
  | [], s, n, log => by
      simp [visitTrees, recountAll]
  | T :: Ts, s, n, log => by
      obtain ⟨hplain, hnoted⟩ := visitTree_noting w g T s n log
      obtain ⟨hplain', hnoted'⟩ := visitTrees_noting w g Ts (w.recount g T s n).state
        (w.recount g T s n).calls (log ++ (w.recount g T s n).log)
      simp [visitTrees, hplain, hnoted, recountAll, hplain', hnoted']

end

/-! ## the calls of a walk -/

mutual

/-- The calls of a walk over a tree are numbered from the first number on. -/
theorem call_of_mem_recount (w : Walker σ Empty) (g : Graph) : ∀ (T : Rose) (s : σ) (n : Nat),
    n ≤ (w.recount g T s n).calls ∧
    ∀ e ∈ (w.recount g T s n).log, n ≤ e.call ∧ e.call < (w.recount g T s n).calls
  | .node id below, s, n => by
      obtain hhook | ⟨hook, requests, t, hhook, hcall, hlast | ⟨exit, hlast⟩⟩ := call_cases w g id s
      · rw [recount_passed hhook]
        exact call_of_mem_recountAll w g below s n
      · rw [recount_pruned hhook hcall hlast]
        refine ⟨Nat.le_succ n, fun e he => ?_⟩
        rw [List.mem_singleton.mp he]
        exact ⟨Nat.le_refl n, Nat.lt_succ_self n⟩
      · obtain ⟨hle, hcalls⟩ := call_of_mem_recountAll w g below t (n + 1)
        rw [recount_hooked hhook hcall hlast]
        refine ⟨by simp only; omega, fun e he => ?_⟩
        simp only
        obtain rfl | he := List.mem_cons.mp he
        · exact ⟨Nat.le_refl n, by simp only [Event.call]; omega⟩
        obtain he | he := List.mem_append.mp he
        · have := hcalls e he
          omega
        · rw [Event.call_of_mem_exits he]
          omega

theorem call_of_mem_recountAll (w : Walker σ Empty) (g : Graph) : ∀ (Ts : List Rose) (s : σ) (n : Nat),
    n ≤ (w.recountAll g Ts s n).calls ∧
    ∀ e ∈ (w.recountAll g Ts s n).log, n ≤ e.call ∧ e.call < (w.recountAll g Ts s n).calls
  | [], _, n => ⟨Nat.le_refl n, fun _ he => absurd he List.not_mem_nil⟩
  | T :: Ts, s, n => by
      obtain ⟨hle, hfirst⟩ := call_of_mem_recount w g T s n
      obtain ⟨hle', hrest⟩ := call_of_mem_recountAll w g Ts (w.recount g T s n).state
        (w.recount g T s n).calls
      rw [recountAll]
      refine ⟨by simp only; omega, fun e he => ?_⟩
      simp only
      obtain he | he := List.mem_append.mp he
      · have := hfirst e he
        omega
      · have := hrest e he
        omega

end

/-- Where the events of one call stand among those of a walk. -/
structure Encloses (w : Walker σ Empty) (g : Graph) (r : Noted σ) (call : Nat) (id : ObjectId)
    (asked : List Bool) (before inside after : List Event) (next : Nat) : Prop where
  /-- The call, what happens inside it, and what is done on the way out. -/
  log_eq : r.log = before ++ .enter call id asked :: (inside ++ (Event.exits call asked ++ after))
  /-- Inside is all that happens below the expression, or nothing if the call never asks to go on. -/
  inside_eq : if asked = [] then inside = [] else
    ∃ s, inside = (w.recountAll g ((g.children id).map g.unfolding) s (call + 1)).log
  /-- The calls inside come after this one and before the next one outside. -/
  call_inside : ∀ e ∈ inside, call < e.call ∧ e.call < next
  /-- Before are events of earlier calls. -/
  call_before : ∀ e ∈ before, e.call < call
  /-- After are events of earlier calls, and of those that come when all inside is over. -/
  call_after : ∀ e ∈ after, e.call < call ∨ next ≤ e.call
  /-- The call itself is over by then. -/
  call_lt : call < next
  /-- The walk has no more calls than are counted. -/
  next_le : next ≤ r.calls

namespace Encloses

variable {w : Walker σ Empty} {g : Graph} {r : Noted σ} {call : Nat} {id : ObjectId}
  {asked : List Bool} {before inside after : List Event} {next : Nat}

/-- A walk that goes on, and one that has begun before. -/
theorem extend (h : Encloses w g r call id asked before inside after next) (first last : List Event)
    {t : Noted σ} (hlog : t.log = first ++ (r.log ++ last)) (hfirst : ∀ e ∈ first, e.call < call)
    (hlast : ∀ e ∈ last, e.call < call ∨ r.calls ≤ e.call) (hcalls : r.calls ≤ t.calls) :
    Encloses w g t call id asked (first ++ before) inside (after ++ last) next where
  log_eq := by rw [hlog, h.log_eq]; simp
  inside_eq := h.inside_eq
  call_inside := h.call_inside
  call_before := fun e he => (List.mem_append.mp he).elim (hfirst e) (h.call_before e)
  call_after := fun e he => (List.mem_append.mp he).elim (h.call_after e) fun he =>
    (hlast e he).imp_right (Nat.le_trans h.next_le)
  call_lt := h.call_lt
  next_le := Nat.le_trans h.next_le hcalls

/-- What a call asks for is done once if its last request asks for it, and never otherwise. -/
theorem count_exit (h : Encloses w g r call id asked before inside after next) (request : Nat) :
    r.log.count (.exit call request) =
      if request + 1 = asked.length ∧ asked.getLast? = some true then 1 else 0 := by
  have hbefore : before.count (.exit call request) = 0 :=
    List.count_eq_zero.mpr fun he => Nat.lt_irrefl _ (h.call_before _ he)
  have hinside : inside.count (.exit call request) = 0 :=
    List.count_eq_zero.mpr fun he => Nat.lt_irrefl _ (h.call_inside _ he).1
  have hafter : after.count (.exit call request) = 0 :=
    List.count_eq_zero.mpr fun he => (h.call_after _ he).elim (Nat.lt_irrefl _) (Nat.not_le.mpr h.call_lt)
  rw [h.log_eq, ← Event.count_exits call]
  simp [hbefore, hinside, hafter]

end Encloses

mutual

/-- **Nesting**: what stands below an expression happens between the call for the expression and the
way out of it, and nothing else does.  The induction is on the tree; the calls of what was walked
before have lower numbers, and of what is walked later higher ones. -/
theorem encloses_of_mem_recount (w : Walker σ Empty) (g : Graph) (hacyclic : Acyclic g.children) :
    ∀ (T : Rose), T.Unfolds g.children → ∀ (s : σ) (n call : Nat) (id : ObjectId) (asked : List Bool),
      .enter call id asked ∈ (w.recount g T s n).log → ∃ before inside after next,
        Encloses w g (w.recount g T s n) call id asked before inside after next
  | .node root below, hT, s, n, call, id, asked, hmem => by
      obtain hhook | ⟨hook, requests, t, hhook, hcall, hlast | ⟨exit, hlast⟩⟩ := call_cases w g root s
      · rw [recount_passed hhook] at hmem ⊢
        exact encloses_of_mem_recountAll w g hacyclic below hT.2 s n call id asked hmem
      · rw [recount_pruned hhook hcall hlast] at hmem ⊢
        obtain ⟨rfl, rfl, rfl⟩ := Event.enter.inj (List.mem_singleton.mp hmem)
        exact ⟨[], [], [], call + 1, by simp [Event.exits], by simp, by simp, by simp, by simp,
          Nat.lt_succ_self _, Nat.le_refl _⟩
      · have hcalls := call_of_mem_recountAll w g below t (n + 1)
        have hbelow := Graph.eq_map_unfolding hacyclic hT
        rw [recount_hooked hhook hcall hlast] at hmem ⊢
        obtain hmem | hmem := List.mem_cons.mp hmem
        · obtain ⟨rfl, rfl, rfl⟩ := Event.enter.inj hmem
          have hasked : requests.map Option.isSome ≠ [] := by
            rintro hnil
            rw [List.map_eq_nil_iff.mp hnil] at hlast
            cases hlast
          refine ⟨[], (w.recountAll g below t (call + 1)).log, [], _, by simp, ?_, ?_, by simp,
            by simp, hcalls.1, Nat.le_refl _⟩
          · rw [if_neg hasked, ← hbelow]
            exact ⟨t, rfl⟩
          · exact hcalls.2
        obtain hmem | hmem := List.mem_append.mp hmem
        · obtain ⟨before, inside, after, next, h⟩ :=
            encloses_of_mem_recountAll w g hacyclic below hT.2 t (n + 1) call id asked hmem
          have hlt : n < call := (hcalls.2 _ hmem).1
          refine ⟨_, _, _, _, h.extend [_] _ rfl ?_ ?_ (Nat.le_refl _)⟩
          · intro e he
            rw [List.mem_singleton.mp he]
            exact hlt
          · intro e he
            rw [Event.call_of_mem_exits he]
            exact .inl hlt
        · exact absurd hmem Event.enter_notMem_exits

theorem encloses_of_mem_recountAll (w : Walker σ Empty) (g : Graph) (hacyclic : Acyclic g.children) :
    ∀ (Ts : List Rose), Rose.UnfoldsAll g.children Ts →
      ∀ (s : σ) (n call : Nat) (id : ObjectId) (asked : List Bool),
      .enter call id asked ∈ (w.recountAll g Ts s n).log → ∃ before inside after next,
        Encloses w g (w.recountAll g Ts s n) call id asked before inside after next
  | [], _, _, _, _, _, _, hmem => absurd hmem List.not_mem_nil
  | T :: Ts, hTs, s, n, call, id, asked, hmem => by
      have hfirst := call_of_mem_recount w g T s n
      have hrest := call_of_mem_recountAll w g Ts (w.recount g T s n).state (w.recount g T s n).calls
      rw [recountAll] at hmem ⊢
      obtain hmem | hmem := List.mem_append.mp hmem
      · obtain ⟨before, inside, after, next, h⟩ :=
          encloses_of_mem_recount w g hacyclic T hTs.1 s n call id asked hmem
        exact ⟨_, _, _, _, h.extend [] _ (List.nil_append _).symm (by simp)
          (fun e he => .inr (hrest.2 e he).1) hrest.1⟩
      · obtain ⟨before, inside, after, next, h⟩ := encloses_of_mem_recountAll w g hacyclic Ts hTs.2
          (w.recount g T s n).state (w.recount g T s n).calls call id asked hmem
        refine ⟨_, _, _, _, h.extend (w.recount g T s n).log [] (by simp) (fun e he => ?_) (by simp)
          (Nat.le_refl _)⟩
        exact Nat.lt_of_lt_of_le (hfirst.2 e he).2 (hrest.2 _ hmem).1

end

mutual

/-- Whatever happens belongs to a call. -/
theorem enter_mem_recount (w : Walker σ Empty) (g : Graph) : ∀ (T : Rose) (s : σ) (n : Nat),
    ∀ e ∈ (w.recount g T s n).log, ∃ id asked, .enter e.call id asked ∈ (w.recount g T s n).log
  | .node root below, s, n, e, he => by
      obtain hhook | ⟨hook, requests, t, hhook, hcall, hlast | ⟨exit, hlast⟩⟩ := call_cases w g root s
      · rw [recount_passed hhook] at he ⊢
        exact enter_mem_recountAll w g below s n e he
      · rw [recount_pruned hhook hcall hlast] at he ⊢
        rw [List.mem_singleton.mp he]
        exact ⟨root, [], List.mem_singleton.mpr rfl⟩
      · rw [recount_hooked hhook hcall hlast] at he ⊢
        obtain rfl | he := List.mem_cons.mp he
        · exact ⟨root, _, List.mem_cons_self⟩
        obtain he | he := List.mem_append.mp he
        · obtain ⟨id, asked, hmem⟩ := enter_mem_recountAll w g below t (n + 1) e he
          exact ⟨id, asked, List.mem_cons_of_mem _ (List.mem_append_left _ hmem)⟩
        · rw [Event.call_of_mem_exits he]
          exact ⟨root, _, List.mem_cons_self⟩

theorem enter_mem_recountAll (w : Walker σ Empty) (g : Graph) : ∀ (Ts : List Rose) (s : σ) (n : Nat),
    ∀ e ∈ (w.recountAll g Ts s n).log, ∃ id asked, .enter e.call id asked ∈ (w.recountAll g Ts s n).log
  | [], _, _, _, he => absurd he List.not_mem_nil
  | T :: Ts, s, n, e, he => by
      rw [recountAll] at he ⊢
      obtain he | he := List.mem_append.mp he
      · obtain ⟨id, asked, hmem⟩ := enter_mem_recount w g T s n e he
        exact ⟨id, asked, List.mem_append_left _ hmem⟩
      · obtain ⟨id, asked, hmem⟩ := enter_mem_recountAll w g Ts _ _ e he
        exact ⟨id, asked, List.mem_append_right _ hmem⟩

end

/-! ## walks -/

/-- **Walks, event by event**: a walk over a graph without cycles ends, and it does what the recursion
over the unfolding says, event by event.  Each call of a hook stands before all that happens below its
expression, and what it asked for last is done right after that, once; what it asked for before that is
never done.  Nothing is done on the way out that no call asked for. -/
theorem traverse_recount (w : Walker σ Empty) (g : Graph) (hacyclic : Acyclic g.children)
    (root : ObjectId) (s : σ) :
    ∃ r, w.recount g (g.unfolding root) s 0 = r ∧
      w.traverse g root s = some (.ok (), r.state) ∧
      w.noting.traverse g root ⟨s, 0, []⟩ = some (.ok (), r) ∧
      (∀ call id asked, .enter call id asked ∈ r.log →
        (∃ before inside after next, Encloses w g r call id asked before inside after next) ∧
        ∀ request, r.log.count (.exit call request) =
          if request + 1 = asked.length ∧ asked.getLast? = some true then 1 else 0) ∧
      ∀ call request, .exit call request ∈ r.log → ∃ id asked, .enter call id asked ∈ r.log := by
  obtain ⟨hplain, hnoted⟩ := visitTree_noting w g (g.unfolding root) s 0 []
  refine ⟨_, rfl, ?_, ?_, ?_, ?_⟩
  · rw [w.traverse_eq_visitTree g hacyclic root s, hplain]
  · rw [w.noting.traverse_eq_visitTree g hacyclic root ⟨s, 0, []⟩, hnoted, List.nil_append]
  · intro call id asked hmem
    obtain ⟨before, inside, after, next, h⟩ := encloses_of_mem_recount w g hacyclic
      (g.unfolding root) (g.unfolds_unfolding hacyclic root) s 0 call id asked hmem
    exact ⟨⟨before, inside, after, next, h⟩, h.count_exit⟩
  · intro call request hmem
    exact enter_mem_recount w g (g.unfolding root) s 0 _ hmem

/-- An expression above one that turns up twice and one that is cut off. -/
def forkedGraph : Graph := ⟨#[
  .piece (.named "test" "Outer") none [("this", .ref 1), ("expression", .ref 2), ("other", .ref 1)],
  .piece (.named "test" "Mind") none [("this", .ref 3)],
  .piece (.named "test" "Cut") none [("this", .ref 3)],
  .piece (.named "test" "Plain") none [("this", .ref 4)],
  .piece (.named "test" "Leaf") none [("this", .ref 5)],
  .piece (.named "test" "Cut") none []]⟩

/-- Hooks that write down numbers.  One asks twice, one changes its mind about the way out, one never
asks, and one asks every other time. -/
def forkedWalker : Walker (List Nat) Empty :=
  { catalog := [], known := []
    hooks := [
      (.named "test" "Outer", fun _ id s => (.ok [some (List.cons 10), some (List.cons 20)], id :: s)),
      (.named "test" "Mind", fun _ id s => (.ok [some (List.cons 30), none], id :: s)),
      (.named "test" "Cut", fun _ id s => (.ok [], id :: s)),
      (.named "test" "Leaf", fun _ id s =>
        (.ok (if 3 < s.length then [] else [some (List.cons 40)]), id :: s))] }

theorem traverse_recount_forked :
    Acyclic forkedGraph.children ∧ ∃ r : Noted (List Nat), r.state = [20, 4, 1, 2, 40, 5, 4, 1, 0] ∧
      r.log = [.enter 0 0 [true, true], .enter 1 1 [true, false], .enter 2 4 [true], .enter 3 5 [],
        .exit 2 0, .enter 4 2 [], .enter 5 1 [true, false], .enter 6 4 [], .exit 0 1] ∧
      forkedWalker.traverse forkedGraph 0 [] = some (.ok (), r.state) ∧
      forkedWalker.noting.traverse forkedGraph 0 ⟨[], 0, []⟩ = some (.ok (), r) ∧
      (∃ before inside after next,
        Encloses forkedWalker forkedGraph r 2 4 [true] before inside after next) ∧
      ∀ request, r.log.count (.exit 0 request) = if request = 1 then 1 else 0 := by
  have hacyclic : Acyclic forkedGraph.children := by
    refine acyclic_of_lt fun id c hc => ?_
    by_cases hid : id < 6
    · revert c
      revert id
      decide
    · rw [Graph.children_eq_nil _ _ (Nat.le_of_not_lt hid)] at hc
      cases hc
  obtain ⟨r, hr, htraverse, hnoting, hcalls, -⟩ :=
    traverse_recount forkedWalker forkedGraph hacyclic 0 []
  have hlog : r.log = [.enter 0 0 [true, true], .enter 1 1 [true, false], .enter 2 4 [true],
      .enter 3 5 [], .exit 2 0, .enter 4 2 [], .enter 5 1 [true, false], .enter 6 4 [], .exit 0 1] :=
    hr ▸ rfl
  refine ⟨hacyclic, r, hr ▸ rfl, hlog, htraverse, hnoting, ?_, fun request => ?_⟩
  · exact (hcalls 2 4 [true] (by rw [hlog]; decide)).1
  · have hcount := (hcalls 0 0 [true, true] (by rw [hlog]; decide)).2 request
    simpa using hcount

end Walker

end QueryTree
