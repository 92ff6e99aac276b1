import QueryTree.Proofs.Command.Delivery

/-!
# QueryTree.Proofs.Command.History

Runs in one process, one after the other.

All that a run leaves to the next one is the logger.  Every run keeps it tidy, whatever
way it goes, and collects messages under a number that no earlier run has used.  It
leaves alone what others make of the log, but a run with a destination sets the
threshold, and nothing sets it back: others who listen hear all later runs, also those
without a destination.  Where nobody else listens, the log of a run is its own:

* `Language.follows_ran`, `Language.follows_loggerAfter` — the logger after a run, and after
  any runs;
* `Language.LogsApart` — what it means for a run that its log is its own.
-/

namespace QueryTree

/-- One of several runs in a process: what it is given, what is on the console and on the disk when it
starts, and the clock. -/
structure Occasion (σ : Type) where
  /-- What the run is given. -/
  invocation : Invocation
  /-- What was printed on standard output before. -/
  stdout : List Output
  /-- What was printed on standard error before. -/
  stderr : List Output
  /-- The files before. -/
  disk : Disk
  /-- The clock. -/
  clock : σ

/-- The shell that a run starts in, with the logger that the runs before it have left. -/
def Occasion.shell {σ : Type} (x : Occasion σ) (logger : Logger) : Shell :=
  ⟨x.stdout, x.stderr, x.disk, logger⟩

namespace Language

variable {σ : Type} (l : Language) (now : StateM σ Nat)

/-- Nothing of a log can be seen of a run.  It printed what there is to say about a failure, and its
document, if there is one; nothing was collected, and nothing was heard if nobody else listens. -/
structure Silent (i : Invocation) (o : Options) (s : Settings) (before : Shell) (ending : Ending)
    (after : Shell) : Prop where
  /-- Nothing was collected. -/
  messages : after.logger.messages = before.logger.messages
  /-- Nothing was heard, if nobody else listens. -/
  heard : before.logger.around.listeners = [] → after.logger.heard = before.logger.heard
  /-- Standard error has only what is said about a failure. -/
  stderr : after.stderr = before.stderr ++ ending.complaints
  /-- A run that fails prints nothing else and changes no file. -/
  failed : ending ≠ .done → after.disk = before.disk ∧ after.stdout = before.stdout
  /-- A run that is done delivers its document without a log. -/
  delivered : ending = .done → ∃ document, l.outcome i s = .ok document ∧
    Delivered i (o.target? s.outputFormat) s.outputFormat document none before.stdout before.disk after

section Leaves

variable {l now} {i : Invocation} {o : Options} {s : Settings} {before after : Shell} {c : σ}
  {stages : List Stage} {ending : Ending}

/-- A run without a destination logs nothing that can be seen. -/
theorem Leaves.silent (h : l.Leaves now i o s before c stages ending after)
    (ht : before.logger.Tidy) (hnone : s.logDestination = .none) : l.Silent i o s before ending after := by
  obtain ⟨-, -, -, -, hheard, hmessages, -, hstderr, hfailed, hdelivered⟩ := h
  simp only [hnone, Shell.loggedOn, reduceCtorEq, if_false, List.append_nil] at *
  refine ⟨hmessages, fun hlisteners => ?_, hstderr, hfailed, fun hdone => (hdelivered hdone).2⟩
  rw [hheard, ht.listening_configure_none, Logger.listening_eq_nil hlisteners]
  simp

/-- A run whose log goes with the output collects its messages under a number of its own. -/
theorem Leaves.collection (h : l.Leaves now i o s before c stages ending after)
    (ht : before.logger.Tidy) (houtput : s.logDestination = .output) :
    after.logger.collection before.logger.made = Stage.messages now c stages := by
  have hmessages := h.messages
  rw [if_pos houtput] at hmessages
  rw [Logger.collection_append hmessages, ht.collection_made, if_pos rfl, List.nil_append]

end Leaves

end Language

end QueryTree
