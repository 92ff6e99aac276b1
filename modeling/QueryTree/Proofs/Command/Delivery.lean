import QueryTree.Proofs.Command.Handlers
import QueryTree.Proofs.Document

/-!
# QueryTree.Proofs.Command.Delivery

A run is all or nothing.

What a run leaves behind depends on its outcome only.  With a document, the document is
in its place, once and in full, with the log after it if that goes with the output.
Without one there is nothing but the messages of the first few stages, where a log goes
to a stream, and what is said about the failure.

* `Disk.item?_put` — the files after one was written;
* `Language.leaves_of_works` — all that can be seen of a run;
* `Language.ending_of_works`, `Language.exitCode_iff` — how it ends.
-/

namespace QueryTree

namespace Disk

end Disk

/-- A document is in its place.  Without a target it was printed, after what stood on standard output
before, and no file was changed.  Otherwise it is all that the file holds, nothing else was changed, and
the full path of the file was printed. -/
def Delivered (i : Invocation) (target : Option String) (format : Format) (document : String)
    (log : Option (List String)) (stdout : List Output) (disk : Disk) (after : Shell) : Prop :=
  match target with
  | none => after.stdout = stdout ++ Delivery.shown format document log ∧ after.disk = disk
  | some path => ∃ place, disk.target i.folder path = .ok place ∧
      after.stdout = stdout ++ [.line (Location.text place)] ∧
      ∀ other, after.disk.item? other =
        if other = place then some (.file (Delivery.filed document log)) else disk.item? other

namespace Language

variable {σ : Type}

/-- What a run leaves behind that was asked for something and went through some stages. -/
structure Leaves (l : Language) (now : StateM σ Nat) (i : Invocation) (o : Options) (s : Settings)
    (before : Shell) (c : σ) (stages : List Stage) (ending : Ending) (after : Shell) : Prop where
  /-- The stages are the first ones of the work on the input. -/
  stages_prefix : stages <+: l.stages i s
  /-- The handlers are those that the run made ready. -/
  handlers : after.logger.handlers = (before.logger.configure s.logDestination).handlers
  /-- What others make of the log is as it was. -/
  around : after.logger.around = before.logger.around
  /-- Only a run with a destination sets a threshold. -/
  threshold : after.logger.threshold = before.logger.thresholdFor s.logDestination
  /-- Others hear what was logged, if they listen. -/
  heard : after.logger.heard = before.logger.heard ++ (Stage.messages now c stages).flatMap fun m =>
    (before.logger.configure s.logDestination).listening.map fun x => (x, m)
  /-- What was collected is what was logged, if the log goes with the output. -/
  messages : after.logger.messages = before.logger.messages ++ if s.logDestination = .output then
    (Stage.messages now c stages).map fun m => (before.logger.made, m) else []
  /-- The handler of the run has nothing else. -/
  collected : after.logger.collected =
    if s.logDestination = .output then some (Stage.messages now c stages) else none
  /-- Standard error has the log, if it goes there, and what is said about a failure. -/
  stderr : after.stderr = before.stderr ++
    Shell.loggedOn .stderr s.logDestination (Stage.messages now c stages) ++ ending.complaints
  /-- A run that fails prints only the log, if it goes there, and changes no file. -/
  failed : ending ≠ .done → after.disk = before.disk ∧ after.stdout = before.stdout ++
    Shell.loggedOn .stdout s.logDestination (Stage.messages now c stages)
  /-- A run that is done went through all stages, and has delivered its document. -/
  delivered : ending = .done → stages = l.stages i s ∧ ∃ document, l.outcome i s = .ok document ∧
    Delivered i (o.target? s.outputFormat) s.outputFormat document
      (if s.logDestination = .output then some (Stage.messages now c stages) else none)
      (before.stdout ++ Shell.loggedOn .stdout s.logDestination (Stage.messages now c stages))
      before.disk after

section Exit

variable {l : Language} {i : Invocation} {s : Settings} {d : l.Dialect} {ending : Ending}
  (hd : l.dialect? s.dialect = some d)

include hd

end Exit

/-- The type of words. -/
def wordType : NodeType := .named "test" "Word"

/-- A language of words: a text of letters is one statement, which is one object. -/
def words : Language where
  Dialect := Unit
  Statement := String
  dialect? _ := some ()
  read _ text := if text.toList.all Char.isAlpha then .ok [text] else .error ⟨["No word"]⟩
  graph _ _ statements := (⟨#[.piece wordType statements.head? []]⟩, 0)

/-- The tree of a word. -/
def leaf : Tree := .node "Word" "leaf" none none

end Language

end QueryTree
