import QueryTree.Settings.Basic

/-!
# QueryTree.Command.Logger

The timing log of runs.

A message goes to every handler that is attached when it is written.  A handler
prints to a stream or collects the messages.  A run attaches at most one; it first
takes away the one that an earlier run attached, so that messages of different runs
never meet.

Others may listen too, at the logger or at the one outside of it, to which messages are
handed on.  A message is written only if it is severe enough for the logger, which takes
the least severity from outside until a run sets its own.  A listener may ask for more,
a handler of a run never does.  What a run sets stays set.

* `Logger.configure` — makes ready for a run (`configure_logging`);
* `Logger.collected` — what a handler has collected.
-/

namespace QueryTree

/-- What has been timed. -/
inductive Stage where
  /-- Reading the query. -/
  | parsing
  /-- Hooking a recorder into a walker for so many types. -/
  | setup (types : Nat)
  /-- The walk over the query. -/
  | traversal
  /-- Filling in the properties. -/
  | properties
  /-- Rendering in a format. -/
  | rendering (format : Format)
deriving DecidableEq, Repr

/-- Microseconds as seconds. -/
def secondsText (microseconds : Nat) : String :=
  String.ofList (Decimal.digitChars (microseconds / 1000000) ++
    '.' :: Decimal.padded 6 (microseconds % 1000000))

/-- The message for a stage that took some microseconds. -/
def Stage.message (elapsed : Nat) : Stage → String
  | .parsing => "Parse took: " ++ secondsText elapsed ++ "s"
  | .setup types =>
    "Create visitor time: " ++ secondsText elapsed ++ "s (" ++ toString types ++ " node types)"
  | .traversal => "Visitor time: " ++ secondsText elapsed ++ "s"
  | .properties => "Property time: " ++ secondsText elapsed ++ "s"
  | .rendering f => "Render " ++ f.title ++ ": " ++ secondsText elapsed ++ "s"

/-- Where a handler puts messages. -/
inductive Sink where
  /-- On standard output. -/
  | stdout
  /-- On standard error. -/
  | stderr
  /-- Into a collection of its own. -/
  | collection
deriving DecidableEq, Repr

/-- A receiver of messages. -/
structure Handler where
  /-- Its number. -/
  number : Nat
  /-- Where it puts messages. -/
  sink : Sink
deriving DecidableEq, Repr

/-- A receiver of messages that no run has attached. -/
structure Listener where
  /-- Its name. -/
  name : String
  /-- The least severity of the messages that it takes. -/
  threshold : Nat
deriving DecidableEq, Repr

/-- What others make of the log. -/
structure Surroundings where
  /-- The listeners at the logger of the runs. -/
  near : List Listener
  /-- Whether messages are handed on to the logger outside. -/
  propagates : Bool
  /-- The listeners at the logger outside. -/
  far : List Listener
  /-- The least severity of messages that the logger outside asks for. -/
  threshold : Nat
deriving DecidableEq, Repr

/-- The handlers and what they have collected. -/
structure Logger where
  /-- What others make of the log. -/
  around : Surroundings
  /-- The least severity of messages that are written; zero leaves it to the logger outside. -/
  threshold : Nat
  /-- The handlers of runs that are attached. -/
  handlers : List Handler
  /-- The handler that the last run attached. -/
  installed : Option Handler
  /-- The number of handlers made so far. -/
  made : Nat
  /-- The collected messages in order, each with the number of its handler. -/
  messages : List (Nat × String)
  /-- The messages that others have heard in order, each with the one who heard it. -/
  heard : List (Listener × String)

/-! ## severity -/

namespace Severity

/-- The severity of all messages of runs. -/
def info : Nat := 20

/-- The least severity that is asked for where nobody has said anything. -/
def warning : Nat := 30

end Severity

/-- Nobody listens. -/
def Surroundings.silent : Surroundings := ⟨[], true, [], Severity.warning⟩

/-- All who can listen. -/
def Surroundings.listeners (s : Surroundings) : List Listener :=
  s.near ++ if s.propagates then s.far else []

namespace Logger

/-- A logger that no run has used. -/
def unused (around : Surroundings) (threshold : Nat) : Logger := ⟨around, threshold, [], none, 0, [], []⟩

/-- A logger that nobody has used. -/
def fresh : Logger := unused .silent 0

instance : Inhabited Logger := ⟨fresh⟩

/-- Whether messages of runs are written. -/
def writes (l : Logger) : Bool :=
  (if l.threshold = 0 then l.around.threshold else l.threshold) ≤ Severity.info

/-- Takes away the handler that the last run attached. -/
def detach (l : Logger) : Logger :=
  match l.installed with
  | none => l
  | some h => { l with handlers := l.handlers.erase h, installed := none }

/-- Attaches a new handler, and has messages of runs written. -/
def attach (l : Logger) (sink : Sink) : Logger :=
  let h : Handler := ⟨l.made, sink⟩
  { l with
    handlers := l.handlers ++ [h]
    threshold := Severity.info
    installed := some h
    made := l.made + 1 }

/-- The sink for a destination, if there is one. -/
def sinkOf? : LogDestination → Option Sink
  | .none => none
  | .stdout => some .stdout
  | .stderr => some .stderr
  | .output => some .collection

/-- Makes ready for a run with a destination. -/
def configure (l : Logger) (d : LogDestination) : Logger :=
  match sinkOf? d with
  | none => l.detach
  | some sink => l.detach.attach sink

/-- The handlers with a sink that a message reaches. -/
def receiving (l : Logger) (sink : Sink) : List Handler :=
  if l.writes then l.handlers.filter fun h => h.sink = sink else []

/-- The others that a message reaches. -/
def listening (l : Logger) : List Listener :=
  if l.writes then l.around.listeners.filter fun x => x.threshold ≤ Severity.info else []

/-- Gives a message to the handlers that collect, and to all others who listen. -/
def collect (l : Logger) (message : String) : Logger :=
  { l with
    messages := l.messages ++ (l.receiving .collection).map fun h => (h.number, message)
    heard := l.heard ++ l.listening.map fun x => (x, message) }

/-- The messages that the handler of the current run has collected; none if it does not collect. -/
def collected (l : Logger) : Option (List String) :=
  match l.installed with
  | some ⟨number, .collection⟩ =>
    some ((l.messages.filter fun m => m.1 == number).map Prod.snd)
  | _ => none

end Logger

end QueryTree
