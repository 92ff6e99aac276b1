import QueryTree.Capture.Session
import QueryTree.Command.Disk
import QueryTree.Command.Language
import QueryTree.Command.Logger
import QueryTree.Command.Options
import QueryTree.Console.Shown
import QueryTree.Settings.Source

/-!
# QueryTree.Command.Run

A run of the command: read the query from the input, capture it, render it, and put
the result on the console or into a file.

Nothing is put anywhere before the whole document is there.  A run that ends early
leaves no file and no part of a document, only the messages that it logged to a
stream and what it says about the failure.

The clock is an argument, read before and after every stage.  The language of the query
is one too.  What a run prints is a row of outputs, since how a console lays out a log, an
outline or a description of the options is not for the run to say.

* `Run.settings` — the settings with what the command line says about them (`get_settings`);
* `Language.compose` — everything up to the finished document;
* `Run.deliver` — the document to its place;
* `Language.run` — both (`parse`);
* `Run.run` — a run for the query language of this library.
-/

namespace QueryTree

/-- What a run is given. -/
structure Invocation where
  /-- The arguments. -/
  arguments : List String
  /-- The text on standard input. -/
  input : String
  /-- Whether standard input is anything but a terminal. -/
  redirected : Bool
  /-- Where settings come from. -/
  source : Settings.Source
  /-- The folder that the run takes place in. -/
  folder : Location

/-- Something that is printed. -/
inductive Output where
  /-- A text, with a line feed after it. -/
  | line (text : String)
  /-- A message of the log. -/
  | logged (message : String)
  /-- A document in Markdown, as a console lays it out. -/
  | outline (document : String)
  /-- What is wrong with the command line. -/
  | usage (e : UsageError)
  /-- A description of the options. -/
  | help
deriving DecidableEq, Repr

/-- A message as a console shows it. -/
def Output.message (text : String) : Output := .line (Console.shown text)

/-- What a run leaves behind. -/
structure Shell where
  /-- What was printed on standard output. -/
  stdout : List Output
  /-- What was printed on standard error. -/
  stderr : List Output
  /-- The files. -/
  disk : Disk
  /-- The log, which later runs go on with. -/
  logger : Logger

namespace Shell

/-- A shell before any run, without files. -/
def fresh : Shell := ⟨[], [], .empty, .fresh⟩

/-- Prints on standard output. -/
def print (outputs : List Output) (s : Shell) : Shell := { s with stdout := s.stdout ++ outputs }

/-- Prints on standard error. -/
def complain (outputs : List Output) (s : Shell) : Shell := { s with stderr := s.stderr ++ outputs }

/-- A message, once for each of several handlers. -/
def logged (message : String) (handlers : List Handler) : List Output :=
  handlers.map fun _ => .logged message

/-- Gives a message to all handlers that it reaches. -/
def emit (message : String) (s : Shell) : Shell :=
  { s with
    stdout := s.stdout ++ logged message (s.logger.receiving .stdout)
    stderr := s.stderr ++ logged message (s.logger.receiving .stderr)
    logger := s.logger.collect message }

end Shell

/-- What stops a run without a word of its own. -/
inductive Crash where
  /-- The settings are wrong. -/
  | invalidSettings (faults : List Settings.Fault)
  /-- There is no such dialect. -/
  | unknownDialect (name : String)
  /-- The file cannot be written. -/
  | unwritable (e : PathError)
deriving DecidableEq, Repr

/-- How a run ends. -/
inductive Ending where
  /-- The document is in its place. -/
  | done
  /-- The options were described. -/
  | helped
  /-- The command line could not be understood. -/
  | misused (e : UsageError)
  /-- Standard input is a terminal. -/
  | notRedirected
  /-- The input is no query. -/
  | rejected (e : Sql.SyntaxError)
  /-- The query could not be captured. -/
  | uncaptured (e : CaptureError)
  /-- The tree could not be rendered. -/
  | unrendered (e : RenderError)
  /-- The run broke off. -/
  | crashed (c : Crash)
deriving DecidableEq, Repr

/-- The exit code of a run: two if the command line or the query is wrong, one for other failures. -/
def Ending.exitCode : Ending → Nat
  | .done => 0
  | .helped => 0
  | .misused _ => 2
  | .rejected _ => 2
  | _ => 1

/-- A finished document and where it goes. -/
structure Delivery where
  /-- The format of the document. -/
  format : Format
  /-- The rendered tree. -/
  document : String
  /-- The collected log, if it goes with the document. -/
  log : Option (List String)
  /-- The file that it goes to, the console if there is none. -/
  target : Option String

/-- The text of a log: every message ends with a line feed. -/
def Delivery.logText (messages : List String) : String := String.join (messages.map (· ++ "\n"))

/-- A document on the console. -/
def Delivery.page (format : Format) (document : String) : Output :=
  if format = .md then .outline document else .line document

namespace Run

/-- A step of a run: it changes the shell, and may end the run. -/
abbrev Step (m : Type → Type) (α : Type) := ExceptT Ending (StateT Shell m) α

variable {m : Type → Type} [Monad m]

/-- Changes the shell. -/
def change (f : Shell → Shell) : Step m Unit := modify f

/-- Ends the run with something on standard error. -/
def stop {α : Type} (outputs : List Output) (e : Ending) : Step m α := do
  change (Shell.complain outputs)
  throw e

/-- Does some work and reads the clock before and after it. -/
def timed {α : Type} (now : m Nat) (work : Unit → α) : Step m (α × Nat) := do
  let before ← (now : m Nat)
  let result := work ()
  let after ← (now : m Nat)
  return (result, after - before)

/-- Logs a stage. -/
def log (elapsed : Nat) (stage : Stage) : Step m Unit := change (Shell.emit (stage.message elapsed))

/-- Ends the run with an error message. -/
def fail {α : Type} (message : String) (e : Ending) : Step m α := stop [.message ("Error: " ++ message)] e

/-- Ends the run because the input is no query. -/
def reject {α : Type} (e : Sql.SyntaxError) : Step m α := stop (e.errors.map .message) (.rejected e)

/-- Captures a query. -/
def captureQuery (now : m Nat) (g : Graph) (root : ObjectId) : Step m Tree := do
  let (installed, elapsed) ← timed now fun _ =>
    Session.empty.install (.ofHierarchy (.flat g.types))
  match installed with
  | .error e => fail e.message (.uncaptured e)
  | .ok (session, walker) =>
    log elapsed (.setup walker.catalog.length)
    let ((walked, session), elapsed) ← timed now fun _ => session.trace walker 0 g root
    match walked with
    | .error e => fail e.message (.uncaptured e)
    | .ok () =>
      log elapsed .traversal
      match session.rootNode 0 g root with
      | .error e => fail e.message (.uncaptured e)
      | .ok node =>
        let (session, elapsed) ← timed now fun _ => session.populate g node
        log elapsed .properties
        return session.tree node

/-- Renders a tree. -/
def renderTree (now : m Nat) (settings : Settings) (t : Tree) : Step m String := do
  let (result, elapsed) ← timed now fun _ =>
    render settings.renderOptions settings.outputFormat t
  match result with
  | .error e => fail e.message (.unrendered e)
  | .ok document =>
    log elapsed (.rendering settings.outputFormat)
    return document

/-- Reads the command line. -/
def options (arguments : List String) : Step m Options :=
  match Options.read arguments with
  | .error e => stop [.usage e] (.misused e)
  | .ok .help => do
    change (Shell.print [.help])
    throw .helped
  | .ok (.run o) => return o

/-- The settings of a run. -/
def settings (o : Options) (source : Settings.Source) : Step m Settings :=
  match Settings.ofSource source with
  | .error faults => throw (.crashed (.invalidSettings faults))
  | .ok s => return o.override s

/-- Reads the command line and the settings, and makes the log ready. -/
def prepare (i : Invocation) : Step m (Options × Settings) := do
  let o ← options i.arguments
  let s ← settings o i.source
  change fun shell => { shell with logger := shell.logger.configure s.logDestination }
  return (o, s)

/-- Goes on only if there is an input. -/
def expectInput (redirected : Bool) : Step m Unit :=
  if redirected then return () else fail "Input is not redirected" .notRedirected

/-- Puts a document on the console or into a file. -/
def deliver (here : Location) (d : Delivery) : Step m Unit := do
  match d.target with
  | some path =>
    let shell ← get
    match shell.disk.write here path (d.document ++ Delivery.logText (d.log.getD [])) with
    | .error e => throw (.crashed (.unwritable e))
    | .ok (disk, place) =>
      change fun shell => { shell with disk := disk }.print [.line (Location.text place)]
  | none =>
    change (Shell.print [Delivery.page d.format d.document])
    match d.log with
    | none => return ()
    | some messages => change (Shell.print [.line (Delivery.logText messages)])

end Run

namespace Language

open Run

variable {m : Type → Type} [Monad m]

/-- The dialect that the settings name. -/
def dialect (l : Language) (name : Option String) : Step m l.Dialect :=
  match l.dialect? name with
  | none => throw (.crashed (.unknownDialect (name.getD "")))
  | some d => return d

/-- Reads the input, in which carriage returns count as line feeds. -/
def parse (l : Language) (now : m Nat) (d : l.Dialect) (input : String) :
    Step m (List l.Statement) := do
  let text := String.ofList (Text.withLineFeeds input.toList)
  let (result, elapsed) ← timed now fun _ => l.read d text
  match result with
  | .error e => reject e
  | .ok statements =>
    log elapsed .parsing
    match statements with
    | [] => reject Sql.Flaw.noStatement.report
    | statements => return statements

/-- From the input to the document. -/
def produce (l : Language) (now : m Nat) (s : Settings) (d : l.Dialect) (input : String) :
    Step m String := do
  let statements ← l.parse now d input
  let (g, root) := l.graph s.prettyText d statements
  let tree ← captureQuery now g root
  renderTree now s tree

/-- Makes a document of the input. -/
def work (l : Language) (now : m Nat) (i : Invocation) (s : Settings) : Step m String := do
  expectInput i.redirected
  let d ← l.dialect s.dialect
  l.produce now s d i.input

/-- Everything up to the finished document. -/
def compose (l : Language) (now : m Nat) (i : Invocation) : Step m Delivery := do
  let (o, s) ← prepare i
  let document ← l.work now i s
  let shell ← get
  return ⟨s.outputFormat, document, shell.logger.collected, o.target? s.outputFormat⟩

/-- A whole run. -/
def run (l : Language) (now : m Nat) (i : Invocation) (shell : Shell) : m (Ending × Shell) := do
  let steps : Step m Unit := do
    let d ← l.compose now i
    deliver i.folder d
  let (result, shell) ← steps.run.run shell
  match result with
  | .ok () => return (.done, shell)
  | .error e => return (e, shell)

end Language

namespace Run

variable {m : Type → Type} [Monad m]

/-- A whole run for a query in the language of this library. -/
def run (now : m Nat) (i : Invocation) (shell : Shell) : m (Ending × Shell) :=
  Sql.language.run now i shell

end Run

end QueryTree
