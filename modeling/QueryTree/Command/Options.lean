import QueryTree.Settings.Basic

/-!
# QueryTree.Command.Options

The options of the command line.

An option has a long name after two dashes and a short one, of one letter, after one
dash.  Its value is the next argument, or what follows an equals sign after the long
name, or what follows the letter.  Several letters may share a dash if all but the
last take no value.  Of several values for an option the last counts.  Two dashes
alone end the options; other arguments are not taken.

* `Options.read` — options from arguments, those that `parse` takes.
-/

namespace QueryTree

/-- What the command line can say. -/
structure Options where
  /-- The format. -/
  format : Option Format
  /-- Whether the output goes to a file. -/
  toFile : Bool
  /-- The file that the output goes to. -/
  outputPath : Option String
  /-- Where the timing log goes. -/
  logDestination : Option LogDestination
  /-- The dialect of the query. -/
  dialect : Option String
deriving DecidableEq, Repr

/-- Why the command line cannot be understood. -/
inductive UsageError where
  /-- There is no such option. -/
  | unknownOption (shown : String)
  /-- An option lacks its value. -/
  | missingValue (shown : String)
  /-- An option that takes no value has one. -/
  | needlessValue (shown : String)
  /-- A value is none of those that the option takes. -/
  | badValue (shown value : String)
  /-- An argument is no option. -/
  | extraArgument (shown : String)
deriving DecidableEq, Repr

/-- The message of an error. -/
def UsageError.message : UsageError → String
  | .unknownOption shown => "No such option: " ++ shown
  | .missingValue shown => "Option '" ++ shown ++ "' requires an argument."
  | .needlessValue shown => "Option '" ++ shown ++ "' does not take a value."
  | .badValue shown value => "Invalid value for '" ++ shown ++ "': '" ++ value ++ "'."
  | .extraArgument shown => "Got unexpected extra argument (" ++ shown ++ ")"

namespace Options

/-- The options that there are. -/
inductive Switch where
  | format | toFile | outputPath | logDestination | dialect | help
deriving DecidableEq, Repr

namespace Switch

/-- The long name of an option. -/
def longName : Switch → String
  | .format => "--format"
  | .toFile => "--to-file"
  | .outputPath => "--output-path"
  | .logDestination => "--log-destination"
  | .dialect => "--dialect"
  | .help => "--help"

/-- All options. -/
def all : List Switch := [.format, .toFile, .outputPath, .logDestination, .dialect, .help]

/-- The option with a long name. -/
def ofLong? (name : String) : Option Switch := all.find? fun s => s.longName == name

/-- The letter of an option. -/
def letter? : Switch → Option Char
  | .format => some 'f'
  | .toFile => some 't'
  | .outputPath => some 'o'
  | .logDestination => some 'l'
  | .dialect => some 'd'
  | .help => none

/-- The option with a letter. -/
def ofLetter? (c : Char) : Option Switch := all.find? fun s => s.letter? == some c

/-- What an option is for. -/
def summary : Switch → String
  | .format => "Output format, defaults to json"
  | .toFile => "Write the output to a file"
  | .outputPath =>
    "File to write, defaults to the console without --to-file and out.<format> with it"
  | .logDestination => "Where to send the timing log"
  | .dialect => "sqlglot dialect to parse with"
  | .help => "Show this message and exit."

/-- Whether an option takes a value. -/
def takesValue : Switch → Bool
  | .toFile => false
  | .help => false
  | _ => true

end Switch

/-- What was found among the arguments: options with their values, the latest first, and the
arguments that are no options. -/
structure Found where
  /-- The options. -/
  switches : List (Switch × String)
  /-- The other arguments. -/
  extra : List String

namespace Found

/-- Nothing yet. -/
def empty : Found := ⟨[], []⟩

/-- One more option. -/
def add (f : Found) (s : Switch) (value : String) : Found := { f with switches := (s, value) :: f.switches }

/-- Whether an option was given. -/
def has (f : Found) (s : Switch) : Bool := f.switches.any fun e => e.1 == s

/-- The value of an option. -/
def value? (f : Found) (s : Switch) : Option String :=
  (f.switches.find? fun e => e.1 == s).map Prod.snd

end Found

/-- Reads the letters after a dash.  The result has the options that are complete and the one, if
any, whose value is the next argument. -/
def letters (f : Found) : List Char → Except UsageError (Found × Option Switch)
  | [] => .ok (f, none)
  | c :: cs =>
    match Switch.ofLetter? c with
    | none => .error (.unknownOption (String.ofList ['-', c]))
    | some s =>
      if !s.takesValue then letters (f.add s "") cs
      else if cs.isEmpty then .ok (f, some s)
      else .ok (f.add s (String.ofList cs), none)

/-- Reads a long name, with a value after an equals sign or without. -/
def long (f : Found) (argument : List Char) : Except UsageError (Found × Option Switch) :=
  let name := String.ofList (argument.takeWhile (· != '='))
  match Switch.ofLong? name, argument.dropWhile (· != '=') with
  | none, _ => .error (.unknownOption name)
  | some s, [] => if s.takesValue then .ok (f, some s) else .ok (f.add s "", none)
  | some s, _ :: value =>
    if s.takesValue then .ok (f.add s (String.ofList value), none) else .error (.needlessValue name)

/-- Reads an argument that starts with a dash. -/
def dashed (f : Found) (argument : List Char) : Except UsageError (Found × Option Switch) :=
  match argument with
  | '-' :: '-' :: _ => long f argument
  | _ => letters f (argument.drop 1)

/-- Whether an argument is read as an option. -/
def isDashed (argument : String) : Bool :=
  argument.toList.head? == some '-' && argument.length != 1

/-- Reads all arguments. -/
def scan (f : Found) : List String → Except UsageError Found
  | [] => .ok f
  | argument :: rest =>
    if argument == "--" then .ok { f with extra := f.extra ++ rest }
    else if isDashed argument then
      match dashed f argument.toList, rest with
      | .error e, _ => .error e
      | .ok (f, none), rest => scan f rest
      | .ok (f, some s), value :: rest => scan (f.add s value) rest
      | .ok (_, some s), [] => .error (.missingValue s.longName)
    else scan { f with extra := f.extra ++ [argument] } rest

/-- The value of an option that takes one of several words. -/
def word {α : Type} (f : Found) (s : Switch) (ofName? : String → Option α) :
    Except UsageError (Option α) :=
  match f.value? s with
  | none => .ok none
  | some value =>
    match ofName? value with
    | some a => .ok (some a)
    | none => .error (.badValue s.longName value)

/-- The value of an option that takes a path; the null character cannot stand in one. -/
def path (f : Found) (s : Switch) : Except UsageError (Option String) :=
  match f.value? s with
  | none => .ok none
  | some value =>
    if value.toList.contains '\x00' then .error (.badValue s.longName value) else .ok (some value)

/-- The options from what was found. -/
def ofFound (f : Found) : Except UsageError Options := do
  let format ← word f .format Format.ofName?
  let outputPath ← path f .outputPath
  let destination ← word f .logDestination LogDestination.ofName?
  match f.extra with
  | argument :: _ => throw (.extraArgument argument)
  | [] => return ⟨format, f.has .toFile, outputPath, destination, f.value? .dialect⟩

/-- What a command line asks for. -/
inductive Request where
  /-- A description of the options. -/
  | help
  /-- A run with options. -/
  | run (o : Options)

/-- Options from arguments.  A request for help is answered unless an option cannot be read. -/
def read (arguments : List String) : Except UsageError Request :=
  match scan .empty arguments with
  | .error e => .error e
  | .ok f =>
    if f.has .help then .ok .help
    else
      match ofFound f with
      | .error e => .error e
      | .ok o => .ok (.run o)

/-- Settings with what the command line says about them; an empty dialect says nothing. -/
def override (o : Options) (s : Settings) : Settings :=
  { s with
    outputFormat := o.format.getD s.outputFormat
    dialect :=
      match o.dialect with
      | none => s.dialect
      | some d => if d.isEmpty then s.dialect else some d
    logDestination := o.logDestination.getD s.logDestination }

/-- The file that the output goes to, if it does not go to the console. -/
def target? (o : Options) (f : Format) : Option String :=
  match o.outputPath with
  | some path => some path
  | none => if o.toFile then some ("out." ++ f.name) else none

end Options

end QueryTree
