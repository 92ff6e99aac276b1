import QueryTree.Command.Run

/-!
# QueryTree.Main

The command: it reads a query from standard input and shows its tree.

All decisions are those of `Run.run`.  The command looks at the files that a run can ask
about, and does to the console and to the files what the run has done to its shell.
-/

namespace QueryTree.Main

open QueryTree

/-- All that is left on a stream. -/
partial def readAll (stream : IO.FS.Stream) (text : String) : IO String := do
  let line ← stream.getLine
  if line.isEmpty then return text else readAll stream (text ++ line)

/-- The variables of the environment that settings are made from. -/
def environment : IO (List (String × String)) := do
  let fields : List Settings.Field :=
    [.outputFormat, .dialect, .prettyText, .yamlMaxDepth, .markdownTruncate, .logDestination]
  let mut found := []
  for field in fields do
    let name := String.ofList ((Settings.variableStem ++ field.name).toList.map Char.toUpper)
    match ← IO.getEnv name with
    | some value => found := found ++ [(name, value)]
    | none => pure ()
  return found

/-- The content of a file, if it can be read. -/
def fileText? (name : String) : IO (Option String) := do
  try
    return some (← IO.FS.readFile name)
  catch _ => return none

/-- The time in microseconds. -/
def now : IO Nat := do return (← IO.monoNanosNow) / 1000

/-! ## files -/

/-- What is at a location. -/
def item? (place : Location) : IO (Option Disk.Item) := do
  let path := (← IO.currentDir) / Location.text place
  if ← path.isDir then return some .folder
  else if ← path.pathExists then return some (.file ((← fileText? (Location.text place)).getD ""))
  else return none

/-- The files and folders that names lead along. -/
def along (here : Location) : List String → IO (List (Location × Disk.Item))
  | [] => return []
  | name :: rest => do
    if name == ".." then along here.dropLast rest
    else
      match ← item? (here ++ [name]) with
      | none => return []
      | some item => return (here ++ [name], item) :: (← along (here ++ [name]) rest)

/-- The paths that a command line can ask to write to. -/
def paths (arguments : List String) : List String :=
  match Options.read arguments with
  | .ok (.run o) => Format.all.filterMap o.target?
  | _ => []

/-- The files and folders that a run can ask about. -/
def disk (here : Location) (arguments : List String) : IO Disk := do
  let mut items := []
  for path in paths arguments do
    let start := if Disk.isAbsolute path then [] else here
    items := items ++ (← along start (Disk.names path))
  return ⟨items⟩

/-- Writes the files that a run has written. -/
def store (before after : Disk) : IO Unit := do
  for (place, item) in after.items do
    match item with
    | .folder => pure ()
    | .file content =>
      if before.item? place != some item then IO.FS.writeFile (Location.text place) content

/-! ## the console -/

/-- What the command says about an option. -/
def describe (s : Options.Switch) : String :=
  let short := match s.letter? with
    | some c => ", " ++ String.ofList ['-', c]
    | none => ""
  "  " ++ s.longName ++ short ++ "  " ++ s.summary

/-- What the command says about itself. -/
def help : String :=
  "\n".intercalate
    ("Parse SQL from standard input and render its parse tree." :: "" ::
      Options.Switch.all.map describe)

/-- The text of an output. -/
def text : Output → String
  | .line text => text ++ "\n"
  | .logged message => message ++ "\n"
  | .outline document => document ++ "\n"
  | .usage e => e.message ++ "\n"
  | .help => help ++ "\n"

/-- What is said about the end of a run that broke off. -/
def crashText : Crash → String
  | .invalidSettings faults =>
    String.join (faults.map fun fault => "Invalid setting: " ++ fault.field.name ++ "\n")
  | .unknownDialect name => "Unknown dialect '" ++ name ++ "'\n"
  | .unwritable .isFolder => "Is a directory\n"
  | .unwritable .noSuchFolder => "No such file or directory\n"
  | .unwritable .notFolder => "Not a directory\n"
  | .unwritable .tooLong => "File name too long\n"

end QueryTree.Main

open QueryTree in
/-- The command. -/
def main (arguments : List String) : IO UInt32 := do
  let stdin ← IO.getStdin
  let redirected := !(← stdin.isTty)
  let input ← if redirected then Main.readAll stdin "" else pure ""
  let here : Location := Disk.names (← IO.currentDir).toString
  let source : Settings.Source := ⟨[], ← Main.environment, ← Main.fileText? ".env"⟩
  let disk ← Main.disk here arguments
  let (ending, shell) ←
    Run.run Main.now ⟨arguments, input, redirected, source, here⟩ { Shell.fresh with disk := disk }
  Main.store disk shell.disk
  IO.print (String.join (shell.stdout.map Main.text))
  IO.eprint (String.join (shell.stderr.map Main.text))
  match ending with
  | .crashed c => IO.eprint (Main.crashText c)
  | _ => pure ()
  return UInt32.ofNat ending.exitCode
