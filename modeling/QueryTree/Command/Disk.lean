/-!
# QueryTree.Command.Disk

Files in folders, and where a path leads.

A path is a row of names between slashes.  It starts in the outermost folder if a slash
stands before the first name, and otherwise in the folder that a run takes place in.
Empty names and single dots say nothing, and two dots lead to the folder around.  A path
that ends in a folder cannot be written to, nor can one that goes on after a file or
after a name that nothing has.  Names and paths are limited in length.  There are no
links.

* `Disk.target` — where a path leads;
* `Disk.write` — what `write_text` does.
-/

namespace QueryTree

/-- The names that lead from the outermost folder to a file or a folder. -/
abbrev Location := List String

/-- The full path of a location. -/
def Location.text (place : Location) : String := "/" ++ "/".intercalate place

/-- What can be at a location. -/
inductive Disk.Item where
  /-- A folder. -/
  | folder
  /-- A file with its content. -/
  | file (content : String)
deriving DecidableEq, Repr

/-- Files and folders by location, in the order in which they were made.  The outermost folder is
always there. -/
structure Disk where
  /-- The files and folders. -/
  items : List (Location × Disk.Item)

/-- Why a file cannot be written. -/
inductive PathError where
  /-- The path is that of a folder. -/
  | isFolder
  /-- The path leads into a folder that does not exist. -/
  | noSuchFolder
  /-- The path leads into a file. -/
  | notFolder
  /-- The path, or a name in it, is too long. -/
  | tooLong
deriving DecidableEq, Repr

namespace Disk

/-- A disk without files. -/
def empty : Disk := ⟨[]⟩

instance : Inhabited Disk := ⟨empty⟩

/-! ## paths -/

/-- The parts of a text between slashes. -/
def split : List Char → List (List Char)
  | [] => [[]]
  | c :: cs =>
    if c = '/' then [] :: split cs
    else
      match split cs with
      | [] => [[c]]
      | p :: ps => (c :: p) :: ps

/-- The names of a path. -/
def names (path : String) : List String :=
  ((split path.toList).filter fun p => p != [] && p != ['.']).map String.ofList

/-- Whether a path starts in the outermost folder. -/
def isAbsolute (path : String) : Bool := path.toList.head? == some '/'

/-- A path without the names that say nothing. -/
def plainPath (path : String) : String :=
  (if isAbsolute path then "/" else "") ++ "/".intercalate (names path)

/-- The most bytes of a name. -/
def longestName : Nat := 255

/-- The most bytes of a path. -/
def longestPath : Nat := 4095

/-! ## files -/

/-- What is at a location. -/
def item? (d : Disk) (place : Location) : Option Item :=
  (d.items.find? fun e => e.1 == place).map Prod.snd

/-- Puts a file at a location, in place of what is there. -/
def put (d : Disk) (place : Location) (content : String) : Disk :=
  if d.items.any fun e => e.1 == place then
    ⟨d.items.map fun e => if e.1 == place then (place, .file content) else e⟩
  else ⟨d.items ++ [(place, .file content)]⟩

/-- The location of the file that names lead to from a folder. -/
def follow (d : Disk) (here : Location) : List String → Except PathError Location
  | [] => .error .isFolder
  | name :: rest =>
    if name == ".." then d.follow here.dropLast rest
    else if longestName < name.utf8ByteSize then .error .tooLong
    else
      match d.item? (here ++ [name]) with
      | some .folder => d.follow (here ++ [name]) rest
      | some (.file _) => if rest.isEmpty then .ok (here ++ [name]) else .error .notFolder
      | none => if rest.isEmpty then .ok (here ++ [name]) else .error .noSuchFolder

/-- The location of the file that a path leads to, for a run in a folder. -/
def target (d : Disk) (here : Location) (path : String) : Except PathError Location :=
  if longestPath < (plainPath path).utf8ByteSize then .error .tooLong
  else d.follow (if isAbsolute path then [] else here) (names path)

/-- Writes a file by its path; the result has its location. -/
def write (d : Disk) (here : Location) (path content : String) : Except PathError (Disk × Location) :=
  (d.target here path).map fun place => (d.put place content, place)

end Disk

end QueryTree
