import QueryTree.Graph.Population
import QueryTree.Walk.Walker

/-!
# QueryTree.Capture.Session

Capturing a graph of expressions as a tree.

A recorder hooks every type in the catalog of a walker.  Its hook makes a node for
each expression that is entered and hangs it below the node that was entered last
and not left.  When the walk is over, the properties of all nodes are filled in.

Several recorders may share a walker; the hooks of the latest one are those that
run.  All nodes live in one table, so that a tree handed out earlier can be looked
at again.

* `Recorder` — what a `ParseTreeBuilder` keeps;
* `Session.install` — a new recorder on a walker;
* `Session.enter`, `Session.leave` — what its hook does (`_on_enter`, `_leave`);
* `Session.build` — one capture (`build`);
* `capture` — all of it for one graph (`capture`).
-/

namespace QueryTree

/-- The text of an expression cannot be written. -/
structure TextError where
deriving DecidableEq, Repr

/-- Why nothing was captured. -/
inductive CaptureError where
  /-- A type of the catalog cannot be hooked. -/
  | unhookable (type : NodeType) (cause : HookError)
  /-- Types of the catalog are left without a hook. -/
  | unhooked (types : List NodeType)
  /-- The text of a node below one of this type cannot be written. -/
  | tooDeep (type : NodeType)
  /-- The walk did not come by a root of this type. -/
  | neverVisited (type : NodeType)
deriving DecidableEq, Repr

namespace CaptureError

/-- The message of an error. -/
def message : CaptureError → String
  | .unhookable t e => "Cannot hook node type " ++ t.name ++ ": " ++ e.message
  | .unhooked ts => "No capture handler installed for: " ++ ", ".intercalate (ts.map NodeType.name)
  | .tooDeep t => "Tree under " ++ t.name ++ " is nested too deeply to print as SQL text"
  | .neverVisited t => "Root node " ++ t.name ++ " was never visited"

end CaptureError

/-- The state of one recorder. -/
structure Recorder where
  /-- The first node of the current capture. -/
  root : Option NodeId
  /-- The nodes that were entered and not left, the last one first. -/
  path : List NodeId
deriving DecidableEq, Repr

namespace Recorder

/-- A recorder before a capture. -/
def fresh : Recorder := ⟨none, []⟩

instance : Inhabited Recorder := ⟨fresh⟩

/-- A node is entered. -/
def enter (r : Recorder) (node : NodeId) : Recorder := ⟨r.root.or (some node), node :: r.path⟩

/-- The last entered node is left. -/
def leave (r : Recorder) : Recorder := { r with path := r.path.tail }

end Recorder

/-- The nodes made so far and the recorders that make them. -/
structure Session where
  /-- All nodes. -/
  table : NodeTable
  /-- The recorders by number. -/
  recorders : Array Recorder
deriving Inhabited

namespace Session

/-- A session without nodes and recorders. -/
def empty : Session := ⟨.empty, #[]⟩

/-- The recorder with a number. -/
def recorder (s : Session) (k : Nat) : Recorder := s.recorders.getD k default

/-- Changes a recorder. -/
def onRecorder (s : Session) (k : Nat) (f : Recorder → Recorder) : Session :=
  { s with recorders := s.recorders.modify k f }

/-- Makes a node for an expression, below the last node that recorder `k` entered. -/
def enter (s : Session) (k : Nat) (typeName text : String) (source : ObjectId) : Session :=
  let node := s.table.size
  let table := s.table.push { NodeEntry.leaf typeName text with source := some source }
  let table :=
    match (s.recorder k).path with
    | [] => table
    | parent :: _ => table.addChild parent node
  { s with table := table }.onRecorder k (·.enter node)

/-- Recorder `k` leaves its last node. -/
def leave (k : Nat) (s : Session) : Session := s.onRecorder k Recorder.leave

/-- The hook of recorder `k`: it always goes on, and leaves the node on the way out. -/
def hook (k : Nat) : Hook Session TextError := fun g id s =>
  match g.text? id with
  | none => (.error ⟨⟩, s)
  | some text => (.ok [some (leave k)], s.enter k (g.typeOf id).name text id)

/-- A way to install a hook for a type. -/
abbrev Registration :=
  Walker Session TextError → NodeType → Option (Hook Session TextError) →
    Except HookError (Walker Session TextError)

/-- Installs a hook for several types. -/
def hookAll (register : Registration) (h : Hook Session TextError) :
    Walker Session TextError → List NodeType → Except CaptureError (Walker Session TextError)
  | w, [] => .ok w
  | w, t :: ts =>
    match register w t (some h) with
    | .error e => .error (.unhookable t e)
    | .ok w => hookAll register h w ts

/-- Installs the hook of recorder `k` for every type of the catalog, and looks whether all have one. -/
def hookCatalog (register : Registration) (k : Nat) (w : Walker Session TextError) :
    Except CaptureError (Walker Session TextError) :=
  match hookAll register (hook k) w w.catalog with
  | .error e => .error e
  | .ok w =>
    match w.catalog.filter fun t => (w.hookFor t).isNone with
    | [] => .ok w
    | missing => .error (.unhooked missing)

/-- Adds a recorder to the session and hooks it into a walker, whose hooks are installed in a given way;
its number is that of the recorders before it. -/
def installBy (register : Registration) (s : Session) (w : Walker Session TextError) :
    Except CaptureError (Session × Walker Session TextError) :=
  match hookCatalog register s.recorders.size w with
  | .error e => .error e
  | .ok w => .ok ({ s with recorders := s.recorders.push .fresh }, w)

/-- Adds a recorder to the session and hooks it into a walker. -/
def install (s : Session) (w : Walker Session TextError) :
    Except CaptureError (Session × Walker Session TextError) :=
  s.installBy Walker.register w

/-- Walks a graph from a node with recorder `k`, which starts afresh. -/
def trace (s : Session) (w : Walker Session TextError) (k : Nat) (g : Graph) (root : ObjectId) :
    Except CaptureError Unit × Session :=
  match w.traverse g root (s.onRecorder k fun _ => .fresh) with
  | none => (.error (.tooDeep (g.typeOf root)), s)
  | some (.error _, s) => (.error (.tooDeep (g.typeOf root)), s)
  | some (.ok (), s) => (.ok (), s)

/-- The first node that recorder `k` made on its last walk, which started at `root`. -/
def rootNode (s : Session) (k : Nat) (g : Graph) (root : ObjectId) : Except CaptureError NodeId :=
  match (s.recorder k).root with
  | none => .error (.neverVisited (g.typeOf root))
  | some node => .ok node

/-- Fills in the properties of a captured tree. -/
def populate (s : Session) (g : Graph) (root : NodeId) : Session :=
  match s.table.populate g root with
  | none => s
  | some (table, _) => { s with table := table }

/-- Captures a graph from a node on with recorder `k`; the result is the root of the tree. -/
def build (s : Session) (w : Walker Session TextError) (k : Nat) (g : Graph) (root : ObjectId) :
    Except CaptureError NodeId × Session :=
  match s.trace w k g root with
  | (.error e, s) => (.error e, s)
  | (.ok (), s) =>
    match s.rootNode k g root with
    | .error e => (.error e, s)
    | .ok node => (.ok node, s.populate g node)

/-- The tree of a node. -/
def tree (s : Session) (node : NodeId) : Tree := (s.table.tree? node).getD default

end Session

/-- Captures a graph from a node on as a tree. -/
def capture (g : Graph) (root : ObjectId) : Except CaptureError Tree :=
  match Session.empty.install (.ofHierarchy (.flat g.types)) with
  | .error e => .error e
  | .ok (s, w) =>
    match s.build w 0 g root with
    | (.error e, _) => .error e
    | (.ok node, s) => .ok (s.tree node)

end QueryTree
