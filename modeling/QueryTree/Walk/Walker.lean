import QueryTree.Walk.Catalog

/-!
# QueryTree.Walk.Walker

A walk over the expressions of a graph that calls a hook at every node.

Hooks are installed for exact types.  A hook may change the state, and it asks to go
on into the children of its node any number of times, each time with something to do
on the way out or without; the last time counts.  If it never asks, nothing below
the node is visited.  A node without a hook is passed through.

The walk keeps its own stack: what is left to visit at each level, and what is to be
done when nothing is left.  It ends on every graph without cycles; the budget that it
is given is large enough for all of them.

* `Walker` — an `ExpressionVisitor`;
* `Walker.register` — installs a hook (`register`);
* `Walker.visit` — calls the hook of a node (`visit`);
* `Walker.traverse` — the walk from a node (`traverse`).
-/

namespace QueryTree

/-- What to do on the way out of a node, if anything. -/
abbrev Exit (σ : Type) := Option (σ → σ)

/-- What is done at a node: a failure, or the requests to go on in order, and the state after it. -/
abbrev Hook (σ ε : Type) := Graph → ObjectId → σ → Except ε (List (Exit σ)) × σ

/-- Why a hook could not be installed. -/
inductive HookError where
  /-- The type is not visited. -/
  | unknownType (type : NodeType)
  /-- What was given is not a hook. -/
  | notHook (type : NodeType)
deriving DecidableEq, Repr

/-- The message of an error. -/
def HookError.message : HookError → String
  | .unknownType t => "<class '" ++ t.printed ++ "'> is not a visitable node type"
  | .notHook t => "Handler for " ++ t.name ++ " is not callable"

/-- The types that are visited and the hooks for them. -/
structure Walker (σ ε : Type) where
  /-- The types as they are listed. -/
  catalog : List NodeType
  /-- The types that a hook can be installed for. -/
  known : List NodeType
  /-- The installed hooks, the latest first. -/
  hooks : List (NodeType × Hook σ ε)

namespace Walker

variable {σ ε : Type}

/-- A walker for all types of a hierarchy, without hooks. -/
def ofHierarchy (h : Hierarchy) : Walker σ ε := ⟨h.catalog, h.catalog, []⟩

/-- The hook for a type. -/
def hookFor (w : Walker σ ε) (t : NodeType) : Option (Hook σ ε) :=
  (w.hooks.find? fun h => h.1 = t).map Prod.snd

/-- Installs a hook for a type in place of an earlier one, if the type is one of those that are visited
and what is given is a hook; `none` is something that is no hook. -/
def register (w : Walker σ ε) (t : NodeType) (hook : Option (Hook σ ε)) :
    Except HookError (Walker σ ε) :=
  if t ∉ w.known then .error (.unknownType t)
  else
    match hook with
    | none => .error (.notHook t)
    | some h => .ok { w with hooks := (t, h) :: w.hooks }

/-- Does what is to be done on the way out. -/
def leave : Exit σ → σ → σ
  | none, s => s
  | some f, s => f s

/-- Calls the hook of a node.  The result is what to do on the way out, or none if nothing below the
node is visited. -/
def visit (w : Walker σ ε) (g : Graph) (id : ObjectId) (s : σ) :
    Except ε (Option (Exit σ)) × σ :=
  match w.hookFor (g.typeOf id) with
  | none => (.ok (some none), s)
  | some hook =>
    match hook g id s with
    | (.error e, s) => (.error e, s)
    | (.ok requests, s) => (.ok requests.getLast?, s)

/-- What is left to visit at a level, and what to do when nothing is left. -/
abbrev Frame (σ : Type) := List ObjectId × Exit σ

/-- Visits what waits on the stack, in at most `fuel` steps; none if they run out. -/
def run (w : Walker σ ε) (g : Graph) : Nat → List (Frame σ) → σ → Option (Except ε Unit × σ)
  | _, [], s => some (.ok (), s)
  | 0, _ :: _, _ => none
  | fuel + 1, ([], exit) :: frames, s => run w g fuel frames (leave exit s)
  | fuel + 1, (id :: ids, exit) :: frames, s =>
    match w.visit g id s with
    | (.error e, s) => some (.error e, s)
    | (.ok none, s) => run w g fuel ((ids, exit) :: frames) s
    | (.ok (some exit'), s) => run w g fuel ((g.children id, exit') :: (ids, exit) :: frames) s

/-- A number of steps that no walk goes beyond, unless it goes in circles: every visit and every way
out is one, and there are at most as many visits as paths without a repeated node. -/
def budget (g : Graph) : Nat := 2 * Nat.pow (g.edgeCount + 1) (g.size + 1) + 1

/-- Visits a node and what is below it, parents before children, children in order; none if the walk
goes in circles. -/
def traverse (w : Walker σ ε) (g : Graph) (root : ObjectId) (s : σ) : Option (Except ε Unit × σ) :=
  w.run g (budget g) [([root], none)] s

end Walker

end QueryTree
