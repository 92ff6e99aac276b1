import QueryTree.Text.LineBreak
import QueryTree.Tree.Basic

/-!
# QueryTree.Page.Event

A tree as a row of events: each node is opened, parents before children, and a
node with a list of children is closed once they have all been shown.  Nodes are
numbered in the order in which they open.

One stack holds both the nodes still to be opened and the nodes still to be
closed.

* `View` — what is shown of a node (`NodeView`);
* `eventsOfTree` — the events of a tree (`HtmlFormatter.format`).
-/

namespace QueryTree.Page

/-- The most rows a box with the full text of a node may have. -/
def mostRows : Nat := 5

/-- What a page shows of a node. -/
structure View where
  /-- The number of the node. -/
  id : Nat
  /-- The type of the node. -/
  typeName : String
  /-- The full text of the node. -/
  text : String
  /-- The first line of the text that is not empty, or nothing. -/
  line : String
  /-- Whether there is more of the text than that line. -/
  hasDetail : Bool
  /-- The rows of the box with the full text. -/
  rows : Nat
  /-- Whether the node has a list of children. -/
  hasChildren : Bool
  /-- The properties of the node. -/
  properties : Option (List Property)

/-- What a page shows of the root of a tree. -/
def View.ofTree (id : Nat) (t : Tree) : View :=
  let line := (Text.firstLine t.text.toList).getD []
  { id := id
    typeName := t.typeName
    text := t.text
    line := String.ofList line
    hasDetail := line.length < t.text.length
    rows := min (max (Text.lines t.text.toList).length 1) mostRows
    hasChildren := t.children.isSome
    properties := t.properties }

/-- An event. -/
inductive Event where
  /-- A node is opened. -/
  | opened (v : View)
  /-- A node is closed. -/
  | closed (v : View)

/-- What is still to be done. -/
inductive Task where
  /-- To open a node and show what is below it. -/
  | visit (t : Tree)
  /-- To close a node. -/
  | close (v : View)

/-- What there is to do below an opened node, its own closing included. -/
def tasksBelow (v : View) (t : Tree) : List Task :=
  match t.children with
  | none => []
  | some cs => cs.map Task.visit ++ [.close v]

/-- The number of events a task may take. -/
def Task.work : Task → Nat
  | .visit t => 2 * t.count
  | .close _ => 1

/-- The number of events several tasks may take. -/
def workOfTasks : List Task → Nat
  | [] => 0
  | k :: ks => k.work + workOfTasks ks

theorem workOfTasks_append (xs ys : List Task) :
    workOfTasks (xs ++ ys) = workOfTasks xs + workOfTasks ys := by
  induction xs with
  | nil => simp [workOfTasks]
  | cons x xs ih => simp [workOfTasks, ih, Nat.add_assoc]

theorem workOfTasks_map_visit (ts : List Tree) :
    workOfTasks (ts.map Task.visit) = 2 * Tree.countOfList ts := by
  induction ts with
  | nil => rfl
  | cons t ts ih => simp [workOfTasks, Task.work, Tree.countOfList, ih, Nat.mul_add]

/-- What is below a node takes less than the node. -/
theorem workOfTasks_tasksBelow_lt (v : View) (t : Tree) :
    workOfTasks (tasksBelow v t) < 2 * t.count := by
  obtain ⟨ty, tx, cs, ps⟩ := t
  cases cs with
  | none => simp [tasksBelow, Tree.children, Tree.count, workOfTasks]
  | some cs =>
    simp only [tasksBelow, Tree.children, Tree.count, workOfTasks_append, workOfTasks_map_visit,
      workOfTasks, Task.work]
    omega

/-- The events of the tasks that wait, the first of them next; `id` is the next free number. -/
def events (id : Nat) : List Task → List Event
  | [] => []
  | .close v :: rest => .closed v :: events id rest
  | .visit t :: rest =>
    let v := View.ofTree id t
    .opened v :: events (id + 1) (tasksBelow v t ++ rest)
termination_by tasks => workOfTasks tasks
decreasing_by
  · simp [workOfTasks, Task.work]
  · have := workOfTasks_tasksBelow_lt (View.ofTree id t) t
    simp only [workOfTasks_append, workOfTasks, Task.work]
    omega

/-- The events of a tree. -/
def eventsOfTree (t : Tree) : List Event := events 0 [.visit t]

/-- The nodes that events open, in order. -/
def openedViews (es : List Event) : List View :=
  es.filterMap fun
    | .opened v => some v
    | .closed _ => none

end QueryTree.Page
