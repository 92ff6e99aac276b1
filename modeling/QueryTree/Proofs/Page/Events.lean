import QueryTree.Page.Event

/-!
# QueryTree.Proofs.Page.Events

The events of a tree by recursion: a node is opened, then come the events of its
children, numbered on, and then it is closed if it has a list of children.

* `events_visit` — a tree that is next on the stack is shown whole before what waits
  behind it;
* `eventsOfTree_eq_treeEvents` — the events of a tree are the ones by recursion.
-/

namespace QueryTree.Page

mutual

/-- The events of a tree whose root has the number `id`. -/
def treeEvents (id : Nat) : Tree → List Event
  | .node ty tx none ps => [.opened (View.ofTree id (.node ty tx none ps))]
  | .node ty tx (some cs) ps =>
    .opened (View.ofTree id (.node ty tx (some cs) ps)) ::
      (treesEvents (id + 1) cs ++ [.closed (View.ofTree id (.node ty tx (some cs) ps))])

/-- The events of several trees, numbered on. -/
def treesEvents (id : Nat) : List Tree → List Event
  | [] => []
  | t :: ts => treeEvents id t ++ treesEvents (id + t.count) ts

end

mutual

/-- A tree that is next is shown whole before what waits behind it. -/
theorem events_visit :
    ∀ (t : Tree) (id : Nat) (rest : List Task),
      events id (.visit t :: rest) = treeEvents id t ++ events (id + t.count) rest
  | .node ty tx none ps, id, rest => by
      rw [events, treeEvents, Tree.count]
      rfl
  | .node ty tx (some cs) ps, id, rest => by
      have hcount : id + (1 + Tree.countOfList cs) = id + 1 + Tree.countOfList cs := by omega
      rw [events, treeEvents, tasksBelow, Tree.children, Tree.count, List.append_assoc,
        events_visits cs (id + 1), List.singleton_append, events, hcount, List.cons_append,
        List.append_assoc, List.singleton_append]

theorem events_visits :
    ∀ (ts : List Tree) (id : Nat) (rest : List Task),
      events id (ts.map .visit ++ rest) = treesEvents id ts ++ events (id + Tree.countOfList ts) rest
  | [], id, rest => rfl
  | t :: ts, id, rest => by
      rw [List.map_cons, List.cons_append, events_visit t, events_visits ts, treesEvents, Tree.countOfList,
        Nat.add_assoc, List.append_assoc]

end

/-- **The events of a tree** are the ones by recursion. -/
theorem eventsOfTree_eq_treeEvents (t : Tree) : eventsOfTree t = treeEvents 0 t := by
  rw [eventsOfTree, events_visit, events, List.append_nil]

end QueryTree.Page
