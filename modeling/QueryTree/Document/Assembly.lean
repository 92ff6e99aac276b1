import QueryTree.Format
import QueryTree.Tree.Basic

/-!
# QueryTree.Document.Assembly

The document of a tree.  Absent fields are always left out; a style may leave out
the empty ones as well, and may set a ceiling on the nesting, where every mapping
and every sequence counts one.

Trees may be hundreds of levels deep, so nodes are not assembled by recursion: the
nodes under way wait on a stack, each with the children it still lacks.  Children
are taken last to first, so that each finished one goes in front of those that are
done already.  Property lists are shallow and assembled by recursion.

* `Document.ofTree` — the document of a tree (`_tree_document`);
* `Style.properties` — the documents of properties (`_properties_document`);
* `Style.check` — the ceiling (`_check_depth`).
-/

namespace QueryTree.Document

/-- How a tree becomes a document. -/
structure Style where
  /-- Whether empty texts, lists and values are left out. -/
  omitsEmpty : Bool
  /-- The deepest nesting allowed, if there is a limit. -/
  ceiling : Option Int

/-- JSON keeps all that is there. -/
def Style.json : Style := ⟨false, none⟩

/-- YAML leaves out what is empty, and has a ceiling. -/
def Style.yaml (ceiling : Int) : Style := ⟨true, some ceiling⟩

namespace Style

/-- Whether a field stays, given whether it is empty. -/
def keeps (s : Style) (empty : Bool) : Bool := !(s.omitsEmpty && empty)

/-- Fails if a collection at this depth is above the ceiling. -/
def check (s : Style) (depth : Nat) : Except RenderError Unit :=
  match s.ceiling with
  | none => .ok ()
  | some limit => if limit < depth then .error (.ceiling limit) else .ok ()

/-- The entry for a text, if it stays. -/
def textEntry (s : Style) (key text : String) : List (String × Document) :=
  if s.keeps text.isEmpty then [(key, .text text)] else []

/-- The entry for the name of a property, if it has one that stays. -/
def nameEntry (s : Style) : Option String → List (String × Document)
  | none => []
  | some name => s.textEntry "Name" name

mutual

/-- The document of a property in a list at the given depth. -/
def property (s : Style) (depth : Nat) : Property → Except RenderError Document
  | .mk name value => do
    s.check (depth + 1)
    let entry ← valueEntry s depth value
    return .map (s.nameEntry name ++ entry)

/-- The entry for the value of a property, if it has one that stays. -/
def valueEntry (s : Style) (depth : Nat) : PropertyValue → Except RenderError (List (String × Document))
  | .absent => .ok []
  | .text t => .ok (s.textEntry "Value" t)
  | .list items =>
    if s.keeps items.isEmpty then do
      s.check (depth + 2)
      let ds ← properties s (depth + 2) items
      return [("Value", .list ds)]
    else .ok []
  | .other x => .ok (if s.keeps x.document.isEmpty then [("Value", x.document)] else [])

/-- The documents of the properties of a list at the given depth. -/
def properties (s : Style) (depth : Nat) : List Property → Except RenderError (List Document)
  | [] => .ok []
  | p :: ps => do
    let d ← property s depth p
    let ds ← properties s depth ps
    return d :: ds

end

/-- The entry for the properties of a node at the given depth, if they stay. -/
def propertiesEntry (s : Style) (depth : Nat) :
    Option (List Property) → Except RenderError (List (String × Document))
  | none => .ok []
  | some ps =>
    if s.keeps ps.isEmpty then do
      s.check (depth + 1)
      let ds ← properties s (depth + 1) ps
      return [("Properties", .list ds)]
    else .ok []

/-- The children of a node that are written, if the node has a list of them that stays. -/
def written (s : Style) : Option (List Tree) → Option (List Tree)
  | none => none
  | some cs => if s.keeps cs.isEmpty then some cs else none

end Style

/-- A node under way. -/
structure Frame where
  /-- The entries before the children. -/
  before : List (String × Document)
  /-- The entries after the children. -/
  after : List (String × Document)
  /-- Whether the children are written. -/
  lists : Bool
  /-- The depth of the node. -/
  depth : Nat
  /-- The children still to come, the last first. -/
  pending : List Tree
  /-- The documents of the children that are done, the first first. -/
  done : List Document

/-- The document of a node whose children are done. -/
def Frame.close (f : Frame) : Document :=
  .map (f.before ++ (if f.lists then [("Children", .list f.done)] else []) ++ f.after)

/-- Starts on a node. -/
def Style.enter (s : Style) (t : Tree) (depth : Nat) : Except RenderError Frame := do
  s.check depth
  if (s.written t.children).isSome then s.check (depth + 1)
  let after ← s.propertiesEntry depth t.properties
  return {
    before := ("TypeName", .text t.typeName) :: s.textEntry "Text" t.text
    after := after
    lists := (s.written t.children).isSome
    depth := depth
    pending := ((s.written t.children).getD []).reverse
    done := [] }

/-- The work left in a frame: closing it, and entering and closing every node below it. -/
def Frame.work (f : Frame) : Nat := 1 + 2 * Tree.countOfList f.pending

/-- The work left in several frames. -/
def workOfFrames : List Frame → Nat
  | [] => 0
  | f :: fs => f.work + workOfFrames fs

theorem countOfList_append (xs ys : List Tree) :
    Tree.countOfList (xs ++ ys) = Tree.countOfList xs + Tree.countOfList ys := by
  induction xs with
  | nil => simp [Tree.countOfList]
  | cons x xs ih => simp [Tree.countOfList, ih, Nat.add_assoc]

theorem countOfList_reverse (xs : List Tree) :
    Tree.countOfList xs.reverse = Tree.countOfList xs := by
  induction xs with
  | nil => rfl
  | cons x xs ih => simp [countOfList_append, Tree.countOfList, ih, Nat.add_comm]

/-- Entering a node leaves less work than the node itself. -/
theorem Style.work_enter_lt {s : Style} {t : Tree} {depth : Nat} {f : Frame}
    (h : s.enter t depth = .ok f) : f.work < 2 * t.count := by
  have pending : f.pending = ((s.written t.children).getD []).reverse := by
    unfold enter at h
    simp only [bind, Except.bind, pure, Except.pure] at h
    repeat' split at h
    all_goals cases h
    all_goals rfl
  obtain ⟨ty, tx, cs, ps⟩ := t
  cases cs with
  | none => simp [Frame.work, pending, written, Tree.children, Tree.count, Tree.countOfList]
  | some cs =>
    simp only [Frame.work, pending, written, Tree.children, Tree.count, countOfList_reverse]
    split <;> simp [Tree.countOfList] <;> omega

/-- Finishes the innermost node under way, then those around it. -/
def Style.assemble (s : Style) (f : Frame) (outer : List Frame) : Except RenderError Document :=
  match _hp : f.pending with
  | [] =>
    match outer with
    | [] => .ok f.close
    | g :: gs => s.assemble { g with done := f.close :: g.done } gs
  | t :: ts =>
    match _he : s.enter t (f.depth + 2) with
    | .error e => .error e
    | .ok g => s.assemble g ({ f with pending := ts } :: outer)
termination_by f.work + workOfFrames outer
decreasing_by
  · simp [Frame.work, workOfFrames, _hp, Tree.countOfList]
  · have := Style.work_enter_lt _he
    simp only [Frame.work, workOfFrames, _hp, Tree.countOfList] at *
    omega

/-- The document of a tree. -/
def ofTree (s : Style) (t : Tree) : Except RenderError Document :=
  match s.enter t 1 with
  | .error e => .error e
  | .ok f => s.assemble f []

end QueryTree.Document
