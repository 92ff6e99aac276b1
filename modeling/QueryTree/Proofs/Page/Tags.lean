/-!
# QueryTree.Proofs.Page.Tags

The tags of a page, as a reader of HTML finds them.

The reader goes through the page character by character.  Between tags a `<` before a
letter, a slash or an exclamation mark starts a tag; in a tag, quotes hide whatever is in
them; and after the start of a script or a style the text is raw, where nothing counts but
the end tag of that element.

* `run` — the tags that a text completes, and where the reader stands then;
* `tags?` — the tags of a whole text, which must not end inside a tag or in raw text;
* `WellNested` — every element that is opened is closed, the innermost first.
-/

namespace QueryTree.Page

/-- A tag. -/
structure Tag where
  /-- Whether it ends an element. -/
  ends : Bool
  /-- The name of the element, in small letters. -/
  name : List Char
  /-- All that stands after the name. -/
  attributes : List Char
deriving DecidableEq

/-- The tag that starts an element. -/
def startTag (name : String) (attributes : List Char) : Tag := ⟨false, name.toList, attributes⟩

/-- The tag that ends an element. -/
def endTag (name : String) : Tag := ⟨true, name.toList, []⟩

/-! ## reading -/

/-- Where the reader stands. -/
inductive Mode where
  /-- Between tags. -/
  | data
  /-- After the character that may start a tag. -/
  | opened
  /-- In the name of a tag. -/
  | naming (ends : Bool) (seen : List Char)
  /-- After the name of a tag; `quote` is the quote that is still open. -/
  | inside (ends : Bool) (name : List Char) (quote : Option Char) (seen : List Char)
  /-- In raw text, with what is missing of the end tag, if it may have started. -/
  | raw (name : List Char) (missing : Option (List Char))
deriving DecidableEq

/-- White space in tags. -/
def isBlank (c : Char) : Bool := c = ' ' || c = '\t' || c = '\n' || c = '\x0c' || c = '\r'

/-- The name of scripts. -/
def script : List Char := ['s', 'c', 'r', 'i', 'p', 't']

/-- The elements whose text is raw. -/
def rawNames : List (List Char) := [script, ['s', 't', 'y', 'l', 'e']]

/-- Where the reader stands after a tag. -/
def Tag.next (t : Tag) : Mode :=
  if !t.ends && rawNames.contains t.name then .raw t.name none else .data

/-- A character of raw text that does not go on with an end tag. -/
def rawStep (name : List Char) (c : Char) : Mode :=
  .raw name (if c = '<' then some ('/' :: name) else none)

/-- Moves on by one character: the tags it completes, and where the reader stands then. -/
def Mode.step : Mode → Char → List Tag × Mode
  | .data, c => ([], if c = '<' then .opened else .data)
  | .opened, c =>
    ([], if c = '/' then .naming true []
      else if c.isAlpha || c = '!' then .naming false [c.toLower]
      else if c = '<' then .opened
      else .data)
  | .naming ends seen, c =>
    if c = '>' then ([⟨ends, seen, []⟩], Tag.next ⟨ends, seen, []⟩)
    else if isBlank c || c = '/' then ([], .inside ends seen none [c])
    else ([], .naming ends (seen ++ [c.toLower]))
  | .inside ends name (some quote) seen, c =>
    ([], .inside ends name (if c = quote then none else some quote) (seen ++ [c]))
  | .inside ends name none seen, c =>
    if c = '>' then ([⟨ends, name, seen⟩], Tag.next ⟨ends, name, seen⟩)
    else ([], .inside ends name (if c = '\'' || c = '"' then some c else none) (seen ++ [c]))
  | .raw name none, c => ([], rawStep name c)
  | .raw name (some []), c =>
    if c = '>' then ([⟨true, name, []⟩], .data)
    else if isBlank c || c = '/' then ([], .inside true name none [c])
    else ([], rawStep name c)
  | .raw name (some (m :: ms)), c =>
    if c.toLower = m then ([], .raw name (some ms)) else ([], rawStep name c)

/-- Moves on by several characters. -/
def run : Mode → List Char → List Tag × Mode
  | m, [] => ([], m)
  | m, c :: cs => ((m.step c).1 ++ (run (m.step c).2 cs).1, (run (m.step c).2 cs).2)

/-- The tags of a whole text. -/
def tags? (cs : List Char) : Option (List Tag) :=
  match run .data cs with
  | (ts, .data) => some ts
  | _ => none

theorem run_append (m : Mode) (cs ds : List Char) :
    run m (cs ++ ds) = ((run m cs).1 ++ (run (run m cs).2 ds).1, (run (run m cs).2 ds).2) := by
  induction cs generalizing m with
  | nil => rfl
  | cons c cs ih => rw [List.cons_append, run, ih, run, List.append_assoc]

/-- Reading two texts one after the other. -/
theorem run_trans {m m' m'' : Mode} {cs ds : List Char} {ts us : List Tag} (h : run m cs = (ts, m'))
    (h' : run m' ds = (us, m'')) : run m (cs ++ ds) = (ts ++ us, m'') := by
  rw [run_append, h, h']

/-- Characters that each leave the reader where it is leave it there together. -/
theorem run_of_stays {m : Mode} {cs : List Char} (h : ∀ c ∈ cs, m.step c = ([], m)) :
    run m cs = ([], m) := by
  induction cs with
  | nil => rfl
  | cons c cs ih =>
      rw [List.forall_mem_cons] at h
      rw [run, h.1, ih h.2]
      rfl

/-- Between tags, only `<` counts. -/
theorem run_data {cs : List Char} (h : '<' ∉ cs) : run .data cs = ([], .data) := by
  refine run_of_stays fun c hc => ?_
  have hne : c ≠ '<' := fun heq => h (heq ▸ hc)
  simp [Mode.step, hne]

/-- In raw text, only `<` counts. -/
theorem run_raw {name cs : List Char} (h : '<' ∉ cs) : run (.raw name none) cs = ([], .raw name none) := by
  refine run_of_stays fun c hc => ?_
  have hne : c ≠ '<' := fun heq => h (heq ▸ hc)
  simp [Mode.step, rawStep, hne]

/-- In quotes, only the closing quote counts. -/
theorem run_quoted {ends : Bool} {name seen cs : List Char} {quote : Char} (h : quote ∉ cs) :
    run (.inside ends name (some quote) seen) cs = ([], .inside ends name (some quote) (seen ++ cs)) := by
  induction cs generalizing seen with
  | nil => rw [List.append_nil, run]
  | cons c cs ih =>
      rw [List.mem_cons, not_or] at h
      have hstep : Mode.step (.inside ends name (some quote) seen) c =
          ([], .inside ends name (some quote) (seen ++ [c])) := by
        simp [Mode.step, Ne.symm h.1]
      rw [run, hstep, ih h.2]
      simp

/-! ## nesting -/

/-- The elements that have no end; the declaration of the document is like one. -/
def voidNames : List (List Char) :=
  ["!doctype", "area", "base", "br", "col", "embed", "hr", "img", "input", "link", "meta", "source",
    "track", "wbr"].map String.toList

/-- The elements that are open after a tag, the innermost first; an end tag must fit. -/
def Tag.nest (t : Tag) (stack : List (List Char)) : Option (List (List Char)) :=
  if t.name ∈ voidNames then some stack
  else if t.ends then
    match stack with
    | name :: rest => if name = t.name then some rest else none
    | [] => none
  else some (t.name :: stack)

/-- The elements that are open after several tags. -/
def nest (stack : List (List Char)) : List Tag → Option (List (List Char))
  | [] => some stack
  | t :: ts => (t.nest stack).bind fun stack' => nest stack' ts

/-- Every element that is opened is closed, the innermost first. -/
def WellNested (ts : List Tag) : Prop := nest [] ts = some []

/-- Tags that close all they open, wherever they stand. -/
def Balanced (ts : List Tag) : Prop := ∀ stack, nest stack ts = some stack

theorem nest_append (stack : List (List Char)) (ts us : List Tag) :
    nest stack (ts ++ us) = (nest stack ts).bind fun stack' => nest stack' us := by
  induction ts generalizing stack with
  | nil => rfl
  | cons t ts ih =>
      rw [List.cons_append, nest, nest]
      cases t.nest stack with
      | none => rfl
      | some stack' => exact ih stack'

theorem balanced_nil : Balanced [] := fun _ => rfl

theorem Balanced.append {ts us : List Tag} (h : Balanced ts) (h' : Balanced us) : Balanced (ts ++ us) := by
  intro stack
  rw [nest_append, h stack]
  exact h' stack

/-- An element around balanced tags is balanced. -/
theorem Balanced.enclose {ts : List Tag} (h : Balanced ts) {name : String} (attributes : List Char)
    (hv : name.toList ∉ voidNames) :
    Balanced (startTag name attributes :: (ts ++ [endTag name])) := by
  intro stack
  have hstart : (startTag name attributes).nest stack = some (name.toList :: stack) := by
    simp [Tag.nest, startTag, hv]
  have hend : (endTag name).nest (name.toList :: stack) = some stack := by
    simp [Tag.nest, endTag, hv]
  -- `h` at the stack with the new element on top
  rw [nest, hstart, Option.bind_some, nest_append, h, Option.bind_some, nest, hend]
  rfl

end QueryTree.Page
