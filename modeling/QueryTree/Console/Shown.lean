import QueryTree.Console.Emoji
import QueryTree.Console.Width
import QueryTree.Text.Blank

/-!
# QueryTree.Console.Shown

Messages as a console shows them.  Names of pictures between colons become the
pictures, control characters that would move the cursor or ring the bell are left
out, and tabs are filled up with blanks to the next multiple of eight cells.
-/

namespace QueryTree.Console

/-! ## pictures -/

/-- Whether a character can stand between the colons around the name of a picture. -/
def inName (c : Char) : Bool := c != ':' && !Text.isBlank c

/-- The words after a dash that ask for a form of a picture, with the mark of the form. -/
def variants : List (List Char × Char) := [("-emoji".toList, '\uFE0F'), ("-text".toList, '\uFE0E')]

/-- A name without the word for a form at its end, and the mark of that form. -/
def splitVariant (name : List Char) : List Char × List Char :=
  match variants.find? fun v => v.1.isSuffixOf name with
  | some (word, mark) => (name.take (name.length - word.length), [mark])
  | none => (name, [])

/-- What is shown for a name between colons: the picture, or all of it as it stands. -/
def named (name : List Char) : List Char :=
  let (base, mark) := splitVariant name
  match Emoji.find? base with
  | some picture => picture ++ mark
  | none => ':' :: name ++ [':']

/-- A text with pictures for their names. -/
def withPictures : List Char → List Char
  | [] => []
  | c :: rest =>
    if c = ':' then
      match _found : rest.dropWhile inName with
      | ':' :: after => named (rest.takeWhile inName) ++ withPictures after
      | _ => c :: withPictures rest
    else c :: withPictures rest
termination_by cs => cs.length
decreasing_by
  · have h := (List.dropWhile_sublist inName (l := rest)).length_le
    rw [_found] at h
    simp only [List.length_cons] at h ⊢
    omega
  all_goals simp

/-! ## control characters -/

/-- The control characters that are left out: bell, backspace, vertical tab, form feed and carriage
return. -/
def isSkipped (c : Char) : Bool := [0x07, 0x08, 0x0B, 0x0C, 0x0D].contains c.toNat

/-- The distance from one tab stop to the next. -/
def tabWidth : Nat := 8

/-- A stretch of a line up to a tab, with the blanks that the tab stands for: one, which a joiner
before it can swallow, and those that are missing to the next stop.  The result has the cell after
it. -/
def tabbed (column : Nat) (stretch : List Char) : List Char × Nat :=
  let body := stretch ++ [' ']
  let reached := column + textCells body
  let missing := (tabWidth - reached % tabWidth) % tabWidth
  (body ++ List.replicate missing ' ', reached + missing)

/-- A text after a stretch, in reverse, that starts in a given cell of its line, with blanks for
tabs. -/
def withoutTabs (column : Nat) (stretch : List Char) : List Char → List Char
  | [] => stretch.reverse
  | c :: rest =>
    if c = '\n' then stretch.reverse ++ c :: withoutTabs 0 [] rest
    else if c = '\t' then
      let (filled, column) := tabbed column stretch.reverse
      filled ++ withoutTabs column [] rest
    else withoutTabs column (c :: stretch) rest

/-- A message as it is shown. -/
def shown (message : String) : String :=
  String.ofList (withoutTabs 0 [] ((withPictures message.toList).filter fun c => !isSkipped c))

end QueryTree.Console
