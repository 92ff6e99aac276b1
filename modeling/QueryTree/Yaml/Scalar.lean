import QueryTree.Text.Hex
import QueryTree.Yaml.Lookalike

/-!
# QueryTree.Yaml.Scalar

Texts in YAML.  A text is written plainly if it reads back as itself; in single
quotes if it only has to be set apart; in double quotes, with escapes, if it has
characters or a mixture of blanks and breaks that nothing else can carry.

Lines are folded after eighty columns: a plain or single-quoted text at a blank
that stands alone, a double-quoted text at a blank or beside an escape.
-/

namespace QueryTree.Yaml

/-- The column after which lines are folded. -/
def width : Nat := 80

/-- The characters that break a line. -/
def isBreak (c : Char) : Bool := [0x0A, 0x85, 0x2028, 0x2029].contains c.toNat

/-- The characters that set an indicator apart. -/
def isGap (c : Char) : Bool := isBreak c || [0x00, 0x09, 0x0D, 0x20].contains c.toNat

/-- Characters that can stand in a text without being escaped. -/
def isOrdinary (c : Char) : Bool :=
  let n := c.toNat
  n == 0x0A || (0x20 ≤ n && n ≤ 0x7E) || n == 0x85 || (0xA0 ≤ n && n ≤ 0xD7FF) ||
    (0xE000 ≤ n && n ≤ 0xFFFD && n != 0xFEFF) || (0x10000 ≤ n && n ≤ 0x10FFFE)

/-- The characters that mean something at the start of a text. -/
def isIndicator (c : Char) : Bool := "#,[]\x7b\x7d&*!|>'\"%@\x60".toList.contains c

/-- Whether the text starts at a gap or has ended. -/
def startsGap : List Char → Bool
  | [] => true
  | c :: _ => isGap c

/-- Whether a colon before a gap, or a hash sign after one, stands in the text; `gap` says whether a gap
stands before it. -/
def hasInnerIndicator (gap : Bool) : List Char → Bool
  | [] => false
  | c :: rest =>
    (c == ':' && startsGap rest) || (c == '#' && gap) || hasInnerIndicator (isGap c) rest

/-- Whether a text, written plainly, would be taken for structure. -/
def hasIndicators : List Char → Bool
  | [] => false
  | c :: rest =>
    (c :: rest).take 3 == ['-', '-', '-'] || (c :: rest).take 3 == ['.', '.', '.'] || isIndicator c ||
      ((c == '?' || c == ':' || c == '-') && startsGap rest) || hasInnerIndicator (isGap c) rest

/-- Whether a blank and a break stand next to each other. -/
def mixesBlanks : List Char → Bool
  | a :: b :: rest =>
    (a == ' ' && isBreak b) || (isBreak a && b == ' ') || mixesBlanks (b :: rest)
  | _ => false

/-- Whether a text starts or ends with a blank or a break. -/
def hasLooseEnds (cs : List Char) : Bool :=
  let loose (c : Option Char) := c.any fun c => c == ' ' || isBreak c
  loose cs.head? || loose cs.getLast?

/-- The ways of writing a text. -/
inductive Quoting where
  /-- As it is. -/
  | plain
  /-- In single quotes. -/
  | single
  /-- In double quotes. -/
  | double
deriving DecidableEq, Repr

/-- The way a text is written. -/
def quoting (cs : List Char) : Quoting :=
  if !cs.all isOrdinary || mixesBlanks cs then .double
  else if hasLooseEnds cs || cs.any isBreak || hasIndicators cs || looksTyped cs then .single
  else .plain

/-- A new line with the given indentation. -/
def newLine (indent : Nat) : List Char := '\n' :: List.replicate indent ' '

/-- Whether a character goes on with the run that another one started. -/
def sameRun (a b : Char) : Bool :=
  (a == ' ') == (b == ' ') && isBreak a == isBreak b

/-- A text cut into runs of blanks, of breaks and of other characters. -/
def runs : List Char → List (List Char)
  | [] => []
  | c :: rest =>
    match runs rest with
    | (d :: run) :: more => if sameRun c d then (c :: d :: run) :: more else [c] :: (d :: run) :: more
    | more => [c] :: more

/-- A plain text, run by run, from a column on; `fold` says whether lines may be folded. -/
def plainRuns (fold : Bool) (indent : Nat) : Nat → List (List Char) → List Char
  | _, [] => []
  | column, run :: more =>
    if run == [' '] && width < column && fold then newLine indent ++ plainRuns fold indent indent more
    else run ++ plainRuns fold indent (column + run.length) more

/-- A plain text. -/
def plainChars (fold : Bool) (indent column : Nat) (cs : List Char) : List Char :=
  plainRuns fold indent column (runs cs)

/-- A run of breaks inside single quotes: a line feed at its start counts twice. -/
def breakRun (indent : Nat) (run : List Char) : List Char :=
  (if run.head? == some '\n' then ['\n'] else []) ++ run ++ List.replicate indent ' '

/-- The content of single quotes, run by run; `first` says whether nothing stands before. -/
def singleRuns (fold : Bool) (indent : Nat) : Bool → Nat → List (List Char) → List Char
  | _, _, [] => []
  | first, column, run :: more =>
    if run.any isBreak then breakRun indent run ++ singleRuns fold indent false indent more
    else if run == [' '] && width < column && fold && !first && !more.isEmpty then
      newLine indent ++ singleRuns fold indent false indent more
    else
      let out := run.flatMap fun c => if c == '\'' then ['\'', '\''] else [c]
      out ++ singleRuns fold indent false (column + out.length) more

/-- A text in single quotes. -/
def singleChars (fold : Bool) (indent column : Nat) (cs : List Char) : List Char :=
  '\'' :: singleRuns fold indent true (column + 1) (runs cs) ++ ['\'']

/-- The escapes that are one letter. -/
def letterEscape? (c : Char) : Option Char :=
  match c.toNat with
  | 0x00 => some '0'
  | 0x07 => some 'a'
  | 0x08 => some 'b'
  | 0x09 => some 't'
  | 0x0A => some 'n'
  | 0x0B => some 'v'
  | 0x0C => some 'f'
  | 0x0D => some 'r'
  | 0x1B => some 'e'
  | 0x22 => some '"'
  | 0x5C => some '\\'
  | 0x85 => some 'N'
  | 0x2028 => some 'L'
  | 0x2029 => some 'P'
  | _ => none

/-- Whether a character stands for itself inside double quotes. -/
def isVerbatim (c : Char) : Bool :=
  let n := c.toNat
  (letterEscape? c).isNone &&
    ((0x20 ≤ n && n ≤ 0x7E) || (0xA0 ≤ n && n ≤ 0xD7FF) || (0xE000 ≤ n && n ≤ 0xFFFD && n != 0xFEFF))

/-- The escape of a character inside double quotes. -/
def escape (c : Char) : List Char :=
  match letterEscape? c with
  | some e => ['\\', e]
  | none =>
    let n := c.toNat
    if n ≤ 0xFF then '\\' :: 'x' :: Text.upperHex 2 n
    else if n ≤ 0xFFFF then '\\' :: 'u' :: Text.upperHex 4 n
    else '\\' :: 'U' :: Text.upperHex 8 n

/-- Ends a line inside double quotes; a blank that opens the next line is marked by a backslash. -/
def foldLine (indent : Nat) (blankNext : Bool) : List Char :=
  '\\' :: newLine indent ++ (if blankNext then ['\\'] else [])

/-- The column after `foldLine`. -/
def foldColumn (indent : Nat) (blankNext : Bool) : Nat :=
  if blankNext then indent + 1 else indent

/-- The content of double quotes.  `first` says whether nothing stands before, `afresh` whether an escape
stands directly before; neither the first nor the last character is a place to fold at. -/
def doubleFrom (fold : Bool) (indent : Nat) : Bool → Bool → Nat → List Char → List Char
  | _, _, _, [] => []
  | first, afresh, column, c :: rest =>
    let inner := fold && !first && !rest.isEmpty
    if isVerbatim c then
      if inner && (c == ' ' || afresh) && width < column then
        let blankNext := c == ' '
        foldLine indent blankNext ++ c ::
          doubleFrom fold indent false false (foldColumn indent blankNext + 1) rest
      else c :: doubleFrom fold indent false false (column + 1) rest
    else
      let out := escape c
      let column := column + out.length
      if inner && width + 1 < column then
        let blankNext := rest.head? == some ' '
        out ++ foldLine indent blankNext ++
          doubleFrom fold indent false true (foldColumn indent blankNext) rest
      else out ++ doubleFrom fold indent false true column rest

/-- A text in double quotes. -/
def doubleChars (fold : Bool) (indent column : Nat) (cs : List Char) : List Char :=
  '"' :: doubleFrom fold indent true false (column + 1) cs ++ ['"']

/-- A text as a value, from a column on. -/
def textChars (indent column : Nat) (cs : List Char) : List Char :=
  match quoting cs with
  | .plain => plainChars true indent column cs
  | .single => singleChars true indent column cs
  | .double => doubleChars true indent column cs

/-- A text as a key on a line of its own; keys are not folded. -/
def keyChars (cs : List Char) : List Char :=
  match quoting cs with
  | .plain => plainChars false 0 0 cs
  | .single => singleChars false 0 0 cs
  | .double => doubleChars false 0 0 cs

end QueryTree.Yaml
