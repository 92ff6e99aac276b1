import QueryTree.Yaml.Writer

/-!
# QueryTree.Proofs.Yaml.Reader

Reading YAML in block style.

A text is read in three steps.  Its characters make *pieces*: escapes are undone, and
blanks, breaks and ends of lines that were escaped are told from the characters of the
text.  Folding then makes a text of the pieces.  Around the texts, the columns of dashes
and keys are *marks*, and the marks make the document: what belongs to a mark are the
marks after it that stand further in.

The reader knows mappings with plain keys on one line, sequences, texts in all three
ways of writing them, and the empty collections.  It has no result for anything else that
YAML knows: comments, anchors, tags, directives, block scalars, filled collections in
brackets, and plain words that stand for something other than a text.

* `folded` — line folding, the same for all three ways of writing a text;
* `plainPieces`, `singlePieces`, `doublePieces` — the pieces of a text;
* `scan` — the marks of a document;
* `block` — the document that marks stand for;
* `read` — all of it.
-/

namespace QueryTree.Yaml

/-! ## line folding -/

/-- What a text is made of before its lines are folded. -/
inductive Piece where
  /-- A character that stands for itself, or an escape. -/
  | char (c : Char)
  /-- A blank. -/
  | blank (c : Char)
  /-- The end of a line. -/
  | lineBreak (c : Char)
  /-- The end of a line that is escaped. -/
  | join
deriving DecidableEq, Repr

/-- What stands between the last character and the next. -/
inductive Pause where
  /-- Blanks on the same line. -/
  | blanks (cs : List Char)
  /-- The end of a line, and those of the empty lines after it. -/
  | breaks (first : Char) (more : List Char)
  /-- The end of a line that is escaped, and those of the empty lines after it. -/
  | joined (more : List Char)
deriving DecidableEq, Repr

/-- A next line is a line feed; the other separators stand for themselves. -/
def readBreak (c : Char) : Char := if c.toNat == 0x85 then '\n' else c

namespace Pause

/-- The text of a pause: a single line feed is a blank, and before empty lines it is nothing. -/
def text : Pause → List Char
  | .blanks cs => cs
  | .breaks first more =>
    if first != '\n' then first :: more else if more.isEmpty then [' '] else more
  | .joined more => more

/-- A pause with one more blank.  Blanks at the start of a line do not count. -/
def blank (c : Char) : Pause → Pause
  | .blanks cs => .blanks (cs ++ [c])
  | p => p

/-- A pause with one more break.  Blanks at the end of a line do not count. -/
def lineBreak (c : Char) : Pause → Pause
  | .blanks _ => .breaks (readBreak c) []
  | .breaks first more => .breaks first (more ++ [readBreak c])
  | .joined more => .joined (more ++ [readBreak c])

end Pause

/-- The text that pieces make, after a pause. -/
def folded : Pause → List Piece → List Char
  | p, [] => p.text
  | p, .char c :: ps => p.text ++ c :: folded (.blanks []) ps
  | p, .blank c :: ps => folded (p.blank c) ps
  | p, .lineBreak c :: ps => folded (p.lineBreak c) ps
  | p, .join :: ps => p.text ++ folded (.joined []) ps

/-- The text that pieces make. -/
def textOf (ps : List Piece) : List Char := folded (.blanks []) ps

/-! ## the pieces of texts -/

/-- A piece before others. -/
def prepend (p : Piece) (r : List Piece × List Char) : List Piece × List Char := (p :: r.1, r.2)

/-- Whether a line starts with the mark between two documents. -/
def startsMarker (cs : List Char) : Bool :=
  (cs.take 3 == ['-', '-', '-'] || cs.take 3 == ['.', '.', '.']) && startsGap (cs.drop 3)

/-- An unescaped character inside quotes, with what follows it. -/
def quotedPiece? (c : Char) (rest : List Char) : Option Piece :=
  if c == ' ' || c == '\t' then some (.blank c)
  else if isBreak c then if startsMarker rest then none else some (.lineBreak c)
  else if c == '\r' then none
  else some (.char c)

/-- The pieces of a text in single quotes, from after the first quote on, and what follows the last. -/
def singlePieces : List Char → Option (List Piece × List Char)
  | [] => none
  | '\'' :: '\'' :: rest => (singlePieces rest).map (prepend (.char '\''))
  | '\'' :: rest => some ([], rest)
  | c :: rest => (quotedPiece? c rest).bind fun p => (singlePieces rest).map (prepend p)

/-- What a letter after a backslash stands for. -/
def unescape? (c : Char) : Option Char :=
  match c with
  | '0' => some '\x00'
  | 'a' => some '\x07'
  | 'b' => some '\x08'
  | 't' => some '\x09'
  | '\t' => some '\x09'
  | 'n' => some '\x0a'
  | 'v' => some '\x0b'
  | 'f' => some '\x0c'
  | 'r' => some '\x0d'
  | 'e' => some '\x1b'
  | ' ' => some ' '
  | '"' => some '"'
  | '\\' => some '\\'
  | '/' => some '/'
  | 'N' => some '\u0085'
  | '_' => some '\u00a0'
  | 'L' => some '\u2028'
  | 'P' => some '\u2029'
  | _ => none

/-- The number of digits after a letter that announces them. -/
def digitCount? (c : Char) : Option Nat :=
  match c with
  | 'x' => some 2
  | 'u' => some 4
  | 'U' => some 8
  | _ => none

/-- How far an escape has been read. -/
inductive Escape where
  /-- There is none. -/
  | outside
  /-- A backslash was read. -/
  | started
  /-- Digits are read; `left` more follow the next one. -/
  | digits (left value : Nat)
deriving DecidableEq, Repr

/-- The pieces of a text in double quotes, from after the first quote on, and what follows the last. -/
def doublePieces : Escape → List Char → Option (List Piece × List Char)
  | _, [] => none
  | .outside, c :: rest =>
    if c == '"' then some ([], rest)
    else if c == '\\' then doublePieces .started rest
    else (quotedPiece? c rest).bind fun p => (doublePieces .outside rest).map (prepend p)
  | .started, c :: rest =>
    match digitCount? c with
    | some n => doublePieces (.digits (n - 1) 0) rest
    | none =>
      match unescape? c with
      | some d => (doublePieces .outside rest).map (prepend (.char d))
      | none =>
        if isBreak c && !startsMarker rest then (doublePieces .outside rest).map (prepend .join)
        else none
  | .digits left value, c :: rest =>
    match Text.hexValue? c with
    | none => none
    | some d =>
      match left with
      | left + 1 => doublePieces (.digits left (value * 16 + d)) rest
      | 0 =>
        if (value * 16 + d).isValidChar then
          (doublePieces .outside rest).map (prepend (.char (Char.ofNat (value * 16 + d))))
        else none

/-- Whether a plain text can go on here, after a gap. -/
def goesOn : List Char → Bool
  | [] => false
  | c :: rest => !isGap c && c != '#' && !(c == ':' && startsGap rest)

/-- Whether a plain text goes on after blanks and breaks.  On a later line it has to stand at the column
`limit` or further in; if there is none, it ends with its line.  `column` is the column on a later
line. -/
def resumes (limit : Option Nat) : Option Nat → List Char → Bool
  | _, [] => false
  | column, c :: rest =>
    if c == ' ' then resumes limit (column.map (· + 1)) rest
    else if isBreak c then limit.isSome && resumes limit (some 0) rest
    else goesOn (c :: rest) && column.all fun n => limit.any (· ≤ n)

/-- The pieces of a plain text, and what follows it. -/
def plainPieces (limit : Option Nat) : List Char → List Piece × List Char
  | [] => ([], [])
  | c :: rest =>
    if c == ' ' || isBreak c then
      if resumes limit none (c :: rest) then
        prepend (if c == ' ' then .blank c else .lineBreak c) (plainPieces limit rest)
      else ([], c :: rest)
    else if isGap c || (c == ':' && startsGap rest) then ([], c :: rest)
    else prepend (.char c) (plainPieces limit rest)

/-- Whether a plain text can start here. -/
def startsPlain : List Char → Bool
  | [] => false
  | c :: rest =>
    !isGap c && !isIndicator c && !((c == '-' || c == '?' || c == ':') && startsGap rest)

/-! ## marks -/

/-- What stands at a column. -/
inductive Mark where
  /-- The dash of an item. -/
  | dash (column : Nat)
  /-- A key. -/
  | key (column : Nat) (k : String)
  /-- A value on the line of its dash or key. -/
  | value (column : Nat) (d : Document)

/-- Where the reader stands. -/
inductive Spot where
  /-- At the start of a line, where only marks can stand. -/
  | line
  /-- After a dash; a text that starts here goes on at the column `limit` or further in. -/
  | dash (limit : Nat)
  /-- After a key, where no other mark can stand. -/
  | key (limit : Nat)
deriving DecidableEq, Repr

/-- Whether a dash or a key can stand here. -/
def Spot.isOpen : Spot → Bool
  | .key _ => false
  | _ => true

/-- The length up to which a key can be told from a text. -/
def keyLimit : Nat := 1024

/-- A key with its colon, and what follows. -/
def key? (cs : List Char) : Option (String × List Char) :=
  if startsPlain cs then
    match plainPieces none cs with
    | (ps, ':' :: rest) =>
      if looksTyped (textOf ps) || keyLimit < (textOf ps).length then none
      else some (String.ofList (textOf ps), rest)
    | _ => none
  else none

/-- A text that has been read, and what follows. -/
def finish (r : List Piece × List Char) : Document × List Char :=
  (.text (String.ofList (textOf r.1)), r.2)

/-- A value that is no filled collection, and what follows. -/
def value? (limit : Nat) : List Char → Option (Document × List Char)
  | '\x7b' :: '\x7d' :: rest => some (.map [], rest)
  | '[' :: ']' :: rest => some (.list [], rest)
  | '\'' :: rest => (singlePieces rest).map finish
  | '"' :: rest => (doublePieces .outside rest).map finish
  | cs =>
    if startsPlain cs && !looksTyped (textOf (plainPieces (some limit) cs).1) then
      some (finish (plainPieces (some limit) cs))
    else none

/-- A value at the end of a line, and what follows. -/
def lastValue? (spot : Spot) (cs : List Char) : Option (Document × List Char) :=
  let ends (r : Document × List Char) := r.2.isEmpty || r.2.head? == some '\n'
  match spot with
  | .line => none
  | .dash limit => (value? limit cs).filter ends
  | .key limit => (value? limit cs).filter ends

/-- The marks from a place on, which stands at a column. -/
def scan (spot : Spot) (column : Nat) (cs : List Char) : Option (List Mark) :=
  match cs with
  | [] => some []
  | c :: rest =>
    if c == ' ' then scan spot (column + 1) rest
    else if c == '\n' then scan .line 0 rest
    else if spot.isOpen && c == '-' && startsGap rest then
      (scan (.dash (column + 1)) (column + 1) rest).map (.dash column :: ·)
    else
      match if spot.isOpen then key? (c :: rest) else none with
      | some (k, rest') =>
        if rest'.length ≤ rest.length then
          (scan (.key (column + 1)) (column + ((c :: rest).length - rest'.length)) rest').map
            (.key column k :: ·)
        else none
      | none =>
        match lastValue? spot (c :: rest) with
        | some (d, rest') =>
          if rest'.length ≤ rest.length then (scan .line 0 rest').map (.value column d :: ·) else none
        | none => none
termination_by cs.length

/-! ## documents -/

namespace Mark

/-- The column of a mark. -/
def column : Mark → Nat
  | .dash n => n
  | .key n _ => n
  | .value n _ => n

/-- Whether a mark is a dash. -/
def isDash : Mark → Bool
  | .dash _ => true
  | _ => false

/-- Whether a mark heads a member of the collection that another mark starts. -/
def isPeer : Mark → Mark → Bool
  | .dash n, .dash m => n == m
  | .key n _, .key m _ => n == m
  | _, _ => false

/-- Whether a mark can stand inside what another one heads: further in, or at the same column if it is the
dash of an item below a key. -/
def encloses (head m : Mark) : Bool :=
  head.column < m.column || (!head.isDash && m.isDash && head.column == m.column)

end Mark

/-- The marks that head members, each with the marks up to the next of them. -/
def groups (isHead : Mark → Bool) : List Mark → List (Mark × List Mark)
  | [] => []
  | m :: ms =>
    if isHead m then (m, ms.takeWhile (!isHead ·)) :: groups isHead ms else groups isHead ms

theorem length_lt_of_mem_groups {isHead : Mark → Bool} {ms : List Mark} {g : Mark × List Mark}
    (h : g ∈ groups isHead ms) : g.2.length < ms.length := by
  induction ms with
  | nil => cases h
  | cons m ms ih =>
      rw [groups] at h
      have hlength := (List.takeWhile_sublist (p := (!isHead ·)) (l := ms)).length_le
      split at h
      · obtain rfl | h := List.mem_cons.mp h
        · exact Nat.lt_succ_of_le hlength
        · exact Nat.lt_succ_of_lt (ih h)
      · exact Nat.lt_succ_of_lt (ih h)

/-- The collection that the members make. -/
def collection? : List (Mark × Document) → Option Document
  | [] => none
  | (.value _ _, _) :: _ => none
  | (.dash _, d) :: ms => some (.list (d :: ms.map Prod.snd))
  | (.key _ k, d) :: ms =>
    let keyed (m : Mark × Document) : Option (String × Document) :=
      match m.1 with
      | .key _ k => some (k, m.2)
      | _ => none
    let entries := (k, d) :: ms.filterMap keyed
    if (entries.map Prod.fst).Nodup then some (.map entries) else none

/-- The document that marks stand for. -/
def block (ms : List Mark) : Option Document :=
  match ms with
  | [] => none
  | [.value _ d] => some d
  | m :: ms =>
    let members := (groups m.isPeer (m :: ms)).attach.map fun g =>
      if g.1.2.all g.1.1.encloses then (block g.1.2).map fun d => (g.1.1, d) else none
    (members.mapM id).bind collection?
termination_by ms.length
decreasing_by
  exact length_lt_of_mem_groups g.2

/-! ## texts -/

/-- The characters that can stand in a YAML text at all. -/
def isReadable (c : Char) : Bool :=
  let n := c.toNat
  n == 0x09 || n == 0x0A || n == 0x0D || (0x20 ≤ n && n ≤ 0x7E) || n == 0x85 ||
    (0xA0 ≤ n && n ≤ 0xD7FF) || (0xE000 ≤ n && n ≤ 0xFFFD) || 0x10000 ≤ n

/-- The document of a YAML text. -/
def read (s : String) : Option Document :=
  if s.toList.all isReadable then (scan .line 0 s.toList).bind block else none

end QueryTree.Yaml
