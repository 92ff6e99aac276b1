import QueryTree.Sql.Dialect
import QueryTree.Sql.Error
import QueryTree.Text.Blank
import QueryTree.Text.Digit
import QueryTree.Text.UpperCase

/-!
# QueryTree.Sql.Token

The words of a query: keywords, names, numbers, strings and symbols, each with the
place of its last character.

Outside quotes a line ends with a line feed or a carriage return, and the two in this
order are one end.  Inside quotes only line feeds end lines, unless something is
escaped there.  Within a keyword of two words no line ends at all.

What is neither white space nor a digit nor a sign can stand in a word.
-/

namespace QueryTree.Sql

/-- The words with a meaning of their own. -/
inductive Keyword where
  | select | distinct | from | where | groupBy | having | orderBy | limit | as | and | or | not | is
  | null | in | between | like | true | false | asc | desc | inner | left | right | cross | join | on
deriving DecidableEq, Repr

namespace Keyword

/-- The keywords of one word with their spelling in capitals. -/
def spellings : List (String × Keyword) :=
  [("SELECT", .select), ("DISTINCT", .distinct), ("FROM", .from), ("WHERE", .where),
    ("HAVING", .having), ("LIMIT", .limit), ("AS", .as), ("AND", .and), ("OR", .or), ("NOT", .not),
    ("IS", .is), ("NULL", .null), ("IN", .in), ("BETWEEN", .between), ("LIKE", .like),
    ("TRUE", .true), ("FALSE", .false), ("ASC", .asc), ("DESC", .desc), ("INNER", .inner),
    ("LEFT", .left), ("RIGHT", .right), ("CROSS", .cross), ("JOIN", .join), ("ON", .on)]

/-- The keywords whose second word is `BY`, with the spelling of the first in capitals. -/
def pairSpellings : List (String × Keyword) := [("GROUP", .groupBy), ("ORDER", .orderBy)]

/-- The keyword with a given spelling, in any case. -/
def find? (spellings : List (String × Keyword)) (word : List Char) : Option Keyword :=
  let capitals := String.ofList (Text.upper word)
  (spellings.find? fun s => s.1 == capitals).map Prod.snd

/-- The keyword that a word is. -/
def ofWord? (word : List Char) : Option Keyword := find? spellings word

/-- The keyword that two words are. -/
def ofPair? (first second : List Char) : Option Keyword :=
  if Text.upper second = ['B', 'Y'] then find? pairSpellings first else none

end Keyword

/-- Signs of one or two characters. -/
inductive Symbol where
  | comma | dot | semicolon | open | close | star | slash | plus | minus | eq | ne | lt | le | gt | ge
  | other (c : Char)
deriving DecidableEq, Repr

namespace Symbol

/-- The sign of two characters. -/
def pair? : Char → Char → Option Symbol
  | '<', '>' => some .ne
  | '!', '=' => some .ne
  | '<', '=' => some .le
  | '>', '=' => some .ge
  | _, _ => none

/-- The sign of one character. -/
def single : Char → Symbol
  | ',' => .comma
  | '.' => .dot
  | ';' => .semicolon
  | '(' => .open
  | ')' => .close
  | '*' => .star
  | '/' => .slash
  | '+' => .plus
  | '-' => .minus
  | '=' => .eq
  | '<' => .lt
  | '>' => .gt
  | c => .other c

end Symbol

/-- What a token is. -/
inductive TokenKind where
  /-- A word with a meaning of its own. -/
  | keyword (k : Keyword)
  /-- A name, and whether it was quoted. -/
  | name (text : String) (quoted : Bool)
  /-- A number as written. -/
  | number (text : String)
  /-- A string without its quotes. -/
  | string (text : String)
  /-- A sign. -/
  | symbol (s : Symbol)
deriving DecidableEq, Repr

/-- A token and the place of its last character. -/
structure Token where
  /-- What it is. -/
  kind : TokenKind
  /-- The place of its last character. -/
  position : Position
deriving DecidableEq, Repr

namespace Token

/-- The place after some characters.  A line ends with a line feed or a carriage return; the two in
this order are one end. -/
def advance : Position → List Char → Position
  | p, [] => p
  | p, '\r' :: '\n' :: cs => advance ⟨p.line + 1, 1⟩ cs
  | p, c :: cs =>
    if c = '\n' || c = '\r' then advance ⟨p.line + 1, 1⟩ cs else advance ⟨p.line, p.column + 1⟩ cs

/-- The place after some characters of which only line feeds end a line. -/
def advanceFeeds (p : Position) (cs : List Char) : Position :=
  cs.foldl (fun p c => if c = '\n' then ⟨p.line + 1, 1⟩ else ⟨p.line, p.column + 1⟩) p

/-- The place some columns further on. -/
def right (p : Position) (n : Nat) : Position := ⟨p.line, p.column + n⟩

/-- The characters that are signs, or start them, or are quotes. -/
def signs : List Char := "!\"#$%&'()*+,-./:;<=>?@[\\]^\x60\x7b|\x7d~".toList

/-- Whether a word can start with a character. -/
def startsWord (c : Char) : Bool := !Text.isBlank c && !Text.isDigit c && !signs.contains c

/-- Whether a word can go on with a character. -/
def inWord (c : Char) : Bool := startsWord c || Text.isDigit c

/-! ## quotes -/

/-- Where reading stopped in a text whose last quote is not closed. -/
inductive Stop where
  /-- Behind the end: there was nothing after an opening quote or a sequence. -/
  | behind
  /-- At the end. -/
  | atEnd
  /-- Before the last character: there was nothing after an escaped one. -/
  | before
deriving DecidableEq, Repr

/-- A token with the place of its last character, and what follows it. -/
abbrev Reading := Except Stop (TokenKind × Position × List Char)

end Token

namespace Quoting

/-- What a backslash and a letter stand for. -/
def sequence? (q : Quoting) (c d : Char) : Option Char :=
  if c = '\\' then (q.sequences.find? fun s => s.1 == d).map Prod.snd else none

/-- What an escaping character and the one after it stand for: the quote for itself, and after a
backslash any character for itself unless the backslash stays before it; two escaping characters
for both.  A character that is a quote escapes only itself. -/
def escaped? (q : Quoting) (c d : Char) : Option (List Char) :=
  let loses := c = '\\' && !q.keepers.isEmpty && !q.keepers.contains d
  if !q.escapes.contains c || !(d = q.quote || q.escapes.contains d || loses) then none
  else if c != '\\' && c != d then none
  else if d = q.quote || (loses && c != d) then some [d]
  else some [c, d]

/-- The place after an escaping character and one that it escapes.  A carriage return there does not
end a line if a line feed follows it. -/
def afterEscaped (p : Position) (d : Char) (rest : List Char) : Position :=
  let p := Token.right p 1
  if d = '\r' && rest.head? = some '\n' then p else Token.advance p [d]

/-- The rest of a text in quotes that starts at a place: what it says, the place of its closing
quote and what follows that. -/
def read (q : Quoting) : Position → List Char → Except Token.Stop (List Char × Position × List Char)
  | _, [] => .error .behind
  | p, [c] => if c = q.quote then .ok ([], p, []) else .error .atEnd
  | p, c :: d :: rest =>
    match q.sequence? c d with
    | some meaning =>
      (read q (Token.right p 2) rest).map fun (body, after) => (meaning :: body, after)
    | none =>
      match q.escaped? c d with
      | some meaning =>
        if rest.isEmpty then .error .before
        else (read q (afterEscaped p d rest) rest).map fun (body, after) => (meaning ++ body, after)
      | none =>
        if c = q.quote then .ok ([], p, d :: rest)
        else
          (read q (if c = '\r' && d = '\n' then p else Token.advance p [c]) (d :: rest)).map
            fun (body, after) => (c :: body, after)

/-- Whether nothing is escaped up to the first quote of a text. -/
def isPlain (q : Quoting) (cs : List Char) : Bool :=
  match cs.dropWhile (· != q.quote) with
  | [] => false
  | _ :: after =>
    after.head? != some q.quote &&
      (q.sequences.isEmpty || !(cs.takeWhile (· != q.quote)).contains '\\')

/-- A text in quotes, after its opening quote. -/
def text (q : Quoting) (p : Position) (cs : List Char) :
    Except Token.Stop (List Char × Position × List Char) :=
  if q.isPlain cs then
    let body := cs.takeWhile (· != q.quote)
    .ok (body, Token.advanceFeeds p body, (cs.dropWhile (· != q.quote)).tail)
  else q.read p cs

end Quoting

namespace Token

/-- A token in quotes, after its opening quote. -/
def inQuotes (kind : String → TokenKind) (q : Quoting) (p : Position) (rest : List Char) : Reading :=
  (q.text (right p 1) rest).map fun (body, after) => (kind (String.ofList body), after)

/-! ## other tokens -/

/-- A token of a given length without any line end. -/
def flat (kind : TokenKind) (p : Position) (length : Nat) (cs : List Char) : Reading :=
  .ok (kind, right p (length - 1), cs.drop length)

/-- Whether a character is a sign in front of digits. -/
def signsDigits (c : Char) (rest : List Char) : Bool :=
  (c = '+' || c = '-') && (rest.head?.map Text.isDigit).getD false

/-- How many characters go on with a number: digits, a point unless there was one, and the letter
of an exponent unless there was one.  A sign counts right after this letter and before a digit. -/
def numberLength (pointed raised signed : Bool) : List Char → Nat
  | [] => 0
  | c :: rest =>
    if Text.isDigit c then 1 + numberLength pointed raised false rest
    else if c = '.' && !pointed then 1 + numberLength true raised false rest
    else if (c = 'e' || c = 'E') && !raised then 1 + numberLength pointed true true rest
    else if signed && signsDigits c rest then 1 + numberLength pointed raised false rest
    else 0

/-- A number, or a name that starts like one where this is allowed. -/
def number (d : Dialect) (p : Position) (cs : List Char) : Reading :=
  let length := numberLength false false false cs
  let text := String.ofList (cs.take length)
  let more := (cs.drop length).takeWhile inWord
  if d.namesStartWithDigits && !more.isEmpty then
    flat (.name (text ++ String.ofList more) false) p (length + more.length) cs
  else flat (.number text) p length cs

/-- A keyword or a name. -/
def word (p : Position) (cs : List Char) : Reading :=
  let first := cs.takeWhile inWord
  let afterFirst := cs.drop first.length
  let blanks := afterFirst.takeWhile Text.isBlank
  let second := (afterFirst.drop blanks.length).takeWhile inWord
  match Keyword.ofPair? first second, Keyword.ofWord? first with
  | some k, _ => flat (.keyword k) p (first.length + blanks.length + second.length) cs
  | none, some k => flat (.keyword k) p first.length cs
  | none, none => flat (.name (String.ofList first) false) p first.length cs

/-- A sign. -/
def symbol (p : Position) (c : Char) (rest : List Char) : Reading :=
  match rest.head?.bind (Symbol.pair? c) with
  | some s => flat (.symbol s) p 2 (c :: rest)
  | none => flat (.symbol (.single c)) p 1 (c :: rest)

/-- The first token of a text that starts at a place and not with white space. -/
def first (d : Dialect) (p : Position) (c : Char) (rest : List Char) : Reading :=
  if d.stringQuotes.contains c then inQuotes .string (d.stringQuoting c) p rest
  else if c = d.nameQuote then inQuotes (.name · true) d.nameQuoting p rest
  else if Text.isDigit c then number d p (c :: rest)
  else if startsWord c then word p (c :: rest)
  else symbol p c rest

/-- The tokens of a text that starts at a place, at most `fuel` of them. -/
def scan (d : Dialect) : Nat → Position → List Char → Except Stop (List Token)
  | 0, _, _ => .ok []
  | fuel + 1, p, cs =>
    let p := advance p (cs.takeWhile Text.isBlank)
    match cs.dropWhile Text.isBlank with
    | [] => .ok []
    | c :: rest =>
      match first d p c rest with
      | .error stop => .error stop
      | .ok (kind, last, after) => (scan d fuel (right last 1) after).map (⟨kind, last⟩ :: ·)

/-- How much of a text before the place where reading stopped is shown. -/
def contextLength : Nat := 50

/-- The end of a text without its last character, as it is shown when a quote is not closed. -/
def context (stop : Stop) (cs : List Char) : String :=
  let reached :=
    match stop with
    | .behind => cs.length + 1
    | .atEnd => cs.length
    | .before => cs.length - 1
  String.ofList (cs.dropLast.drop (reached - contextLength))

/-- The tokens of a text. -/
def tokens (d : Dialect) (text : String) : Except Flaw (List Token) :=
  let cs := text.toList
  match scan d (cs.length + 1) ⟨1, 1⟩ cs with
  | .error stop => .error (.openQuote (context stop cs))
  | .ok ts => .ok ts

end Token

end QueryTree.Sql
