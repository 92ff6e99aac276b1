import QueryTree.Decimal.Literal
import QueryTree.Text.Hex

/-!
# QueryTree.Json.Token

The tokens of JSON.  Scanning is one pass without looking ahead: each character
moves a small state on and may complete a token, so the tokens of a text are a
fold over its characters.

The rules are the strict ones: numbers have no leading zeros, digits on both sides of
a point and not too many before it, strings hold no raw control character, and a
character beyond the first plane is written as itself or as a pair of surrogate
codes, never as half of one.  Only the numbers that are not finite have words of their
own.
-/

namespace QueryTree.Json

/-- A token. -/
inductive Token where
  /-- An opening brace. -/
  | openMap
  /-- A closing brace. -/
  | closeMap
  /-- An opening bracket. -/
  | openList
  /-- A closing bracket. -/
  | closeList
  /-- A comma. -/
  | comma
  /-- A colon. -/
  | colon
  /-- A string, unescaped. -/
  | text (s : String)
  /-- A number without a fraction and an exponent. -/
  | int (n : Int)
  /-- Any other number. -/
  | float (x : Float)
  /-- The word for true or false. -/
  | bool (b : Bool)
  /-- The word for nothing. -/
  | null

/-- Where scanning stands.  What has been read of a token is kept with its last character first. -/
inductive Scan where
  /-- Between tokens. -/
  | between
  /-- Inside a string; `high` is the first half of a pair whose second half must come next. -/
  | text (done : List Char) (high : Option Nat)
  /-- Inside a string, after a backslash. -/
  | escape (done : List Char) (high : Option Nat)
  /-- Inside a string, with `missing` digits of a character code still to come. -/
  | code (done : List Char) (high : Option Nat) (missing value : Nat)
  /-- Inside a number or a word. -/
  | bare (done : List Char)

/-- The white space of JSON. -/
def isSpace (c : Char) : Bool := c = ' ' || c = '\t' || c = '\n' || c = '\r'

/-- The characters of numbers and words. -/
def isBare (c : Char) : Bool :=
  c.isAlphanum || c = '+' || c = '-' || c = '.'

/-- The character that a letter after a backslash stands for. -/
def unescape? (c : Char) : Option Char :=
  match c with
  | '"' => some '"'
  | '\\' => some '\\'
  | '/' => some '/'
  | 'n' => some '\n'
  | 'r' => some '\r'
  | 't' => some '\t'
  | 'b' => some '\x08'
  | 'f' => some '\x0c'
  | _ => none

/-- The digits of a whole number: a zero alone, or not too many digits that start with another one. -/
def isWhole (cs : List Char) : Bool :=
  match cs with
  | [] => false
  | ['0'] => true
  | '0' :: _ => false
  | _ => cs.all Decimal.isDigit && cs.length ≤ Decimal.mostDigits

/-- An exponent, if there is anything: a letter, a sign, digits. -/
def isExponent (cs : List Char) : Bool :=
  match cs with
  | [] => true
  | c :: rest =>
    let digits := (Decimal.splitSign rest).2
    (c = 'e' || c = 'E') && !digits.isEmpty && digits.all Decimal.isDigit

/-- A number. -/
def number? (cs : List Char) : Option Token :=
  let (negative, unsigned) :=
    match cs with
    | '-' :: rest => (true, rest)
    | rest => (false, rest)
  let whole := unsigned.takeWhile Decimal.isDigit
  let rest := unsigned.dropWhile Decimal.isDigit
  if !isWhole whole then none
  else
    match rest with
    | [] =>
      let n : Int := Decimal.natOfDigits whole
      some (.int (if negative then -n else n))
    | '.' :: after =>
      if (after.takeWhile Decimal.isDigit).isEmpty || !isExponent (after.dropWhile Decimal.isDigit) then none
      else (Decimal.Literal.read? cs).map fun l => .float l.toFloat
    | _ =>
      if isExponent rest then (Decimal.Literal.read? cs).map fun l => .float l.toFloat else none

/-- A number or a word. -/
def bare? (cs : List Char) : Option Token :=
  match String.ofList cs with
  | "true" => some (.bool true)
  | "false" => some (.bool false)
  | "null" => some .null
  | "NaN" => some (.float Decimal.notANumber)
  | "Infinity" => some (.float Decimal.infinity)
  | "-Infinity" => some (.float (-Decimal.infinity))
  | _ => number? cs

/-- The token that a single character is. -/
def mark? (c : Char) : Option Token :=
  match c with
  | '\x7b' => some .openMap
  | '\x7d' => some .closeMap
  | '[' => some .openList
  | ']' => some .closeList
  | ',' => some .comma
  | ':' => some .colon
  | _ => none

/-- A character between tokens. -/
def start (c : Char) : Option (List Token × Scan) :=
  if isSpace c then some ([], .between)
  else if c = '"' then some ([], .text [] none)
  else if isBare c then some ([], .bare [c])
  else (mark? c).map fun t => ([t], .between)

/-- Puts a complete character code into a string; halves of pairs have to match. -/
def putCode (done : List Char) (high : Option Nat) (value : Nat) : Option Scan :=
  match high with
  | some h =>
    if 0xDC00 ≤ value && value ≤ 0xDFFF then
      some (.text (Char.ofNat (0x10000 + (h - 0xD800) * 0x400 + (value - 0xDC00)) :: done) none)
    else none
  | none =>
    if 0xD800 ≤ value && value ≤ 0xDBFF then some (.text done (some value))
    else if 0xDC00 ≤ value && value ≤ 0xDFFF then none
    else some (.text (Char.ofNat value :: done) none)

/-- Moves on by one character: the tokens it completes, and where scanning stands then. -/
def Scan.step : Scan → Char → Option (List Token × Scan)
  | .between, c => start c
  | .text done high, c =>
    if c = '\\' then some ([], .escape done high)
    else if high.isSome || c.toNat < 0x20 then none
    else if c = '"' then some ([.text (String.ofList done.reverse)], .between)
    else some ([], .text (c :: done) none)
  | .escape done high, c =>
    if c = 'u' then some ([], .code done high 4 0)
    else if high.isSome then none
    else (unescape? c).map fun e => ([], .text (e :: done) none)
  | .code done high missing value, c =>
    match Text.hexValue? c with
    | none => none
    | some v =>
      let value := 16 * value + v
      if missing ≤ 1 then (putCode done high value).map fun s => ([], s)
      else some ([], .code done high (missing - 1) value)
  | .bare done, c =>
    if isBare c then some ([], .bare (c :: done))
    else
      match bare? done.reverse, start c with
      | some t, some (ts, s) => some (t :: ts, s)
      | _, _ => none

/-- The tokens that the end of the text completes. -/
def Scan.finish : Scan → Option (List Token)
  | .between => some []
  | .bare done => (bare? done.reverse).map fun t => [t]
  | _ => none

/-- The tokens of a text from a given state on, after those already found, which stand last first. -/
def Scan.run (s : Scan) (found : List Token) : List Char → Option (List Token)
  | [] => s.finish.map fun ts => found.reverse ++ ts
  | c :: cs =>
    match s.step c with
    | none => none
    | some (ts, s') => s'.run (ts.reverse ++ found) cs

/-- The tokens of a text. -/
def tokens (cs : List Char) : Option (List Token) := Scan.run .between [] cs

end QueryTree.Json
