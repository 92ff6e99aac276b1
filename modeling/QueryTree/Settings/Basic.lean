import QueryTree.Render

/-!
# QueryTree.Settings.Basic

What can be set (`Settings`): six fields, each with a name, a default and a rule for its
values.

A field that breaks its rule is reported with what is wrong; all fields are looked
at before any is reported, in the order in which they are listed here.

* `Settings.load` — settings from the values that were given for fields.
-/

namespace QueryTree

/-- Where the timing log of a run goes. -/
inductive LogDestination where
  /-- Nowhere. -/
  | none
  /-- To standard output, as it is written. -/
  | stdout
  /-- To standard error, as it is written. -/
  | stderr
  /-- After the rendered tree, wherever that goes. -/
  | output
deriving DecidableEq, Repr

namespace LogDestination

/-- All destinations. -/
def all : List LogDestination := [.none, .stdout, .stderr, .output]

/-- The word for a destination. -/
def name : LogDestination → String
  | .none => "none"
  | .stdout => "stdout"
  | .stderr => "stderr"
  | .output => "output"

/-- The destination with a given name. -/
def ofName? (s : String) : Option LogDestination := all.find? fun d => d.name == s

end LogDestination

/-- All that can be set. -/
structure Settings where
  /-- The format in which trees are shown. -/
  outputFormat : Format
  /-- The dialect in which queries are read and written, the generic one if there is none. -/
  dialect : Option String
  /-- Whether the texts of nodes are laid out over several lines. -/
  prettyText : Bool
  /-- The ceiling on the depth of a YAML document. -/
  yamlMaxDepth : Int
  /-- The number of characters of a text that an outline shows. -/
  markdownTruncate : Int
  /-- Where the timing log goes. -/
  logDestination : LogDestination
deriving DecidableEq, Repr

namespace Settings

/-- The settings if nothing is set. -/
def default : Settings := ⟨.json, none, true, 500, 20, .none⟩

instance : Inhabited Settings := ⟨default⟩

/-- What rendering takes from the settings. -/
def renderOptions (s : Settings) : RenderOptions := ⟨s.yamlMaxDepth, s.markdownTruncate⟩

/-- The fields of the settings. -/
inductive Field where
  /-- The format in which trees are shown. -/
  | outputFormat
  /-- The dialect of the queries. -/
  | dialect
  /-- Whether texts are laid out over several lines. -/
  | prettyText
  /-- The ceiling on the depth of a YAML document. -/
  | yamlMaxDepth
  /-- The number of characters that an outline shows. -/
  | markdownTruncate
  /-- Where the timing log goes. -/
  | logDestination
deriving DecidableEq, Repr

/-- The name by which a field is set. -/
def Field.name : Field → String
  | .outputFormat => "output_format"
  | .dialect => "dialect"
  | .prettyText => "pretty_text"
  | .yamlMaxDepth => "yaml_max_depth"
  | .markdownTruncate => "markdown_truncate"
  | .logDestination => "log_destination"

/-- What can be wrong with a value. -/
inductive Flaw where
  /-- It is none of the words that the field takes. -/
  | notListed
  /-- It is no text. -/
  | notText
  /-- It is a text or a number, but none that stands for a truth value. -/
  | unreadableBool
  /-- It is of a kind that cannot stand for a truth value. -/
  | notBool
  /-- It is a text that is no whole number. -/
  | unreadableInt
  /-- It is a whole number that is too large to be read. -/
  | oversizedInt
  /-- It is a number with a fraction. -/
  | fractional
  /-- It is an infinity or no number. -/
  | notFinite
  /-- It is of a kind that cannot stand for a whole number. -/
  | notInt
  /-- It is below the least value of the field. -/
  | tooSmall
deriving DecidableEq, Repr

/-- A field with what is wrong with its value. -/
structure Fault where
  /-- The field. -/
  field : Field
  /-- What is wrong. -/
  flaw : Flaw
deriving DecidableEq, Repr

/-! ## values of one kind -/

/-- One of the words for formats. -/
def readFormat : Document → Except Flaw Format
  | .text s =>
    match Format.ofName? s with
    | some f => .ok f
    | none => .error .notListed
  | _ => .error .notListed

/-- One of the words for destinations. -/
def readDestination : Document → Except Flaw LogDestination
  | .text s =>
    match LogDestination.ofName? s with
    | some d => .ok d
    | none => .error .notListed
  | _ => .error .notListed

/-- A text, or nothing. -/
def readText : Document → Except Flaw (Option String)
  | .null => .ok none
  | .text s => .ok (some s)
  | _ => .error .notText

/-- The words for true, in small letters. -/
def trueWords : List String := ["1", "on", "t", "true", "y", "yes"]

/-- The words for false, in small letters. -/
def falseWords : List String := ["0", "off", "f", "false", "n", "no"]

/-- The least number of 64 bits. -/
def wordMin : Int := -9223372036854775808

/-- The greatest number of 64 bits. -/
def wordMax : Int := 9223372036854775807

/-- A floating-point number without a fraction, within 64 bits, as a whole number. -/
def wholeFloat (x : Float) : Except Flaw Int :=
  if !x.isFinite then .error .notFinite
  else if x.floor != x then .error .fractional
  else if x.abs < Float.ofScientific 9223372036854775808 false 0 then .ok x.toInt64.toInt
  else .error .oversizedInt

/-- A truth value from a whole number: only zero and one stand for one. -/
def boolOfInt (n : Int) : Except Flaw Bool :=
  if n = 0 then .ok false else if n = 1 then .ok true else .error .unreadableBool

/-- A truth value, the number zero or one, or a word for one of the two in any case. -/
def readBool : Document → Except Flaw Bool
  | .bool b => .ok b
  | .int n => if wordMin ≤ n && n ≤ wordMax then boolOfInt n else .error .notBool
  | .float x =>
    match wholeFloat x with
    | .ok n => boolOfInt n
    | .error _ => .error .notBool
  | .text s =>
    let word := String.ofList (Decimal.smallLetters s.toList)
    if trueWords.contains word then .ok true
    else if falseWords.contains word then .ok false
    else .error .unreadableBool
  | _ => .error .notBool

/-- The white space that may stand around a number: the information separators are none of it. -/
def isNumberSpace (c : Char) : Bool := Text.isBlank c && !(0x1C ≤ c.toNat && c.toNat ≤ 0x1F)

/-- A text without the white space around a number. -/
def trimNumber (cs : List Char) : List Char :=
  ((cs.dropWhile isNumberSpace).reverse.dropWhile isNumberSpace).reverse

/-- A whole number in its plain form: perhaps a minus, and digits of which the first is no zero unless
it is the only one. -/
def plainInt (cs : List Char) : Except Flaw Int :=
  let (negative, rest) :=
    match cs with
    | '-' :: rest => (true, rest)
    | rest => (false, rest)
  let digits := rest.takeWhile Decimal.isDigit
  if digits.isEmpty || (digits.head? = some '0' && 1 < digits.length) then .error .unreadableInt
  else if Decimal.mostDigits < digits.length then .error .oversizedInt
  else if digits.length < rest.length then .error .unreadableInt
  else
    let n : Int := Decimal.natOfDigits digits
    .ok (if negative then -n else n)

/-- Drops zeros in front of a number, and underscores among them.  A zero stays before a point and if
there is nothing else; a minus may follow the zeros. -/
def withoutZeros (cs : List Char) : List Char :=
  if cs.head? != some '0' then cs
  else
    match cs.dropWhile fun c => c == '0' || c == '_' with
    | [] => cs.drop (cs.length - 1)
    | '.' :: rest => cs.drop (cs.length - rest.length - 2)
    | rest => rest

/-- Drops a point with nothing but zeros after it. -/
def withoutFraction (cs : List Char) : List Char :=
  match cs.dropWhile (· != '.') with
  | '.' :: zeros =>
    if !zeros.isEmpty && zeros.all (· == '0') then cs.takeWhile (· != '.') else cs
  | _ => cs

/-- Whether two underscores stand next to each other. -/
def hasDoubleUnderscore : List Char → Bool
  | '_' :: '_' :: _ => true
  | _ :: rest => hasDoubleUnderscore rest
  | [] => false

/-- Drops underscores if each stands alone between other characters. -/
def withoutUnderscores (cs : List Char) : List Char :=
  if cs.head? == some '_' || cs.getLast? == some '_' || hasDoubleUnderscore cs then cs
  else cs.filter (· != '_')

/-- The plain form of a number without its sign: it has to start with a digit. -/
def plainForm? (cs : List Char) : Option (List Char) :=
  if cs.head?.any Decimal.isDigit then
    some (withoutUnderscores (withoutFraction (withoutZeros cs)))
  else none

/-- A whole number from a text: white space around it, a sign, zeros in front, underscores between
digits, and a point with zeros are left out of account. -/
def intOfText (s : String) : Except Flaw Int :=
  let plain? :=
    match trimNumber s.toList with
    | '-' :: rest => (plainForm? rest).map ('-' :: ·)
    | '+' :: rest => plainForm? rest
    | cs => plainForm? cs
  match plain? with
  | some cs => plainInt cs
  | none => .error .unreadableInt

/-- A whole number: a truth value counts as one or zero, a text is read. -/
def readInt : Document → Except Flaw Int
  | .bool b => .ok (if b then 1 else 0)
  | .int n => .ok n
  | .float x => wholeFloat x
  | .text s => intOfText s
  | _ => .error .notInt

/-- A whole number that is not below a bound. -/
def readAtLeast (least : Int) (d : Document) : Except Flaw Int :=
  match readInt d with
  | .error e => .error e
  | .ok n => if n < least then .error .tooSmall else .ok n

/-! ## all fields -/

/-- The value of a field: its default if nothing was given, else what the rule makes of it.  A broken
rule leaves the default and adds a fault. -/
def check {α : Type} (given : Field → Option Document) (field : Field) (read : Document → Except Flaw α)
    (default : α) : α × List Fault :=
  match given field with
  | none => (default, [])
  | some d =>
    match read d with
    | .ok a => (a, [])
    | .error flaw => (default, [⟨field, flaw⟩])

/-- Settings from what was given for each field, or everything that is wrong with it. -/
def load (given : Field → Option Document) : Except (List Fault) Settings :=
  let (format, e₁) := check given .outputFormat readFormat default.outputFormat
  let (dialect, e₂) := check given .dialect readText default.dialect
  let (pretty, e₃) := check given .prettyText readBool default.prettyText
  let (depth, e₄) := check given .yamlMaxDepth (readAtLeast 500) default.yamlMaxDepth
  let (limit, e₅) := check given .markdownTruncate (readAtLeast 1) default.markdownTruncate
  let (destination, e₆) := check given .logDestination readDestination default.logDestination
  match e₁ ++ e₂ ++ e₃ ++ e₄ ++ e₅ ++ e₆ with
  | [] => .ok ⟨format, dialect, pretty, depth, limit, destination⟩
  | faults => .error faults

end Settings

end QueryTree
