import QueryTree.Text.Pattern

/-!
# QueryTree.Yaml.Lookalike

Which texts would not be read back as texts if they were written plainly: those
that look like a truth value, nothing, a number, a date, or one of the two special
words of mappings.
-/

namespace QueryTree.Yaml

open Text (Pattern)

open Text.Pattern in
/-- The words for truth values. -/
def truthWords : Pattern :=
  oneOf <| ["yes", "Yes", "YES", "no", "No", "NO", "true", "True", "TRUE", "false", "False", "FALSE",
    "on", "On", "ON", "off", "Off", "OFF"].map word

open Text.Pattern in
/-- The words for nothing; so is the empty text. -/
def nothingWords : Pattern := oneOf [word "~", word "null", word "Null", word "NULL", .blank]

open Text.Pattern in
/-- The words that mappings use for merging and for a default. -/
def mappingWords : Pattern := oneOf [word "<<", word "="]

/-- A decimal digit. -/
def digit : Pattern := Text.Pattern.anyOf "0123456789"

/-- A decimal digit or an underscore. -/
def digitOrLine : Pattern := Text.Pattern.anyOf "0123456789_"

/-- A sign or nothing. -/
def sign : Pattern := Text.Pattern.optional (Text.Pattern.anyOf "-+")

open Text.Pattern in
/-- Groups of a number in base sixty, after the first. -/
def sixties : Pattern := Pattern.some (chain [char ':', optional (anyOf "012345"), digit])

open Text.Pattern in
/-- The exponent of a number, which needs a sign; or nothing. -/
def exponent : Pattern := optional (chain [anyOf "eE", anyOf "-+", Pattern.some digit])

open Text.Pattern in
/-- Floating-point numbers. -/
def floats : Pattern :=
  oneOf [
    chain [sign, digit, .many digitOrLine, char '.', .many digitOrLine, exponent],
    chain [char '.', digit, .many digitOrLine, exponent],
    chain [sign, digit, .many digitOrLine, sixties, char '.', .many digitOrLine],
    chain [sign, char '.', oneOf [word "inf", word "Inf", word "INF"]],
    chain [char '.', oneOf [word "nan", word "NaN", word "NAN"]]]

open Text.Pattern in
/-- Whole numbers, in five bases. -/
def integers : Pattern :=
  oneOf [
    chain [sign, word "0b", Pattern.some (anyOf "01_")],
    chain [sign, char '0', Pattern.some (anyOf "01234567_")],
    chain [sign, oneOf [char '0', chain [anyOf "123456789", .many digitOrLine]]],
    chain [sign, word "0x", Pattern.some (anyOf "0123456789abcdefABCDEF_")],
    chain [sign, anyOf "123456789", .many digitOrLine, sixties]]

open Text.Pattern in
/-- One or two decimal digits. -/
def oneOrTwo : Pattern := chain [digit, optional digit]

open Text.Pattern in
/-- Dates, with or without a time. -/
def dates : Pattern :=
  let year := chain [digit, digit, digit, digit]
  let zone := chain [anyOf "-+", oneOrTwo, optional (chain [char ':', digit, digit])]
  oneOf [
    chain [year, char '-', digit, digit, char '-', digit, digit],
    chain [year, char '-', oneOrTwo, char '-', oneOrTwo,
      oneOf [anyOf "Tt", Pattern.some (anyOf " \t")],
      oneOrTwo, char ':', digit, digit, char ':', digit, digit,
      optional (chain [char '.', .many digit]),
      optional (chain [.many (anyOf " \t"), oneOf [char 'Z', zone]])]]

/-- All texts that look like something else. -/
def lookalikes : Pattern :=
  Text.Pattern.oneOf [truthWords, nothingWords, mappingWords, floats, integers, dates]

/-- Whether a plain text would be read as something other than a text. -/
def looksTyped (cs : List Char) : Bool := lookalikes.accepts cs

end QueryTree.Yaml
