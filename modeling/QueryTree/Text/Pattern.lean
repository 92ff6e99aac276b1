/-!
# QueryTree.Text.Pattern

Regular patterns over characters, matched against a whole text.  A pattern is
matched by taking its derivative at each character: what is left to match after
it.  A text matches if what is left at its end matches nothing at all.
-/

namespace QueryTree.Text

/-- A regular pattern. -/
inductive Pattern where
  /-- Matches no text. -/
  | never
  /-- Matches the empty text. -/
  | blank
  /-- Matches one character of a class. -/
  | one (p : Char → Bool)
  /-- Matches one pattern, then another. -/
  | seq (a b : Pattern)
  /-- Matches either of two patterns. -/
  | alt (a b : Pattern)
  /-- Matches a pattern any number of times. -/
  | many (a : Pattern)

namespace Pattern

/-- Whether a pattern matches the empty text. -/
def matchesBlank : Pattern → Bool
  | .never => false
  | .blank => true
  | .one _ => false
  | .seq a b => a.matchesBlank && b.matchesBlank
  | .alt a b => a.matchesBlank || b.matchesBlank
  | .many _ => true

/-- One pattern, then another, without idle parts. -/
def andThen : Pattern → Pattern → Pattern
  | .never, _ => .never
  | .blank, b => b
  | a, b => .seq a b

/-- Either of two patterns, without idle parts. -/
def either : Pattern → Pattern → Pattern
  | .never, b => b
  | a, .never => a
  | a, b => .alt a b

/-- What is left of a pattern after a character. -/
def after (c : Char) : Pattern → Pattern
  | .never => .never
  | .blank => .never
  | .one p => if p c then .blank else .never
  | .seq a b =>
    if a.matchesBlank then either (andThen (a.after c) b) (b.after c) else andThen (a.after c) b
  | .alt a b => either (a.after c) (b.after c)
  | .many a => andThen (a.after c) (.many a)

/-- Whether a pattern matches a whole text. -/
def accepts (p : Pattern) : List Char → Bool
  | [] => p.matchesBlank
  | c :: cs =>
    match p.after c with
    | .never => false
    | q => q.accepts cs

/-- A given character. -/
def char (c : Char) : Pattern := .one (· == c)

/-- One of the characters of a text. -/
def anyOf (s : String) : Pattern := .one fun c => s.toList.contains c

/-- A given text. -/
def word (s : String) : Pattern := s.toList.foldr (fun c p => andThen (char c) p) .blank

/-- Patterns one after another. -/
def chain (ps : List Pattern) : Pattern := ps.foldr andThen .blank

/-- One of several patterns. -/
def oneOf (ps : List Pattern) : Pattern := ps.foldr either .never

/-- A pattern or nothing. -/
def optional (p : Pattern) : Pattern := either p .blank

/-- A pattern at least once. -/
def some (p : Pattern) : Pattern := .seq p (.many p)

end Pattern

end QueryTree.Text
