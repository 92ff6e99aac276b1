import QueryTree.Sql.Query
import QueryTree.Sql.Token

/-!
# QueryTree.Sql.Reader

Queries from tokens.

```
select  := SELECT [DISTINCT] item {, item} [FROM table {join}] [WHERE e] [GROUP BY e {, e}]
           [HAVING e] [ORDER BY o {, o}] [LIMIT number]
e       := and {OR and}
and     := eq {AND eq}
eq      := cmp {(=|<>|!=) cmp}
cmp     := range {(<|<=|>|>=) range}
range   := sum [test | [NOT] IN (e {, e}) | [NOT] BETWEEN sum AND sum | [NOT] LIKE sum] [test]
test    := IS [NOT] NULL
sum     := product {(+|-) product}
product := unary {(*|/) unary}
unary   := (-|+) unary | NOT eq | primary
```

Where comparisons bind more tightly than tests for null, the rules between are

```
eq      := cmp {(=|<>|!=) cmp | test {(<|<=|>|>=) range}}
range   := sum [[NOT] IN (e {, e}) | [NOT] BETWEEN sum AND sum | [NOT] LIKE sum]
```

Each rule is a function from tokens to what it read and the tokens that are left.  The
rules that stand inside themselves, after a parenthesis or the word `NOT`, are given to
the others as arguments; how often they do is bounded by the number of tokens.
-/

namespace QueryTree.Sql

/-- Why reading stopped. -/
inductive Obstacle where
  /-- A closing parenthesis is missing. -/
  | unclosed
  /-- Something else was expected. -/
  | unexpected
  /-- A function has more arguments than it takes. -/
  | needlessArguments (given most : Nat)
deriving DecidableEq, Repr

/-- Why and where reading stopped. -/
structure Failure where
  /-- Why it stopped. -/
  obstacle : Obstacle
  /-- The tokens that are left. -/
  rest : List Token

/-- A failure as it is told of a place. -/
def Failure.flaw (f : Failure) (place : Position) : Flaw :=
  match f.obstacle with
  | .unclosed => .unclosed place
  | .unexpected => .unexpected place
  | .needlessArguments given most => .needlessArguments given most place

/-- A rule reads something from tokens and leaves the others. -/
abbrev Rule (α : Type) := List Token → Except Failure (α × List Token)

namespace Rule

/-- What a token is, if there is one. -/
def peek (ts : List Token) : Option TokenKind := ts.head?.map Token.kind

/-- The tokens after a keyword, if they start with it. -/
def keyword? (k : Keyword) (ts : List Token) : Option (List Token) :=
  if peek ts = some (.keyword k) then some ts.tail else none

/-- The tokens after a sign, if they start with it. -/
def symbol? (s : Symbol) (ts : List Token) : Option (List Token) :=
  if peek ts = some (.symbol s) then some ts.tail else none

/-- Fails where it stands. -/
def unexpected {α : Type} : Rule α := fun ts => .error ⟨.unexpected, ts⟩

/-- A closing parenthesis after what was read. -/
def closing {α : Type} (a : α) : Rule α := fun ts =>
  match symbol? .close ts with
  | some ts => .ok (a, ts)
  | none => .error ⟨.unclosed, ts⟩

/-- More operands after the first, the operators taking all before them as their left operand. -/
def moreOperands (operand : Rule Expr) (op? : TokenKind → Option BinaryOperator) :
    Nat → Expr → Rule Expr
  | 0, left, ts => .ok (left, ts)
  | fuel + 1, left, ts =>
    match (peek ts).bind op? with
    | none => .ok (left, ts)
    | some op =>
      match operand ts.tail with
      | .error e => .error e
      | .ok (right, ts) => moreOperands operand op? fuel (.operation op left right) ts

/-- Operands with operators between them, taken from left to right. -/
def operands (operand : Rule Expr) (op? : TokenKind → Option BinaryOperator) : Rule Expr := fun ts =>
  match operand ts with
  | .error e => .error e
  | .ok (left, ts) => moreOperands operand op? ts.length left ts

/-- More of the same after commas. -/
def moreItems {α : Type} (item : Rule α) : Nat → Rule (List α)
  | 0, ts => .ok ([], ts)
  | fuel + 1, ts =>
    match symbol? .comma ts with
    | none => .ok ([], ts)
    | some ts =>
      match item ts with
      | .error e => .error e
      | .ok (a, ts) =>
        match moreItems item fuel ts with
        | .error e => .error e
        | .ok (as, ts) => .ok (a :: as, ts)

/-- One or more with commas between them. -/
def items {α : Type} (item : Rule α) : Rule (List α) := fun ts =>
  match item ts with
  | .error e => .error e
  | .ok (a, ts) =>
    match moreItems item ts.length ts with
    | .error e => .error e
    | .ok (as, ts) => .ok (a :: as, ts)

/-! ## expressions -/

/-- The operators of a disjunction. -/
def orOperator? : TokenKind → Option BinaryOperator
  | .keyword .or => some .or
  | _ => none

/-- The operators of a conjunction. -/
def andOperator? : TokenKind → Option BinaryOperator
  | .keyword .and => some .and
  | _ => none

/-- The operators of an equality. -/
def equalityOperator? : TokenKind → Option BinaryOperator
  | .symbol .eq => some .eq
  | .symbol .ne => some .ne
  | _ => none

/-- The operators of a comparison. -/
def comparisonOperator? : TokenKind → Option BinaryOperator
  | .symbol .lt => some .lt
  | .symbol .le => some .le
  | .symbol .gt => some .gt
  | .symbol .ge => some .ge
  | _ => none

/-- The operators of a sum. -/
def sumOperator? : TokenKind → Option BinaryOperator
  | .symbol .plus => some .add
  | .symbol .minus => some .sub
  | _ => none

/-- The operators of a product. -/
def productOperator? : TokenKind → Option BinaryOperator
  | .symbol .star => some .mul
  | .symbol .slash => some .div
  | _ => none

/-- The rules that the rules for parts of an expression start again. -/
structure Inner where
  /-- The rule for a whole expression. -/
  expr : Rule Expr
  /-- The rule for an equality. -/
  equality : Rule Expr

/-- The call of a function with arguments, after which its closing parenthesis is to follow. -/
def call (function : Function) (es : List Expr) : Rule Expr := fun ts =>
  match function with
  | .other _ => closing (.call function es) ts
  | .aggregate a =>
    match a.mostArguments? with
    | none => closing (.call function es) ts
    | some most =>
      if most < es.length then .error ⟨.needlessArguments es.length most, ts⟩
      else closing (.call function es) ts

/-- The arguments of a function after its opening parenthesis. -/
def arguments (inner : Inner) (function : Function) : Rule Expr := fun ts =>
  match symbol? .close ts with
  | some _ => call function [] ts
  | none =>
    match items inner.expr ts with
    | .error e => .error e
    | .ok (es, ts) => call function es ts

/-- What follows a name: arguments, a column of the table that it names, or nothing. -/
def afterName (inner : Inner) (name : Name) : Rule Expr := fun ts =>
  match symbol? .open ts, symbol? .dot ts with
  | some ts, _ => arguments inner (.ofName name) ts
  | none, some ts =>
    match peek ts with
    | some (.name text quoted) => .ok (.column ⟨text, quoted⟩ (some name), ts.tail)
    | some (.symbol .star) => .ok (.allColumns name, ts.tail)
    | _ => unexpected ts
  | none, none => .ok (.column name none, ts)

/-- A number that starts with a point, after the point. -/
def fraction : Rule Expr := fun ts =>
  match peek ts with
  | some (.number text) => .ok (.number ("0." ++ text), ts.tail)
  | _ => unexpected ts

/-- An operand that is no operation. -/
def primary (inner : Inner) : Rule Expr := fun ts =>
  match peek ts with
  | some (.number text) => .ok (.number text, ts.tail)
  | some (.string text) => .ok (.string text, ts.tail)
  | some (.keyword .null) => .ok (.null, ts.tail)
  | some (.keyword .true) => .ok (.bool true, ts.tail)
  | some (.keyword .false) => .ok (.bool false, ts.tail)
  | some (.symbol .star) => .ok (.star, ts.tail)
  | some (.name text quoted) => afterName inner ⟨text, quoted⟩ ts.tail
  | some (.symbol .dot) => fraction ts.tail
  | some (.symbol .open) =>
    match inner.expr ts.tail with
    | .error e => .error e
    | .ok (e, ts) => closing (.paren e) ts
  | _ => unexpected ts

/-- What was read, changed. -/
def mapped (f : Expr → Expr) (rule : Rule Expr) : Rule Expr := fun ts =>
  match rule ts with
  | .error e => .error e
  | .ok (e, ts) => .ok (f e, ts)

/-- An operand after any number of signs, or a negated equality. -/
def unary (inner : Inner) : Rule Expr
  | [] => unexpected []
  | t :: ts =>
    match t.kind with
    | .symbol .minus => mapped .negate (fun _ => unary inner ts) ts
    | .symbol .plus => unary inner ts
    | .keyword .not => mapped .not inner.equality ts
    | _ => primary inner (t :: ts)

/-- A product. -/
def product (inner : Inner) : Rule Expr := operands (unary inner) productOperator?

/-- A sum. -/
def sum (inner : Inner) : Rule Expr := operands (product inner) sumOperator?

/-- What follows an operand after the word `IS`. -/
def isTail (e : Expr) : Rule Expr := fun ts =>
  match keyword? .not ts with
  | some ts =>
    match keyword? .null ts with
    | some ts => .ok (.not (.nullTest e), ts)
    | none => unexpected ts
  | none =>
    match keyword? .null ts with
    | some ts => .ok (.nullTest e, ts)
    | none => unexpected ts

/-- The list after the word `IN`. -/
def inTail (inner : Inner) (e : Expr) : Rule Expr := fun ts =>
  match symbol? .open ts with
  | none => unexpected ts
  | some ts =>
    match items inner.expr ts with
    | .error e => .error e
    | .ok (es, ts) => closing (.isIn e es) ts

/-- The bounds after the word `BETWEEN`. -/
def betweenTail (inner : Inner) (e : Expr) : Rule Expr := fun ts =>
  match sum inner ts with
  | .error e => .error e
  | .ok (low, ts) =>
    match keyword? .and ts with
    | none => unexpected ts
    | some ts =>
      match sum inner ts with
      | .error e => .error e
      | .ok (high, ts) => .ok (.between e low high, ts)

/-- The pattern after the word `LIKE`. -/
def likeTail (inner : Inner) (negated : Bool) (e : Expr) : Rule Expr := fun ts =>
  match sum inner ts with
  | .error e => .error e
  | .ok (pattern, ts) => .ok (.like negated e pattern, ts)

/-- What may follow a sum in a range, a test for null aside. -/
def rangeTail (inner : Inner) (e : Expr) : Rule Expr := fun ts =>
  match peek ts, peek ts.tail with
  | some (.keyword .in), _ => inTail inner e ts.tail
  | some (.keyword .between), _ => betweenTail inner e ts.tail
  | some (.keyword .like), _ => likeTail inner false e ts.tail
  | some (.keyword .not), some (.keyword .in) => mapped .not (inTail inner e) ts.tail.tail
  | some (.keyword .not), some (.keyword .between) => mapped .not (betweenTail inner e) ts.tail.tail
  | some (.keyword .not), some (.keyword .like) => likeTail inner true e ts.tail.tail
  | _, _ => .ok (e, ts)

/-- A test for null, if the word for it is there. -/
def testTail (e : Expr) : Rule Expr := fun ts =>
  match keyword? .is ts with
  | some ts => isTail e ts
  | none => .ok (e, ts)

/-- A sum with what may follow it, tests for null only if they bind tightly. -/
def range (d : Dialect) (inner : Inner) : Rule Expr := fun ts => do
  let (e, ts) ← sum inner ts
  if d.testsLoosely then rangeTail inner e ts
  else
    let (e, ts) ←
      match keyword? .is ts with
      | some ts => isTail e ts
      | none => rangeTail inner e ts
    testTail e ts

/-- A comparison. -/
def comparison (d : Dialect) (inner : Inner) : Rule Expr := operands (range d inner) comparisonOperator?

/-- More of an equality after its first operand: operands, and tests of all before them. -/
def moreEqualities (d : Dialect) (inner : Inner) : Nat → Expr → Rule Expr
  | 0, left, ts => .ok (left, ts)
  | fuel + 1, left, ts => do
    let (left, ts) ← moreOperands (comparison d inner) equalityOperator? ts.length left ts
    match keyword? .is ts with
    | none => return (left, ts)
    | some ts =>
      let (left, ts) ← isTail left ts
      let (left, ts) ← moreOperands (range d inner) comparisonOperator? ts.length left ts
      moreEqualities d inner fuel left ts

/-- An equality, with tests for null if they bind loosely. -/
def equality (d : Dialect) (inner : Inner) : Rule Expr := fun ts => do
  if d.testsLoosely then
    let (left, ts) ← comparison d inner ts
    moreEqualities d inner (ts.length + 1) left ts
  else operands (comparison d inner) equalityOperator? ts

/-- A disjunction of conjunctions. -/
def disjunction (d : Dialect) (inner : Inner) : Rule Expr :=
  operands (operands (equality d inner) andOperator?) orOperator?

/-- The rules for expressions with fewer than `fuel` parentheses and negations inside each other. -/
def innerWithin (d : Dialect) : Nat → Inner
  | 0 => ⟨unexpected, unexpected⟩
  | fuel + 1 =>
    ⟨fun ts => disjunction d (innerWithin d fuel) ts, fun ts => equality d (innerWithin d fuel) ts⟩

/-- An expression. -/
def expr (d : Dialect) : Rule Expr := fun ts => (innerWithin d (ts.length + 1)).expr ts

/-! ## clauses -/

/-- The name that a token is; a string can count as a quoted name. -/
def nameOf? (strings : Bool) : TokenKind → Option Name
  | .name text quoted => some ⟨text, quoted⟩
  | .string text => if strings then some ⟨text, true⟩ else none
  | _ => none

/-- Another name, perhaps after the word `AS`.  After this word a string counts as a name, and
without it only if `strings` says so. -/
def otherName? (strings : Bool) : Rule (Option Name) := fun ts =>
  match keyword? .as ts with
  | some ts =>
    match (peek ts).bind (nameOf? true) with
    | some name => .ok (some name, ts.tail)
    | none => unexpected ts
  | none =>
    match (peek ts).bind (nameOf? strings) with
    | some name => .ok (some name, ts.tail)
    | none => .ok (none, ts)

/-- A selected expression. -/
def item (d : Dialect) : Rule Item := fun ts =>
  match expr d ts with
  | .error e => .error e
  | .ok (e, ts) =>
    match otherName? d.namesItemsByStrings ts with
    | .error e => .error e
    | .ok (other, ts) => .ok (⟨e, other⟩, ts)

/-- A table. -/
def table : Rule Table := fun ts =>
  match peek ts with
  | some (.name text quoted) =>
    let first : Name := ⟨text, quoted⟩
    let named : Except Failure ((Name × Option Name) × List Token) :=
      match symbol? .dot ts.tail with
      | none => .ok ((first, none), ts.tail)
      | some ts =>
        match peek ts with
        | some (.name text quoted) => .ok ((⟨text, quoted⟩, some first), ts.tail)
        | _ => unexpected ts
    match named with
    | .error e => .error e
    | .ok ((name, schema), ts) =>
      match otherName? true ts with
      | .error e => .error e
      | .ok (other, ts) => .ok (⟨name, schema, other⟩, ts)
  | _ => unexpected ts

/-- How a join starts, if one does. -/
def joinKind? (ts : List Token) : Option (JoinKind × List Token) :=
  match peek ts, keyword? .join ts.tail with
  | some (.keyword .join), _ => some (.plain, ts.tail)
  | some (.keyword .inner), some rest => some (.inner, rest)
  | some (.keyword .left), some rest => some (.left, rest)
  | some (.keyword .right), some rest => some (.right, rest)
  | some (.keyword .cross), some rest => some (.cross, rest)
  | _, _ => none

/-- An expression after a keyword, if the keyword is there. -/
def clause? (d : Dialect) (k : Keyword) : Rule (Option Expr) := fun ts =>
  match keyword? k ts with
  | none => .ok (none, ts)
  | some ts =>
    match expr d ts with
    | .error e => .error e
    | .ok (e, ts) => .ok (some e, ts)

/-- The joins that follow the first table, at most `fuel` of them. -/
def joins (d : Dialect) : Nat → Rule (List Join)
  | 0, ts => .ok ([], ts)
  | fuel + 1, ts =>
    match joinKind? ts with
    | none => .ok ([], ts)
    | some (kind, ts) =>
      match table ts with
      | .error e => .error e
      | .ok (t, ts) =>
        match clause? d .on ts with
        | .error e => .error e
        | .ok (condition, ts) =>
          match joins d fuel ts with
          | .error e => .error e
          | .ok (js, ts) => .ok (⟨kind, t, condition⟩ :: js, ts)

/-- The tables of a selection. -/
def source (d : Dialect) : Rule (Option Table × List Join) := fun ts =>
  match keyword? .from ts with
  | none => .ok ((none, []), ts)
  | some ts =>
    match table ts with
    | .error e => .error e
    | .ok (t, ts) =>
      match joins d ts.length ts with
      | .error e => .error e
      | .ok (js, ts) => .ok ((some t, js), ts)

/-- A list after a keyword, if it is there. -/
def listClause {α : Type} (k : Keyword) (rule : Rule α) : Rule (List α) := fun ts =>
  match keyword? k ts with
  | none => .ok ([], ts)
  | some ts => items rule ts

/-- An expression to order by. -/
def ordering (d : Dialect) : Rule Ordering := fun ts =>
  match expr d ts with
  | .error e => .error e
  | .ok (e, ts) =>
    match peek ts with
    | some (.keyword .asc) => .ok (⟨e, some .ascending⟩, ts.tail)
    | some (.keyword .desc) => .ok (⟨e, some .descending⟩, ts.tail)
    | _ => .ok (⟨e, none⟩, ts)

/-- The greatest number of rows. -/
def limit : Rule (Option String) := fun ts =>
  match keyword? .limit ts with
  | none => .ok (none, ts)
  | some ts =>
    match peek ts with
    | some (.number text) => .ok (some text, ts.tail)
    | _ => unexpected ts

/-- A selection. -/
def select (d : Dialect) : Rule Select := fun ts => do
  let some ts := keyword? .select ts | unexpected ts
  let (distinct, ts) :=
    match keyword? .distinct ts with
    | some ts => (true, ts)
    | none => (false, ts)
  let (selected, ts) ← items (item d) ts
  let ((source, joins), ts) ← source d ts
  let (condition, ts) ← clause? d .where ts
  let (grouping, ts) ← listClause .groupBy (expr d) ts
  let (having, ts) ← clause? d .having ts
  let (orderings, ts) ← listClause .orderBy (ordering d) ts
  let (limit, ts) ← limit ts
  return (⟨distinct, selected, source, joins, condition, grouping, having, orderings, limit⟩, ts)

end Rule

/-! ## statements -/

/-- The tokens between semicolons. -/
def statements : List Token → List (List Token)
  | [] => [[]]
  | t :: ts =>
    if t.kind = .symbol .semicolon then [] :: statements ts
    else
      match statements ts with
      | [] => [[t]]
      | s :: ss => (t :: s) :: ss

/-- The place where reading a statement stopped: that of the next token, or of the last one. -/
def place (statement rest : List Token) : Position :=
  match rest.head?, statement.getLast? with
  | some t, _ => t.position
  | none, some t => t.position
  | none, none => default

/-- A statement from all of its tokens. -/
def readStatement (d : Dialect) (statement : List Token) : Except Flaw Select :=
  match Rule.select d statement with
  | .error f => .error (f.flaw (place statement f.rest))
  | .ok (_, t :: rest) => .error (.unexpected (place statement (t :: rest)))
  | .ok (q, []) => .ok q

/-- The statements of a text; there may be none. -/
def readAll (d : Dialect) (text : String) : Except Flaw (List Select) := do
  let ts ← Token.tokens d text
  ((statements ts).filter fun s => !s.isEmpty).mapM (readStatement d)

/-- The statements of a text, of which there is at least one. -/
def read (d : Dialect) (text : String) : Except Flaw (List Select) := do
  match ← readAll d text with
  | [] => throw .noStatement
  | qs => return qs

end QueryTree.Sql
