import Spellbook.Syntax.Span
import Spellbook.Text.Basic

/-!
# Spells

A spell is a sequence of statements.  A statement is either simple or a block, which is a header
with at most one simple statement under it: a body is never a block itself.  Names, literals and
statements carry the span that they were read from; the span of anything else follows from its
parts.
-/

namespace Spellbook

/-! ## Expressions -/

/-- A name, and where it stands. -/
structure Identifier where
  name : Text
  span : Span
deriving DecidableEq

/-- The character that encloses a string. -/
inductive Quote where
  | single
  | double
deriving DecidableEq

/-- An expression.  The contents of a string are taken as they are written: there are no
escapes. -/
inductive Expression where
  | identifier (identifier : Identifier)
  | boolean (value : Bool) (span : Span)
  | integer (value : Nat) (span : Span)
  | string (value : Text) (quote : Quote) (span : Span)
  | list (elements : List Expression) (span : Span)
  | len (argument : Expression) (span : Span)

/-- The bytes that the expression was read from. -/
def Expression.span : Expression → Span
  | .identifier i => i.span
  | .boolean _ span => span
  | .integer _ span => span
  | .string _ _ span => span
  | .list _ span => span
  | .len _ span => span

/-! ## Conditions -/

/-- What a condition asks of one term: that an element is in a list, that two values are equal,
or that a name or a constant is true. -/
inductive Term where
  | membership (element collection : Expression)
  | equality (left right : Expression)
  | name (identifier : Identifier)
  | constant (value : Bool) (span : Span)

/-- The bytes from the first to the last operand of the term. -/
def Term.span : Term → Span
  | .membership element collection => element.span.through collection.span
  | .equality left right => left.span.through right.span
  | .name i => i.span
  | .constant _ span => span

/-- One or more terms that must all hold. -/
structure Condition where
  first : Term
  others : List Term

namespace Condition

/-- The terms in the order they are written. -/
def terms (c : Condition) : List Term := c.first :: c.others

/-- The bytes from the first to the last term. -/
def span (c : Condition) : Span :=
  match c.others.getLast? with
  | some last => c.first.span.through last.span
  | none => c.first.span

end Condition

/-! ## Statements -/

/-- What a simple statement does. -/
inductive Action where
  | assignment (target : Identifier) (value : Expression)
  | print (argument : Option Expression)
  | methodCall (receiver method : Identifier) (argument : Expression)

/-- What a header decides about its body: whether it runs, or for which values. -/
inductive Header where
  | branch (condition : Condition)
  | loop (variableName iterable : Identifier)

/-- What a single line says. -/
inductive Form where
  | action (action : Action)
  | header (header : Header)

/-- What a single line says, and the bytes that say it. -/
structure Clause where
  form : Form
  span : Span

/-- A statement that stands alone, with the number of its line. -/
structure Simple where
  action : Action
  line : Nat
  span : Span

/-- A header with the statement under it, if there is one.  Line and span are the header's. -/
structure Block where
  header : Header
  line : Nat
  span : Span
  body : Option Simple

/-- A statement of a spell. -/
inductive Statement where
  | simple (simple : Simple)
  | block (block : Block)

/-- A whole spell, with the span of the text it was read from. -/
structure Program where
  statements : List Statement
  span : Span

namespace Clause

/-- Whether the line opens a block. -/
def isHeader (c : Clause) : Bool :=
  match c.form with
  | .action _ => false
  | .header _ => true

/-- The statement that the clause makes on a line of its own: a header gets no body. -/
def toStatement (line : Nat) (c : Clause) : Statement :=
  match c.form with
  | .action action => .simple ⟨action, line, c.span⟩
  | .header header => .block ⟨header, line, c.span, none⟩

end Clause

namespace Statement

/-- The number of the statement's line, for a block that of its header. -/
def line : Statement → Nat
  | .simple s => s.line
  | .block b => b.line

/-- The bytes of the statement, for a block those of its header. -/
def span : Statement → Span
  | .simple s => s.span
  | .block b => b.span

end Statement

/-! ## Moving spans -/

/-- The identifier with its span replaced. -/
def Identifier.mapSpan (f : Span → Span) (i : Identifier) : Identifier :=
  { i with span := f i.span }

mutual

/-- The expression with every span replaced. -/
def Expression.mapSpan (f : Span → Span) : Expression → Expression
  | .identifier i => .identifier (i.mapSpan f)
  | .boolean value span => .boolean value (f span)
  | .integer value span => .integer value (f span)
  | .string value quote span => .string value quote (f span)
  | .list elements span => .list (Expression.mapSpanAll f elements) (f span)
  | .len argument span => .len (argument.mapSpan f) (f span)

/-- The expressions with every span replaced. -/
def Expression.mapSpanAll (f : Span → Span) : List Expression → List Expression
  | [] => []
  | e :: es => e.mapSpan f :: Expression.mapSpanAll f es

end

/-- The term with every span replaced. -/
def Term.mapSpan (f : Span → Span) : Term → Term
  | .membership element collection => .membership (element.mapSpan f) (collection.mapSpan f)
  | .equality left right => .equality (left.mapSpan f) (right.mapSpan f)
  | .name i => .name (i.mapSpan f)
  | .constant value span => .constant value (f span)

/-- The condition with every span replaced. -/
def Condition.mapSpan (f : Span → Span) (c : Condition) : Condition :=
  ⟨c.first.mapSpan f, c.others.map (Term.mapSpan f)⟩

/-- The action with every span replaced. -/
def Action.mapSpan (f : Span → Span) : Action → Action
  | .assignment target value => .assignment (target.mapSpan f) (value.mapSpan f)
  | .print argument => .print (argument.map (Expression.mapSpan f))
  | .methodCall receiver method argument =>
    .methodCall (receiver.mapSpan f) (method.mapSpan f) (argument.mapSpan f)

/-- The header with every span replaced. -/
def Header.mapSpan (f : Span → Span) : Header → Header
  | .branch condition => .branch (condition.mapSpan f)
  | .loop variableName iterable => .loop (variableName.mapSpan f) (iterable.mapSpan f)

/-- The form with every span replaced. -/
def Form.mapSpan (f : Span → Span) : Form → Form
  | .action a => .action (a.mapSpan f)
  | .header h => .header (h.mapSpan f)

/-- The clause as it stands in a text with more bytes in front. -/
def Clause.shift (bytes : Nat) (c : Clause) : Clause :=
  ⟨c.form.mapSpan (Span.shift bytes), c.span.shift bytes⟩

/-! ## Integer literals -/

/-- The largest integer that a spell can hold. -/
def maxInteger : Nat := 9223372036854775807

mutual

/-- The integer literals in the expression, in the order they are written. -/
def Expression.integers : Expression → List (Nat × Span)
  | .integer value span => [(value, span)]
  | .list elements _ => Expression.integersAll elements
  | .len argument _ => argument.integers
  | .identifier _ => []
  | .boolean _ _ => []
  | .string _ _ _ => []

/-- The integer literals in the expressions, in the order they are written. -/
def Expression.integersAll : List Expression → List (Nat × Span)
  | [] => []
  | e :: es => e.integers ++ Expression.integersAll es

end

/-- The integer literals in the term, in the order they are written. -/
def Term.integers : Term → List (Nat × Span)
  | .membership element collection => element.integers ++ collection.integers
  | .equality left right => left.integers ++ right.integers
  | .name _ => []
  | .constant _ _ => []

/-- The integer literals in the condition, in the order they are written. -/
def Condition.integers (c : Condition) : List (Nat × Span) := c.terms.flatMap Term.integers

/-- The integer literals in the clause, in the order they are written. -/
def Clause.integers (c : Clause) : List (Nat × Span) :=
  match c.form with
  | .action (.assignment _ value) => value.integers
  | .action (.print argument) => (argument.map Expression.integers).getD []
  | .action (.methodCall _ _ argument) => argument.integers
  | .header (.branch condition) => condition.integers
  | .header (.loop _ _) => []

end Spellbook
