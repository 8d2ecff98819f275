import Spellbook.Syntax.SExpr

/-!
# Spells as an outline

A spell as a tree of records in which nothing is left out, spans included.  Every record, list
and wrapped value spreads over lines, and each level is set in by four blanks.
-/

namespace Spellbook

/-- A tree that is written over several lines, given the depth at which it stands. -/
abbrev Outline := Nat → Text

namespace Outline

/-- The beginning of a line at a depth. -/
def startAt (depth : Nat) : Text := lineStart (4 * depth)

/-- A tree that is a single word. -/
def word (t : Text) : Outline := fun _ => t

/-- A number. -/
def number (n : Nat) : Outline := word (Text.ofNat n)

/-- A tree on a line of its own, behind the words that introduce it. -/
def entry (depth : Nat) (introduction : Text) (tree : Outline) : Text :=
  startAt depth ++ introduction ++ tree depth ++ ","

/-- One field of a record, on a line of its own. -/
def field (depth : Nat) : Text × Outline → Text
  | (key, value) => entry depth (key ++ ": ") value

/-- A name in front of its fields. -/
def record (name : Text) (fields : List (Text × Outline)) : Outline := fun depth =>
  name ++ " \x7b" ++ fields.flatMap (field (depth + 1)) ++ startAt depth ++ "\x7d"

/-- A name around a single tree. -/
def wrapped (name : Text) (contents : Outline) : Outline := fun depth =>
  name ++ "(" ++ entry (depth + 1) [] contents ++ startAt depth ++ ")"

/-- A tree that may be missing. -/
def orMissing : Option Outline → Outline
  | some contents => wrapped "Some" contents
  | none => word "None"

/-- Trees in a row, each on a line of its own. -/
def row : List Outline → Outline
  | [] => word "[]"
  | trees => fun depth => "[" ++ trees.flatMap (entry (depth + 1) []) ++ startAt depth ++ "]"

end Outline

open Outline

/-- The outline of a span. -/
def Span.outline (s : Span) : Outline :=
  record "Span" [("start", number s.start), ("end", number s.stop)]

/-- The field for a span. -/
def Span.field (s : Span) : Text × Outline := ("span", s.outline)

/-- The outline of an identifier. -/
def Identifier.outline (i : Identifier) : Outline :=
  record "Identifier" [("name", word (Text.quoted i.name)), i.span.field]

/-- The name of a kind of quotes. -/
def Quote.name : Quote → Text
  | single => "Single"
  | double => "Double"

/-- The outline of an expression of some kind, around the outline of what it holds. -/
def expressionOutline (kind recordName : Text) (span : Span)
    (fields : List (Text × Outline)) : Outline :=
  record "Expression"
    [("kind", wrapped kind (record recordName (fields ++ [span.field]))),
      span.field]

mutual

/-- The outline of an expression. -/
def Expression.outline : Expression → Outline
  | .identifier i =>
    expressionOutline "Identifier" "Identifier" i.span [("name", word (Text.quoted i.name))]
  | .boolean value span =>
    expressionOutline "Boolean" "BooleanLiteral" span [("value", word (Text.ofBool value))]
  | .integer value span =>
    expressionOutline "Integer" "IntegerLiteral" span [("value", number value)]
  | .string value quote span =>
    expressionOutline "String" "StringLiteral" span
      [("value", word (Text.quoted value)), ("quote", word quote.name)]
  | .list elements span =>
    expressionOutline "List" "ListLiteral" span
      [("elements", row (Expression.outlineAll elements))]
  | .len argument span =>
    expressionOutline "Len" "LenCall" span [("argument", argument.outline)]

/-- The outlines of expressions. -/
def Expression.outlineAll : List Expression → List Outline
  | [] => []
  | e :: es => e.outline :: Expression.outlineAll es

end

/-- The outline of a condition around the outline of what it asks. -/
def conditionOutline (kind : Outline) (span : Span) : Outline :=
  record "Condition" [("kind", kind), span.field]

/-- The outline of a term. -/
def Term.outline : Term → Outline
  | t@(.membership element collection) =>
    conditionOutline
      (record "Membership" [("element", element.outline), ("collection", collection.outline)])
      t.span
  | t@(.equality left right) =>
    conditionOutline (record "Equality" [("left", left.outline), ("right", right.outline)])
      t.span
  | .name i => conditionOutline (wrapped "Bare" (Expression.identifier i).outline) i.span
  | .constant value span =>
    conditionOutline (wrapped "Bare" (Expression.boolean value span).outline) span

/-- The outline of a condition: a single term stands for itself. -/
def Condition.outline (c : Condition) : Outline :=
  match c.others with
  | [] => c.first.outline
  | _ :: _ => conditionOutline (wrapped "And" (row (c.terms.map Term.outline))) c.span

/-- The outline of a statement of some kind, around the outline of what it holds. -/
def statementOutline (kind recordName : Text) (line : Nat) (span : Span)
    (fields : List (Text × Outline)) : Outline :=
  record "Statement"
    [("kind", wrapped kind (record recordName (fields ++ [span.field]))),
      ("line", number line), span.field]

/-- The outline of a simple statement. -/
def Simple.outline (s : Simple) : Outline :=
  match s.action with
  | .assignment target value =>
    statementOutline "Assignment" "Assignment" s.line s.span
      [("target", target.outline), ("value", value.outline)]
  | .print argument =>
    statementOutline "Print" "PrintCall" s.line s.span
      [("argument", orMissing (argument.map Expression.outline))]
  | .methodCall receiver method argument =>
    statementOutline "MethodCall" "MethodCall" s.line s.span
      [("receiver", receiver.outline), ("method", method.outline),
        ("argument", argument.outline)]

/-- The outline of a block. -/
def Block.outline (b : Block) : Outline :=
  let body := ("body".toList, orMissing (b.body.map Simple.outline))
  match b.header with
  | .branch condition =>
    statementOutline "If" "IfStatement" b.line b.span [("condition", condition.outline), body]
  | .loop variableName iterable =>
    statementOutline "For" "ForStatement" b.line b.span
      [("variable", variableName.outline), ("iterable", iterable.outline), body]

/-- The outline of a statement. -/
def Statement.outline : Statement → Outline
  | .simple s => s.outline
  | .block b => b.outline

/-- The outline of a spell, as a text. -/
def Program.outline (p : Program) : Text :=
  record "Program"
    [("statements", row (p.statements.map Statement.outline)), p.span.field] 0

end Spellbook
