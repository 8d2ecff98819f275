import Spellbook.Syntax.Basic
import Spellbook.Text.Quoted

/-!
# Spells in parentheses

A spell as a tree in parentheses.  Each statement stands on a line of its own, unless it is the
only one, and a body stands under its header.  Where statements, names and values stand in the
source, and how strings are quoted there, is left out.
-/

namespace Spellbook

/-! ## Expressions and conditions -/

mutual

/-- The expression in parentheses. -/
def Expression.sexpr : Expression → Text
  | .identifier i => "(identifier " ++ i.name ++ ")"
  | .boolean value _ => "(boolean " ++ Text.ofBool value ++ ")"
  | .integer value _ => "(integer " ++ Text.ofNat value ++ ")"
  | .string value _ _ => "(string " ++ Text.quoted value ++ ")"
  | .list elements _ => "(list" ++ Expression.sexprAll elements ++ ")"
  | .len argument _ => "(len " ++ argument.sexpr ++ ")"

/-- The expressions in parentheses, each behind a blank. -/
def Expression.sexprAll : List Expression → Text
  | [] => []
  | e :: es => " " ++ e.sexpr ++ Expression.sexprAll es

end

/-- The term in parentheses. -/
def Term.sexpr : Term → Text
  | .membership element collection => "(in " ++ element.sexpr ++ " " ++ collection.sexpr ++ ")"
  | .equality left right => "(== " ++ left.sexpr ++ " " ++ right.sexpr ++ ")"
  | .name i => (Expression.identifier i).sexpr
  | .constant value span => (Expression.boolean value span).sexpr

/-- The condition in parentheses: a single term stands for itself. -/
def Condition.sexpr (c : Condition) : Text :=
  match c.others with
  | [] => c.first.sexpr
  | _ :: _ => "(and " ++ Text.join " " (c.terms.map Term.sexpr) ++ ")"

/-! ## Statements -/

/-- The action in parentheses. -/
def Action.sexpr : Action → Text
  | .assignment target value => "(assign " ++ target.name ++ " " ++ value.sexpr ++ ")"
  | .print none => "(print)"
  | .print (some argument) => "(print " ++ argument.sexpr ++ ")"
  | .methodCall receiver method argument =>
    "(call " ++ receiver.name ++ "." ++ method.name ++ " " ++ argument.sexpr ++ ")"

/-- The header, whose parenthesis is left open for the body. -/
def Header.sexprOpen : Header → Text
  | .branch condition => "(if " ++ condition.sexpr
  | .loop variableName iterable => "(for " ++ variableName.name ++ " " ++ iterable.name

/-- The beginning of a line that is set in by some blanks. -/
def lineStart (blanks : Nat) : Text := '\n' :: List.replicate blanks ' '

/-- The statement in parentheses, on a line that is set in by some blanks. -/
def Statement.sexpr (blanks : Nat) : Statement → Text
  | .simple s => s.action.sexpr
  | .block b =>
    match b.body with
    | none => b.header.sexprOpen ++ ")"
    | some s => b.header.sexprOpen ++ lineStart (blanks + 2) ++ s.action.sexpr ++ ")"

/-- The spell in parentheses. -/
def Program.sexpr (p : Program) : Text :=
  match p.statements with
  | [] => "(program)"
  | [only] => "(program " ++ only.sexpr 2 ++ ")"
  | statements =>
    "(program" ++ statements.flatMap (fun s => lineStart 2 ++ s.sexpr 2) ++ ")"

end Spellbook
