import Spellbook.Grammar.Expression

/-!
# Statements

The patterns of the statements that a single line can hold, and the three kinds of text that
are read as a whole: a line, an expression, and a condition.
-/

namespace Spellbook

namespace Grammar

/-! ## Statement forms -/

/-- A method called on a name. -/
def methodCall : Pattern Action :=
  .named .methodCall <|
    Action.methodCall <$> identifier <* .symbol '.' <*> identifier
      <* .symbol '(' <*> expression <* .symbol ')'

/-- The built-in `print` of at most one argument. -/
def printCall : Pattern Action :=
  .named .printCall <|
    Action.print <$>
      (word .printWord "print" *> .symbol '(' *> .optional expression <* .symbol ')')

/-- A name that is given a value. -/
def assignment : Pattern Action :=
  .named .assignment <|
    Action.assignment <$> identifier <* .named .assignSign (.scan Token.assignSign?)
      <*> expression

/-- A header whose body runs under a condition. -/
def ifHeader : Pattern Header :=
  .named .ifHeader <| Header.branch <$> (word .ifWord "if" *> condition <* .symbol ':')

/-- A header whose body runs for each item of a list. -/
def forHeader : Pattern Header :=
  .named .forHeader <|
    Header.loop <$> (word .forWord "for" *> identifier) <* word .inWord "in" <*> identifier
      <* .symbol ':'

/-- A statement in any of its forms; where two fit, the earlier one counts. -/
def statement : Pattern Clause :=
  .named .statement <| (fun (form, span) => ⟨form, span⟩) <$>
    Pattern.spanned
      (.action <$> methodCall <|> .action <$> printCall <|> .action <$> assignment <|>
        .header <$> ifHeader <|> .header <$> forHeader)

/-! ## Whole texts -/

/-- A text that is one statement. -/
def line : Pattern Clause := .entire .line statement

/-- A text that is one expression. -/
def loneExpression : Pattern Expression := .entire .loneExpression expression

/-- A text that is one condition. -/
def loneCondition : Pattern Condition := .entire .loneCondition condition

end Grammar

end Spellbook
