import Spellbook.Grammar.Token

/-!
# Expressions and conditions

The patterns of expressions, which nest, and of conditions, which do not.
-/

namespace Spellbook

namespace Grammar

/-! ## Expressions -/

/-- The built-in `len` of one argument. -/
def lenCall (argument : Pattern Expression) : Pattern Expression :=
  .named .lenCall <| (fun (argument, span) => .len argument span) <$>
    Pattern.spanned (word .lenWord "len" *> .symbol '(' *> argument <* .symbol ')')

/-- One or more elements between commas; one more comma may follow the last. -/
def elements (element : Pattern Expression) : Pattern (List Expression) :=
  .named .listElements <|
    List.cons <$> element <*> .many (.symbol ',' *> element) <* .optional (.symbol ',')

/-- A list in brackets. -/
def list (element : Pattern Expression) : Pattern Expression :=
  .named .list <| (fun (elements, span) => .list (elements.getD []) span) <$>
    Pattern.spanned (.symbol '[' *> .optional (elements element) <* .symbol ']')

/-- An expression around the pattern for the expressions inside it. -/
def expressionAround (inner : Pattern Expression) : Pattern Expression :=
  .named .expression <|
    lenCall inner <|> list inner <|> string <|> integer <|>
      (fun (value, span) => .boolean value span) <$> boolean <|>
      .identifier <$> identifier

/-- An expression that nests at most `depth` deep. -/
def expressionWithin : Nat → Pattern Expression
  | 0 => ⟨fun _ => none, fun _ f => f⟩
  | depth + 1 => expressionAround (.delayed fun _ => expressionWithin depth)

/-- An expression.  Each level of nesting opens with a character of its own, so that a text
cannot nest deeper than it is long. -/
def expression : Pattern Expression where
  read c := (expressionWithin (c.rest.length + 1)).read c
  note c f := (expressionWithin (c.rest.length + 1)).note c f

/-! ## Conditions -/

/-- An element and the list it may be in. -/
def membership : Pattern Term :=
  .named .membership <|
    Term.membership <$> expression <* word .inWord "in" <*> expression

/-- Two values that may be equal. -/
def equality : Pattern Term :=
  .named .equality <|
    Term.equality <$> expression <* .named .equalSign (.scan Token.equalSign?) <*> expression

/-- A name or a constant that may be true. -/
def bareCondition : Pattern Term :=
  .named .bareCondition
    ((fun (value, span) => .constant value span) <$> boolean <|> Term.name <$> identifier)

/-- One term of a condition. -/
def term : Pattern Term := membership <|> equality <|> bareCondition

/-- One or more terms joined by `and`. -/
def condition : Pattern Condition :=
  .named .condition <|
    Condition.mk <$> term <*> .many (word .andWord "and" *> term)

end Grammar

end Spellbook
