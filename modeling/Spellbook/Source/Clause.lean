import Spellbook.Grammar.Statement
import Spellbook.Source.SyntaxError

/-!
# Reading one text

A text is read as a clause, an expression or a condition.  It is first matched as a whole, with
integers of any size; only then is the size of its integers looked at.  So a text that is not
well formed is always reported as that, whatever numbers it holds.
-/

namespace Spellbook

namespace Pattern

variable {α : Type}

/-- The value that the pattern reads at the start of the text, or the furthest place at which
the attempt failed. -/
def parse (p : Pattern α) (t : Text) : Except (Blame SyntaxCause) α :=
  let start := Cursor.start t
  match p.read start with
  | some (a, _) => .ok a
  | none =>
    let failed := p.note start .initial
    .error ⟨.unexpected (Rule.listed failed.expected), ⟨failed.position, failed.position + 1⟩⟩

end Pattern

/-- The blame for the first of the literals that is too large, if one is. -/
def oversized? (t : Text) (literals : List (Nat × Span)) : Option (Blame SyntaxCause) :=
  (literals.find? fun (value, _) => maxInteger < value).map fun (_, span) =>
    ⟨.oversizedInteger (Text.slice span.start span.stop t), span⟩

/-- The value read from the whole text, unless one of its integer literals is too large. -/
def readWhole {α : Type} (p : Pattern α) (integers : α → List (Nat × Span)) (t : Text) :
    Except (Blame SyntaxCause) α :=
  match p.parse t with
  | .error blame => .error blame
  | .ok a =>
    match oversized? t (integers a) with
    | some blame => .error blame
    | none => .ok a

/-- The text as a single statement. -/
def Clause.read (t : Text) : Except (Blame SyntaxCause) Clause :=
  readWhole Grammar.line Clause.integers t

/-- The text as an expression. -/
def Expression.read (t : Text) : Except (Blame SyntaxCause) Expression :=
  readWhole Grammar.loneExpression Expression.integers t

/-- The text as a condition. -/
def Condition.read (t : Text) : Except (Blame SyntaxCause) Condition :=
  readWhole Grammar.loneCondition Condition.integers t

end Spellbook
