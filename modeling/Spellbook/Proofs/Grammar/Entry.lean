import Spellbook.Proofs.Grammar.Recognition

/-!
# What a whole text is read as

A whole text is read as a line, as an expression or as a condition, and in the same way each time.
The text is accepted exactly if it lays out tokens that write a value, whatever the size of the
integers (`Entry.accepts_iff_isWellFormed`).
-/

namespace Spellbook

open Token

/-- What a whole text can be read as. -/
inductive Entry where
  | line
  | expression
  | condition

namespace Entry

/-! ## The three ways to read a text -/

/-- What the text is read to. -/
def Value : Entry → Type
  | line => Clause
  | expression => Expression
  | condition => Condition

/-- The value of the whole text. -/
def read : (e : Entry) → Text → Except (Blame SyntaxCause) e.Value
  | line => Clause.read
  | expression => Expression.read
  | condition => Condition.read

/-- The rule that the whole text has to follow. -/
def rule : Entry → Rule
  | line => .line
  | expression => .loneExpression
  | condition => .loneCondition

/-- The pattern that takes the text up to its last gap. -/
def inner : (e : Entry) → Pattern e.Value
  | line => Grammar.statement
  | expression => Grammar.expression
  | condition => Grammar.condition

/-- The pattern that takes the whole text. -/
def pattern (e : Entry) : Pattern e.Value := .entire e.rule e.inner

/-- The integer literals of the value. -/
def integers : (e : Entry) → e.Value → List (Nat × Span)
  | line => Clause.integers
  | expression => Expression.integers
  | condition => Condition.integers

/-- The tokens write the value, whatever the size of its integers. -/
def Shaped : (e : Entry) → e.Value → List Text → Prop
  | line => fun c tokens => c.form.Shaped tokens
  | expression => Expression.Shaped
  | condition => Condition.Shaped

/-- The grammar takes the whole text. -/
def Accepts (e : Entry) (t : Text) : Prop :=
  ∃ a behind, e.pattern.read (.start t) = some (a, behind)

/-- The text writes a value, if integers may have any size. -/
def IsWellFormed (e : Entry) (t : Text) : Prop := ∃ a tokens, e.Shaped a tokens ∧ Laid tokens t

theorem read_eq (e : Entry) (t : Text) : e.read t = readWhole e.pattern e.integers t := by
  cases e <;> rfl

/-! ## Acceptance -/

theorem inner_sound (e : Entry) (account : TokenAccount) : e.inner.Sound account e.Shaped := by
  cases e with
  | line => exact Grammar.statement_sound account
  | expression => exact Grammar.expression_sound account
  | condition => exact Grammar.condition_sound account

theorem inner_reads {e : Entry} {a : e.Value} {tokens : List Text} (h : e.Shaped a tokens) :
    ∃ P, e.inner.Reads tokens P [] := by
  cases e with
  | line => exact ⟨_, Grammar.statement_reads h⟩
  | expression =>
    rw [← List.append_nil tokens]
    exact ⟨_, Grammar.expression_reads h (by decide)⟩
  | condition =>
    rw [← List.append_nil tokens]
    exact ⟨_, Grammar.condition_reads h fun v hv => absurd hv (Option.not_mem_none v)⟩

theorem accepts_iff_isWellFormed {e : Entry} {t : Text} : e.Accepts t ↔ e.IsWellFormed t := by
  constructor
  · rintro ⟨a, behind, hread⟩
    exact ⟨a, (e.inner_sound _).laid hread⟩
  · rintro ⟨a, tokens, hshaped, hlaid⟩
    obtain ⟨P, hreads⟩ := inner_reads hshaped
    obtain ⟨b, behind, hread, -⟩ := hreads.entire hlaid
    exact ⟨b, behind, hread⟩

end Entry

end Spellbook
