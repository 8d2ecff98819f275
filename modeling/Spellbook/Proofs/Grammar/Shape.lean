import Spellbook.Proofs.Grammar.Layout

/-!
# Shapes

What a row of tokens writes if integers may have any size.  A spelling is a shape whose integers
are small enough (`Clause.spelled_iff_shaped`), so that the patterns, which read integers of any
size, are followed by shapes, and the size of the integers is looked at once.
-/

namespace Spellbook

open Token

/-! ## Shapes of syntax -/

mutual

/-- The tokens write the expression, whatever the size of its integers. -/
def Expression.Shaped : Expression → List Text → Prop
  | .identifier i, tokens => IsName i.name ∧ tokens = [i.name]
  | .boolean value _, tokens => tokens = [booleanWord value]
  | .integer value _, tokens =>
      ∃ digits, IsDigits digits ∧ Text.natOfDigits digits = value ∧ tokens = [digits]
  | .string contents quote _, tokens =>
      quote.mark ∉ contents ∧ tokens = [quote.enclose contents]
  | .list elements _, tokens => ∃ pieces comma, Expression.ShapedAll elements pieces ∧
      (comma = [] ∨ elements ≠ [] ∧ comma = [sign ',']) ∧
      tokens = sign '[' :: [sign ','].intercalate pieces ++ comma ++ [sign ']']
  | .len argument _, tokens =>
      ∃ inner, argument.Shaped inner ∧ tokens = ("len" : Text) :: sign '(' :: inner ++ [sign ')']

/-- Each row of tokens writes the expression at its place. -/
def Expression.ShapedAll : List Expression → List (List Text) → Prop
  | [], pieces => pieces = []
  | e :: es, pieces => ∃ first others,
      e.Shaped first ∧ Expression.ShapedAll es others ∧ pieces = first :: others

end

def Term.Shaped : Term → List Text → Prop
  | .membership element collection, tokens => ∃ left right, element.Shaped left ∧
      collection.Shaped right ∧ tokens = left ++ ("in" : Text) :: right
  | .equality first second, tokens => ∃ left right, first.Shaped left ∧
      second.Shaped right ∧ tokens = left ++ ("==" : Text) :: right
  | .name i, tokens => IsName i.name ∧ tokens = [i.name]
  | .constant value _, tokens => tokens = [booleanWord value]

def Condition.Shaped (c : Condition) (tokens : List Text) : Prop :=
  ∃ first others, c.first.Shaped first ∧ List.Forall₂ Term.Shaped c.others others ∧
    tokens = first ++ others.flatMap (("and" : Text) :: ·)

def Action.Shaped : Action → List Text → Prop
  | .assignment target value, tokens => IsName target.name ∧
      ∃ inner, value.Shaped inner ∧ tokens = target.name :: sign '=' :: inner
  | .print none, tokens => tokens = [("print" : Text), sign '(', sign ')']
  | .print (some argument), tokens =>
      ∃ inner, argument.Shaped inner ∧ tokens = ("print" : Text) :: sign '(' :: inner ++ [sign ')']
  | .methodCall receiver method argument, tokens => IsName receiver.name ∧ IsName method.name ∧
      ∃ inner, argument.Shaped inner ∧
        tokens = receiver.name :: sign '.' :: method.name :: sign '(' :: inner ++ [sign ')']

def Header.Shaped : Header → List Text → Prop
  | .branch condition, tokens =>
      ∃ inner, condition.Shaped inner ∧ tokens = ("if" : Text) :: inner ++ [sign ':']
  | .loop variableName iterable, tokens => IsName variableName.name ∧ IsName iterable.name ∧
      tokens = [("for" : Text), variableName.name, "in", iterable.name, sign ':']

def Form.Shaped : Form → List Text → Prop
  | .action a, tokens => a.Shaped tokens
  | .header h, tokens => h.Shaped tokens

theorem Expression.shapedAll_iff {elements : List Expression} {pieces : List (List Text)} :
    Expression.ShapedAll elements pieces ↔ List.Forall₂ Expression.Shaped elements pieces := by
  induction elements generalizing pieces with
  | nil => rw [List.forall₂_nil_left_iff, Expression.ShapedAll]
  | cons e es ih =>
    rw [List.forall₂_cons_left_iff]
    simp only [Expression.ShapedAll, ih]

/-! ## The size of integers -/

/-- None of the integer literals is too large. -/
def Fits (literals : List (Nat × Span)) : Prop := ∀ literal ∈ literals, literal.1 ≤ maxInteger

@[simp] theorem fits_nil : Fits [] := fun _ h => absurd h List.not_mem_nil

@[simp] theorem fits_append {first second : List (Nat × Span)} :
    Fits (first ++ second) ↔ Fits first ∧ Fits second := List.forall_mem_append

theorem fits_singleton {value : Nat} {span : Span} : Fits [(value, span)] ↔ value ≤ maxInteger :=
  List.forall_mem_singleton

theorem oversized?_eq_none_iff {t : Text} {literals : List (Nat × Span)} :
    oversized? t literals = none ↔ Fits literals := by
  simp only [oversized?, Option.map_eq_none_iff, List.find?_eq_none, decide_eq_true_eq,
    Nat.not_lt, Fits]

mutual

theorem Expression.spelled_iff_shaped (e : Expression) (tokens : List Text) :
    e.Spelled tokens ↔ e.Shaped tokens ∧ Fits e.integers := by
  cases e with
  | identifier | boolean | string =>
    simp only [Expression.Spelled, Expression.Shaped, Expression.integers, fits_nil, and_true]
  | integer value span =>
    simp only [Expression.Spelled, Expression.Shaped, Expression.integers, fits_singleton]
    exact and_comm
  | list elements span =>
    simp only [Expression.Spelled, Expression.Shaped, Expression.integers,
      Expression.spelledAll_iff_shapedAll elements]
    grind
  | len argument span =>
    simp only [Expression.Spelled, Expression.Shaped, Expression.integers,
      Expression.spelled_iff_shaped argument]
    grind

theorem Expression.spelledAll_iff_shapedAll (elements : List Expression)
    (pieces : List (List Text)) :
    Expression.SpelledAll elements pieces ↔
      Expression.ShapedAll elements pieces ∧ Fits (Expression.integersAll elements) := by
  cases elements with
  | nil => simp only [Expression.SpelledAll, Expression.ShapedAll, Expression.integersAll, fits_nil,
      and_true]
  | cons e es =>
    simp only [Expression.SpelledAll, Expression.ShapedAll, Expression.integersAll, fits_append,
      Expression.spelled_iff_shaped e, Expression.spelledAll_iff_shapedAll es]
    grind

end

theorem Term.spelled_iff_shaped (t : Term) (tokens : List Text) :
    t.Spelled tokens ↔ t.Shaped tokens ∧ Fits t.integers := by
  cases t with
  | membership | equality =>
    simp only [Term.Spelled, Term.Shaped, Term.integers, fits_append,
      Expression.spelled_iff_shaped]
    grind
  | name | constant => simp only [Term.Spelled, Term.Shaped, Term.integers, fits_nil, and_true]

theorem Term.forall₂_spelled_iff_shaped (terms : List Term) (pieces : List (List Text)) :
    List.Forall₂ Term.Spelled terms pieces ↔
      List.Forall₂ Term.Shaped terms pieces ∧ Fits (terms.flatMap Term.integers) := by
  induction terms generalizing pieces with
  | nil => simp only [List.forall₂_nil_left_iff, List.flatMap_nil, fits_nil, and_true]
  | cons t ts ih =>
    simp only [List.forall₂_cons_left_iff, List.flatMap_cons, fits_append, ih,
      Term.spelled_iff_shaped t]
    grind

theorem Condition.spelled_iff_shaped (c : Condition) (tokens : List Text) :
    c.Spelled tokens ↔ c.Shaped tokens ∧ Fits c.integers := by
  simp only [Condition.Spelled, Condition.Shaped, Condition.integers, Condition.terms,
    List.flatMap_cons, fits_append, Term.spelled_iff_shaped, Term.forall₂_spelled_iff_shaped]
  grind

/-- The tokens spell a line exactly if they write it and all its integers are small enough. -/
theorem Clause.spelled_iff_shaped (c : Clause) (tokens : List Text) :
    c.form.Spelled tokens ↔ c.form.Shaped tokens ∧ Fits c.integers := by
  obtain ⟨(a | h), span⟩ := c
  · cases a with
    | assignment target value =>
      simp only [Form.Spelled, Action.Spelled, Form.Shaped, Action.Shaped, Clause.integers,
        Expression.spelled_iff_shaped]
      grind
    | print argument =>
      cases argument with
      | none =>
        simp only [Form.Spelled, Action.Spelled, Form.Shaped, Action.Shaped, Clause.integers,
          Option.map_none, Option.getD_none, fits_nil, and_true]
      | some e =>
        simp only [Form.Spelled, Action.Spelled, Form.Shaped, Action.Shaped, Clause.integers,
          Option.map_some, Option.getD_some, Expression.spelled_iff_shaped]
        grind
    | methodCall receiver method argument =>
      simp only [Form.Spelled, Action.Spelled, Form.Shaped, Action.Shaped, Clause.integers,
        Expression.spelled_iff_shaped]
      grind
  · cases h with
    | branch condition =>
      simp only [Form.Spelled, Header.Spelled, Form.Shaped, Header.Shaped, Clause.integers,
        Condition.spelled_iff_shaped]
      grind
    | loop =>
      simp only [Form.Spelled, Header.Spelled, Form.Shaped, Header.Shaped, Clause.integers,
        fits_nil, and_true]

end Spellbook
