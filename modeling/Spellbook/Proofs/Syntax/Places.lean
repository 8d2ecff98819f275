import Spellbook.Syntax.Basic

/-!
# Syntax at other places

Replacing the spans of a piece of syntax keeps everything else, and replacing them twice is
replacing them once.  A statement also carries the number of its line, so that its place is
replaced by a function for lines and one for spans.
-/

namespace Spellbook

variable {κ : Type} {f g : Span → Span}

/-! ## Blames and faults -/

/-- The blame with its span replaced. -/
def Blame.mapSpan (f : Span → Span) (b : Blame κ) : Blame κ := { b with span := f b.span }

/-- The fault with its line and its span replaced. -/
def Fault.mapPlace (line : Nat → Nat) (f : Span → Span) (e : Fault κ) : Fault κ :=
  (e.toBlame.mapSpan f).onLine (line e.line)

/-! ## Expressions and conditions -/

@[simp] theorem Identifier.name_mapSpan (i : Identifier) : (i.mapSpan f).name = i.name := rfl

@[simp] theorem Identifier.span_mapSpan (i : Identifier) : (i.mapSpan f).span = f i.span := rfl

theorem Identifier.mapSpan_mapSpan (i : Identifier) :
    (i.mapSpan f).mapSpan g = i.mapSpan (g ∘ f) := rfl

theorem Expression.mapSpanAll_eq_map (f : Span → Span) (elements : List Expression) :
    Expression.mapSpanAll f elements = elements.map (Expression.mapSpan f) := by
  induction elements with
  | nil => rfl
  | cons e es ih => rw [Expression.mapSpanAll, ih, List.map_cons]

@[simp] theorem Expression.span_mapSpan (e : Expression) :
    (e.mapSpan f).span = f e.span := by
  cases e <;> rfl

mutual

theorem Expression.mapSpan_mapSpan (e : Expression) :
    (e.mapSpan f).mapSpan g = e.mapSpan (g ∘ f) := by
  cases e with
  | identifier i => rfl
  | boolean value span => rfl
  | integer value span => rfl
  | string value quote span => rfl
  | list elements span =>
    simp only [Expression.mapSpan, Expression.mapSpanAll_mapSpanAll elements, Function.comp_apply]
  | len argument span =>
    simp only [Expression.mapSpan, Expression.mapSpan_mapSpan argument, Function.comp_apply]

theorem Expression.mapSpanAll_mapSpanAll (elements : List Expression) :
    Expression.mapSpanAll g (Expression.mapSpanAll f elements) =
      Expression.mapSpanAll (g ∘ f) elements := by
  cases elements with
  | nil => rfl
  | cons e es =>
    simp only [Expression.mapSpanAll, Expression.mapSpan_mapSpan e,
      Expression.mapSpanAll_mapSpanAll es]

end

theorem Term.mapSpan_mapSpan (t : Term) : (t.mapSpan f).mapSpan g = t.mapSpan (g ∘ f) := by
  cases t with
  | membership element collection => simp only [Term.mapSpan, Expression.mapSpan_mapSpan]
  | equality left right => simp only [Term.mapSpan, Expression.mapSpan_mapSpan]
  | name i => rfl
  | constant value span => rfl

theorem Condition.mapSpan_mapSpan (c : Condition) :
    (c.mapSpan f).mapSpan g = c.mapSpan (g ∘ f) := by
  have hterms : Term.mapSpan g ∘ Term.mapSpan f = Term.mapSpan (g ∘ f) :=
    funext Term.mapSpan_mapSpan
  simp only [Condition.mapSpan, Term.mapSpan_mapSpan, List.map_map, hterms]

/-! ## Statements -/

theorem Action.mapSpan_mapSpan (a : Action) :
    (a.mapSpan f).mapSpan g = a.mapSpan (g ∘ f) := by
  cases a with
  | assignment target value =>
    simp only [Action.mapSpan, Identifier.mapSpan_mapSpan, Expression.mapSpan_mapSpan]
  | print argument =>
    have hargument : Expression.mapSpan g ∘ Expression.mapSpan f = Expression.mapSpan (g ∘ f) :=
      funext Expression.mapSpan_mapSpan
    simp only [Action.mapSpan, Option.map_map, hargument]
  | methodCall receiver method argument =>
    simp only [Action.mapSpan, Identifier.mapSpan_mapSpan, Expression.mapSpan_mapSpan]

theorem Header.mapSpan_mapSpan (h : Header) :
    (h.mapSpan f).mapSpan g = h.mapSpan (g ∘ f) := by
  cases h with
  | branch condition => simp only [Header.mapSpan, Condition.mapSpan_mapSpan]
  | loop variableName iterable => rfl

theorem Form.mapSpan_mapSpan (form : Form) :
    (form.mapSpan f).mapSpan g = form.mapSpan (g ∘ f) := by
  cases form with
  | action a => simp only [Form.mapSpan, Action.mapSpan_mapSpan]
  | header h => simp only [Form.mapSpan, Header.mapSpan_mapSpan]

theorem Clause.shift_shift (m n : Nat) (c : Clause) :
    (c.shift m).shift n = c.shift (m + n) := by
  have hspan : Span.shift n ∘ Span.shift m = Span.shift (m + n) :=
    funext (Span.shift_shift m n)
  simp only [Clause.shift, Form.mapSpan_mapSpan, hspan, Span.shift_shift]

@[simp] theorem Clause.isHeader_shift (bytes : Nat) (c : Clause) :
    (c.shift bytes).isHeader = c.isHeader := by
  rcases c with ⟨a | h, span⟩ <;> rfl

variable (line line' : Nat → Nat)

def Simple.mapPlace (f : Span → Span) (s : Simple) : Simple :=
  ⟨s.action.mapSpan f, line s.line, f s.span⟩

def Block.mapPlace (f : Span → Span) (b : Block) : Block :=
  ⟨b.header.mapSpan f, line b.line, f b.span, b.body.map (Simple.mapPlace line f)⟩

/-- The statement with its place and that of its body replaced. -/
def Statement.mapPlace (f : Span → Span) : Statement → Statement
  | .simple s => .simple (s.mapPlace line f)
  | .block b => .block (b.mapPlace line f)

/-! ### Places by line

Where a statement goes may depend on the line that it stands on, as when every line is moved by
another number of bytes. -/

section Relocate

variable (f : Nat → Span → Span)

/-- The fault at the place to which the function for its line takes it. -/
def Fault.relocate (e : Fault κ) : Fault κ := e.mapPlace line (f e.line)

def Simple.relocate (s : Simple) : Simple := s.mapPlace line (f s.line)

def Block.relocate (b : Block) : Block :=
  ⟨b.header.mapSpan (f b.line), line b.line, f b.line b.span, b.body.map (Simple.relocate line f)⟩

/-- The statement at the place to which the function for its line takes it, and its body at the
place to which the function for the body's line takes that. -/
def Statement.relocate : Statement → Statement
  | .simple s => .simple (s.relocate line f)
  | .block b => .block (b.relocate line f)

end Relocate

theorem Statement.relocate_const (line : Nat → Nat) (f : Span → Span) :
    Statement.relocate line (fun _ => f) = Statement.mapPlace line f := by
  funext s
  cases s <;> rfl

theorem Simple.mapPlace_mapPlace (s : Simple) :
    (s.mapPlace line f).mapPlace line' g = s.mapPlace (line' ∘ line) (g ∘ f) := by
  simp only [Simple.mapPlace, Action.mapSpan_mapSpan, Function.comp_apply]

theorem Statement.mapPlace_mapPlace (s : Statement) :
    (s.mapPlace line f).mapPlace line' g = s.mapPlace (line' ∘ line) (g ∘ f) := by
  cases s with
  | simple s => simp only [Statement.mapPlace, Simple.mapPlace_mapPlace]
  | block b =>
    have hbody : Simple.mapPlace line' g ∘ Simple.mapPlace line f =
        Simple.mapPlace (line' ∘ line) (g ∘ f) := funext (Simple.mapPlace_mapPlace line line')
    simp only [Statement.mapPlace, Block.mapPlace, Header.mapSpan_mapSpan, Option.map_map, hbody,
      Function.comp_apply]

end Spellbook
