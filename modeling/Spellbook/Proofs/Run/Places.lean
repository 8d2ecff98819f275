import Spellbook.Proofs.Syntax.Places
import Spellbook.Run.Evaluation

/-!
# A run does not look at places

Lines and spans are only copied into the errors of a run.  So a run of statements at other places
goes through the same states, and ends with the same error at the place that its statement has
there (`Statement.runAll_relocate`), also if each line goes to a place of its own.
-/

namespace Spellbook

variable (f : Span → Span) (scope : Scope) (store : Store)

/-! ## Expressions and conditions -/

theorem Identifier.value_mapSpan (i : Identifier) :
    (i.mapSpan f).value scope = (i.value scope).mapError (Blame.mapSpan f) := by
  unfold Identifier.value Identifier.mapSpan
  dsimp only
  cases scope.find? i.name <;> rfl

mutual

theorem Expression.evaluate_mapSpan (e : Expression) (store : Store) :
    (e.mapSpan f).evaluate scope store =
      (e.evaluate scope store).mapError (Blame.mapSpan f) := by
  cases e with
  | identifier i =>
    simp only [Expression.mapSpan, Expression.evaluate, Identifier.value_mapSpan]
    cases i.value scope <;> rfl
  | boolean value span => rfl
  | integer value span => rfl
  | string value quote span => rfl
  | list elements span =>
    simp only [Expression.mapSpan, Expression.evaluate,
      Expression.evaluateAll_mapSpanAll elements]
    cases Expression.evaluateAll scope store elements <;> rfl
  | len argument span =>
    simp only [Expression.mapSpan, Expression.evaluate, Expression.evaluate_mapSpan argument,
      Expression.span_mapSpan]
    rcases argument.evaluate scope store with blame | ⟨v, store⟩
    · rfl
    · cases v <;> rfl

theorem Expression.evaluateAll_mapSpanAll (elements : List Expression) (store : Store) :
    Expression.evaluateAll scope store (Expression.mapSpanAll f elements) =
      (Expression.evaluateAll scope store elements).mapError (Blame.mapSpan f) := by
  cases elements with
  | nil => rfl
  | cons e es =>
    simp only [Expression.mapSpanAll, Expression.evaluateAll, Expression.evaluate_mapSpan e]
    rcases e.evaluate scope store with blame | ⟨v, store⟩
    · rfl
    · unfold Except.mapError
      dsimp only
      rw [Expression.evaluateAll_mapSpanAll es]
      cases Expression.evaluateAll scope store es <;> rfl

end

theorem Term.evaluate_mapSpan (t : Term) :
    (t.mapSpan f).evaluate scope store =
      (t.evaluate scope store).mapError (Blame.mapSpan f) := by
  cases t with
  | membership element collection =>
    simp only [Term.mapSpan, Term.evaluate, Expression.evaluate_mapSpan, Expression.span_mapSpan]
    rcases element.evaluate scope store with blame | ⟨v, store⟩
    · rfl
    · unfold Except.mapError
      dsimp only
      rcases collection.evaluate scope store with blame | ⟨w, store⟩
      · rfl
      · cases w <;> rfl
  | equality left right =>
    simp only [Term.mapSpan, Term.evaluate, Expression.evaluate_mapSpan]
    rcases left.evaluate scope store with blame | ⟨v, store⟩
    · rfl
    · unfold Except.mapError
      dsimp only
      cases right.evaluate scope store <;> rfl
  | name i =>
    simp only [Term.mapSpan, Term.evaluate, Identifier.value_mapSpan]
    rcases i.value scope with blame | v
    · rfl
    · cases v <;> rfl
  | constant value span => rfl

theorem Term.evaluateAll_map_mapSpan (terms : List Term) :
    Term.evaluateAll scope store (terms.map (Term.mapSpan f)) =
      (Term.evaluateAll scope store terms).mapError (Blame.mapSpan f) := by
  induction terms with
  | nil => rfl
  | cons t ts ih =>
    simp only [List.map_cons, Term.evaluateAll, Term.evaluate_mapSpan]
    rcases t.evaluate scope store with blame | truth
    · rfl
    · cases truth with
      | false => rfl
      | true => exact ih

theorem Condition.evaluate_mapSpan (c : Condition) :
    (c.mapSpan f).evaluate scope store =
      (c.evaluate scope store).mapError (Blame.mapSpan f) :=
  Term.evaluateAll_map_mapSpan f scope store c.terms

/-! ## Statements -/

theorem Action.effect_mapSpan (a : Action) :
    (a.mapSpan f).effect scope store =
      (a.effect scope store).mapError (Blame.mapSpan f) := by
  cases a with
  | assignment target value =>
    simp only [Action.mapSpan, Action.effect, Expression.evaluate_mapSpan,
      Identifier.name_mapSpan]
    cases value.evaluate scope store <;> rfl
  | print argument =>
    cases argument with
    | none => rfl
    | some e =>
      simp only [Action.mapSpan, Option.map_some, Action.effect, Expression.evaluate_mapSpan]
      cases e.evaluate scope store <;> rfl
  | methodCall receiver method argument =>
    simp only [Action.mapSpan, Action.effect, Identifier.value_mapSpan,
      Expression.evaluate_mapSpan, Identifier.name_mapSpan, Identifier.span_mapSpan]
    rcases receiver.value scope with blame | v
    · rfl
    · unfold Except.mapError
      dsimp only
      cases v with
      | list handle =>
        by_cases hname : method.name = "append".toList
        · simp only [if_pos hname]
          cases argument.evaluate scope store <;> rfl
        · simp only [if_neg hname]
          rfl
      | string | integer | boolean => rfl

theorem Header.rounds_mapSpan (h : Header) :
    (h.mapSpan f).rounds scope store =
      (h.rounds scope store).mapError (Blame.mapSpan f) := by
  cases h with
  | branch condition =>
    simp only [Header.mapSpan, Header.rounds, Condition.evaluate_mapSpan]
    cases condition.evaluate scope store <;> rfl
  | loop variableName iterable =>
    simp only [Header.mapSpan, Header.rounds, Identifier.value_mapSpan, Identifier.name_mapSpan,
      Identifier.span_mapSpan]
    rcases iterable.value scope with blame | v
    · rfl
    · cases v <;> rfl

section Relocate

variable (line : Nat → Nat) (f : Nat → Span → Span) (limit : Nat)

/-- The outcome with its error, if there is one, at the place to which its line takes it. -/
def Outcome.relocate (o : Outcome) : Outcome := ⟨o.state, o.error.map (Fault.relocate line f)⟩

theorem Outcome.andThen_relocate {next next' : State → Outcome} (o : Outcome)
    (h : ∀ st, next' st = (next st).relocate line f) :
    (o.relocate line f).andThen next' = (o.andThen next).relocate line f := by
  rcases o with ⟨st, none | e⟩
  · exact h st
  · rfl

theorem State.countStep_relocate (n : Nat) (span : Span) (st : State) :
    st.countStep limit (line n) (f n span) = (st.countStep limit n span).relocate line f := by
  unfold State.countStep
  dsimp only
  split <;> rfl

theorem Simple.run_relocate (s : Simple) (st : State) :
    (s.relocate line f).run limit st = (s.run limit st).relocate line f := by
  unfold Simple.run Simple.relocate Simple.mapPlace
  rw [State.countStep_relocate]
  apply Outcome.andThen_relocate
  intro st
  unfold Simple.perform
  dsimp only
  rw [Action.effect_mapSpan]
  cases s.action.effect st.scope st.store <;> rfl

/-- A round runs the body, which is at another place, and what follows it. -/
theorem runRounds_relocate (body : Option Simple) (rounds : List (Option (Text × Value)))
    (st : State) :
    runRounds limit (body.map (Simple.relocate line f)) rounds st =
      (runRounds limit body rounds st).relocate line f := by
  induction rounds generalizing st with
  | nil => rfl
  | cons round rounds ih =>
    cases body with
    | none => exact ih (st.enter round)
    | some s =>
      simp only [Option.map_some, runRounds, Simple.run_relocate] at ih ⊢
      exact Outcome.andThen_relocate line f _ ih

theorem Statement.run_relocate (s : Statement) (st : State) :
    (s.relocate line f).run limit st = (s.run limit st).relocate line f := by
  cases s with
  | simple s => exact s.run_relocate line f limit st
  | block b =>
    simp only [Statement.relocate, Statement.run, Block.run, Block.relocate,
      State.countStep_relocate]
    apply Outcome.andThen_relocate
    intro st
    unfold Block.perform
    dsimp only
    rw [Header.rounds_mapSpan]
    rcases b.header.rounds st.scope st.store with blame | rounds
    · rfl
    · exact runRounds_relocate line f limit b.body rounds st

theorem Statement.runAll_relocate (statements : List Statement) (st : State) :
    Statement.runAll limit (statements.map (Statement.relocate line f)) st =
      (Statement.runAll limit statements st).relocate line f := by
  induction statements generalizing st with
  | nil => rfl
  | cons s rest ih =>
    simp only [List.map_cons, Statement.runAll, Statement.run_relocate]
    exact Outcome.andThen_relocate line f _ ih

end Relocate

/-! ### Every line to the same place -/

/-- The outcome with its error, if there is one, at another place. -/
def Outcome.mapPlace (f : Span → Span) (line : Nat → Nat) (o : Outcome) : Outcome :=
  ⟨o.state, o.error.map (Fault.mapPlace line f)⟩

theorem Statement.runAll_mapPlace (line : Nat → Nat) (limit : Nat) (statements : List Statement)
    (st : State) :
    Statement.runAll limit (statements.map (Statement.mapPlace line f)) st =
      (Statement.runAll limit statements st).mapPlace f line := by
  rw [← Statement.relocate_const]
  exact Statement.runAll_relocate line (fun _ => f) limit statements st

end Spellbook
