import Spellbook.Proofs.Run.StepLimit

/-!
# More statements at the end

A run of some statements and then of others is a run of the others behind that of the first.  So it
can only succeed if the first ones do, and what it prints goes on from what they printed.
-/

namespace Spellbook

/-! ## Runs -/

theorem Outcome.andThen_assoc (o : Outcome) (next last : State → Outcome) :
    (o.andThen next).andThen last = o.andThen fun st => (next st).andThen last := by
  rcases o with ⟨st, none | e⟩ <;> rfl

theorem Statement.runAll_append (limit : Nat) (first more : List Statement) (st : State) :
    Statement.runAll limit (first ++ more) st =
      (Statement.runAll limit first st).andThen (Statement.runAll limit more) := by
  induction first generalizing st with
  | nil => rfl
  | cons s rest ih =>
    rw [List.cons_append, Statement.runAll, Statement.runAll, Outcome.andThen_assoc]
    congr 1
    exact funext ih

theorem Outcome.error_of_andThen {o : Outcome} {next : State → Outcome}
    (h : (o.andThen next).error = none) : o.error = none := by
  rcases o with ⟨st, none | e⟩
  · rfl
  · exact h

theorem Outcome.error_of_andThen_eq_some {o : Outcome} {next : State → Outcome} {e : RunError}
    (h : (o.andThen next).error = some e) :
    o.error = some e ∨ ∃ st, (next st).error = some e := by
  rcases o with ⟨st, none | e'⟩
  · exact .inr ⟨st, h⟩
  · exact .inl h

theorem Statement.printed_runAll_append (limit : Nat) (first more : List Statement) (st : State) :
    (Statement.runAll limit first st).state.printed.toList <+:
      (Statement.runAll limit (first ++ more) st).state.printed.toList := by
  rw [Statement.runAll_append]
  exact Truncates.printed_andThen (fun st' => Statement.truncates_runAll more st') _ limit

/-! ## Evaluations -/

/-- A source that is evaluated without a failure was read and run to its end. -/
theorem exists_of_evaluate_runs {settings : Settings} {source : Text}
    (h : (evaluate settings source).failure = none) :
    ∃ p, Program.read settings.marker source = .ok p ∧ (p.run settings.maxSteps).error = none := by
  unfold evaluate at h
  cases hread : Program.read settings.marker source with
  | error e =>
    rw [hread] at h
    exact nomatch h
  | ok p =>
    rw [hread] at h
    exact ⟨p, rfl, Option.map_eq_none_iff.1 h⟩

theorem evaluate_of_read {settings : Settings} {source : Text} {p : Program}
    (h : Program.read settings.marker source = .ok p) :
    evaluate settings source = .ofOutcome (p.run settings.maxSteps) := by
  unfold evaluate
  rw [h]
  rfl

end Spellbook
