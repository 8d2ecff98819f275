import Spellbook.Proofs.Grammar.Completeness
import Spellbook.Proofs.Grammar.Soundness

/-!
# A line is read as what it is a layout of

A spelling does not depend on spans, and all integers in it are small enough.  So what the grammar
reads from a layout of a form is the form again, up to spans, and no integer in it is refused.
-/

namespace Spellbook

open Token

/-! ## Spellings and spans -/

section MapSpan

variable (f : Span → Span)

theorem Expression.mapSpanAll_ne_nil {elements : List Expression} :
    Expression.mapSpanAll f elements ≠ [] ↔ elements ≠ [] := by
  rw [Expression.mapSpanAll_eq_map, ne_eq, List.map_eq_nil_iff]

mutual

theorem Expression.spelled_mapSpan (e : Expression) (tokens : List Text) :
    (e.mapSpan f).Spelled tokens ↔ e.Spelled tokens := by
  cases e with
  | identifier i => exact Iff.rfl
  | boolean value span => exact Iff.rfl
  | integer value span => exact Iff.rfl
  | string contents quote span => exact Iff.rfl
  | list elements span =>
    simp only [Expression.mapSpan, Expression.Spelled, Expression.mapSpanAll_ne_nil,
      Expression.spelledAll_mapSpanAll elements]
  | len argument span =>
    simp only [Expression.mapSpan, Expression.Spelled, Expression.spelled_mapSpan argument]

theorem Expression.spelledAll_mapSpanAll (elements : List Expression)
    (pieces : List (List Text)) :
    Expression.SpelledAll (Expression.mapSpanAll f elements) pieces ↔
      Expression.SpelledAll elements pieces := by
  cases elements with
  | nil => exact Iff.rfl
  | cons e es =>
    simp only [Expression.mapSpanAll, Expression.SpelledAll, Expression.spelled_mapSpan e,
      Expression.spelledAll_mapSpanAll es]

end

theorem Term.spelled_mapSpan (t : Term) (tokens : List Text) :
    (t.mapSpan f).Spelled tokens ↔ t.Spelled tokens := by
  cases t with
  | membership element collection =>
    simp only [Term.mapSpan, Term.Spelled, Expression.spelled_mapSpan]
  | equality left right => simp only [Term.mapSpan, Term.Spelled, Expression.spelled_mapSpan]
  | name i => exact Iff.rfl
  | constant value span => exact Iff.rfl

theorem Condition.spelled_mapSpan (c : Condition) (tokens : List Text) :
    (c.mapSpan f).Spelled tokens ↔ c.Spelled tokens := by
  simp only [Condition.mapSpan, Condition.Spelled, Term.spelled_mapSpan,
    List.forall₂_map_left_iff]

theorem Form.spelled_mapSpan (form : Form) (tokens : List Text) :
    (form.mapSpan f).Spelled tokens ↔ form.Spelled tokens := by
  cases form with
  | action a =>
    cases a with
    | assignment target value =>
      simp only [Form.mapSpan, Action.mapSpan, Form.Spelled, Action.Spelled,
        Expression.spelled_mapSpan, Identifier.mapSpan]
    | print argument =>
      cases argument with
      | none => exact Iff.rfl
      | some e =>
        simp only [Form.mapSpan, Action.mapSpan, Form.Spelled, Action.Spelled, Option.map_some,
          Expression.spelled_mapSpan]
    | methodCall receiver method argument =>
      simp only [Form.mapSpan, Action.mapSpan, Form.Spelled, Action.Spelled,
        Expression.spelled_mapSpan, Identifier.mapSpan]
  | header h =>
    cases h with
    | branch c =>
      simp only [Form.mapSpan, Header.mapSpan, Form.Spelled, Header.Spelled,
        Condition.spelled_mapSpan]
    | loop variableName iterable => exact Iff.rfl

end MapSpan

/-! ## Lines -/

theorem readWhole_eq_ok_iff {α : Type} {p : Pattern α} {integers : α → List (Nat × Span)}
    {t : Text} {a : α} :
    readWhole p integers t = .ok a ↔
      (∃ behind, p.read (.start t) = some (a, behind)) ∧ Fits (integers a) := by
  unfold readWhole Pattern.parse
  dsimp only
  cases hread : p.read (.start t) with
  | none => simp
  | some result =>
    obtain ⟨b, behind⟩ := result
    dsimp only
    cases hsize : oversized? t (integers b) with
    | none =>
      rw [oversized?_eq_none_iff] at hsize
      simp only [Except.ok.injEq, Option.some.injEq, Prod.mk.injEq]
      constructor
      · rintro rfl
        exact ⟨⟨behind, rfl, rfl⟩, hsize⟩
      · rintro ⟨⟨_, rfl, -⟩, -⟩
        rfl
    | some blame =>
      simp only [reduceCtorEq, Option.some.injEq, Prod.mk.injEq, false_iff]
      rintro ⟨⟨_, rfl, -⟩, hfits⟩
      rw [oversized?_eq_none_iff.2 hfits] at hsize
      contradiction

theorem Form.spelled_of_unplaced_eq {f g : Form} {tokens : List Text}
    (h : g.unplaced = f.unplaced) (hf : f.Spelled tokens) : g.Spelled tokens := by
  rw [← Form.spelled_mapSpan nowhere] at hf ⊢
  rw [show g.mapSpan nowhere = f.mapSpan nowhere from h]
  exact hf

theorem Clause.isLayout_of_read {t : Text} {c : Clause} (h : Clause.read t = .ok c) :
    c.form.IsLayout t := by
  obtain ⟨⟨behind, hline⟩, hfits⟩ := readWhole_eq_ok_iff.1 h
  obtain ⟨tokens, hshaped, hlaid⟩ := (Grammar.statement_sound _).laid hline
  exact ⟨tokens, (c.spelled_iff_shaped tokens).2 ⟨hshaped, hfits⟩, hlaid⟩

theorem Clause.exists_read_of_isLayout {t : Text} {f : Form} (h : f.IsLayout t) :
    ∃ c, Clause.read t = .ok c ∧ c.form.unplaced = f.unplaced := by
  obtain ⟨tokens, hspelled, hlaid⟩ := h
  have hshaped := ((Clause.mk f ⟨0, 0⟩).spelled_iff_shaped tokens).1 hspelled
  obtain ⟨c, behind, hline, hsame⟩ := (Grammar.statement_reads hshaped.1).entire hlaid
  have hfits := ((c.spelled_iff_shaped tokens).1 (Form.spelled_of_unplaced_eq hsame hspelled)).2
  exact ⟨c, readWhole_eq_ok_iff.2 ⟨⟨behind, hline⟩, hfits⟩, hsame⟩

/-- Reading a line answers with a form, which is a statement without a body, exactly if the line
is a way to write the form; only places are left out. -/
theorem Clause.exists_read_iff_isLayout (t : Text) (f : Form) :
    (∃ c, Clause.read t = .ok c ∧ c.form.unplaced = f.unplaced) ↔ f.IsLayout t := by
  constructor
  · rintro ⟨c, hread, hsame⟩
    obtain ⟨tokens, hspelled, hlaid⟩ := Clause.isLayout_of_read hread
    exact ⟨tokens, Form.spelled_of_unplaced_eq hsame.symm hspelled, hlaid⟩
  · exact Clause.exists_read_of_isLayout

/-- Missing blanks, leading zeros, a last comma and a comment leave no trace. -/
example : (Clause.read "x=[ 007 ,]# seven").map (fun c => c.form.unplaced) =
    .ok (.action (.assignment ⟨"x", ⟨0, 0⟩⟩ (.list [.integer 7 ⟨0, 0⟩] ⟨0, 0⟩))) := by
  rfl

end Spellbook
