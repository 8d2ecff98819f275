import Spellbook.Proofs.Source.Lines
import Spellbook.Proofs.Syntax.Nodes
import Spellbook.Run.Execute

/-!
# Where errors of a run are raised

An expression, a condition, an action or a header that cannot be carried out is blamed on a node of
its own tree.  A name is called undefined only where the scope does not bind it.
-/

namespace Spellbook

/-- The blame is for a node inside the given one, and it calls a name undefined only if the scope
does not bind the name. -/
structure Blame.Raised (scope : Scope) (n : Node) (b : Blame RunCause) : Prop where
  inside : ∃ m : Node, m.Inside n ∧ b.span = m.span
  unbound : ∀ name, b.cause = .undefinedName name → scope.find? name = none

namespace Blame.Raised

variable {scope : Scope} {n c : Node} {b : Blame RunCause}

theorem misuse {m : Misuse} {kind : Kind} {span : Span} (hspan : span = n.span) :
    Raised scope n ⟨.misuse m kind, span⟩ := by
  refine ⟨⟨n, .refl n, hspan⟩, ?_⟩
  intro name hcause
  contradiction

theorem unknownMethod {kind : Kind} {method : Text} {span : Span} (hspan : span = n.span) :
    Raised scope n ⟨.unknownMethod kind method, span⟩ := by
  refine ⟨⟨n, .refl n, hspan⟩, ?_⟩
  intro name hcause
  contradiction

theorem of_child (h : b.Raised scope c) (hc : c ∈ n.children) : b.Raised scope n := by
  obtain ⟨m, hm, hspan⟩ := h.inside
  exact ⟨⟨m, .child hc hm, hspan⟩, h.unbound⟩

end Blame.Raised

section Evaluate

variable {scope : Scope} {store : Store} {b : Blame RunCause}

theorem Identifier.raised_of_value {i : Identifier} (h : i.value scope = .error b) :
    b.Raised scope (.identifier i) := by
  unfold Identifier.value at h
  split at h
  · contradiction
  · next hfind =>
    obtain rfl := Except.error.inj h
    refine ⟨⟨_, .refl _, rfl⟩, ?_⟩
    intro name hcause
    rwa [← RunCause.undefinedName.inj hcause]

mutual

theorem Expression.raised_of_evaluate {store : Store} {b : Blame RunCause} (e : Expression)
    (h : e.evaluate scope store = .error b) : b.Raised scope (.expression e) := by
  cases e with
  | identifier i =>
    rw [Expression.evaluate] at h
    have hname := Identifier.raised_of_value (error_of_map_eq_error h)
    exact hname.of_child List.mem_cons_self
  | boolean | integer | string =>
    rw [Expression.evaluate] at h
    contradiction
  | list elements span =>
    rw [Expression.evaluate] at h
    cases hitems : Expression.evaluateAll scope store elements with
    | ok items =>
      rw [hitems] at h
      contradiction
    | error blame =>
      rw [hitems] at h
      obtain rfl := Except.error.inj h
      obtain ⟨e, he, hraised⟩ := Expression.exists_raised_of_evaluateAll elements hitems
      exact hraised.of_child (List.mem_map_of_mem he)
  | len argument span =>
    rw [Expression.evaluate] at h
    have hargument : b.Raised scope (.expression argument) := by
      rcases hvalue : argument.evaluate scope store with blame | ⟨v, store'⟩
      · rw [hvalue] at h
        obtain rfl := Except.error.inj h
        exact Expression.raised_of_evaluate argument hvalue
      · rw [hvalue] at h
        cases v with
        | list handle => contradiction
        | string | integer | boolean =>
          obtain rfl := Except.error.inj h
          exact .misuse rfl
    exact hargument.of_child List.mem_cons_self

theorem Expression.exists_raised_of_evaluateAll {store : Store} {b : Blame RunCause}
    (elements : List Expression) (h : Expression.evaluateAll scope store elements = .error b) :
    ∃ e ∈ elements, b.Raised scope (.expression e) := by
  cases elements with
  | nil =>
    rw [Expression.evaluateAll] at h
    contradiction
  | cons e es =>
    rw [Expression.evaluateAll] at h
    rcases hvalue : e.evaluate scope store with blame | ⟨v, store'⟩
    · rw [hvalue] at h
      obtain rfl := Except.error.inj h
      exact ⟨e, List.mem_cons_self, Expression.raised_of_evaluate e hvalue⟩
    · rw [hvalue] at h
      dsimp only at h
      cases hvalues : Expression.evaluateAll scope store' es with
      | ok values =>
        rw [hvalues] at h
        contradiction
      | error blame =>
        rw [hvalues] at h
        obtain rfl := Except.error.inj h
        obtain ⟨e', he', hraised⟩ := Expression.exists_raised_of_evaluateAll es hvalues
        exact ⟨e', List.mem_cons_of_mem e he', hraised⟩

end

theorem Term.raised_of_evaluate {t : Term} (h : t.evaluate scope store = .error b) :
    b.Raised scope (.term t) := by
  cases t with
  | membership element collection =>
    rw [Term.evaluate] at h
    rcases hfirst : element.evaluate scope store with blame | ⟨v, store'⟩
    · rw [hfirst] at h
      obtain rfl := Except.error.inj h
      exact (element.raised_of_evaluate hfirst).of_child List.mem_cons_self
    · rw [hfirst] at h
      dsimp only at h
      have hsecond : b.Raised scope (.expression collection) := by
        rcases hvalue : collection.evaluate scope store' with blame | ⟨w, store''⟩
        · rw [hvalue] at h
          obtain rfl := Except.error.inj h
          exact collection.raised_of_evaluate hvalue
        · rw [hvalue] at h
          cases w with
          | list handle => contradiction
          | string | integer | boolean =>
            obtain rfl := Except.error.inj h
            exact .misuse rfl
      exact hsecond.of_child (List.mem_cons_of_mem _ List.mem_cons_self)
  | equality left right =>
    rw [Term.evaluate] at h
    rcases hfirst : left.evaluate scope store with blame | ⟨v, store'⟩
    · rw [hfirst] at h
      obtain rfl := Except.error.inj h
      exact (left.raised_of_evaluate hfirst).of_child List.mem_cons_self
    · rw [hfirst] at h
      dsimp only at h
      cases hsecond : right.evaluate scope store' with
      | ok result =>
        rw [hsecond] at h
        contradiction
      | error blame =>
        rw [hsecond] at h
        obtain rfl := Except.error.inj h
        exact (right.raised_of_evaluate hsecond).of_child
          (List.mem_cons_of_mem _ List.mem_cons_self)
  | name i =>
    rw [Term.evaluate] at h
    have hname : b.Raised scope (.expression (.identifier i)) := by
      rcases hvalue : i.value scope with blame | v
      · rw [hvalue] at h
        obtain rfl := Except.error.inj h
        exact (Identifier.raised_of_value hvalue).of_child List.mem_cons_self
      · rw [hvalue] at h
        cases v with
        | boolean truth => contradiction
        | string | integer | list =>
          obtain rfl := Except.error.inj h
          exact .misuse rfl
    exact hname.of_child List.mem_cons_self
  | constant value span =>
    rw [Term.evaluate] at h
    contradiction

/-- Terms that are not all true come to what the first one comes to that is not true. -/
theorem Term.exists_of_evaluateAll {terms : List Term} {r : Except (Blame RunCause) Bool}
    (h : Term.evaluateAll scope store terms = r) (hr : r ≠ .ok true) :
    ∃ front t back, terms = front ++ t :: back ∧
      (∀ t' ∈ front, t'.evaluate scope store = .ok true) ∧ t.evaluate scope store = r := by
  induction terms with
  | nil => exact absurd h.symm hr
  | cons t ts ih =>
    rw [Term.evaluateAll] at h
    by_cases htrue : t.evaluate scope store = .ok true
    · rw [htrue] at h
      obtain ⟨front, t', back, rfl, hfront, ht'⟩ := ih h
      exact ⟨t :: front, t', back, rfl, List.forall_mem_cons.2 ⟨htrue, hfront⟩, ht'⟩
    · refine ⟨[], t, ts, rfl, fun t' ht' => absurd ht' List.not_mem_nil, ?_⟩
      rcases ht : t.evaluate scope store with blame | _ | _
      · rwa [ht] at h
      · rwa [ht] at h
      · exact absurd ht htrue

theorem Condition.raised_of_evaluate {c : Condition} (h : c.evaluate scope store = .error b) :
    b.Raised scope (.condition c) := by
  obtain ⟨front, t, back, hterms, -, ht⟩ := Term.exists_of_evaluateAll h nofun
  have hmem : t ∈ c.terms := hterms ▸ List.mem_append_cons_self
  exact (Term.raised_of_evaluate ht).of_child (List.mem_map_of_mem hmem)

/-! ## Actions and headers -/

theorem Action.raised_of_effect {a : Action} (span : Span)
    (h : a.effect scope store = .error b) : b.Raised scope (.clause ⟨.action a, span⟩) := by
  cases a with
  | assignment target value =>
    have hvalue := value.raised_of_evaluate (error_of_map_eq_error h)
    exact hvalue.of_child (List.mem_cons_of_mem _ List.mem_cons_self)
  | print argument =>
    cases argument with
    | none => contradiction
    | some e => exact (e.raised_of_evaluate (error_of_map_eq_error h)).of_child List.mem_cons_self
  | methodCall receiver method argument =>
    have hreceiver : Node.identifier receiver ∈
        (Node.clause ⟨.action (.methodCall receiver method argument), span⟩).children :=
      List.mem_cons_self
    have hmethod : Node.identifier method ∈
        (Node.clause ⟨.action (.methodCall receiver method argument), span⟩).children :=
      List.mem_cons_of_mem _ List.mem_cons_self
    have hargument : Node.expression argument ∈
        (Node.clause ⟨.action (.methodCall receiver method argument), span⟩).children :=
      List.mem_cons_of_mem _ (List.mem_cons_of_mem _ List.mem_cons_self)
    rw [Action.effect] at h
    rcases hvalue : receiver.value scope with blame | v
    · rw [hvalue] at h
      obtain rfl := Except.error.inj h
      exact (Identifier.raised_of_value hvalue).of_child hreceiver
    · rw [hvalue] at h
      cases v with
      | list handle =>
        dsimp only at h
        split at h
        · have hitem := argument.raised_of_evaluate (error_of_map_eq_error h)
          exact hitem.of_child hargument
        · obtain rfl := Except.error.inj h
          exact (Blame.Raised.unknownMethod rfl).of_child hmethod
      | string | integer | boolean =>
        obtain rfl := Except.error.inj h
        exact (Blame.Raised.unknownMethod rfl).of_child hmethod

theorem Header.raised_of_rounds {header : Header} (span : Span)
    (h : header.rounds scope store = .error b) :
    b.Raised scope (.clause ⟨.header header, span⟩) := by
  cases header with
  | branch condition =>
    have hcondition := Condition.raised_of_evaluate (error_of_map_eq_error h)
    exact hcondition.of_child List.mem_cons_self
  | loop variableName iterable =>
    have hiterable : b.Raised scope (.identifier iterable) := by
      rw [Header.rounds] at h
      rcases hvalue : iterable.value scope with blame | v
      · rw [hvalue] at h
        obtain rfl := Except.error.inj h
        exact Identifier.raised_of_value hvalue
      · rw [hvalue] at h
        cases v with
        | list handle => contradiction
        | string | integer | boolean =>
          obtain rfl := Except.error.inj h
          exact .misuse rfl
    exact hiterable.of_child (List.mem_cons_of_mem _ List.mem_cons_self)

end Evaluate

end Spellbook
