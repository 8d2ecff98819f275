import Spellbook.Proofs.Run.Causes
import Spellbook.Proofs.Run.Renaming
import Spellbook.Proofs.Source.Order

/-!
# What was evaluated before a failure

An expression or a condition is carried out from left to right.  Where it stops at a blame,
whatever ends before the blamed place has a value, and the terms that end before it are true.  A
condition that is false was decided by its first false term, and the terms behind that one could
as well be any others (`Node.leftmost_failure`).

Whether an expression has a value depends on the kinds of its parts alone, and these do
not depend on the store.
-/

namespace Spellbook

variable {scope : Scope} {store : Store} {b : Blame RunCause}

/-! ## Kinds -/

mutual

/-- The kind of the value of the expression, which is the same over every store. -/
def Expression.kindIn (scope : Scope) : Expression → Except (Blame RunCause) Kind
  | .identifier i => (i.value scope).map Value.kind
  | .boolean _ _ => .ok .boolean
  | .integer _ _ => .ok .integer
  | .string _ _ _ => .ok .string
  | .list elements _ => (Expression.kindsIn scope elements).map fun _ => .list
  | .len argument _ =>
    match argument.kindIn scope with
    | .error blame => .error blame
    | .ok .list => .ok .integer
    | .ok kind => .error ⟨.misuse .length kind, argument.span⟩

/-- The kinds of the values of the expressions. -/
def Expression.kindsIn (scope : Scope) : List Expression → Except (Blame RunCause) (List Kind)
  | [] => .ok []
  | e :: es =>
    match e.kindIn scope with
    | .error blame => .error blame
    | .ok kind => (Expression.kindsIn scope es).map fun kinds => kind :: kinds

end

mutual

theorem Expression.map_kind_evaluate (scope : Scope) (store : Store) (e : Expression) :
    (e.evaluate scope store).map (fun result => result.1.kind) = e.kindIn scope := by
  cases e with
  | identifier i =>
    rw [Expression.evaluate, Expression.kindIn]
    cases i.value scope <;> rfl
  | boolean | integer | string => rfl
  | list elements span =>
    rw [Expression.evaluate, Expression.kindIn, ← Expression.map_kinds_evaluateAll scope store]
    rcases Expression.evaluateAll scope store elements with blame | ⟨items, store'⟩ <;> rfl
  | len argument span =>
    rw [Expression.evaluate, Expression.kindIn, ← Expression.map_kind_evaluate scope store]
    rcases argument.evaluate scope store with blame | ⟨v, store'⟩
    · rfl
    · cases v <;> rfl

theorem Expression.map_kinds_evaluateAll (scope : Scope) (store : Store) (es : List Expression) :
    (Expression.evaluateAll scope store es).map (fun result => result.1.map Value.kind) =
      Expression.kindsIn scope es := by
  cases es with
  | nil => rfl
  | cons e es =>
    rw [Expression.evaluateAll, Expression.kindsIn, ← Expression.map_kind_evaluate scope store]
    rcases e.evaluate scope store with blame | ⟨v, store'⟩
    · rfl
    · dsimp only [Except.map]
      rw [← Expression.map_kinds_evaluateAll scope store']
      rcases Expression.evaluateAll scope store' es with blame | ⟨vs, store''⟩ <;> rfl

end

/-- An expression with a kind has a value, whatever the store. -/
theorem Expression.exists_evaluate_of_kindIn {e : Expression} {kind : Kind}
    (h : e.kindIn scope = .ok kind) (store : Store) :
    ∃ result, e.evaluate scope store = .ok result := by
  rw [← e.map_kind_evaluate scope store] at h
  obtain ⟨result, hresult, -⟩ := exists_of_map_eq_ok h
  exact ⟨result, hresult⟩

theorem Expression.kindIn_of_evaluate_error {e : Expression}
    (h : e.evaluate scope store = .error b) : e.kindIn scope = .error b := by
  rw [← e.map_kind_evaluate scope store, h]
  rfl

/-! ## Nodes that hold -/

namespace Node

/-- The expression has a value, the term is true. -/
def Holds (scope : Scope) (store : Store) : Node → Prop
  | expression e => ∃ kind, e.kindIn scope = .ok kind
  | term t => t.evaluate scope store = .ok true
  | identifier _ => True
  | condition _ => True
  | clause _ => True

/-- The node and all that is inside it hold. -/
def AllHold (scope : Scope) (store : Store) (n : Node) : Prop :=
  ∀ m : Node, m.Inside n → m.Holds scope store

theorem Holds.allHold {n : Node} (h : n.Holds scope store)
    (hchildren : ∀ c ∈ n.children, c.AllHold scope store) : n.AllHold scope store :=
  forall_inside h hchildren

/-- Carrying out the node stops at the blame.  It is for the node, or for a part of a child, and
what stands in front of the child holds. -/
inductive StopsAt (scope : Scope) (store : Store) (b : Blame RunCause) : Node → Prop
  | here {n : Node} : b.span = n.span → StopsAt scope store b n
  | child {n c : Node} {front back : List Node} : n.children = front ++ c :: back →
    (∀ d ∈ front, d.AllHold scope store) → StopsAt scope store b c → StopsAt scope store b n

namespace StopsAt

variable {n : Node}

theorem exists_inside (h : n.StopsAt scope store b) : ∃ m : Node, m.Inside n ∧ b.span = m.span := by
  induction h with
  | here hspan => exact ⟨_, .refl _, hspan⟩
  | @child n c front back hchildren _ _ ih =>
    obtain ⟨m, hm, hspan⟩ := ih
    have hc : c ∈ n.children := hchildren ▸ List.mem_append_cons_self
    exact ⟨m, .child hc hm, hspan⟩

theorem holds {t : Text} (h : n.StopsAt scope store b) (hn : n.AllFaithful t) {m : Node}
    (hm : m.Inside n) (hstop : m.span.stop ≤ b.span.start) : m.Holds scope store := by
  induction h with
  | @here n hspan =>
    have hstart := (hn.within hm).1
    have hlt := (hn m hm).start_lt_stop
    rw [hspan] at hstop
    omega
  | @child n c front back hchildren hfront hc ih =>
    obtain ⟨blamed, hblamed, hspan⟩ := hc.exists_inside
    have hbefore : m.span.stop ≤ blamed.span.start := by rwa [← hspan]
    rcases hn.inside_of_stop_le hchildren hblamed hm hbefore with ⟨d, hd, hmd⟩ | hmc
    · exact hfront d hd m hmd
    · have hmem : c ∈ n.children := hchildren ▸ List.mem_append_cons_self
      exact ih (hn.of_inside (.child hmem (.refl c))) hmc

/-- The first child is where carrying out the node starts. -/
theorem first {c : Node} {back : List Node} (hchildren : n.children = c :: back)
    (h : c.StopsAt scope store b) : n.StopsAt scope store b := by
  refine .child (hchildren.trans (List.nil_append _).symm) ?_ h
  exact fun d hd => absurd hd List.not_mem_nil

/-- The children are expressions, and one of them is where carrying out the node stops. -/
theorem operands {es : List Expression} (hchildren : n.children = es.map .expression)
    (h : ∃ front e back, es = front ++ e :: back ∧
      (∀ d ∈ front, (expression d).AllHold scope store) ∧
      (expression e).StopsAt scope store b) : n.StopsAt scope store b := by
  obtain ⟨front, e, back, rfl, hfront, he⟩ := h
  rw [List.map_append, List.map_cons] at hchildren
  refine .child hchildren ?_ he
  intro c hc
  obtain ⟨d, hd, rfl⟩ := List.mem_map.1 hc
  exact hfront d hd

end StopsAt

end Node

/-! ## Expressions -/

theorem Identifier.allHold (i : Identifier) : (Node.identifier i).AllHold scope store := by
  have hholds : (Node.identifier i).Holds scope store := trivial
  exact hholds.allHold fun c hc => absurd hc List.not_mem_nil

theorem Identifier.stopsAt_of_value {i : Identifier} (h : i.value scope = .error b) :
    (Node.identifier i).StopsAt scope store b := by
  unfold Identifier.value at h
  split at h
  · contradiction
  · rw [← Except.error.inj h]
    exact .here rfl

mutual

/-- An expression that has a value consists of expressions that have one. -/
theorem Expression.allHold_of_kindIn (e : Expression) {kind : Kind}
    (h : e.kindIn scope = .ok kind) : (Node.expression e).AllHold scope store := by
  have hholds : (Node.expression e).Holds scope store := ⟨kind, h⟩
  apply hholds.allHold
  intro c hc
  cases e with
  | identifier i =>
    obtain rfl := List.mem_singleton.1 hc
    exact i.allHold
  | boolean | integer | string => exact absurd hc List.not_mem_nil
  | list elements span =>
    rw [Expression.kindIn] at h
    obtain ⟨kinds, hkinds, -⟩ := exists_of_map_eq_ok h
    obtain ⟨e, he, rfl⟩ := List.mem_map.1 hc
    exact Expression.allHold_of_kindsIn elements hkinds he
  | len argument span =>
    obtain rfl := List.mem_singleton.1 hc
    rw [Expression.kindIn] at h
    cases hargument : argument.kindIn scope with
    | error blame =>
      rw [hargument] at h
      contradiction
    | ok kind' => exact Expression.allHold_of_kindIn argument hargument

theorem Expression.allHold_of_kindsIn (es : List Expression) {kinds : List Kind} {e : Expression}
    (h : Expression.kindsIn scope es = .ok kinds) (he : e ∈ es) :
    (Node.expression e).AllHold scope store := by
  cases es with
  | nil => exact absurd he List.not_mem_nil
  | cons first rest =>
    rw [Expression.kindsIn] at h
    cases hfirst : first.kindIn scope with
    | error blame =>
      rw [hfirst] at h
      contradiction
    | ok kind =>
      rw [hfirst] at h
      obtain ⟨others, hrest, -⟩ := exists_of_map_eq_ok h
      rcases List.mem_cons.1 he with heq | he
      · rw [heq]
        exact Expression.allHold_of_kindIn first hfirst
      · exact Expression.allHold_of_kindsIn rest hrest he

end

mutual

theorem Expression.stopsAt_of_kindIn (e : Expression) (h : e.kindIn scope = .error b) :
    (Node.expression e).StopsAt scope store b := by
  cases e with
  | identifier i =>
    rw [Expression.kindIn] at h
    exact .first rfl (Identifier.stopsAt_of_value (error_of_map_eq_error h))
  | boolean | integer | string =>
    rw [Expression.kindIn] at h
    contradiction
  | list elements span =>
    rw [Expression.kindIn] at h
    have hkinds := error_of_map_eq_error h
    exact .operands rfl (Expression.exists_stopsAt_of_kindsIn elements hkinds)
  | len argument span =>
    rw [Expression.kindIn] at h
    cases hargument : argument.kindIn scope with
    | error blame =>
      rw [hargument] at h
      exact .first rfl (Expression.stopsAt_of_kindIn argument (hargument.trans h))
    | ok kind =>
      rw [hargument] at h
      cases kind with
      | list => contradiction
      | string | integer | boolean =>
        rw [← Except.error.inj h]
        exact .first rfl (.here rfl)

/-- Of expressions, those in front of the one that fails have values. -/
theorem Expression.exists_stopsAt_of_kindsIn (es : List Expression)
    (h : Expression.kindsIn scope es = .error b) :
    ∃ front e back, es = front ++ e :: back ∧
      (∀ d ∈ front, (Node.expression d).AllHold scope store) ∧
      (Node.expression e).StopsAt scope store b := by
  cases es with
  | nil =>
    rw [Expression.kindsIn] at h
    contradiction
  | cons first rest =>
    rw [Expression.kindsIn] at h
    cases hfirst : first.kindIn scope with
    | error blame =>
      rw [hfirst] at h
      rw [Except.error.inj h] at hfirst
      refine ⟨[], first, rest, rfl, ?_, Expression.stopsAt_of_kindIn first hfirst⟩
      exact fun d hd => absurd hd List.not_mem_nil
    | ok kind =>
      rw [hfirst] at h
      obtain ⟨front, e, back, hrest, hfront, he⟩ :=
        Expression.exists_stopsAt_of_kindsIn rest (error_of_map_eq_error h)
      refine ⟨first :: front, e, back, congrArg (first :: ·) hrest, ?_, he⟩
      exact List.forall_mem_cons.2 ⟨Expression.allHold_of_kindIn first hfirst, hfront⟩

end

/-! ## Terms -/

/-- The expressions that a term says something about. -/
def Term.operands : Term → List Expression
  | .membership element collection => [element, collection]
  | .equality left right => [left, right]
  | .name i => [.identifier i]
  | .constant value span => [.boolean value span]

theorem Term.children_eq (t : Term) : (Node.term t).children = t.operands.map .expression := by
  cases t <;> rfl

theorem Expression.map_kinds_evaluateBoth (scope : Scope) (store : Store)
    (left right : Expression) :
    (Expression.evaluateBoth scope store left right).map
        (fun result => [result.1.kind, result.2.1.kind]) =
      Expression.kindsIn scope [left, right] := by
  rw [Expression.kindsIn, Expression.evaluateBoth, ← left.map_kind_evaluate scope store]
  rcases left.evaluate scope store with blame | ⟨v, store'⟩
  · rfl
  · dsimp only [Except.map]
    rw [Expression.kindsIn, Expression.kindsIn, ← right.map_kind_evaluate scope store']
    rcases right.evaluate scope store' with blame | ⟨w, store''⟩ <;> rfl

/-- A term fails with the first of its operands that does.  If they all have values, it can be
blamed on the last one only. -/
theorem Term.cases_of_evaluate (scope : Scope) (store : Store) (t : Term) :
    (∃ blame, Expression.kindsIn scope t.operands = .error blame ∧
      t.evaluate scope store = .error blame) ∨
    (∃ kinds, Expression.kindsIn scope t.operands = .ok kinds) ∧
      ∀ b, t.evaluate scope store = .error b →
        ∃ last, t.operands.getLast? = some last ∧ b.span = last.span := by
  cases t with
  | membership element collection =>
    rw [Term.operands, ← Expression.map_kinds_evaluateBoth scope store, Term.evaluate_membership]
    rcases Expression.evaluateBoth scope store element collection with blame | ⟨v, w, store'⟩
    · exact .inl ⟨blame, rfl, rfl⟩
    · refine .inr ⟨⟨_, rfl⟩, ?_⟩
      intro b h
      cases w with
      | list handle => contradiction
      | string | integer | boolean =>
        rw [← Except.error.inj h]
        exact ⟨collection, rfl, rfl⟩
  | equality left right =>
    rw [Term.operands, ← Expression.map_kinds_evaluateBoth scope store, Term.evaluate_equality]
    rcases Expression.evaluateBoth scope store left right with blame | ⟨v, w, store'⟩
    · exact .inl ⟨blame, rfl, rfl⟩
    · refine .inr ⟨⟨_, rfl⟩, ?_⟩
      intro b h
      contradiction
  | name i =>
    rw [Term.operands, Expression.kindsIn, Expression.kindIn, Term.evaluate]
    rcases i.value scope with blame | v
    · exact .inl ⟨blame, rfl, rfl⟩
    · refine .inr ⟨⟨_, rfl⟩, ?_⟩
      intro b h
      cases v with
      | boolean truth => contradiction
      | string | integer | list =>
        rw [← Except.error.inj h]
        exact ⟨.identifier i, rfl, rfl⟩
  | constant value span =>
    refine .inr ⟨⟨_, rfl⟩, ?_⟩
    intro b h
    contradiction

theorem Term.allHold_of_evaluate {t : Term} (h : t.evaluate scope store = .ok true) :
    (Node.term t).AllHold scope store := by
  have hholds : (Node.term t).Holds scope store := h
  apply hholds.allHold
  intro c hc
  rw [t.children_eq] at hc
  obtain ⟨e, he, rfl⟩ := List.mem_map.1 hc
  rcases t.cases_of_evaluate scope store with ⟨blame, -, herror⟩ | ⟨⟨kinds, hkinds⟩, -⟩
  · rw [h] at herror
    contradiction
  · exact Expression.allHold_of_kindsIn t.operands hkinds he

theorem Term.stopsAt_of_evaluate {t : Term} (h : t.evaluate scope store = .error b) :
    (Node.term t).StopsAt scope store b := by
  rcases t.cases_of_evaluate scope store with ⟨blame, hkinds, herror⟩ | ⟨⟨kinds, hkinds⟩, hlast⟩
  · rw [h] at herror
    rw [← Except.error.inj herror] at hkinds
    exact .operands t.children_eq (Expression.exists_stopsAt_of_kindsIn t.operands hkinds)
  · obtain ⟨last, hoperands, hspan⟩ := hlast b h
    obtain ⟨front, hfront⟩ := List.getLast?_eq_some_iff.1 hoperands
    have hchildren : (Node.term t).children = front.map .expression ++ [.expression last] := by
      rw [t.children_eq, hfront, List.map_append, List.map_singleton]
    refine .child hchildren ?_ (.here hspan)
    intro c hc
    obtain ⟨e, he, rfl⟩ := List.mem_map.1 hc
    apply Expression.allHold_of_kindsIn t.operands hkinds
    rw [hfront]
    exact List.mem_append_left _ he

/-! ## Conditions -/

/-- The terms behind the first one that is not true are not looked at. -/
theorem Term.evaluateAll_append {front : List Term} {t : Term} {r : Except (Blame RunCause) Bool}
    (hfront : ∀ t' ∈ front, t'.evaluate scope store = .ok true) (ht : t.evaluate scope store = r)
    (hr : r ≠ .ok true) (others : List Term) :
    Term.evaluateAll scope store (front ++ t :: others) = r := by
  induction front with
  | nil =>
    rw [List.nil_append, Term.evaluateAll, ht]
    rcases r with blame | _ | _
    · rfl
    · rfl
    · exact absurd rfl hr
  | cons first front ih =>
    obtain ⟨hfirst, hfront⟩ := List.forall_mem_cons.1 hfront
    rw [List.cons_append, Term.evaluateAll, hfirst]
    exact ih hfront

theorem Condition.stopsAt_of_evaluate {c : Condition} (h : c.evaluate scope store = .error b) :
    (Node.condition c).StopsAt scope store b := by
  obtain ⟨front, t, back, hterms, hfront, ht⟩ := Term.exists_of_evaluateAll h nofun
  have hchildren : (Node.condition c).children =
      front.map .term ++ .term t :: back.map .term := by
    rw [Node.children, hterms, List.map_append, List.map_cons]
  refine .child hchildren ?_ (Term.stopsAt_of_evaluate ht)
  intro d hd
  obtain ⟨t', ht', rfl⟩ := List.mem_map.1 hd
  exact Term.allHold_of_evaluate (hfront t' ht')

/-! ## The main result -/

/-- Where an expression that was read fails, the expressions inside it that end before the blamed
place have values, whatever the store.  Where a condition that was read fails, this holds as
well, and the terms that end before the blamed place are true.  A condition that is false has a
first false term, and is false with any terms behind it. -/
theorem Node.leftmost_failure (scope : Scope) (store : Store) :
    (∀ e : Expression, (Node.expression e).IsRead → ∀ b, e.evaluate scope store = .error b →
      ∀ part : Expression, (Node.expression part).Inside (.expression e) →
        part.span.stop ≤ b.span.start →
        ∀ other : Store, ∃ result, part.evaluate scope other = .ok result) ∧
    (∀ c : Condition, (Node.condition c).IsRead → ∀ b, c.evaluate scope store = .error b →
      (∀ part : Expression, (Node.expression part).Inside (.condition c) →
        part.span.stop ≤ b.span.start →
        ∀ other : Store, ∃ result, part.evaluate scope other = .ok result) ∧
      ∀ t ∈ c.terms, t.span.stop ≤ b.span.start → t.evaluate scope store = .ok true) ∧
    ∀ c : Condition, c.evaluate scope store = .ok false →
      ∃ front t back, c.terms = front ++ t :: back ∧
        (∀ t' ∈ front, t'.evaluate scope store = .ok true) ∧ t.evaluate scope store = .ok false ∧
        ∀ (c' : Condition) (others : List Term), c'.terms = front ++ t :: others →
          c'.evaluate scope store = .ok false := by
  refine ⟨?_, ?_, ?_⟩
  · intro e hread b h part hpart hstop other
    obtain ⟨source, hfaithful⟩ := hread.exists_allFaithful
    have hstops : (Node.expression e).StopsAt scope store b :=
      e.stopsAt_of_kindIn (Expression.kindIn_of_evaluate_error h)
    obtain ⟨kind, hkind⟩ := hstops.holds hfaithful hpart hstop
    exact Expression.exists_evaluate_of_kindIn hkind other
  · intro c hread b h
    obtain ⟨source, hfaithful⟩ := hread.exists_allFaithful
    have hstops := Condition.stopsAt_of_evaluate h
    constructor
    · intro part hpart hstop other
      obtain ⟨kind, hkind⟩ := hstops.holds hfaithful hpart hstop
      exact Expression.exists_evaluate_of_kindIn hkind other
    · intro t ht hstop
      have hinside : (Node.term t).Inside (.condition c) :=
        .child (List.mem_map_of_mem ht) (.refl _)
      exact hstops.holds hfaithful hinside hstop
  · intro c h
    obtain ⟨front, t, back, hterms, hfront, ht⟩ := Term.exists_of_evaluateAll h nofun
    refine ⟨front, t, back, hterms, hfront, ht, ?_⟩
    intro c' others hothers
    unfold Condition.evaluate
    rw [hothers]
    exact Term.evaluateAll_append hfront ht nofun others

/-- A list whose second item fails, a condition whose second term fails, and one whose second
term would fail but is not looked at. -/
theorem Node.leftmost_failure_second_part :
    ∃ (scope : Scope) (e : Expression) (c d : Condition) (b b' : Blame RunCause),
      Expression.read "[len([a]), len(a)]" = .ok e ∧
      e.evaluate scope .empty = .error b ∧ b.span = ⟨15, 16⟩ ∧
      (∃ part : Expression, (Node.expression part).Inside (.expression e) ∧ part.span = ⟨1, 9⟩ ∧
        ∀ other : Store, ∃ result, part.evaluate scope other = .ok result) ∧
      Condition.read "a in [a] and len([a]) == len(nope)" = .ok c ∧
      c.evaluate scope .empty = .error b' ∧ b'.span = ⟨29, 33⟩ ∧
      (∃ part : Expression, (Node.expression part).Inside (.condition c) ∧ part.span = ⟨13, 21⟩ ∧
        ∀ other : Store, ∃ result, part.evaluate scope other = .ok result) ∧
      c.first.evaluate scope .empty = .ok true ∧
      Condition.read "a == [] and nope" = .ok d ∧
      ∃ front t back, d.terms = front ++ t :: back ∧
        (∀ t' ∈ front, t'.evaluate scope .empty = .ok true) ∧
        t.evaluate scope .empty = .ok false ∧
        ∀ (d' : Condition) (others : List Term), d'.terms = front ++ t :: others →
          d'.evaluate scope .empty = .ok false := by
  let a (start : Nat) : Expression := .identifier ⟨"a", ⟨start, start + 1⟩⟩
  let scope : Scope := Scope.empty.define "a" (.string "x")
  let length (start : Nat) : Expression :=
    .len (.list [a (start + 5)] ⟨start + 4, start + 7⟩) ⟨start, start + 8⟩
  let e : Expression := .list [length 1, .len (a 15) ⟨11, 17⟩] ⟨0, 18⟩
  let c : Condition := ⟨.membership (a 0) (.list [a 6] ⟨5, 8⟩),
    [.equality (length 13) (.len (.identifier ⟨"nope", ⟨29, 33⟩⟩) ⟨25, 34⟩)]⟩
  let d : Condition := ⟨.equality (a 0) (.list [] ⟨5, 7⟩), [.name ⟨"nope", ⟨12, 16⟩⟩]⟩
  have he : Expression.read "[len([a]), len(a)]" = .ok e := rfl
  have hc : Condition.read "a in [a] and len([a]) == len(nope)" = .ok c := rfl
  have hd : Condition.read "a == [] and nope" = .ok d := rfl
  have hefails : e.evaluate scope .empty = .error ⟨.misuse .length .string, ⟨15, 16⟩⟩ := rfl
  have hcfails : c.evaluate scope .empty = .error ⟨.undefinedName "nope", ⟨29, 33⟩⟩ := by
    decide +kernel
  have hdfalse : d.evaluate scope .empty = .ok false := by decide +kernel
  have hpart : (Node.expression (length 1)).Inside (.expression e) :=
    .child List.mem_cons_self (.refl _)
  have hpart' : (Node.expression (length 13)).Inside (.condition c) :=
    .child (List.mem_cons_of_mem _ List.mem_cons_self) (.child List.mem_cons_self (.refl _))
  obtain ⟨hexpression, hcondition, hfalse⟩ := leftmost_failure scope .empty
  have hbefore := hexpression e (.entry (e := .expression) he) _ hefails _ hpart (by decide)
  obtain ⟨hparts, hterms⟩ := hcondition c (.entry (e := .condition) hc) _ hcfails
  exact ⟨scope, e, c, d, _, _, he, hefails, rfl, ⟨_, hpart, rfl, hbefore⟩, hc, hcfails, rfl,
    ⟨_, hpart', rfl, hparts _ hpart' (by decide)⟩, hterms _ List.mem_cons_self (by decide), hd,
    hfalse d hdfalse⟩

end Spellbook
