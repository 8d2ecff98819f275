import Spellbook.Proofs.Run.Machine
import Spellbook.Proofs.Source.Statements

/-!
# What a statement that fails leaves behind

A simple statement or a branch that fails has only been counted.  A loop that fails has either only
been counted, too, or it has made complete rounds for the first items of its list, as they were when
it was reached, and has named the next item for a body that failed and has only been counted
(`Statement.state_after_failure`).  The list itself may have grown in the meantime, which is why the
rounds are told by the items that it had before.
-/

namespace Spellbook

variable {limit : Nat} {st st' : State} {e : RunError}

/-- The second state has the same bindings, the same items in every list and the same printed texts
as the first, and more steps. -/
structure State.SameButSteps (st st' : State) : Prop where
  scope_eq : st'.scope = st.scope
  store_eq : st'.store = st.store
  printed_eq : st'.printed = st.printed
  steps_lt : st.steps < st'.steps

theorem State.sameButSteps_counted (st : State) : st.SameButSteps st.counted :=
  ⟨rfl, rfl, rfl, Nat.lt_succ_self _⟩

theorem State.SameButSteps.trans {st'' : State} (h : st.SameButSteps st')
    (h' : st'.SameButSteps st'') : st.SameButSteps st'' :=
  ⟨h'.scope_eq.trans h.scope_eq, h'.store_eq.trans h.store_eq, h'.printed_eq.trans h.printed_eq,
    Nat.lt_trans h.steps_lt h'.steps_lt⟩

/-! ## Simple statements -/

theorem Simple.state_of_failure {s : Simple} (h : s.run limit st = ⟨st', some e⟩) :
    st' = st.counted := by
  have hstep := s.step_run limit st []
  rw [h] at hstep
  cases hstep with
  | actFails | refuse => rfl

/-! ## Rounds -/

/-- Complete rounds of a loop: for one item after the other, the name is bound to the item
and the body succeeds. -/
inductive Simple.Iterates (limit : Nat) (body : Simple) (name : Text) :
    List Value → State → State → Prop
  | nil {st : State} : Iterates limit body name [] st st
  | cons {item : Value} {items : List Value} {st st' st'' : State} :
    body.run limit (st.enter (some (name, item))) = ⟨st', none⟩ →
    Iterates limit body name items st' st'' → Iterates limit body name (item :: items) st st''

/-- Where the rounds of a loop fail, all rounds before are complete. -/
theorem Simple.exists_item_of_failure {body : Simple} {name : Text} {items : List Value}
    (h : runRounds limit (some body) (items.map fun item => some (name, item)) st =
      ⟨st', some e⟩) :
    ∃ i item mid, items[i]? = some item ∧ body.Iterates limit name (items.take i) st mid ∧
      body.run limit (mid.enter (some (name, item))) = ⟨st', some e⟩ := by
  induction items generalizing st with
  | nil => exact nomatch congrArg Outcome.error h
  | cons item items ih =>
    rw [List.map_cons, runRounds] at h
    rcases hfirst : body.run limit (st.enter (some (name, item))) with ⟨next, _ | e'⟩
    · rw [hfirst] at h
      obtain ⟨i, item', mid, hitem, hrounds, hfails⟩ := ih h
      exact ⟨i + 1, item', mid, hitem, .cons hfirst hrounds, hfails⟩
    · rw [hfirst] at h
      exact ⟨0, item, st, rfl, .nil, hfirst.trans h⟩

/-- Rounds without a body cannot fail. -/
theorem error_runRounds_none (limit : Nat) (rounds : List (Option (Text × Value))) (st : State) :
    (runRounds limit none rounds st).error = none := by
  induction rounds generalizing st with
  | nil => rfl
  | cons round rounds ih => exact ih (st.enter round)

/-! ## Blocks -/

theorem Header.rounds_of_branch {scope : Scope} {store : Store} {c : Condition}
    {rounds : List (Option (Text × Value))}
    (h : (Header.branch c).rounds scope store = .ok rounds) : rounds = [] ∨ rounds = [none] := by
  obtain ⟨truth, -, rfl⟩ := exists_of_map_eq_ok h
  cases truth with
  | false => exact .inl rfl
  | true => exact .inr rfl

/-- A loop that gets to its rounds goes through the items of a list. -/
theorem Header.exists_of_rounds_loop {scope : Scope} {store : Store} {name iterable : Identifier}
    {rounds : List (Option (Text × Value))}
    (h : (Header.loop name iterable).rounds scope store = .ok rounds) :
    ∃ target, scope.find? iterable.name = some (.list target) ∧
      rounds = (store.items target).toList.map fun item => some (name.name, item) := by
  rw [Header.rounds] at h
  unfold Identifier.value at h
  rcases hfind : scope.find? iterable.name with - | v
  · rw [hfind] at h
    contradiction
  · rw [hfind] at h
    cases v with
    | list target => exact ⟨target, rfl, (Except.ok.inj h).symm⟩
    | string | integer | boolean => contradiction

/-- A block that fails has only been counted, or it has got to its rounds and fails
in one of them. -/
theorem Block.cases_of_failure {b : Block} (h : b.run limit st = ⟨st', some e⟩) :
    st' = st.counted ∨ ∃ body rounds, b.body = some body ∧
      b.header.rounds st.scope st.store = .ok rounds ∧
      runRounds limit (some body) rounds st.counted = ⟨st', some e⟩ := by
  unfold Block.run at h
  by_cases hlimit : st.steps < limit
  · rw [State.countStep_of_lt hlimit] at h
    change b.perform limit st.counted = ⟨st', some e⟩ at h
    unfold Block.perform at h
    split at h
    · exact .inl (congrArg Outcome.state h).symm
    · next rounds hrounds =>
      cases hbody : b.body with
      | some body =>
        rw [hbody] at h
        exact .inr ⟨body, rounds, rfl, hrounds, h⟩
      | none =>
        have herror := error_runRounds_none limit rounds st.counted
        rw [← hbody, h] at herror
        contradiction
  · rw [State.countStep_of_le (Nat.le_of_not_lt hlimit)] at h
    exact .inl (congrArg Outcome.state h).symm

theorem Block.sameButSteps_of_branch {b : Block} {c : Condition} (hheader : b.header = .branch c)
    (h : b.run limit st = ⟨st', some e⟩) : st.SameButSteps st' := by
  rcases Block.cases_of_failure h with rfl | ⟨body, rounds, -, hrounds, hfails⟩
  · exact st.sameButSteps_counted
  · rw [hheader] at hrounds
    rcases Header.rounds_of_branch hrounds with rfl | rfl
    · exact nomatch congrArg Outcome.error hfails
    · -- A branch has one round, which binds nothing, and then nothing follows.
      have hbody : body.run limit st.counted = ⟨st', some e⟩ := by
        rw [runRounds] at hfails
        change (body.run limit st.counted).andThen (runRounds limit (some body) []) = _ at hfails
        rcases hfirst : body.run limit st.counted with ⟨next, _ | e'⟩
        · rw [hfirst] at hfails
          exact nomatch congrArg Outcome.error hfails
        · rw [hfirst] at hfails
          exact hfails
      rw [Simple.state_of_failure hbody]
      exact st.sameButSteps_counted.trans st.counted.sameButSteps_counted

theorem Block.cases_of_loop {b : Block} {name iterable : Identifier}
    (hheader : b.header = .loop name iterable) (h : b.run limit st = ⟨st', some e⟩) :
    st' = st.counted ∨
    ∃ body target i item mid, b.body = some body ∧
      st.scope.find? iterable.name = some (.list target) ∧
      (st.store.items target)[i]? = some item ∧
      body.Iterates limit name.name ((st.store.items target).toList.take i) st.counted mid ∧
      body.run limit (mid.enter (some (name.name, item))) = ⟨st', some e⟩ := by
  rcases Block.cases_of_failure h with rfl | ⟨body, rounds, hbody, hrounds, hfails⟩
  · exact .inl rfl
  · rw [hheader] at hrounds
    obtain ⟨target, hiterable, rfl⟩ := Header.exists_of_rounds_loop hrounds
    obtain ⟨i, item, mid, hitem, hiterates, hfails⟩ := Simple.exists_item_of_failure hfails
    rw [Array.getElem?_toList] at hitem
    exact .inr ⟨body, target, i, item, mid, hbody, hiterable, hitem, hiterates, hfails⟩

/-! ## The main result -/

/-- An assignment, a print, a call or a branch that fails leaves the bindings, all lists and what
was printed as they were.  A loop that fails has only been counted; or the state is the one
behind complete rounds for the first items that its list had when the loop was reached, with the
next item named, and the body that failed there has only been counted. -/
theorem Statement.state_after_failure {s : Statement} (h : s.run limit st = ⟨st', some e⟩) :
    ((∀ name iterable, s.clause.form ≠ .header (.loop name iterable)) → st.SameButSteps st') ∧
    ∀ name iterable, s.clause.form = .header (.loop name iterable) →
      st' = st.counted ∨
      ∃ body target i item mid, s.body? = some body ∧
        st.scope.find? iterable.name = some (.list target) ∧
        (st.store.items target)[i]? = some item ∧
        body.Iterates limit name.name ((st.store.items target).toList.take i) st.counted mid ∧
        body.run limit (mid.enter (some (name.name, item))) = ⟨st', some e⟩ ∧
        st' = (mid.enter (some (name.name, item))).counted := by
  cases s with
  | simple s =>
    refine ⟨fun _ => ?_, fun _ _ hform => nomatch hform⟩
    rw [Simple.state_of_failure h]
    exact st.sameButSteps_counted
  | block b =>
    constructor
    · intro hform
      cases hheader : b.header with
      | branch c => exact Block.sameButSteps_of_branch hheader h
      | loop name iterable => exact absurd (congrArg Form.header hheader) (hform name iterable)
    · intro name iterable hform
      rcases Block.cases_of_loop (Form.header.inj hform) h with
        hcounted | ⟨body, target, i, item, mid, hbody, hiterable, hitem, hiterates, hfails⟩
      · exact .inl hcounted
      · exact .inr ⟨body, target, i, item, mid, hbody, hiterable, hitem, hiterates, hfails,
          Simple.state_of_failure hfails⟩

/-- The body puts lengths into the list that the loop goes through, and fails for
the second item. -/
theorem Statement.state_after_failure_grown_list :
    ∃ (s : Statement) (st st' : State) (e : RunError), s.run 10 st = ⟨st', some e⟩ ∧
      st.store.items 1 = #[.list 0, .string "a"] ∧
      st'.store.items 1 = #[.list 0, .string "a", .integer 1] ∧
      ∃ body target i item mid, s.body? = some body ∧
        st.scope.find? "xs" = some (.list target) ∧ (st.store.items target)[i]? = some item ∧
        body.Iterates 10 "x" ((st.store.items target).toList.take i) st.counted mid ∧
        body.run 10 (mid.enter (some ("x", item))) = ⟨st', some e⟩ ∧
        st' = (mid.enter (some ("x", item))).counted := by
  let xs (start : Nat) : Identifier := ⟨"xs", ⟨start, start + 2⟩⟩
  let x (start : Nat) : Identifier := ⟨"x", ⟨start, start + 1⟩⟩
  let body : Simple :=
    ⟨.methodCall (xs 29) ⟨"append", ⟨32, 38⟩⟩ (.len (.identifier (x 43)) ⟨39, 45⟩), 3, ⟨29, 46⟩⟩
  let s : Statement := .block ⟨.loop (x 20) (xs 25), 2, ⟨16, 28⟩, some body⟩
  let store : Store := ⟨#[#[.integer 7], #[.list 0, .string "a"]]⟩
  let st : State := ⟨Scope.empty.define "xs" (.list 1), store, #[], 1⟩
  have hfails : s.run 10 st =
      ⟨(s.run 10 st).state, some ⟨⟨.misuse .length .string, ⟨43, 44⟩⟩, 3⟩⟩ := rfl
  have hgrown : (s.run 10 st).state.store.items 1 = #[.list 0, .string "a", .integer 1] := by
    decide +kernel
  rcases (state_after_failure hfails).2 (x 20) (xs 25) rfl with hcounted | hrounds
  · rw [hcounted] at hgrown
    exact absurd hgrown (by decide +kernel)
  · exact ⟨s, st, _, _, hfails, rfl, hgrown, hrounds⟩

end Spellbook
