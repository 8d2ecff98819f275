import Spellbook.Proofs.Run.Append
import Spellbook.Proofs.Source.Statements
import Spellbook.Proofs.Syntax.Lists

/-!
# How long lists get

A list is as long as its brackets when it is made, and a step puts at most one item into one list.
So no list has more items than the longest list in brackets has elements and the run has made
steps, even if loops go through the lists that they append to.  Where this cannot exceed the
largest integer, every length is the number of items (`Program.lengths_exact`).
-/

namespace Spellbook

/-! ## Stores -/

namespace Store

variable {bound bound' : Nat} {s : Store}

/-- No list has more items than the bound. -/
def Within (bound : Nat) (s : Store) : Prop := ∀ handle, (s.items handle).size ≤ bound

theorem within_empty (bound : Nat) : empty.Within bound := by
  intro handle
  rw [items_of_size_le (Nat.zero_le handle)]
  exact Nat.zero_le bound

theorem Within.mono (h : s.Within bound) (hle : bound ≤ bound') : s.Within bound' :=
  fun handle => Nat.le_trans (h handle) hle

theorem Within.allocate {items : List Value} (h : s.Within bound)
    (hitems : items.length ≤ bound) : (s.allocate items).2.Within bound := by
  intro handle
  rw [items_allocate]
  split
  · exact hitems
  · exact h handle

theorem size_items_append_le (s : Store) (target : Handle) (v : Value) (handle : Handle) :
    ((s.append target v).items handle).size ≤ (s.items handle).size + 1 := by
  rw [items_append]
  split
  · rw [Array.size_push]
  · exact Nat.le_succ _

end Store

/-! ## Evaluation -/

section Evaluate

variable {bound : Nat} {scope : Scope}

mutual

theorem Expression.within_of_evaluate (e : Expression) {store store' : Store} {v : Value}
    (hlists : ∀ elements ∈ e.lists, elements.length ≤ bound) (hstore : store.Within bound)
    (h : e.evaluate scope store = .ok (v, store')) : store'.Within bound := by
  cases e with
  | identifier i =>
    rw [Expression.evaluate] at h
    obtain ⟨w, -, hpair⟩ := exists_of_map_eq_ok h
    obtain ⟨-, rfl⟩ := Prod.mk.inj hpair
    exact hstore
  | boolean | integer | string =>
    rw [Expression.evaluate] at h
    obtain ⟨-, rfl⟩ := Prod.mk.inj (Except.ok.inj h)
    exact hstore
  | list elements span =>
    rw [Expression.lists] at hlists
    obtain ⟨hlength, hinner⟩ := List.forall_mem_cons.1 hlists
    obtain ⟨items, middle, hitems, -, rfl⟩ := Expression.exists_of_evaluate_list h
    obtain ⟨hmiddle, hsame⟩ := Expression.within_of_evaluateAll elements hinner hstore hitems
    exact hmiddle.allocate (Nat.le_trans (Nat.le_of_eq hsame) hlength)
  | len argument span =>
    rw [Expression.lists] at hlists
    obtain ⟨handle, hvalue, -⟩ := Expression.exists_of_evaluate_len h
    exact Expression.within_of_evaluate argument hlists hstore hvalue

theorem Expression.within_of_evaluateAll (elements : List Expression) {store store' : Store}
    {values : List Value} (hlists : ∀ inner ∈ Expression.listsAll elements, inner.length ≤ bound)
    (hstore : store.Within bound)
    (h : Expression.evaluateAll scope store elements = .ok (values, store')) :
    store'.Within bound ∧ values.length = elements.length := by
  cases elements with
  | nil =>
    rw [Expression.evaluateAll] at h
    obtain ⟨rfl, rfl⟩ := Prod.mk.inj (Except.ok.inj h)
    exact ⟨hstore, rfl⟩
  | cons e es =>
    rw [Expression.listsAll] at hlists
    obtain ⟨hfirst, hothers⟩ := List.forall_mem_append.1 hlists
    obtain ⟨v, middle, vs, hvalue, hvalues, rfl⟩ := Expression.exists_of_evaluateAll_cons h
    have hmiddle := Expression.within_of_evaluate e hfirst hstore hvalue
    obtain ⟨hlast, hlength⟩ := Expression.within_of_evaluateAll es hothers hmiddle hvalues
    exact ⟨hlast, congrArg (· + 1) hlength⟩

end

theorem Action.within_of_effect {a : Action} {store store' : Store} {effect : Effect}
    (hlists : ∀ elements ∈ a.lists, elements.length ≤ bound) (hstore : store.Within bound)
    (h : a.effect scope store = .ok (effect, store')) : store'.Within bound := by
  rcases Action.cases_of_effect h with ⟨rfl, -⟩ | ⟨e, v, he, hvalue, -⟩
  · exact hstore
  · have hsub : e.lists ⊆ a.lists := Node.lists_subset (n := .clause ⟨.action a, ⟨0, 0⟩⟩) he
    exact e.within_of_evaluate (fun elements hin => hlists elements (hsub hin)) hstore hvalue

/-- On the way to a part of a node, no list gets beyond the bound. -/
theorem Node.Evaluates.within {store store' : Store} {n : Node} {part : Expression}
    (h : n.Evaluates scope store store' part)
    (hlists : ∀ elements ∈ n.lists, elements.length ≤ bound) (hstore : store.Within bound) :
    (∀ elements ∈ part.lists, elements.length ≤ bound) ∧ store'.Within bound := by
  induction h with
  | itself => exact ⟨hlists, hstore⟩
  | @operand store middle store' n front values e part more hchildren hvalues _ ih =>
    have hin : ∀ c ∈ n.children, ∀ elements ∈ c.lists, elements.length ≤ bound :=
      fun c hc elements helements => hlists elements (Node.lists_subset hc helements)
    rw [hchildren] at hin
    obtain ⟨hfront, hback⟩ := List.forall_mem_append.1 hin
    have hvaluesIn : ∀ inner ∈ Expression.listsAll front, inner.length ≤ bound := by
      intro inner hinner
      rw [Expression.listsAll_eq_flatMap] at hinner
      obtain ⟨other, hother, hinner⟩ := List.mem_flatMap.1 hinner
      exact hfront _ (List.mem_map_of_mem hother) inner hinner
    obtain ⟨hmiddle, -⟩ := Expression.within_of_evaluateAll front hvaluesIn hstore hvalues
    exact ih (hback _ List.mem_cons_self) hmiddle
  | @term store store' c front more t part hterms _ _ ih =>
    have ht : Node.term t ∈ (Node.condition c).children := by
      refine List.mem_map_of_mem ?_
      rw [hterms]
      exact List.mem_append_right _ List.mem_cons_self
    exact ih (fun elements hin => hlists elements (Node.lists_subset ht hin)) hstore
  | branch _ ih | assigned _ ih | appended _ _ _ ih => exact ih hlists hstore

/-- The length of a list with no more items than the largest integer is their number. -/
theorem Expression.evaluate_len_eq_ok_iff {argument : Expression} {span : Span}
    {store after : Store} {v : Value}
    (h : ∀ handle, argument.evaluate scope store = .ok (.list handle, after) →
      (after.items handle).size ≤ maxInteger) :
    (Expression.len argument span).evaluate scope store = .ok (v, after) ↔
      ∃ handle, argument.evaluate scope store = .ok (.list handle, after) ∧
        v = .integer (after.items handle).size := by
  constructor
  · intro hlen
    obtain ⟨handle, hvalue, rfl⟩ := Expression.exists_of_evaluate_len hlen
    rw [Nat.min_eq_left (h handle hvalue)]
    exact ⟨handle, hvalue, rfl⟩
  · rintro ⟨handle, hvalue, rfl⟩
    rw [Expression.evaluate, hvalue]
    dsimp only
    rw [Nat.min_eq_left (h handle hvalue)]

end Evaluate

/-! ## Steps -/

theorem State.size_items_commit_le (st : State) (found : Store) (effect : Effect)
    (handle : Handle) :
    ((st.commit found effect).store.items handle).size ≤ (found.items handle).size + 1 := by
  cases effect with
  | define | print => exact Nat.le_succ _
  | append target v => exact found.size_items_append_le target v handle

theorem State.steps_counted_commit (st : State) (found : Store) (effect : Effect) :
    (st.counted.commit found effect).steps = st.steps + 1 :=
  st.counted.steps_commit found effect

/-- The elements of each list in brackets that the task may come to. -/
def Task.lists : Task → List (List Expression)
  | .statement s => s.lists
  | .rounds body _ => body.toList.flatMap fun s => s.action.lists

namespace Point

/-- The elements of each list in brackets that may still be made. -/
def lists (p : Point) : List (List Expression) := p.tasks.flatMap Task.lists

variable {limit bound : Nat} {p q : Point} {handle : Handle}

theorem Step.lists_subset (h : Step limit p q) : q.lists ⊆ p.lists := by
  cases h with
  | act | leave => exact List.subset_append_right _ _
  | actFails | headerFails | refuse => exact List.nil_subset _
  | @header b st tasks rounds hcount h =>
    have hbody : Task.lists (.rounds b.body rounds) ⊆ Task.lists (.statement (.block b)) :=
      List.subset_append_right _ _
    refine List.append_subset.2 ⟨?_, List.subset_append_right _ _⟩
    exact List.Subset.trans hbody (List.subset_append_left _ _)
  | @enter body round rounds st tasks =>
    have hbody : (body.toList.map fun s => Task.statement (.simple s)).flatMap Task.lists =
        Task.lists (.rounds body rounds) := List.flatMap_map _ _ _
    change List.flatMap Task.lists (_ ++ _) ⊆ _
    rw [List.flatMap_append, hbody]
    exact List.append_subset.2 ⟨List.subset_append_left _ _, List.Subset.refl _⟩

theorem Step.steps_le (h : Step limit p q) : p.state.steps ≤ q.state.steps := by
  cases h with
  | @act s st tasks effect store hcount h =>
    exact Nat.le_trans (Nat.le_succ _) (Nat.le_of_eq (st.steps_counted_commit store effect).symm)
  | @enter body round rounds st tasks => exact Nat.le_of_eq (st.steps_enter round).symm
  | actFails | header | headerFails | refuse => exact Nat.le_succ _
  | leave => exact Nat.le_refl _

/-- Only a simple statement that succeeds changes the store. -/
theorem Step.store_cases (h : Step limit p q) : q.state.store = p.state.store ∨
    ∃ s tasks effect found, p.tasks = .statement (.simple s) :: tasks ∧
      s.action.effect p.state.scope p.state.store = .ok (effect, found) ∧
      q.state = p.state.counted.commit found effect := by
  cases h with
  | act hcount h => exact .inr ⟨_, _, _, _, rfl, h, rfl⟩
  | @enter body round rounds st tasks => cases round <;> exact .inl rfl
  | actFails | header | headerFails | refuse | leave => exact .inl rfl

theorem Step.within (h : Step limit p q) (hlists : ∀ elements ∈ p.lists, elements.length ≤ bound)
    (hp : p.state.store.Within (bound + p.state.steps)) :
    q.state.store.Within (bound + q.state.steps) := by
  rcases h.store_cases with hsame | ⟨s, tasks, effect, found, htasks, heffect, hq⟩
  · rw [hsame]
    exact hp.mono (Nat.add_le_add_left h.steps_le bound)
  · have haction : ∀ elements ∈ s.action.lists, elements.length ≤ bound + p.state.steps := by
      intro elements hin
      refine Nat.le_add_right_of_le (hlists elements ?_)
      unfold lists
      rw [htasks]
      exact List.mem_append_left _ hin
    have hfound := Action.within_of_effect haction hp heffect
    intro handle
    have hcommit := p.state.counted.size_items_commit_le found effect handle
    have hbound := hfound handle
    rw [hq, State.steps_counted_commit]
    omega

theorem Step.size_items_le (h : Step limit p q) (hlt : handle < p.state.store.size) :
    (q.state.store.items handle).size ≤
      (p.state.store.items handle).size + (q.state.steps - p.state.steps) := by
  rcases h.store_cases with hsame | ⟨s, tasks, effect, found, -, heffect, hq⟩
  · rw [hsame]
    exact Nat.le_add_right _ _
  · have hext := (Action.found_of_effect heffect).extends_store
    have hcommit := p.state.counted.size_items_commit_le found effect handle
    rw [hext.items_eq handle hlt] at hcommit
    rw [hq, State.steps_counted_commit]
    omega

/-! ## Runs -/

theorem Reaches.lists_subset (h : Reaches limit p q) : q.lists ⊆ p.lists := by
  induction h with
  | refl => exact List.Subset.refl _
  | tail _ hstep ih => exact List.Subset.trans hstep.lists_subset ih

theorem Reaches.steps_le (h : Reaches limit p q) : p.state.steps ≤ q.state.steps := by
  induction h with
  | refl => exact Nat.le_refl _
  | tail _ hstep ih => exact Nat.le_trans ih hstep.steps_le

theorem Reaches.within (h : Reaches limit p q)
    (hlists : ∀ elements ∈ p.lists, elements.length ≤ bound)
    (hp : p.state.store.Within (bound + p.state.steps)) :
    q.state.store.Within (bound + q.state.steps) := by
  induction h with
  | refl => exact hp
  | tail hreach hstep ih =>
    have hsub := Reaches.lists_subset hreach
    exact hstep.within (fun elements hin => hlists elements (hsub hin)) ih

theorem Reaches.size_items_le (h : Reaches limit p q) (hlt : handle < p.state.store.size) :
    (q.state.store.items handle).size ≤
      (p.state.store.items handle).size + (q.state.steps - p.state.steps) := by
  induction h with
  | refl => exact Nat.le_add_right _ _
  | tail hreach hstep ih =>
    have hsize := (Reaches.grows hreach).store.size_le
    have hlast := hstep.size_items_le (Nat.lt_of_lt_of_le hlt hsize)
    have hbefore := Reaches.steps_le hreach
    have hafter := hstep.steps_le
    omega

end Point

/-! ## Whole spells -/

theorem Program.lists_start (p : Program) : p.start.lists = p.lists := List.flatMap_map _ _ _

theorem Statement.lists_clause_subset (s : Statement) :
    (Node.clause s.clause).lists ⊆ s.lists := by
  cases s with
  | simple s => exact List.Subset.refl _
  | block b => exact List.subset_append_left _ _

/-- At every point of a run, no list has more items than the longest list in brackets has elements
and steps have been counted, and from there to a later point a list gets at most one item for each
step.  The bound also holds inside the next statement, wherever an expression is evaluated.  If the
longest list in brackets and the limit together do not exceed the largest integer, each length that
is asked for is the number of items of its list. -/
theorem Program.lengths_exact {limit : Nat} {p : Program} {q : Point}
    (h : p.start.Reaches limit q) :
    q.state.store.Within (p.longestList + q.state.steps) ∧
    (∀ r, q.Reaches limit r → ∀ handle < q.state.store.size, (r.state.store.items handle).size ≤
      (q.state.store.items handle).size + (r.state.steps - q.state.steps)) ∧
    ∀ s tasks, q.tasks = .statement s :: tasks → q.state.steps < limit →
      ∀ before part, (Node.clause s.clause).Evaluates q.state.scope q.state.store before part →
        before.Within (p.longestList + q.state.steps) ∧
        (p.longestList + limit ≤ maxInteger → ∀ argument span, part = .len argument span →
          ∀ v after, part.evaluate q.state.scope before = .ok (v, after) ↔
            ∃ handle, argument.evaluate q.state.scope before = .ok (.list handle, after) ∧
              v = .integer (after.items handle).size) := by
  have hlists : ∀ elements ∈ p.start.lists, elements.length ≤ p.longestList := by
    intro elements hin
    rw [lists_start] at hin
    exact length_le_longestList hin
  have hwithin := h.within hlists (Store.within_empty _)
  refine ⟨hwithin, fun r hr handle hlt => hr.size_items_le hlt, ?_⟩
  intro s tasks htasks hlimit before part hpart
  have hclause : ∀ elements ∈ (Node.clause s.clause).lists,
      elements.length ≤ p.longestList + q.state.steps := by
    intro elements hin
    refine Nat.le_add_right_of_le (hlists elements (h.lists_subset ?_))
    unfold Point.lists
    rw [htasks]
    exact List.mem_append_left _ (s.lists_clause_subset hin)
  obtain ⟨hinner, hbefore⟩ := hpart.within hclause hwithin
  refine ⟨hbefore, ?_⟩
  rintro hbound argument span rfl v after
  apply Expression.evaluate_len_eq_ok_iff
  intro handle hvalue
  have hafter := argument.within_of_evaluate hinner hbefore hvalue handle
  omega

/-- A loop doubles the list that it goes through, and behind a new list the length of the
doubled one is asked for. -/
theorem Program.lengths_exact_doubled : ∃ (p : Program) (q : Point) (s : Statement)
    (before : Store) (argument : Expression) (span : Span), p.start.Reaches 6 q ∧
      p.longestList = 2 ∧ q.tasks = [.statement s] ∧ q.state.steps = 4 ∧
      q.state.store.items 0 = #[.integer 1, .integer 2, .integer 1, .integer 2] ∧
      (Node.clause s.clause).Evaluates q.state.scope q.state.store before (.len argument span) ∧
      q.state.store.size < before.size ∧ before.Within 6 ∧
      (Expression.len argument span).evaluate q.state.scope before = .ok (.integer 4, before) := by
  let xs (start : Nat) : Identifier := ⟨"xs", ⟨start, start + 2⟩⟩
  let x (start : Nat) : Identifier := ⟨"x", ⟨start, start + 1⟩⟩
  let made : Simple :=
    ⟨.assignment (xs 0) (.list [.integer 1 ⟨6, 7⟩, .integer 2 ⟨9, 10⟩] ⟨5, 11⟩), 1, ⟨0, 11⟩⟩
  let copied : Simple :=
    ⟨.methodCall (xs 29) ⟨"append", ⟨32, 38⟩⟩ (.identifier (x 39)), 3, ⟨29, 41⟩⟩
  let loop : Block := ⟨.loop (x 16) (xs 21), 2, ⟨12, 24⟩, some copied⟩
  let front : List Expression := [.list [] ⟨48, 50⟩]
  let asked : Expression := .len (.identifier (xs 56)) ⟨52, 59⟩
  let last : Simple :=
    ⟨.assignment ⟨"ys", ⟨42, 44⟩⟩ (.list (front ++ [asked]) ⟨47, 60⟩), 4, ⟨42, 60⟩⟩
  let p : Program := ⟨[.simple made, .block loop, .simple last], ⟨0, 60⟩⟩
  let st : State := (Statement.runAll 6 [.simple made, .block loop] .initial).state
  let q : Point := .going st [.statement (.simple last)]
  have hreaches : p.start.Reaches 6 q :=
    Statement.reaches_runAll 6 [.simple made, .block loop] .initial [.statement (.simple last)]
  have hfront : Expression.evaluateAll st.scope st.store front =
      .ok ([.list 1], (st.store.allocate []).2) := rfl
  have hpart : (Node.clause last.clause).Evaluates st.scope st.store (st.store.allocate []).2
      asked := .assigned (.operand rfl hfront .itself)
  obtain ⟨-, -, hparts⟩ := lengths_exact hreaches
  obtain ⟨hbefore, hlen⟩ := hparts (.simple last) [] rfl (by decide) _ asked hpart
  exact ⟨p, q, .simple last, _, _, _, hreaches, by decide, rfl, by decide, by decide, hpart,
    by decide, hbefore, (hlen (by decide) _ _ rfl _ _).2 ⟨0, rfl, rfl⟩⟩

end Spellbook
