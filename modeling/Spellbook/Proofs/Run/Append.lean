import Spellbook.Proofs.Run.Growth
import Spellbook.Proofs.Store.Reach

/-!
# Putting a value into a list

A call that puts a value behind the items of a list changes this list and no other, and whatever
does not reach the list has the same text as before and equals the same values.  The lists that
come into being on the way are new: a list in brackets is reached by nothing but itself when it
is made, wherever in a statement the brackets stand (`Program.append_frame`).
-/

namespace Spellbook

variable {scope : Scope} {store store' store'' : Store} {limit : Nat}

/-! ## The parts of a statement -/

/-- Carrying out the node over the first store comes to the evaluation of the expression over the
second: what stands in front has been evaluated, and the terms in front are true. -/
inductive Node.Evaluates (scope : Scope) : Store → Node → Store → Expression → Prop
  | itself {store : Store} {e : Expression} : Evaluates scope store (.expression e) store e
  | operand {store store' store'' : Store} {n : Node} {front : List Expression}
    {values : List Value} {e part : Expression} {more : List Node} :
    n.children = front.map .expression ++ .expression e :: more →
    Expression.evaluateAll scope store front = .ok (values, store') →
    Evaluates scope store' (.expression e) store'' part → Evaluates scope store n store'' part
  | term {store store' : Store} {c : Condition} {front more : List Term} {t : Term}
    {part : Expression} : c.terms = front ++ t :: more →
    Term.evaluateAll scope store front = .ok true →
    Evaluates scope store (.term t) store' part → Evaluates scope store (.condition c) store' part
  | branch {store store' : Store} {c : Condition} {span : Span} {part : Expression} :
    Evaluates scope store (.condition c) store' part →
    Evaluates scope store (.clause ⟨.header (.branch c), span⟩) store' part
  | assigned {store store' : Store} {target : Identifier} {value part : Expression} {span : Span} :
    Evaluates scope store (.expression value) store' part →
    Evaluates scope store (.clause ⟨.action (.assignment target value), span⟩) store' part
  | appended {store store' : Store} {receiver method : Identifier} {target : Handle}
    {argument part : Expression} {span : Span} : receiver.value scope = .ok (.list target) →
    method.name = "append".toList → Evaluates scope store (.expression argument) store' part →
    Evaluates scope store (.clause ⟨.action (.methodCall receiver method argument), span⟩)
      store' part

/-- On the way to a part the store gets new lists only, and stays sound. -/
theorem Node.Evaluates.extends_sound {n : Node} {part : Expression}
    (h : n.Evaluates scope store store' part) (hscope : scope.IsIn store) (hs : store.Sound) :
    store.Extends store' ∧ store'.Sound := by
  induction h with
  | itself => exact ⟨.refl _, hs⟩
  | operand _ hvalues _ ih =>
    have hfound := Expression.found_of_evaluateAll _ hvalues
    obtain ⟨hs', -⟩ := hfound.sound hscope hs
    obtain ⟨hext, hs''⟩ := ih (hscope.mono hfound.extends_store.size_le) hs'
    exact ⟨hfound.extends_store.trans hext, hs''⟩
  | term _ _ _ ih | branch _ ih | assigned _ ih | appended _ _ _ ih => exact ih hscope hs

/-- A list in brackets is a new list, and nothing but itself reaches it. -/
theorem Expression.fresh_of_evaluate {elements : List Expression} {span : Span} {v : Value}
    (hscope : scope.IsIn store) (hs : store.Sound)
    (h : (Expression.list elements span).evaluate scope store = .ok (v, store')) :
    ∃ handle, v = .list handle ∧ store.size ≤ handle ∧
      ∀ w : Value, w.Reaches store' handle → w = .list handle := by
  obtain ⟨items, middle, hitems, rfl, rfl⟩ := Expression.exists_of_evaluate_list h
  have hfound := Expression.found_of_evaluateAll elements hitems
  obtain ⟨hmiddle, hvalues⟩ := hfound.sound hscope hs
  refine ⟨middle.size, rfl, hfound.extends_store.size_le, ?_⟩
  intro w hw
  exact Store.eq_of_reaches_allocate hmiddle hvalues hw

/-! ## The call -/

/-- A simple statement that succeeds has had its effect. -/
theorem Simple.exists_effect_of_run {s : Simple} {st st' : State}
    (h : s.run limit st = ⟨st', none⟩) : ∃ effect store,
      s.action.effect st.scope st.store = .ok (effect, store) ∧
      st' = st.counted.commit store effect := by
  have hstep := s.step_run limit st []
  rw [h] at hstep
  cases hstep with
  | act _ heffect => exact ⟨_, _, heffect, rfl⟩

/-- The items of the list that the name is bound to. -/
def State.listAt? (st : State) (name : Text) : Option (Array Value) :=
  ((st.scope.find? name).bind Value.handle?).map st.store.items

/-- The second state is the first with the value behind the items of the list: of the lists that
were there no other has changed, each name for the list sees the new items, and values that do
not reach the list have the same texts and equal each other as before. -/
structure State.Appends (st : State) (target : Handle) (v : Value) (st' : State) : Prop where
  target_lt : target < st.store.size
  items_target : st'.store.items target = (st.store.items target).push v
  items_eq_iff : ∀ other < st.store.size,
    st'.store.items other = st.store.items other ↔ other ≠ target
  scope_eq : st'.scope = st.scope
  printed_eq : st'.printed = st.printed
  listAt?_eq : ∀ name, st.scope.find? name = some (.list target) →
    st'.listAt? name = some ((st.store.items target).push v)
  frame : ∀ x y : Value, x.IsIn st.store → y.IsIn st.store → ¬x.Reaches st.store target →
    ¬y.Reaches st.store target →
    st'.store.render x = st.store.render x ∧ st'.store.equal x y = st.store.equal x y

theorem State.appends_commit {st : State} {target : Handle} {v : Value} {found : Store}
    (hsound : st.store.Sound) (htarget : target < st.store.size) (hext : st.store.Extends found) :
    st.Appends target v (st.counted.commit found (.append target v)) := by
  have htarget' : target < found.size := Nat.lt_of_lt_of_le htarget hext.size_le
  have hitems : (found.append target v).items target = (st.store.items target).push v := by
    rw [Store.items_append, if_pos ⟨rfl, htarget'⟩, hext.items_eq target htarget]
  have hagree {x : Value} (hx : x.IsIn st.store) (hreach : ¬x.Reaches st.store target) :
      st.store.AgreeOn (found.append target v) x := by
    have hfound := hext.agreeOn hsound hx
    exact hfound.trans (Store.agreeOn_append v fun h => hreach (hfound.reaches h))
  refine ⟨htarget, hitems, ?_, rfl, rfl, ?_, ?_⟩
  · intro other hother
    change (found.append target v).items other = st.store.items other ↔ other ≠ target
    constructor
    · rintro heq rfl
      have hsize := congrArg Array.size (hitems.symm.trans heq)
      rw [Array.size_push] at hsize
      omega
    · intro hne
      rw [Store.items_append, if_neg fun hand => hne hand.1, hext.items_eq other hother]
  · intro name hname
    unfold State.listAt?
    change ((st.scope.find? name).bind Value.handle?).map (found.append target v).items = _
    rw [hname]
    exact congrArg some hitems
  · intro x y hx hy hxreach hyreach
    exact ⟨(hagree hx hxreach).render_eq, (hagree hx hxreach).equal_eq (hagree hy hyreach)⟩

/-! ## Whole runs -/

/-- Whatever a run has done before: a call that puts a value into a list and succeeds changes the
list that the receiver is bound to and no other that was there, and what does not reach the list
is as before.  The value is the one that the argument had before the call, and the lists in it
are as they were made.  A list in brackets, wherever it stands in a statement that is carried
out, is a list that was not there before, and nothing but itself reaches it. -/
theorem Program.append_frame {p : Program} {q : Point} (h : p.start.Reaches limit q) :
    (∀ (s : Simple) (receiver method : Identifier) (argument : Expression) (st : State),
      s.action = .methodCall receiver method argument → s.run limit q.state = ⟨st, none⟩ →
      ∃ target v found, q.state.scope.find? receiver.name = some (.list target) ∧
        argument.evaluate q.state.scope q.state.store = .ok (v, found) ∧
        (∀ other ≠ target, st.store.items other = found.items other) ∧
        q.state.Appends target v st) ∧
    ∀ (n : Node) (elements : List Expression) (span : Span) (v : Value) (before after : Store),
      n.Evaluates q.state.scope q.state.store before (.list elements span) →
      (Expression.list elements span).evaluate q.state.scope before = .ok (v, after) →
      ∃ handle, v = .list handle ∧ before.size ≤ handle ∧ q.state.store.size ≤ handle ∧
        ∀ w : Value, w.Reaches after handle → w = .list handle := by
  obtain ⟨hscope, hstore⟩ := (h.sound p.sound_start).state
  constructor
  · intro s receiver method argument st haction hrun
    obtain ⟨effect, found, heffect, rfl⟩ := Simple.exists_effect_of_run hrun
    rw [haction] at heffect
    obtain ⟨target, v, hreceiver, hvalue, rfl⟩ := Action.exists_of_effect_methodCall heffect
    have hext := (argument.found_of_evaluate hvalue).extends_store
    have htarget : target < q.state.store.size := hscope.find? hreceiver
    refine ⟨target, v, found, hreceiver, hvalue, ?_, State.appends_commit hstore htarget hext⟩
    intro other hother
    change (found.append target v).items other = found.items other
    rw [Store.items_append, if_neg fun hand => hother hand.1]
  · intro n elements span v before after hpart hlist
    obtain ⟨hext, hbefore⟩ := hpart.extends_sound hscope hstore
    obtain ⟨handle, hv, hfresh, hreach⟩ :=
      Expression.fresh_of_evaluate (hscope.mono hext.size_le) hbefore hlist
    exact ⟨handle, hv, hfresh, hext.size_le.trans hfresh, hreach⟩

/-- A list with two names gets a new list that holds it, and a third name is for another list. -/
theorem Program.append_frame_alias : ∃ (p : Program) (q : Point) (s : Simple) (st : State),
    p.start.Reaches 10 q ∧ s.run 10 q.state = ⟨st, none⟩ ∧
      q.state.Appends 0 (.list 2) st ∧
      q.state.scope.find? "ys" = some (.list 0) ∧
      st.listAt? "ys" = some #[.integer 1, .list 2] ∧ st.store.items 2 = #[.list 0] ∧
      q.state.scope.find? "zs" = some (.list 1) ∧
      st.store.render (.list 1) = q.state.store.render (.list 1) ∧
      ∀ w : Value, w.Reaches (q.state.store.allocate [.list 0]).2 2 → w = .list 2 := by
  let xs (start : Nat) : Identifier := ⟨"xs", ⟨start, start + 2⟩⟩
  let first : Simple := ⟨.assignment (xs 0) (.list [.integer 1 ⟨6, 7⟩] ⟨5, 8⟩), 1, ⟨0, 8⟩⟩
  let second : Simple := ⟨.assignment ⟨"ys", ⟨9, 11⟩⟩ (.identifier (xs 14)), 2, ⟨9, 16⟩⟩
  let third : Simple :=
    ⟨.assignment ⟨"zs", ⟨17, 19⟩⟩ (.list [.integer 2 ⟨23, 24⟩] ⟨22, 25⟩), 3, ⟨17, 25⟩⟩
  let method : Identifier := ⟨"append", ⟨29, 35⟩⟩
  let call : Simple :=
    ⟨.methodCall (xs 26) method (.list [.identifier (xs 37)] ⟨36, 40⟩), 4, ⟨26, 41⟩⟩
  let p : Program := ⟨[.simple first, .simple second, .simple third, .simple call], ⟨0, 41⟩⟩
  let one : Store := (Store.empty.allocate [.integer 1]).2
  let two : Store := (one.allocate [.integer 2]).2
  let st₁ : State := State.initial.counted.commit one (.define "xs" (.list 0))
  let st₂ : State := st₁.counted.commit one (.define "ys" (.list 0))
  let st₃ : State := st₂.counted.commit two (.define "zs" (.list 1))
  let q : Point := .going st₃ [.statement (.simple call)]
  have hreaches : p.start.Reaches 10 q :=
    .head (.act (by decide) rfl) (.head (.act (by decide) rfl) (.single (.act (by decide) rfl)))
  obtain ⟨hcall, hfresh⟩ := append_frame hreaches
  obtain ⟨target, v, found, hreceiver, hvalue, hother, happends⟩ :=
    hcall call _ _ _ (call.run 10 st₃).state rfl rfl
  obtain rfl : 0 = target := Value.list.inj (Option.some.inj hreceiver)
  obtain ⟨rfl, rfl⟩ := Prod.mk.inj (Except.ok.inj hvalue)
  have hzs : ¬(Value.list 1).Reaches two 0 := by
    rintro (_ | ⟨hmem, hreach⟩)
    obtain rfl := List.mem_singleton.1 hmem
    cases hreach
  have hin : (Value.list 1).IsIn two := Nat.one_lt_two
  obtain ⟨hrender, -⟩ := happends.frame (.list 1) (.list 1) hin hin hzs hzs
  -- The list in brackets is evaluated in the state before the call.
  have hpart : (Node.clause ⟨.action call.action, call.span⟩).Evaluates st₃.scope two two
      (.list [.identifier (xs 37)] ⟨36, 40⟩) :=
    .appended rfl rfl .itself
  obtain ⟨handle, hlist, -, -, hreach⟩ := hfresh _ _ _ _ _ _ hpart rfl
  obtain rfl : 2 = handle := Value.list.inj hlist
  exact ⟨p, q, call, _, hreaches, rfl, happends, rfl, happends.listAt?_eq "ys" rfl,
    hother 2 (by decide), rfl, hrender, hreach⟩

end Spellbook
