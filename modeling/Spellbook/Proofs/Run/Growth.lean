import Spellbook.Proofs.Run.Causes
import Spellbook.Proofs.Run.Machine
import Spellbook.Proofs.Run.StepLimit
import Spellbook.Proofs.Store.Growth

/-!
# States that grow

From each point of a run to the next, names stay bound, lists keep their items in front, and what
was printed stays printed.  No value ever points out of the store.  So a name that a run finds
undefined was not bound by anything that the run did before (`Program.state_grows`).
-/

namespace Spellbook

/-! ## Scopes -/

namespace Scope

variable {s : Scope} {name : Text} {v : Value} {store store' : Store}

theorem mem_bind {binding : Text × Value} {bindings : List (Text × Value)}
    (h : binding ∈ bind name v bindings) : binding = (name, v) ∨ binding ∈ bindings := by
  induction bindings with
  | nil => exact .inl (List.mem_singleton.1 h)
  | cons entry rest ih =>
    unfold bind at h
    split at h
    · rcases List.mem_cons.1 h with rfl | h
      · exact .inl rfl
      · exact .inr (List.mem_cons_of_mem _ h)
    · rcases List.mem_cons.1 h with rfl | h
      · exact .inr List.mem_cons_self
      · exact (ih h).imp_right (List.mem_cons_of_mem _)

theorem mem_of_find? (h : s.find? name = some v) : (name, v) ∈ s.bindings := by
  obtain ⟨front, rest, hbindings, -⟩ := List.lookup_eq_some_iff.1 h
  rw [hbindings]
  exact List.mem_append_right front List.mem_cons_self

/-- Every list that a name is bound to is a list of the store. -/
def IsIn (store : Store) (s : Scope) : Prop := ∀ binding ∈ s.bindings, binding.2.IsIn store

theorem isIn_empty (store : Store) : empty.IsIn store := fun _ h => absurd h List.not_mem_nil

theorem IsIn.mono (h : s.IsIn store) (hle : store.size ≤ store'.size) : s.IsIn store' :=
  fun binding hbinding => (h binding hbinding).mono hle

theorem IsIn.find? (h : s.IsIn store) (hfind : s.find? name = some v) : v.IsIn store :=
  h (name, v) (mem_of_find? hfind)

theorem IsIn.define (h : s.IsIn store) (hv : v.IsIn store) : (s.define name v).IsIn store := by
  intro binding hbinding
  rcases mem_bind hbinding with rfl | hbinding
  · exact hv
  · exact h binding hbinding

/-- The name is bound. -/
def Binds (s : Scope) (name : Text) : Prop := (s.find? name).isSome = true

theorem binds_define (s : Scope) (name : Text) (v : Value) : (s.define name v).Binds name := by
  unfold Binds
  rw [find?_define, if_pos rfl]
  rfl

theorem Binds.define {other : Text} (h : s.Binds other) : (s.define name v).Binds other := by
  unfold Binds at h ⊢
  rw [find?_define]
  split
  · rfl
  · exact h

end Scope

/-! ## Evaluation -/

/-- The values were found over the first store, and are values of the second: that one has got new
lists, and points nowhere else if the first does not. -/
structure Found (scope : Scope) (s : Store) (values : List Value) (s' : Store) : Prop where
  extends_store : s.Extends s'
  sound : scope.IsIn s → s.Sound → s'.Sound ∧ ∀ v ∈ values, v.IsIn s'

namespace Found

variable {scope : Scope} {s s' s'' : Store} {values more : List Value} {v : Value}

theorem here (h : scope.IsIn s → ∀ v ∈ values, v.IsIn s) : Found scope s values s :=
  ⟨.refl s, fun hscope hs => ⟨hs, h hscope⟩⟩

theorem replace (h : Found scope s values s')
    (hmore : (∀ v ∈ values, v.IsIn s') → ∀ v ∈ more, v.IsIn s') : Found scope s more s' := by
  refine ⟨h.extends_store, ?_⟩
  intro hscope hs
  obtain ⟨hs', hvalues⟩ := h.sound hscope hs
  exact ⟨hs', hmore hvalues⟩

theorem cons (h : Found scope s [v] s') (hmore : Found scope s' more s'') :
    Found scope s (v :: more) s'' := by
  refine ⟨h.extends_store.trans hmore.extends_store, ?_⟩
  intro hscope hs
  obtain ⟨hs', hv⟩ := h.sound hscope hs
  obtain ⟨hs'', hmore'⟩ := hmore.sound (hscope.mono h.extends_store.size_le) hs'
  have hv' := (hv v List.mem_cons_self).mono hmore.extends_store.size_le
  exact ⟨hs'', List.forall_mem_cons.2 ⟨hv', hmore'⟩⟩

theorem allocate (h : Found scope s values s') :
    Found scope s [.list (s'.allocate values).1] (s'.allocate values).2 := by
  refine ⟨h.extends_store.trans (s'.extends_allocate values), ?_⟩
  intro hscope hs
  obtain ⟨hs', hvalues⟩ := h.sound hscope hs
  refine ⟨hs'.allocate hvalues, List.forall_mem_singleton.2 ?_⟩
  change s'.size < (s'.allocate values).2.size
  rw [Store.size_allocate]
  omega

end Found

section Evaluate

variable {scope : Scope} {store : Store}

theorem Identifier.isIn_of_value {i : Identifier} {v : Value} (hscope : scope.IsIn store)
    (h : i.value scope = .ok v) : v.IsIn store := by
  unfold Identifier.value at h
  split at h
  · next w hfind =>
    obtain rfl := Except.ok.inj h
    exact hscope.find? hfind
  · contradiction

/-- A list in brackets that has a value is a new list of the values of its elements. -/
theorem Expression.exists_of_evaluate_list {elements : List Expression} {span : Span}
    {store' : Store} {v : Value}
    (h : (Expression.list elements span).evaluate scope store = .ok (v, store')) :
    ∃ items middle, Expression.evaluateAll scope store elements = .ok (items, middle) ∧
      v = .list (middle.allocate items).1 ∧ store' = (middle.allocate items).2 := by
  rw [Expression.evaluate] at h
  rcases hitems : Expression.evaluateAll scope store elements with blame | ⟨items, middle⟩
  · rw [hitems] at h
    contradiction
  · rw [hitems] at h
    obtain ⟨rfl, rfl⟩ := Prod.mk.inj (Except.ok.inj h)
    exact ⟨items, middle, rfl, rfl, rfl⟩

/-- What has a length is a list. -/
theorem Expression.exists_of_evaluate_len {argument : Expression} {span : Span} {store' : Store}
    {v : Value} (h : (Expression.len argument span).evaluate scope store = .ok (v, store')) :
    ∃ handle, argument.evaluate scope store = .ok (.list handle, store') ∧
      v = .integer (min (store'.items handle).size maxInteger : Nat) := by
  rw [Expression.evaluate] at h
  rcases hvalue : argument.evaluate scope store with blame | ⟨w, middle⟩
  · rw [hvalue] at h
    contradiction
  · rw [hvalue] at h
    cases w with
    | list handle =>
      obtain ⟨rfl, rfl⟩ := Prod.mk.inj (Except.ok.inj h)
      exact ⟨handle, rfl, rfl⟩
    | string | integer | boolean => contradiction

theorem Expression.exists_of_evaluateAll_cons {e : Expression} {es : List Expression}
    {store' : Store} {values : List Value}
    (h : Expression.evaluateAll scope store (e :: es) = .ok (values, store')) :
    ∃ v middle vs, e.evaluate scope store = .ok (v, middle) ∧
      Expression.evaluateAll scope middle es = .ok (vs, store') ∧ values = v :: vs := by
  rw [Expression.evaluateAll] at h
  rcases hvalue : e.evaluate scope store with blame | ⟨v, middle⟩
  · rw [hvalue] at h
    contradiction
  · rw [hvalue] at h
    dsimp only at h
    rcases hvalues : Expression.evaluateAll scope middle es with blame | ⟨vs, last⟩
    · rw [hvalues] at h
      contradiction
    · rw [hvalues] at h
      obtain ⟨rfl, rfl⟩ := Prod.mk.inj (Except.ok.inj h)
      exact ⟨v, middle, vs, rfl, hvalues, rfl⟩

mutual

theorem Expression.found_of_evaluate (e : Expression) {store store' : Store} {v : Value}
    (h : e.evaluate scope store = .ok (v, store')) : Found scope store [v] store' := by
  cases e with
  | identifier i =>
    rw [Expression.evaluate] at h
    obtain ⟨w, hvalue, hpair⟩ := exists_of_map_eq_ok h
    obtain ⟨rfl, rfl⟩ := Prod.mk.inj hpair
    apply Found.here
    intro hscope
    exact List.forall_mem_singleton.2 (Identifier.isIn_of_value hscope hvalue)
  | boolean | integer | string =>
    rw [Expression.evaluate] at h
    obtain ⟨rfl, rfl⟩ := Prod.mk.inj (Except.ok.inj h)
    exact .here fun _ => List.forall_mem_singleton.2 trivial
  | list elements span =>
    obtain ⟨items, middle, hitems, rfl, rfl⟩ := Expression.exists_of_evaluate_list h
    exact (Expression.found_of_evaluateAll elements hitems).allocate
  | len argument span =>
    obtain ⟨handle, hvalue, rfl⟩ := Expression.exists_of_evaluate_len h
    have hargument := Expression.found_of_evaluate argument hvalue
    exact hargument.replace fun _ => List.forall_mem_singleton.2 trivial

theorem Expression.found_of_evaluateAll (elements : List Expression) {store store' : Store}
    {values : List Value} (h : Expression.evaluateAll scope store elements = .ok (values, store')) :
    Found scope store values store' := by
  cases elements with
  | nil =>
    rw [Expression.evaluateAll] at h
    obtain ⟨rfl, rfl⟩ := Prod.mk.inj (Except.ok.inj h)
    exact .here fun _ _ hv => absurd hv List.not_mem_nil
  | cons e es =>
    obtain ⟨v, middle, vs, hvalue, hvalues, rfl⟩ := Expression.exists_of_evaluateAll_cons h
    have hfirst := Expression.found_of_evaluate e hvalue
    exact hfirst.cons (Expression.found_of_evaluateAll es hvalues)

end

/-! ## Effects and rounds -/

/-- The value that the effect puts somewhere, if it does. -/
def Effect.value? : Effect → Option Value
  | .define _ v => some v
  | .print _ => none
  | .append _ v => some v

/-- A call that succeeds was one for a list and its only method, and its argument has a value. -/
theorem Action.exists_of_effect_methodCall {receiver method : Identifier} {argument : Expression}
    {effect : Effect} {store' : Store}
    (h : (Action.methodCall receiver method argument).effect scope store = .ok (effect, store')) :
    ∃ target v, scope.find? receiver.name = some (.list target) ∧
      argument.evaluate scope store = .ok (v, store') ∧ effect = .append target v := by
  rw [Action.effect] at h
  unfold Identifier.value at h
  rcases hfind : scope.find? receiver.name with - | v
  · rw [hfind] at h
    contradiction
  · rw [hfind] at h
    cases v with
    | list target =>
      dsimp only at h
      split at h
      · obtain ⟨⟨v, middle⟩, hvalue, hpair⟩ := exists_of_map_eq_ok h
        obtain ⟨rfl, rfl⟩ := Prod.mk.inj hpair
        exact ⟨target, v, rfl, hvalue, rfl⟩
      · contradiction
    | string | integer | boolean => contradiction

/-- An action evaluates one expression of its own and puts nothing else anywhere, or it evaluates
nothing. -/
theorem Action.cases_of_effect {a : Action} {effect : Effect} {store' : Store}
    (h : a.effect scope store = .ok (effect, store')) :
    store' = store ∧ effect.value? = none ∨
    ∃ e v, Node.expression e ∈ Node.ofAction a ∧ e.evaluate scope store = .ok (v, store') ∧
      ∀ w ∈ effect.value?, w = v := by
  cases a with
  | assignment target value =>
    obtain ⟨⟨v, middle⟩, hvalue, hpair⟩ := exists_of_map_eq_ok h
    obtain ⟨rfl, rfl⟩ := Prod.mk.inj hpair
    refine .inr ⟨value, v, List.mem_cons_of_mem _ List.mem_cons_self, hvalue, ?_⟩
    exact fun w hw => (Option.some.inj hw).symm
  | print argument =>
    cases argument with
    | none =>
      obtain ⟨rfl, rfl⟩ := Prod.mk.inj (Except.ok.inj h)
      exact .inl ⟨rfl, rfl⟩
    | some e =>
      obtain ⟨⟨v, middle⟩, hvalue, hpair⟩ := exists_of_map_eq_ok h
      obtain ⟨rfl, rfl⟩ := Prod.mk.inj hpair
      exact .inr ⟨e, v, List.mem_cons_self, hvalue, fun w hw => nomatch hw⟩
  | methodCall receiver method argument =>
    obtain ⟨target, v, -, hvalue, rfl⟩ := Action.exists_of_effect_methodCall h
    have hargument : Node.expression argument ∈
        Node.ofAction (.methodCall receiver method argument) :=
      List.mem_cons_of_mem _ (List.mem_cons_of_mem _ List.mem_cons_self)
    exact .inr ⟨argument, v, hargument, hvalue, fun w hw => (Option.some.inj hw).symm⟩

theorem Action.found_of_effect {a : Action} {effect : Effect} {store' : Store}
    (h : a.effect scope store = .ok (effect, store')) :
    Found scope store effect.value?.toList store' := by
  rcases Action.cases_of_effect h with ⟨rfl, hnone⟩ | ⟨e, v, -, hvalue, hplaced⟩
  · rw [hnone]
    exact .here fun _ _ hv => absurd hv List.not_mem_nil
  · refine (e.found_of_evaluate hvalue).replace ?_
    intro hv w hw
    rw [hplaced w (Option.mem_toList.1 hw)]
    exact hv v List.mem_cons_self

theorem Header.isIn_of_rounds {header : Header} {rounds : List (Option (Text × Value))}
    (hstore : store.Sound) (h : header.rounds scope store = .ok rounds) :
    ∀ name item, some (name, item) ∈ rounds → item.IsIn store := by
  intro name item hround
  cases header with
  | branch condition =>
    obtain ⟨truth, -, rfl⟩ := exists_of_map_eq_ok h
    cases truth with
    | false => exact absurd hround List.not_mem_nil
    | true => exact absurd (List.mem_singleton.1 hround) (Option.some_ne_none _)
  | loop variableName iterable =>
    rw [Header.rounds] at h
    rcases hvalue : iterable.value scope with blame | v
    · rw [hvalue] at h
      contradiction
    · rw [hvalue] at h
      cases v with
      | list handle =>
        obtain rfl := Except.ok.inj h
        obtain ⟨v, hv, hpair⟩ := List.mem_map.1 hround
        obtain ⟨-, rfl⟩ := Prod.mk.inj (Option.some.inj hpair)
        exact hstore handle v (Array.mem_toList_iff.1 hv)
      | string | integer | boolean => contradiction

end Evaluate

/-! ## States -/

/-- No value that the state holds points out of the store. -/
structure State.Sound (st : State) : Prop where
  scope : st.scope.IsIn st.store
  store : st.store.Sound

/-- What was bound is bound, every list has kept its items in front, and what was printed is
printed. -/
structure State.Grows (st st' : State) : Prop where
  binds : ∀ name, st.scope.Binds name → st'.scope.Binds name
  store : st.store.Grows st'.store
  printed : st.printed.toList <+: st'.printed.toList

namespace State

variable {st st' st'' : State} {store : Store} {effect : Effect}
  {round : Option (Text × Value)}

theorem Grows.refl (st : State) : st.Grows st :=
  ⟨fun _ h => h, (Store.Extends.refl st.store).grows, List.prefix_rfl⟩

theorem Grows.trans (h : st.Grows st') (h' : st'.Grows st'') : st.Grows st'' :=
  ⟨fun name hname => h'.binds name (h.binds name hname), h.store.trans h'.store,
    h.printed.trans h'.printed⟩

theorem grows_counted (st : State) : st.Grows st.counted := ⟨fun _ h => h,
  (Store.Extends.refl st.store).grows, List.prefix_rfl⟩

theorem grows_commit (h : st.store.Extends store) : st.Grows (st.commit store effect) := by
  cases effect with
  | define name v => exact ⟨fun _ hother => hother.define, h.grows, List.prefix_rfl⟩
  | print text =>
    refine ⟨fun _ hother => hother, h.grows, ?_⟩
    exact st.printed_commit store (.print text)
  | append handle v =>
    exact ⟨fun _ hother => hother, h.grows.trans (store.grows_append handle v), List.prefix_rfl⟩

theorem grows_enter (st : State) (round : Option (Text × Value)) : st.Grows (st.enter round) := by
  cases round with
  | none => exact .refl st
  | some item =>
    exact ⟨fun _ hother => hother.define, (Store.Extends.refl st.store).grows, List.prefix_rfl⟩

theorem Sound.counted (h : st.Sound) : st.counted.Sound := ⟨h.scope, h.store⟩

theorem Sound.commit (h : st.Sound) (heffect : Found st.scope st.store effect.value?.toList store) :
    (st.commit store effect).Sound := by
  have hscope := h.scope.mono heffect.extends_store.size_le
  obtain ⟨hstore, hvalue⟩ := heffect.sound h.scope h.store
  cases effect with
  | define name v => exact ⟨hscope.define (hvalue v List.mem_cons_self), hstore⟩
  | print text => exact ⟨hscope, hstore⟩
  | append handle v =>
    have hsize := Nat.le_of_eq (store.size_append handle v).symm
    exact ⟨hscope.mono hsize, hstore.append (hvalue v List.mem_cons_self)⟩

theorem Sound.enter (h : st.Sound)
    (hround : ∀ name item, round = some (name, item) → item.IsIn st.store) :
    (st.enter round).Sound := by
  rcases round with - | ⟨name, item⟩
  · exact h
  · exact ⟨h.scope.define (hround name item rfl), h.store⟩

end State

/-! ## Points of a run -/

/-- The items that the task is going to name are in the store. -/
def Task.IsIn (store : Store) : Task → Prop
  | .statement _ => True
  | .rounds _ left => ∀ name item, some (name, item) ∈ left → item.IsIn store

theorem Task.IsIn.mono {store store' : Store} {task : Task} (h : task.IsIn store)
    (hle : store.size ≤ store'.size) : task.IsIn store' := by
  cases task with
  | statement s => trivial
  | rounds body left =>
    intro name item hround
    exact (h name item hround).mono hle

/-- The name that the action gives a value. -/
def Action.target? : Action → Option Text
  | .assignment target _ => some target.name
  | .print _ => none
  | .methodCall _ _ _ => none

/-- The name that the first step of the task binds, if it does not fail: an assignment binds its
target, and a round the name of its item. -/
def Task.binds? : Task → Option Text
  | .statement (.simple s) => s.action.target?
  | .statement (.block _) => none
  | .rounds _ left => left.head?.join.map Prod.fst

namespace Point

def tasks : Point → List Task
  | going _ tasks => tasks
  | failed _ _ => []

/-- No value that the state or a task holds points out of the store. -/
structure Sound (p : Point) : Prop where
  state : p.state.Sound
  tasks : ∀ task ∈ p.tasks, task.IsIn p.state.store

variable {limit : Nat} {p q : Point}

theorem Step.grows (h : Step limit p q) : p.state.Grows q.state := by
  cases h with
  | @act s st tasks effect store hcount h =>
    have hcommit : st.counted.Grows (st.counted.commit store effect) :=
      State.grows_commit (Action.found_of_effect h).extends_store
    exact st.grows_counted.trans hcommit
  | enter => exact State.grows_enter _ _
  | actFails | header | headerFails | refuse => exact State.grows_counted _
  | leave => exact .refl _

theorem Step.sound (h : Step limit p q) (hp : p.Sound) : q.Sound := by
  have hsize := h.grows.store.size_le
  obtain ⟨hstate, htasks⟩ := hp
  -- The items of a task that stays are still in the store, because the store has only grown.
  have hmore {tasks : List Task} (hsub : ∀ task ∈ tasks, task ∈ p.tasks) :
      ∀ task ∈ tasks, task.IsIn q.state.store := by
    intro task htask
    exact (htasks task (hsub task htask)).mono hsize
  cases h with
  | @act s st tasks effect store hcount h =>
    have hfound : Found st.counted.scope st.counted.store effect.value?.toList store :=
      Action.found_of_effect h
    exact ⟨hstate.counted.commit hfound, hmore fun _ => List.mem_cons_of_mem _⟩
  | header hcount h =>
    have hrounds := Header.isIn_of_rounds hstate.store h
    have htail := hmore (fun _ => List.mem_cons_of_mem _)
    exact ⟨hstate.counted, List.forall_mem_cons.2 ⟨hrounds, htail⟩⟩
  | actFails | headerFails | refuse =>
    exact ⟨hstate.counted, fun _ h => absurd h List.not_mem_nil⟩
  | @enter body round rounds st tasks =>
    have hrounds := htasks _ List.mem_cons_self
    have hround : ∀ name item, round = some (name, item) → item.IsIn st.store := by
      rintro name item rfl
      exact hrounds name item List.mem_cons_self
    refine ⟨hstate.enter hround, ?_⟩
    intro task htask
    rcases List.mem_append.1 htask with htask | htask
    · obtain ⟨s, -, rfl⟩ := List.mem_map.1 htask
      trivial
    · have hleft : Task.IsIn st.store (.rounds body rounds) := by
        intro name item hmem
        exact hrounds name item (List.mem_cons_of_mem _ hmem)
      rcases List.mem_cons.1 htask with rfl | htask
      · exact hleft.mono hsize
      · exact hmore (fun _ => List.mem_cons_of_mem _) task htask
  | leave => exact ⟨hstate, hmore fun _ => List.mem_cons_of_mem _⟩

theorem Reaches.grows (h : Reaches limit p q) : p.state.Grows q.state := by
  induction h with
  | refl => exact .refl p.state
  | tail _ hstep ih => exact ih.trans hstep.grows

theorem Reaches.sound (h : Reaches limit p q) (hp : p.Sound) : q.Sound := by
  induction h with
  | refl => exact hp
  | tail _ hstep ih => exact hstep.sound ih

/-! ## Names that are bound, and names that are not -/

/-- The name that the next step from the point binds, if it does not fail. -/
def binds? (p : Point) : Option Text := p.tasks.head?.bind Task.binds?

theorem Step.binds {st : State} {tasks : List Task} {name : Text}
    (h : Step limit p (going st tasks)) (hname : p.binds? = some name) : st.scope.Binds name := by
  cases h with
  | @act s st tasks effect store hcount h =>
    change s.action.target? = some name at hname
    unfold Action.target? at hname
    split at hname
    · next target value haction =>
      rw [haction] at h
      obtain ⟨⟨v, middle⟩, -, hpair⟩ := exists_of_map_eq_ok h
      obtain ⟨rfl, rfl⟩ := Prod.mk.inj hpair
      obtain rfl := Option.some.inj hname
      exact st.scope.binds_define target.name v
    · contradiction
    · contradiction
  | @enter body round rounds st tasks =>
    obtain ⟨⟨name', item⟩, hround, rfl⟩ := Option.map_eq_some_iff.1 hname
    obtain rfl : round = some (name', item) := hround
    exact st.scope.binds_define name' item
  | header | leave => contradiction

/-- A step fails with an undefined name only where the name is not bound. -/
theorem Step.unbound {st : State} {e : RunError} {name : Text} (h : Step limit p (failed st e))
    (hcause : e.cause = .undefinedName name) : ¬st.scope.Binds name := by
  have hfind : st.scope.find? name = none := by
    cases h with
    | @actFails s st tasks blame hcount h =>
      exact (Action.raised_of_effect s.span h).unbound name hcause
    | @headerFails b st tasks blame hcount h =>
      exact (Header.raised_of_rounds b.span h).unbound name hcause
    | refuse => contradiction
  unfold Scope.Binds
  rw [hfind]
  exact Bool.false_ne_true

end Point

/-! ## Whole runs -/

theorem Program.sound_start (p : Program) : p.start.Sound := by
  refine ⟨⟨Scope.isIn_empty _, Store.sound_empty⟩, ?_⟩
  intro task htask
  obtain ⟨s, -, rfl⟩ := List.mem_map.1 htask
  trivial

/-- Where a run ends with an undefined name, the name is not bound. -/
theorem Program.unbound_of_undefined {limit : Nat} {p : Program} {e : RunError} {name : Text}
    (herror : (p.run limit).error = some e) (hcause : e.cause = .undefinedName name) :
    ¬(p.run limit).state.scope.Binds name := by
  obtain ⟨q, -, hstep⟩ := exists_step_of_error herror
  exact hstep.unbound hcause

/-- A run goes through points, up to its end.  At every one of them all lists that a name or an
item stands for are lists of the store, and at every later one all names that were bound are
bound, all lists have kept their items in front, and what was printed is in front of what is
printed.  If a name is undefined, no step before has bound it. -/
theorem Program.state_grows {limit : Nat} {p : Program} {q : Point}
    (h : p.start.Reaches limit q) :
    q.Reaches limit (p.last limit) ∧ (p.last limit).state = (p.run limit).state ∧
    q.state.Sound ∧
    (∀ r, q.Reaches limit r → q.state.Grows r.state) ∧
    (∀ e name, (p.run limit).error = some e → e.cause = .undefinedName name →
      ∀ st tasks, q.Step limit (.going st tasks) → q.binds? ≠ some name) := by
  refine ⟨p.reaches_last h, Point.state_ofOutcome _ _, (h.sound p.sound_start).state,
    fun r hr => hr.grows, ?_⟩
  intro e name herror hcause st tasks hstep hname
  -- A name that the step had bound would still be bound where the run ends.
  have hbound := hstep.binds hname
  have hgrows := (reaches_last (h.tail hstep)).grows
  rw [last_of_error herror] at hgrows
  exact unbound_of_undefined herror hcause (hgrows.binds name hbound)

/-- A list is put into itself, a loop over it puts its items behind it, and an undefined name
ends the run.  The point is the one behind the first statement. -/
theorem Program.state_grows_cyclic_list : ∃ (p : Program) (q : Point),
    p.start.Reaches 10 q ∧ q.state.store.items 0 = #[.integer 1] ∧
      (p.run 10).state.store.items 0 = #[.integer 1, .list 0, .integer 1, .list 0] ∧
      (p.run 10).error = some ⟨⟨.undefinedName "zs", ⟨57, 59⟩⟩, 5⟩ ∧
      q.state.Sound ∧ q.state.Grows (p.last 10).state ∧
      ∀ st tasks, q.Step 10 (.going st tasks) → q.binds? ≠ some "zs" := by
  let xs (start : Nat) : Identifier := ⟨"xs", ⟨start, start + 2⟩⟩
  let append (start : Nat) : Identifier := ⟨"append", ⟨start, start + 6⟩⟩
  let assigned : Simple :=
    ⟨.assignment (xs 0) (.list [.integer 1 ⟨6, 7⟩] ⟨5, 8⟩), 1, ⟨0, 8⟩⟩
  let nested : Simple :=
    ⟨.methodCall (xs 9) (append 12) (.identifier (xs 19)), 2, ⟨9, 22⟩⟩
  let copied : Simple :=
    ⟨.methodCall (xs 38) (append 41) (.identifier ⟨"x", ⟨48, 49⟩⟩), 4, ⟨38, 50⟩⟩
  let loop : Block := ⟨.loop ⟨"x", ⟨27, 28⟩⟩ (xs 32), 3, ⟨23, 35⟩, some copied⟩
  let printed : Simple := ⟨.print (some (.identifier ⟨"zs", ⟨57, 59⟩⟩)), 5, ⟨51, 60⟩⟩
  let p : Program :=
    ⟨[.simple assigned, .simple nested, .block loop, .simple printed], ⟨0, 60⟩⟩
  let store : Store := (Store.empty.allocate [.integer 1]).2
  let q : Point := .going (State.initial.counted.commit store (.define "xs" (.list 0)))
    [.statement (.simple nested), .statement (.block loop), .statement (.simple printed)]
  have hreaches : p.start.Reaches 10 q := .single (.act (by decide) rfl)
  have herror : (p.run 10).error = some ⟨⟨.undefinedName "zs", ⟨57, 59⟩⟩, 5⟩ := by decide +kernel
  obtain ⟨hlast, -, hsound, hgrows, hunbound⟩ := state_grows hreaches
  exact ⟨p, q, hreaches, by decide +kernel, by decide +kernel, herror, hsound, hgrows _ hlast,
    hunbound _ _ herror rfl⟩

end Spellbook
