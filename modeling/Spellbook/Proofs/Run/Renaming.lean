import Spellbook.Proofs.Run.Sequence
import Spellbook.Proofs.Source.Statements
import Spellbook.Proofs.Syntax.Nodes
import Spellbook.Proofs.Syntax.Rename
import Spellbook.Run.Evaluation

/-!
# A run of a spell with other names

A run looks a name up, but it does not look at the name.  So twins run alike: they go through states
that differ in the names of the scope only, and if one fails, so does the other, for the same reason
and at the same node.  Which node that is depends on the first spell alone, so that it is told by an
address, which leads to a node in each of its twins (`Program.evaluate_twin`).
-/

namespace Spellbook

/-! ## Addresses -/

/-- The node that is reached from the given one by the positions of the children on the way. -/
def Node.at? : List Nat → Node → Option Node
  | [], n => some n
  | i :: path, n => n.children[i]?.bind (Node.at? path)

/-- The cause with another name for the variable that it is about. -/
def RunCause.rename (ρ : Text → Text) : RunCause → RunCause
  | .undefinedName name => .undefinedName (ρ name)
  | .misuse m kind => .misuse m kind
  | .unknownMethod kind method => .unknownMethod kind method
  | .stepLimit limit => .stepLimit limit

/-! ## Results that are alike -/

/-- The results of a spell and of its twin: values that are related, or the same error up to names,
which blames the node at the place in the twin. -/
inductive Alike (r : Renaming) (place : Option Node) {α β : Type} (related : α → β → Prop) :
    Except (Blame RunCause) α → Except (Blame RunCause) β → Prop
  | ok {a : α} {b : β} (h : related a b) : Alike r place related (.ok a) (.ok b)
  | error (blame : Blame RunCause) {n : Node} (h : place = some n) :
    Alike r place related (.error blame) (.error ⟨blame.cause.rename r.apply, n.span⟩)

namespace Alike

variable {r : Renaming} {place : Option Node} {α β γ δ : Type} {related : α → β → Prop}
  {x' : Except (Blame RunCause) β}

theorem of_ok {x : Except (Blame RunCause) α} {a : α} (h : Alike r place related x x')
    (hx : x = .ok a) : ∃ b, x' = .ok b ∧ related a b := by
  cases h with
  | ok hvalue =>
    obtain rfl := Except.ok.inj hx
    exact ⟨_, rfl, hvalue⟩
  | error _ _ => contradiction

theorem of_ok_eq {x x' : Except (Blame RunCause) α} {a : α} (h : Alike r place Eq x x')
    (hx : x = .ok a) : x' = .ok a := by
  obtain ⟨b, rfl, rfl⟩ := h.of_ok hx
  rfl

theorem of_error {x : Except (Blame RunCause) α} {blame : Blame RunCause}
    (h : Alike r place related x x') (hx : x = .error blame) :
    ∃ n, place = some n ∧ x' = .error ⟨blame.cause.rename r.apply, n.span⟩ := by
  cases h with
  | ok _ => contradiction
  | error _ hplace =>
    obtain rfl := Except.error.inj hx
    exact ⟨_, hplace, rfl⟩

theorem map {related' : γ → δ → Prop} {f : α → γ} {g : β → δ} {x : Except (Blame RunCause) α}
    (h : Alike r place related x x') (hf : ∀ {a b}, related a b → related' (f a) (g b)) :
    Alike r place related' (x.map f) (x'.map g) := by
  cases h with
  | ok hvalue => exact .ok (hf hvalue)
  | error blame hplace => exact .error blame hplace

end Alike

/-- The second scope binds the new names of the variables as the first one binds the old ones. -/
def Scope.Renamed (r : Renaming) (scope scope' : Scope) : Prop :=
  ∀ name ∈ r.names, scope'.find? (r.apply name) = scope.find? name

theorem Scope.Renamed.define {r : Renaming} {scope scope' : Scope} {name name' : Text}
    (h : Scope.Renamed r scope scope') (hname : r.Takes name name') (v : Value) :
    Scope.Renamed r (scope.define name v) (scope'.define name' v) := by
  intro other hother
  rw [Scope.find?_define, Scope.find?_define, hname.eq_apply, h other hother]
  by_cases heq : other = name
  · rw [if_pos heq, if_pos (congrArg r.apply heq)]
  · rw [if_neg heq, if_neg fun happly => heq (r.injOn hother hname.mem happly)]

/-! ## Expressions and conditions -/

section Evaluate

variable (scope : Scope)

theorem Identifier.value_alike {r : Renaming} {scope scope' : Scope} {i j : Identifier} {n : Node}
    {place : Option Node} (h : r.Takes i.name j.name) (hscope : Scope.Renamed r scope scope')
    (hplace : place = some n) (hspan : n.span = j.span) :
    Alike r place Eq (i.value scope) (j.value scope') := by
  unfold Identifier.value
  rw [h.eq_apply, hscope i.name h.mem, ← hspan]
  cases scope.find? i.name with
  | some v => exact .ok rfl
  | none => exact .error _ hplace

mutual

/-- The node at which an expression fails is the same in all its twins. -/
theorem Expression.exists_path (e : Expression) (store : Store) :
    ∃ path, ∀ {r : Renaming} {scope' : Scope} {e' : Expression}, e.Twin r e' →
      Scope.Renamed r scope scope' →
      Alike r ((Node.expression e').at? path) Eq (e.evaluate scope store)
        (e'.evaluate scope' store) := by
  cases e with
  | identifier i =>
    refine ⟨[], fun htwin hscope => ?_⟩
    cases htwin with
    | identifier h => exact (Identifier.value_alike h hscope rfl rfl).map fun heq => by rw [heq]
  | boolean | integer | string =>
    refine ⟨[], fun htwin _ => ?_⟩
    cases htwin
    exact .ok rfl
  | list elements span =>
    obtain ⟨i, path, hpath⟩ := Expression.exists_path_all elements store
    refine ⟨i :: path, fun htwin hscope => ?_⟩
    cases htwin with
    | list _ _ h =>
      have hitems := hpath h hscope
      simp only [Expression.evaluate]
      cases heq : Expression.evaluateAll scope store elements with
      | error blame =>
        obtain ⟨n, hn, heq'⟩ := hitems.of_error heq
        rw [heq']
        exact .error blame hn
      | ok items =>
        rw [hitems.of_ok_eq heq]
        exact .ok rfl
  | len argument span =>
    obtain ⟨path, hpath⟩ := Expression.exists_path argument store
    rcases heq : argument.evaluate scope store with blame | ⟨v, store'⟩
    · refine ⟨0 :: path, fun htwin hscope => ?_⟩
      cases htwin with
      | len _ _ h =>
        have hargument := hpath h hscope
        obtain ⟨n, hn, heq'⟩ := hargument.of_error heq
        simp only [Expression.evaluate, heq, heq']
        exact .error blame hn
    · refine ⟨[0], fun htwin hscope => ?_⟩
      cases htwin with
      | len _ _ h =>
        have hargument := hpath h hscope
        simp only [Expression.evaluate, heq, hargument.of_ok_eq heq]
        cases v with
        | list handle => exact .ok rfl
        | string | integer | boolean => exact .error _ rfl

theorem Expression.exists_path_all (elements : List Expression) (store : Store) :
    ∃ (i : Nat) (path : List Nat), ∀ {r : Renaming} {scope' : Scope} {elements' : List Expression},
      List.Forall₂ (Expression.Twin r) elements elements' → Scope.Renamed r scope scope' →
      Alike r ((elements'.map Node.expression)[i]?.bind (Node.at? path)) Eq
        (Expression.evaluateAll scope store elements)
        (Expression.evaluateAll scope' store elements') := by
  cases elements with
  | nil =>
    refine ⟨0, [], fun htwins _ => ?_⟩
    cases htwins
    exact .ok rfl
  | cons e es =>
    obtain ⟨path, hpath⟩ := Expression.exists_path e store
    rcases heq : e.evaluate scope store with blame | ⟨v, store'⟩
    · refine ⟨0, path, fun htwins hscope => ?_⟩
      cases htwins with
      | cons h _ =>
        have hfirst := hpath h hscope
        obtain ⟨n, hn, heq'⟩ := hfirst.of_error heq
        simp only [Expression.evaluateAll, heq, heq']
        exact .error blame hn
    · obtain ⟨i, rest, hrest⟩ := Expression.exists_path_all es store'
      refine ⟨i + 1, rest, fun htwins hscope => ?_⟩
      cases htwins with
      | cons h hothers =>
        have hfirst := hpath h hscope
        have hvalues := hrest hothers hscope
        simp only [Expression.evaluateAll, heq, hfirst.of_ok_eq heq]
        cases heqs : Expression.evaluateAll scope store' es with
        | error blame =>
          obtain ⟨n, hn, heq'⟩ := hvalues.of_error heqs
          rw [heq']
          exact .error blame hn
        | ok values =>
          rw [hvalues.of_ok_eq heqs]
          exact .ok rfl

end

/-- The values of two operands, the left one first, and the store behind both. -/
def Expression.evaluateBoth (store : Store) (left right : Expression) :
    Except (Blame RunCause) (Value × Value × Store) :=
  match left.evaluate scope store with
  | .error blame => .error blame
  | .ok (v, store) => (right.evaluate scope store).map fun result => (v, result)

theorem Expression.exists_path_both (left right : Expression) (store : Store) :
    ∃ (i : Nat) (path : List Nat), ∀ {r : Renaming} {scope' : Scope} {left' right' : Expression},
      left.Twin r left' → right.Twin r right' → Scope.Renamed r scope scope' →
      Alike r (([left', right'].map Node.expression)[i]?.bind (Node.at? path)) Eq
        (Expression.evaluateBoth scope store left right)
        (Expression.evaluateBoth scope' store left' right') := by
  obtain ⟨path, hpath⟩ := left.exists_path scope store
  rcases heq : left.evaluate scope store with blame | ⟨v, store'⟩
  · refine ⟨0, path, fun hleft _ hscope => ?_⟩
    have hfirst := hpath hleft hscope
    obtain ⟨n, hn, heq'⟩ := hfirst.of_error heq
    simp only [Expression.evaluateBoth, heq, heq']
    exact .error blame hn
  · obtain ⟨rest, hrest⟩ := right.exists_path scope store'
    refine ⟨1, rest, fun hleft hright hscope => ?_⟩
    have hfirst := hpath hleft hscope
    simp only [Expression.evaluateBoth, heq, hfirst.of_ok_eq heq]
    exact (hrest hright hscope).map fun hresult => by rw [hresult]

/-- Whether the value is an element of the list that the other value is. -/
def Store.search (store : Store) (v : Value) (span : Span) :
    Value → Except (Blame RunCause) Bool
  | .list handle => .ok (store.holds handle v)
  | w => .error ⟨.misuse .search w.kind, span⟩

theorem Term.evaluate_equality (store : Store) (left right : Expression) :
    (Term.equality left right).evaluate scope store =
      (Expression.evaluateBoth scope store left right).map fun result =>
        result.2.2.equal result.1 result.2.1 := by
  simp only [Term.evaluate, Expression.evaluateBoth]
  rcases left.evaluate scope store with blame | ⟨v, store'⟩
  · rfl
  · dsimp only
    rcases right.evaluate scope store' with blame | ⟨w, store''⟩
    · rfl
    · rfl

theorem Term.evaluate_membership (store : Store) (element collection : Expression) :
    (Term.membership element collection).evaluate scope store =
      (Expression.evaluateBoth scope store element collection).bind fun result =>
        result.2.2.search result.1 collection.span result.2.1 := by
  simp only [Term.evaluate, Expression.evaluateBoth]
  rcases element.evaluate scope store with blame | ⟨v, store'⟩
  · rfl
  · dsimp only
    rcases collection.evaluate scope store' with blame | ⟨w, store''⟩
    · rfl
    · cases w with
      | list handle => rfl
      | string | integer | boolean => rfl

theorem Term.exists_path (t : Term) (store : Store) :
    ∃ path, ∀ {r : Renaming} {scope' : Scope} {t' : Term}, t.Twin r t' →
      Scope.Renamed r scope scope' →
      Alike r ((Node.term t').at? path) Eq (t.evaluate scope store) (t'.evaluate scope' store) := by
  cases t with
  | membership element collection =>
    obtain ⟨i, path, hpath⟩ := Expression.exists_path_both scope element collection store
    rcases heq : Expression.evaluateBoth scope store element collection with
      blame | ⟨v, w, store'⟩
    · refine ⟨i :: path, fun htwin hscope => ?_⟩
      cases htwin with
      | membership h hcollection =>
        have hboth := hpath h hcollection hscope
        obtain ⟨n, hn, heq'⟩ := hboth.of_error heq
        simp only [Term.evaluate_membership, heq, heq']
        exact .error blame hn
    · refine ⟨[1], fun htwin hscope => ?_⟩
      cases htwin with
      | membership h hcollection =>
        have hboth := hpath h hcollection hscope
        simp only [Term.evaluate_membership, heq, hboth.of_ok_eq heq]
        cases w with
        | list handle => exact .ok rfl
        | string | integer | boolean => exact .error _ rfl
  | equality left right =>
    obtain ⟨i, path, hpath⟩ := Expression.exists_path_both scope left right store
    refine ⟨i :: path, fun htwin hscope => ?_⟩
    cases htwin with
    | equality h hright =>
      rw [Term.evaluate_equality, Term.evaluate_equality]
      exact (hpath h hright hscope).map fun hresult => by rw [hresult]
  | name i =>
    refine ⟨[], fun htwin hscope => ?_⟩
    cases htwin with
    | name h =>
      have hvalue := Identifier.value_alike (n := .term (.name _)) h hscope rfl rfl
      simp only [Term.evaluate]
      cases heq : i.value scope with
      | error blame =>
        obtain ⟨n, hn, heq'⟩ := hvalue.of_error heq
        rw [heq']
        exact .error blame hn
      | ok v =>
        rw [hvalue.of_ok_eq heq]
        cases v with
        | boolean truth => exact .ok rfl
        | string | integer | list => exact .error _ rfl
  | constant value span =>
    refine ⟨[], fun htwin _ => ?_⟩
    cases htwin
    exact .ok rfl

theorem Term.exists_path_all (terms : List Term) (store : Store) :
    ∃ (i : Nat) (path : List Nat), ∀ {r : Renaming} {scope' : Scope} {terms' : List Term},
      List.Forall₂ (Term.Twin r) terms terms' → Scope.Renamed r scope scope' →
      Alike r ((terms'.map Node.term)[i]?.bind (Node.at? path)) Eq
        (Term.evaluateAll scope store terms) (Term.evaluateAll scope' store terms') := by
  induction terms with
  | nil =>
    refine ⟨0, [], fun htwins _ => ?_⟩
    cases htwins
    exact .ok rfl
  | cons t ts ih =>
    obtain ⟨path, hpath⟩ := t.exists_path scope store
    rcases heq : t.evaluate scope store with blame | truth
    · refine ⟨0, path, fun htwins hscope => ?_⟩
      cases htwins with
      | cons h _ =>
        have hfirst := hpath h hscope
        obtain ⟨n, hn, heq'⟩ := hfirst.of_error heq
        simp only [Term.evaluateAll, heq, heq']
        exact .error blame hn
    · obtain ⟨i, rest, hrest⟩ := ih
      refine ⟨i + 1, rest, fun htwins hscope => ?_⟩
      cases htwins with
      | cons h hothers =>
        have hfirst := hpath h hscope
        simp only [Term.evaluateAll, heq, hfirst.of_ok_eq heq]
        cases truth with
        | false => exact .ok rfl
        | true => exact hrest hothers hscope

theorem Condition.exists_path (c : Condition) (store : Store) :
    ∃ path, ∀ {r : Renaming} {scope' : Scope} {c' : Condition}, c.Twin r c' →
      Scope.Renamed r scope scope' →
      Alike r ((Node.condition c').at? path) Eq (c.evaluate scope store)
        (c'.evaluate scope' store) := by
  obtain ⟨i, path, hpath⟩ := Term.exists_path_all scope c.terms store
  exact ⟨i :: path, hpath⟩

/-! ## Actions and headers -/

/-- The same effect, on a variable with another name. -/
inductive Effect.Twin (r : Renaming) : Effect → Effect → Prop
  | define {name name' : Text} (h : r.Takes name name') (v : Value) :
    Twin r (.define name v) (.define name' v)
  | print (text : Text) : Twin r (.print text) (.print text)
  | append (handle : Handle) (v : Value) : Twin r (.append handle v) (.append handle v)

theorem Action.exists_path (a : Action) (store : Store) :
    ∃ path, ∀ {r : Renaming} {scope' : Scope} {a' : Action} (span' : Span), a.Twin r a' →
      Scope.Renamed r scope scope' →
      Alike r ((Node.clause ⟨.action a', span'⟩).at? path)
        (fun x y => x.1.Twin r y.1 ∧ x.2 = y.2) (a.effect scope store)
        (a'.effect scope' store) := by
  cases a with
  | assignment target value =>
    obtain ⟨path, hpath⟩ := value.exists_path scope store
    refine ⟨1 :: path, fun span' htwin hscope => ?_⟩
    cases htwin with
    | assignment htarget h =>
      refine (hpath h hscope).map fun {x y} heq => ?_
      subst heq
      exact ⟨.define htarget x.1, rfl⟩
  | print argument =>
    cases argument with
    | none =>
      refine ⟨[], fun span' htwin _ => ?_⟩
      cases htwin with
      | print h =>
        cases h
        exact .ok ⟨.print [], rfl⟩
    | some e =>
      obtain ⟨path, hpath⟩ := e.exists_path scope store
      refine ⟨0 :: path, fun span' htwin hscope => ?_⟩
      cases htwin with
      | print h =>
        cases h with
        | some h =>
          refine (hpath h hscope).map fun {x y} heq => ?_
          subst heq
          exact ⟨.print (x.2.render x.1), rfl⟩
  | methodCall receiver method argument =>
    obtain ⟨path, hpath⟩ := argument.exists_path scope store
    cases hvalue : receiver.value scope with
    | error blame =>
      refine ⟨[0], fun span' htwin hscope => ?_⟩
      cases htwin with
      | methodCall hreceiver _ _ =>
        have halike := Identifier.value_alike (n := .identifier _) hreceiver hscope rfl rfl
        obtain ⟨n, hn, heq⟩ := halike.of_error hvalue
        simp only [Action.effect, hvalue, heq]
        exact .error blame hn
    | ok v =>
      -- Only a list has a method, and it has only one; with any other name the method is to blame.
      by_cases happend : (∃ handle, v = .list handle) ∧ method.name = "append".toList
      · obtain ⟨⟨handle, rfl⟩, hname⟩ := happend
        refine ⟨2 :: path, fun span' htwin hscope => ?_⟩
        cases htwin with
        | methodCall hreceiver hmethod h =>
          have halike := Identifier.value_alike (n := .identifier _) hreceiver hscope rfl rfl
          simp only [Action.effect, hvalue, halike.of_ok_eq hvalue, hmethod, if_pos hname]
          refine (hpath h hscope).map fun {x y} heq => ?_
          subst heq
          exact ⟨.append handle x.1, rfl⟩
      · refine ⟨[1], fun span' htwin hscope => ?_⟩
        cases htwin with
        | methodCall hreceiver hmethod h =>
          have halike := Identifier.value_alike (n := .identifier _) hreceiver hscope rfl rfl
          simp only [Action.effect, hvalue, halike.of_ok_eq hvalue, hmethod]
          cases v with
          | list handle =>
            have hname : ¬method.name = "append".toList := fun h => happend ⟨⟨handle, rfl⟩, h⟩
            simp only [if_neg hname]
            exact .error _ rfl
          | string | integer | boolean => exact .error _ rfl

theorem Header.exists_path (header : Header) (store : Store) :
    ∃ path, ∀ {r : Renaming} {scope' : Scope} {header' : Header} (span' : Span),
      header.Twin r header' → Scope.Renamed r scope scope' →
      Alike r ((Node.clause ⟨.header header', span'⟩).at? path)
        (List.Forall₂ (Option.Rel fun x y => r.Takes x.1 y.1 ∧ x.2 = y.2))
        (header.rounds scope store) (header'.rounds scope' store) := by
  cases header with
  | branch condition =>
    obtain ⟨path, hpath⟩ := condition.exists_path scope store
    refine ⟨0 :: path, fun span' htwin hscope => ?_⟩
    cases htwin with
    | branch h =>
      refine (hpath h hscope).map fun {x y} heq => ?_
      subst heq
      cases x with
      | false => exact .nil
      | true => exact .cons .none .nil
  | loop variableName iterable =>
    refine ⟨[1], fun span' htwin hscope => ?_⟩
    cases htwin with
    | loop hname hiterable =>
      have halike := Identifier.value_alike (n := .identifier _) hiterable hscope rfl rfl
      simp only [Header.rounds]
      cases hvalue : iterable.value scope with
      | error blame =>
        obtain ⟨n, hn, heq⟩ := halike.of_error hvalue
        rw [heq]
        exact .error blame hn
      | ok v =>
        rw [halike.of_ok_eq hvalue]
        cases v with
        | list handle =>
          refine .ok (List.forall₂_map_left_iff.2 (List.forall₂_map_right_iff.2 ?_))
          exact List.forall₂_same.2 fun item _ => .some ⟨hname, rfl⟩
        | string | integer | boolean => exact .error _ rfl

end Evaluate

/-! ## Statements -/

/-- The node of the clause that the path leads to, and the line of the clause. -/
def Clause.place? (c : Clause) (line : Nat) (path : List Nat) : Option (Node × Nat) :=
  ((Node.clause c).at? path).map fun n => (n, line)

def Simple.place? (s : Simple) (path : List Nat) : Option (Node × Nat) :=
  s.clause.place? s.line path

/-- A place on the line of the statement, or on that of its body. -/
def Statement.place? (s : Statement) (inBody : Bool) (path : List Nat) : Option (Node × Nat) :=
  if inBody then s.body?.bind fun body => body.place? path else s.clause.place? s.line path

/-- The second state has other names for the variables, and is the same in everything else. -/
structure State.Renamed (r : Renaming) (st st' : State) : Prop where
  scope : Scope.Renamed r st.scope st'.scope
  store : st'.store = st.store
  printed : st'.printed = st.printed
  steps : st'.steps = st.steps

theorem State.Renamed.commit {r : Renaming} {st st' : State} {effect effect' : Effect}
    (h : st.Renamed r st') (heffect : effect.Twin r effect') (store : Store) :
    (st.commit store effect).Renamed r (st'.commit store effect') := by
  cases heffect with
  | define hname v => exact ⟨h.scope.define hname v, rfl, h.printed, h.steps⟩
  | print text => exact ⟨h.scope, rfl, congrArg (·.push text) h.printed, h.steps⟩
  | append handle v => exact ⟨h.scope, rfl, h.printed, h.steps⟩

theorem State.Renamed.enter {r : Renaming} {st st' : State} {round round' : Option (Text × Value)}
    (h : st.Renamed r st')
    (hround : Option.Rel (fun x y => r.Takes x.1 y.1 ∧ x.2 = y.2) round round') :
    (st.enter round).Renamed r (st'.enter round') := by
  cases hround with
  | none => exact h
  | @some x y hxy =>
    obtain ⟨name, item⟩ := x
    obtain ⟨name', item'⟩ := y
    obtain ⟨hname, rfl⟩ := hxy
    exact ⟨h.scope.define hname item, h.store, h.printed, h.steps⟩

/-- The outcomes of a spell and of its twin: both have come to their ends, or both to the same error
up to names, which blames the place in the twin. -/
inductive Outcome.Alike (r : Renaming) (place : Option (Node × Nat)) : Outcome → Outcome → Prop
  | done {st st' : State} (h : st.Renamed r st') : Alike r place ⟨st, none⟩ ⟨st', none⟩
  | failed {st st' : State} (h : st.Renamed r st') (e : RunError) {n : Node} {line : Nat}
    (hplace : place = some (n, line)) :
    Alike r place ⟨st, some e⟩ ⟨st', some (Blame.onLine line ⟨e.cause.rename r.apply, n.span⟩)⟩

namespace Outcome.Alike

variable {r : Renaming} {place : Option (Node × Nat)} {o o' : Outcome} {st : State}
  {next next' : State → Outcome}

/-- What follows an outcome decides the place if nothing has failed before. -/
theorem andThen_of_done {place' : Option (Node × Nat)} (h : Outcome.Alike r place o o')
    (ho : o = ⟨st, none⟩)
    (hnext : ∀ {st'}, st.Renamed r st' → Outcome.Alike r place' (next st) (next' st')) :
    Outcome.Alike r place' (o.andThen next) (o'.andThen next') := by
  cases h with
  | done hst =>
    obtain rfl := (Outcome.mk.inj ho).1
    exact hnext hst
  | failed _ e _ => exact nomatch (Outcome.mk.inj ho).2

theorem andThen_of_failed {e : RunError} (h : Outcome.Alike r place o o') (ho : o = ⟨st, some e⟩) :
    Outcome.Alike r place (o.andThen next) (o'.andThen next') := by
  cases h with
  | done _ => exact nomatch (Outcome.mk.inj ho).2
  | failed hst e hplace => exact .failed hst e hplace

theorem of_failed {e e' : RunError} {st st' : State}
    (h : Outcome.Alike r place ⟨st, some e⟩ ⟨st', some e'⟩) :
    ∃ n line, place = some (n, line) ∧
      e' = Blame.onLine line ⟨e.cause.rename r.apply, n.span⟩ := by
  cases h with
  | failed _ _ hplace => exact ⟨_, _, hplace, rfl⟩

end Outcome.Alike

section Run

variable (limit : Nat)

theorem State.Renamed.countStep_alike {r : Renaming} {st st' : State} (c c' : Clause)
    (line line' : Nat) (h : st.Renamed r st') :
    Outcome.Alike r (c'.place? line' []) (st.countStep limit line c.span)
      (st'.countStep limit line' c'.span) := by
  have hcounted : State.Renamed r { st with steps := st.steps + 1 }
      { st' with steps := st'.steps + 1 } :=
    ⟨h.scope, h.store, h.printed, congrArg (· + 1) h.steps⟩
  unfold State.countStep
  dsimp only
  rw [h.steps] at hcounted ⊢
  split
  · exact .failed hcounted _ rfl
  · exact .done hcounted

theorem Simple.exists_path_perform (s : Simple) (st : State) :
    ∃ path, ∀ {r : Renaming} {st' : State} {s' : Simple}, s.action.Twin r s'.action →
      st.Renamed r st' → Outcome.Alike r (s'.place? path) (s.perform st) (s'.perform st') := by
  obtain ⟨path, hpath⟩ := s.action.exists_path st.scope st.store
  refine ⟨path, fun {r st' s'} htwin hst => ?_⟩
  have halike := hpath s'.span htwin hst.scope
  unfold Simple.perform
  rw [hst.store]
  rcases heffect : s.action.effect st.scope st.store with blame | ⟨effect, store⟩
  · obtain ⟨n, hn, heq⟩ := halike.of_error heffect
    rw [heq]
    exact .failed hst (blame.onLine s.line) (congrArg (Option.map _) hn)
  · obtain ⟨⟨effect', store'⟩, heq, htwins, rfl⟩ := halike.of_ok heffect
    rw [heq]
    exact .done (hst.commit htwins store)

/-- Counting comes first, and what is counted comes second: either may fail. -/
theorem Simple.exists_path (s : Simple) (st : State) :
    ∃ path, ∀ {r : Renaming} {st' : State} {s' : Simple}, s.action.Twin r s'.action →
      st.Renamed r st' → Outcome.Alike r (s'.place? path) (s.run limit st) (s'.run limit st') := by
  rcases hcount : st.countStep limit s.line s.span with ⟨counted, _ | e⟩
  · obtain ⟨path, hpath⟩ := s.exists_path_perform counted
    refine ⟨path, fun {r st' s'} htwin hst => ?_⟩
    have hcounts := hst.countStep_alike limit s.clause s'.clause s.line s'.line
    exact hcounts.andThen_of_done hcount (hpath htwin)
  · refine ⟨[], fun {r st' s'} _ hst => ?_⟩
    have hcounts := hst.countStep_alike limit s.clause s'.clause s.line s'.line
    exact hcounts.andThen_of_failed hcount

/-- The rounds of a loop fail in the first round in which the body fails. -/
theorem exists_path_runRounds (body : Option Simple) (rounds : List (Option (Text × Value)))
    (st : State) :
    ∃ path, ∀ {r : Renaming} {st' : State} {body' : Option Simple}
      {rounds' : List (Option (Text × Value))},
      Option.Rel (fun s s' => s.action.Twin r s'.action) body body' →
      List.Forall₂ (Option.Rel fun x y => r.Takes x.1 y.1 ∧ x.2 = y.2) rounds rounds' →
      st.Renamed r st' →
      Outcome.Alike r (body'.bind fun s' => s'.place? path) (runRounds limit body rounds st)
        (runRounds limit body' rounds' st') := by
  induction rounds generalizing st with
  | nil =>
    refine ⟨[], fun _ hrounds hst => ?_⟩
    cases hrounds
    exact .done hst
  | cons round rounds ih =>
    cases body with
    | none =>
      obtain ⟨path, hpath⟩ := ih (st.enter round)
      refine ⟨path, fun hbody hrounds hst => ?_⟩
      cases hbody
      cases hrounds with
      | cons hround hrest =>
        have halike := hpath .none hrest (hst.enter hround)
        exact halike
    | some s =>
      obtain ⟨path, hpath⟩ := s.exists_path limit (st.enter round)
      rcases hrun : s.run limit (st.enter round) with ⟨after, _ | e⟩
      · obtain ⟨rest, hrest⟩ := ih after
        refine ⟨rest, fun hbody hrounds hst => ?_⟩
        cases hbody with
        | some htwin =>
          cases hrounds with
          | cons hround hothers =>
            exact (hpath htwin (hst.enter hround)).andThen_of_done hrun
              (hrest (.some htwin) hothers)
      · refine ⟨path, fun hbody hrounds hst => ?_⟩
        cases hbody with
        | some htwin =>
          cases hrounds with
          | cons hround _ => exact (hpath htwin (hst.enter hround)).andThen_of_failed hrun

theorem Block.exists_path_perform (b : Block) (st : State) :
    ∃ (inBody : Bool) (path : List Nat), ∀ {r : Renaming} {st' : State} {b' : Block},
      Statement.Twin r (.block b) (.block b') → st.Renamed r st' →
      Outcome.Alike r (Statement.place? (.block b') inBody path) (b.perform limit st)
        (b'.perform limit st') := by
  obtain ⟨path, hpath⟩ := b.header.exists_path st.scope st.store
  cases hrounds : b.header.rounds st.scope st.store with
  | error blame =>
    refine ⟨false, path, fun {r st' b'} htwin hst => ?_⟩
    cases htwin with
    | block hheader _ =>
      have halike := hpath b'.span hheader hst.scope
      obtain ⟨n, hn, heq⟩ := halike.of_error hrounds
      unfold Block.perform
      rw [hst.store, hrounds, heq]
      exact .failed hst (blame.onLine b.line) (congrArg (Option.map _) hn)
  | ok rounds =>
    obtain ⟨rest, hrest⟩ := exists_path_runRounds limit b.body rounds st
    refine ⟨true, rest, fun {r st' b'} htwin hst => ?_⟩
    cases htwin with
    | block hheader hbody =>
      have halike := hpath b'.span hheader hst.scope
      obtain ⟨rounds', heq, hrounds'⟩ := halike.of_ok hrounds
      unfold Block.perform
      rw [hst.store, hrounds, heq]
      exact hrest hbody hrounds' hst

theorem Statement.exists_path (s : Statement) (st : State) :
    ∃ (inBody : Bool) (path : List Nat), ∀ {r : Renaming} {st' : State} {s' : Statement},
      s.Twin r s' → st.Renamed r st' →
      Outcome.Alike r (s'.place? inBody path) (s.run limit st) (s'.run limit st') := by
  cases s with
  | simple s =>
    obtain ⟨path, hpath⟩ := s.exists_path limit st
    refine ⟨false, path, fun htwin hst => ?_⟩
    cases htwin with
    | simple h => exact hpath h hst
  | block b =>
    rcases hcount : st.countStep limit b.line b.span with ⟨counted, _ | e⟩
    · obtain ⟨inBody, path, hpath⟩ := b.exists_path_perform limit counted
      refine ⟨inBody, path, fun htwin hst => ?_⟩
      cases htwin with
      | @block _ b' hheader hbody =>
        have hcounts := hst.countStep_alike limit (Statement.clause (.block b))
          (Statement.clause (.block b')) b.line b'.line
        exact hcounts.andThen_of_done hcount (hpath (.block hheader hbody))
    · refine ⟨false, [], fun htwin hst => ?_⟩
      cases htwin with
      | @block _ b' _ _ =>
        have hcounts := hst.countStep_alike limit (Statement.clause (.block b))
          (Statement.clause (.block b')) b.line b'.line
        exact hcounts.andThen_of_failed hcount

theorem Statement.exists_path_all (statements : List Statement) (st : State) :
    ∃ (i : Nat) (inBody : Bool) (path : List Nat), ∀ {r : Renaming} {st' : State}
      {statements' : List Statement}, List.Forall₂ (Statement.Twin r) statements statements' →
      st.Renamed r st' →
      Outcome.Alike r (statements'[i]?.bind fun s => s.place? inBody path)
        (Statement.runAll limit statements st) (Statement.runAll limit statements' st') := by
  induction statements generalizing st with
  | nil =>
    refine ⟨0, false, [], fun htwins hst => ?_⟩
    cases htwins
    exact .done hst
  | cons s rest ih =>
    obtain ⟨inBody, path, hpath⟩ := s.exists_path limit st
    rcases hrun : s.run limit st with ⟨after, _ | e⟩
    · obtain ⟨i, inBody', path', hrest⟩ := ih after
      refine ⟨i + 1, inBody', path', fun htwins hst => ?_⟩
      cases htwins with
      | cons h hothers => exact (hpath h hst).andThen_of_done hrun (hrest hothers)
    · refine ⟨0, inBody, path, fun htwins hst => ?_⟩
      cases htwins with
      | cons h _ => exact (hpath h hst).andThen_of_failed hrun

end Run

/-! ## Whole spells -/

/-- Where a node stands in a spell: the number of its statement, whether it is in the body of that,
and the way to it from what its line says. -/
structure Address where
  statement : Nat
  inBody : Bool
  path : List Nat

/-- The node at the address, and its line. -/
def Program.place? (p : Program) (a : Address) : Option (Node × Nat) :=
  p.statements[a.statement]?.bind fun s => s.place? a.inBody a.path

/-- The error blames the node at the address, and is reported on its line. -/
def Program.BlamesAt (p : Program) (a : Address) (e : RunError) : Prop :=
  ∃ n line, p.place? a = some (n, line) ∧ e.span = n.span ∧ e.line = line

/-- Twins print the same, take as many steps and come to the same end: if one fails, so does the
other, for the same reason and at the same address.  They differ only in the name that an error
calls undefined. -/
theorem Program.evaluate_twin (settings : Settings) (p : Program) :
    ∃ address : Address, ∀ (ρ : Text → Text) (q : Program),
      Set.InjOn ρ {name | name ∈ p.variables} → q.plain = (p.rename ρ).plain →
      let e := p.evaluate settings
      let e' := q.evaluate settings
      e'.output = e.output ∧ e'.steps = e.steps ∧
        (e.failure = none ∧ e'.failure = none ∨
          ∃ error error', e.failure = some (.running error) ∧
            e'.failure = some (.running error') ∧ error'.cause = error.cause.rename ρ ∧
            p.BlamesAt address error ∧ q.BlamesAt address error') := by
  obtain ⟨i, inBody, path, hpath⟩ :=
    Statement.exists_path_all settings.maxSteps p.statements .initial
  have hinitial (r : Renaming) : State.initial.Renamed r .initial :=
    ⟨fun _ _ => rfl, rfl, rfl, rfl⟩
  refine ⟨⟨i, inBody, path⟩, fun ρ q hinj hplain => ?_⟩
  -- The spell is a twin of itself, which says at which place in it the error is.
  let same : Renaming := ⟨p.variables, id, Set.injOn_id _⟩
  let r : Renaming := ⟨p.variables, ρ, hinj⟩
  have hself : p.plain = (p.rename same.apply).plain := congrArg Program.plain p.rename_id.symm
  have htwins (r : Renaming) (hnames : p.variables ⊆ r.names) {q : Program}
      (h : q.plain = (p.rename r.apply).plain) :=
    hpath (Program.twins_of_plain_eq hnames h) (hinitial r)
  have hsame := htwins same (List.Subset.refl _) hself
  have htwin := htwins r (List.Subset.refl _) hplain
  unfold Program.evaluate Program.run Evaluation.ofOutcome
  generalize Statement.runAll settings.maxSteps p.statements .initial = o at hsame htwin ⊢
  generalize Statement.runAll settings.maxSteps q.statements .initial = o' at htwin ⊢
  cases htwin with
  | done hst =>
    dsimp only
    rw [hst.printed, hst.steps]
    exact ⟨rfl, rfl, .inl ⟨rfl, rfl⟩⟩
  | failed hst e hplace =>
    obtain ⟨n, line, hplace', he⟩ := hsame.of_failed
    dsimp only
    rw [hst.printed, hst.steps]
    refine ⟨rfl, rfl, .inr ⟨e, _, rfl, rfl, rfl, ⟨n, line, hplace', ?_⟩, _, _, hplace, rfl, rfl⟩⟩
    rw [he]
    exact ⟨rfl, rfl⟩

/-- A loop over a list with two names takes one of them for its items, and the names are those of
calls in the second spell.  The list is longer once the loop has run. -/
theorem Program.evaluate_twin_callees :
    let ρ : Text → Text := fun name =>
      if name = "xs" then "print" else if name = "ys" then "len" else "append"
    let spell (quote : Quote) (n : Nat) (xs ys zs : Text) : Program :=
      ⟨[.simple ⟨.assignment ⟨xs, ⟨n, 2⟩⟩ (.list [.string "é" quote ⟨6, n⟩] ⟨5, n⟩), n, ⟨0, n⟩⟩,
        .simple ⟨.assignment ⟨ys, ⟨n, 3⟩⟩ (.identifier ⟨xs, ⟨7, n⟩⟩), n + 1, ⟨1, n⟩⟩,
        .block ⟨.loop ⟨xs, ⟨n, 4⟩⟩ ⟨xs, ⟨8, n⟩⟩, n + 2, ⟨2, n⟩,
          some ⟨.methodCall ⟨ys, ⟨n, 5⟩⟩ ⟨"append", ⟨9, n⟩⟩ (.identifier ⟨xs, ⟨n, 6⟩⟩), n + 3,
            ⟨3, n⟩⟩⟩,
        .simple ⟨.print (some (.len (.identifier ⟨ys, ⟨n, 7⟩⟩) ⟨4, n⟩)), n + 4, ⟨4, n⟩⟩,
        .simple ⟨.print (some (.identifier ⟨zs, ⟨n, 8⟩⟩)), n + 5, ⟨5, n⟩⟩], ⟨0, n⟩⟩
    let p := spell .single 1 "xs" "ys" "zs"
    let q := spell .double 2 "print" "len" "append"
    Set.InjOn ρ {name | name ∈ p.variables} ∧ q.plain = (p.rename ρ).plain ∧
      p.evaluate {} = ⟨"2", 6, some (.running ⟨⟨.undefinedName "zs", ⟨1, 8⟩⟩, 6⟩)⟩ ∧
      (q.evaluate {}).output = "2" ∧ (q.evaluate {}).steps = 6 ∧
      ∃ error', (q.evaluate {}).failure = some (.running error') ∧
        error'.cause = .undefinedName "append" := by
  intro ρ spell p q
  have hinj : Set.InjOn ρ {name | name ∈ p.variables} := by
    have hapart : ∀ a ∈ p.variables, ∀ b ∈ p.variables, ρ a = ρ b → a = b := by decide +kernel
    exact fun a ha b hb => hapart a ha b hb
  have hplain : q.plain = (p.rename ρ).plain := rfl
  have hp : p.evaluate {} =
      ⟨"2", 6, some (.running ⟨⟨.undefinedName "zs", ⟨1, 8⟩⟩, 6⟩)⟩ := by decide +kernel
  obtain ⟨address, htwins⟩ := Program.evaluate_twin {} p
  obtain ⟨houtput, hsteps, hfailure⟩ := htwins ρ q hinj hplain
  rw [hp] at houtput hsteps hfailure
  refine ⟨hinj, hplain, hp, houtput, hsteps, ?_⟩
  rcases hfailure with ⟨hnone, -⟩ | ⟨error, error', herror, hfailure, hcause, -, -⟩
  · exact nomatch hnone
  · obtain rfl := Failure.running.inj (Option.some.inj herror)
    exact ⟨error', hfailure, hcause⟩

end Spellbook
