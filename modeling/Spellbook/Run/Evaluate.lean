import Spellbook.Run.RunError
import Spellbook.Run.Scope
import Spellbook.Store.Equality
import Spellbook.Syntax.Basic

/-!
# Evaluation

The value of an expression and the truth of a condition.  Parts are evaluated from left to
right, and the first that fails decides the blame.  A list in brackets is a new list each time
it is evaluated, so evaluating can add lists to the store; it changes nothing else, and what a
condition adds is out of reach once its truth is known.
-/

namespace Spellbook

/-- The value of a name. -/
def Identifier.value (scope : Scope) (i : Identifier) : Except (Blame RunCause) Value :=
  match scope.find? i.name with
  | some v => .ok v
  | none => .error ⟨.undefinedName i.name, i.span⟩

mutual

/-- The value of an expression, and the store with the lists that it made.  A length that is no
integer of a spell is told as the largest one that is. -/
def Expression.evaluate (scope : Scope) (store : Store) :
    Expression → Except (Blame RunCause) (Value × Store)
  | .identifier i => (i.value scope).map fun v => (v, store)
  | .boolean value _ => .ok (.boolean value, store)
  | .integer value _ => .ok (.integer value, store)
  | .string value _ _ => .ok (.string value, store)
  | .list elements _ =>
    match Expression.evaluateAll scope store elements with
    | .error blame => .error blame
    | .ok (items, store) =>
      let (handle, store) := store.allocate items
      .ok (.list handle, store)
  | .len argument _ =>
    match argument.evaluate scope store with
    | .error blame => .error blame
    | .ok (.list handle, store) =>
      .ok (.integer (min (store.items handle).size maxInteger : Nat), store)
    | .ok (v, _) => .error ⟨.misuse .length v.kind, argument.span⟩

/-- The values of expressions from left to right, and the store with the lists that they
made. -/
def Expression.evaluateAll (scope : Scope) (store : Store) :
    List Expression → Except (Blame RunCause) (List Value × Store)
  | [] => .ok ([], store)
  | e :: es =>
    match e.evaluate scope store with
    | .error blame => .error blame
    | .ok (v, store) =>
      match Expression.evaluateAll scope store es with
      | .error blame => .error blame
      | .ok (vs, store) => .ok (v :: vs, store)

end

/-- The truth of a term. -/
def Term.evaluate (scope : Scope) (store : Store) : Term → Except (Blame RunCause) Bool
  | .membership element collection =>
    match element.evaluate scope store with
    | .error blame => .error blame
    | .ok (v, store) =>
      match collection.evaluate scope store with
      | .error blame => .error blame
      | .ok (.list handle, store) => .ok (store.holds handle v)
      | .ok (w, _) => .error ⟨.misuse .search w.kind, collection.span⟩
  | .equality left right =>
    match left.evaluate scope store with
    | .error blame => .error blame
    | .ok (v, store) =>
      match right.evaluate scope store with
      | .error blame => .error blame
      | .ok (w, store) => .ok (store.equal v w)
  | .name i =>
    match i.value scope with
    | .error blame => .error blame
    | .ok (.boolean truth) => .ok truth
    | .ok v => .error ⟨.misuse .condition v.kind, i.span⟩
  | .constant value _ => .ok value

/-- Whether all terms are true.  The terms behind one that is false are not looked at. -/
def Term.evaluateAll (scope : Scope) (store : Store) :
    List Term → Except (Blame RunCause) Bool
  | [] => .ok true
  | t :: ts =>
    match t.evaluate scope store with
    | .error blame => .error blame
    | .ok false => .ok false
    | .ok true => Term.evaluateAll scope store ts

/-- The truth of a condition. -/
def Condition.evaluate (scope : Scope) (store : Store) (c : Condition) :
    Except (Blame RunCause) Bool :=
  Term.evaluateAll scope store c.terms

end Spellbook
