import Spellbook.Store.Basic

/-!
# Scope

The names that a spell has bound, each to one value.  A name stays bound from its first
definition on; defining it again replaces its value.
-/

namespace Spellbook

/-- The bound names with their values, in the order of their first definition. -/
structure Scope where
  bindings : List (Text × Value)

namespace Scope

/-- The scope in which nothing is bound. -/
def empty : Scope := ⟨[]⟩

/-- The number of bound names. -/
def size (s : Scope) : Nat := s.bindings.length

/-- The value that a name is bound to. -/
def find? (s : Scope) (name : Text) : Option Value := s.bindings.lookup name

/-- The bindings with the name bound to the value. -/
def bind (name : Text) (v : Value) : List (Text × Value) → List (Text × Value)
  | [] => [(name, v)]
  | (other, w) :: rest =>
    if other = name then (name, v) :: rest else (other, w) :: bind name v rest

/-- The scope in which the name has the value. -/
def define (s : Scope) (name : Text) (v : Value) : Scope := ⟨bind name v s.bindings⟩

theorem lookup_bind (name other : Text) (v : Value) (l : List (Text × Value)) :
    (bind name v l).lookup other = if other = name then some v else l.lookup other := by
  induction l with
  | nil =>
    simp only [bind, List.lookup_cons, List.lookup_nil]
    split <;> simp_all
  | cons entry rest ih =>
    obtain ⟨key, w⟩ := entry
    simp only [bind]
    split
    · next hkey =>
      subst hkey
      by_cases h : other = key
      · simp [h]
      · simp [List.lookup_cons, h, beq_false_of_ne h]
    · simp only [List.lookup_cons, ih]
      split <;> simp_all

@[simp] theorem find?_define (s : Scope) (name other : Text) (v : Value) :
    (s.define name v).find? other = if other = name then some v else s.find? other :=
  lookup_bind name other v s.bindings

end Scope

end Spellbook
