import Spellbook.Text.Basic

/-!
# Values and the store

A value is a string, an integer, a truth value, or a handle of a list.  The store holds the
items of every list, so that two names for one list see the same items, and a list can hold
itself.  A handle that points to no list stands for a list without items.
-/

namespace Spellbook

/-- The place of a list in the store. -/
abbrev Handle := Nat

/-- A value of a running spell. -/
inductive Value where
  | string (text : Text)
  | integer (number : Int)
  | boolean (truth : Bool)
  | list (handle : Handle)
deriving DecidableEq

/-- What sort of value a value is. -/
inductive Kind where
  | string
  | integer
  | boolean
  | list
deriving DecidableEq

/-- The name of the kind, as messages give it. -/
def Kind.name : Kind → Text
  | string => "String"
  | integer => "Integer"
  | boolean => "Boolean"
  | list => "List"

namespace Value

/-- The kind of the value. -/
def kind : Value → Kind
  | string _ => .string
  | integer _ => .integer
  | boolean _ => .boolean
  | list _ => .list

/-- The handle of a list. -/
def handle? : Value → Option Handle
  | list handle => some handle
  | _ => none

/-- The truth of a truth value. -/
def truth? : Value → Option Bool
  | boolean truth => some truth
  | _ => none

end Value

/-- The items of every list, by handle. -/
structure Store where
  lists : Array (Array Value)

namespace Store

/-- The store without lists. -/
def empty : Store := ⟨#[]⟩

/-- The number of lists. -/
def size (s : Store) : Nat := s.lists.size

/-- The items of a list. -/
def items (s : Store) (handle : Handle) : Array Value := s.lists[handle]?.getD #[]

/-- A new list with the given items. -/
def allocate (s : Store) (items : List Value) : Handle × Store :=
  (s.lists.size, ⟨s.lists.push items.toArray⟩)

/-- The store after a value has been put at the end of a list. -/
def append (s : Store) (handle : Handle) (v : Value) : Store :=
  ⟨s.lists.modify handle fun items => items.push v⟩

@[simp] theorem size_allocate (s : Store) (items : List Value) :
    (s.allocate items).2.size = s.size + 1 := by
  simp [allocate, size]

@[simp] theorem size_append (s : Store) (handle : Handle) (v : Value) :
    (s.append handle v).size = s.size := by
  simp [append, size]

theorem items_allocate (s : Store) (items : List Value) (handle : Handle) :
    (s.allocate items).2.items handle =
      if handle = s.size then items.toArray else s.items handle := by
  by_cases h : handle = s.lists.size <;> simp [allocate, Store.items, size, Array.getElem?_push, h]

theorem items_append (s : Store) (target : Handle) (v : Value) (handle : Handle) :
    (s.append target v).items handle =
      if handle = target ∧ handle < s.size then (s.items handle).push v else s.items handle := by
  by_cases hlt : handle < s.lists.size
  · by_cases h : target = handle
    · subst h
      simp [append, Store.items, size, hlt, Array.getElem_modify]
    · simp [append, Store.items, size, Array.getElem?_modify, h, Ne.symm h]
  · simp [append, Store.items, size, hlt]

theorem items_of_size_le {s : Store} {handle : Handle} (h : s.size ≤ handle) :
    s.items handle = #[] := by
  simp [items, Array.getElem?_eq_none h]

/-! ## Counting what is left to visit -/

/-- A count drops when its condition gets narrower and loses a member of the list. -/
theorem countP_lt_countP {α : Type} {p q : α → Bool} {l : List α} {y : α}
    (himp : ∀ x ∈ l, p x = true → q x = true) (hy : y ∈ l) (hq : q y = true)
    (hp : p y = false) : l.countP p < l.countP q := by
  induction l with
  | nil => simp at hy
  | cons x l ih =>
    have htail : l.countP p ≤ l.countP q :=
      List.countP_mono_left fun z hz => himp z (List.mem_cons_of_mem _ hz)
    have hhead := himp x List.mem_cons_self
    rcases List.mem_cons.1 hy with rfl | hmem
    · simp only [List.countP_cons, hp, hq, if_true]
      simpa using Nat.lt_succ_of_le htail
    · have hlt := ih (fun z hz => himp z (List.mem_cons_of_mem _ hz)) hmem
      have hstep : (if p x = true then 1 else 0) ≤ (if q x = true then 1 else 0) := by
        cases hp' : p x with
        | false => exact Nat.zero_le _
        | true => simp [hhead hp']
      simp only [List.countP_cons]
      exact Nat.add_lt_add_of_lt_of_le hlt hstep

/-- A number that no list of the store has more items than: the number of all items. -/
def itemBound (s : Store) : Nat := s.lists.toList.foldr (fun items n => items.size + n) 0

theorem size_items_le (s : Store) (handle : Handle) : (s.items handle).size ≤ s.itemBound := by
  cases h : s.lists[handle]? with
  | none => simp [items, h]
  | some l =>
    have hmem : l ∈ s.lists.toList := by
      simpa using Array.mem_of_getElem? h
    have hle : ∀ ls : List (Array Value), l ∈ ls →
        l.size ≤ ls.foldr (fun items n => items.size + n) 0 := by
      intro ls
      induction ls with
      | nil => simp
      | cons m ls ih =>
        intro hl
        rcases List.mem_cons.1 hl with rfl | hl
        · simp
        · simpa using Nat.le_add_left_of_le (ih hl)
    simpa [items, h, itemBound] using hle _ hmem

end Store

end Spellbook
