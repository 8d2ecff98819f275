import Spellbook.Store.Basic

/-!
# Stores that grow

A store gets new lists, and lists get new items behind those they have.  No list goes away and no
item changes its place, and a value that points into the store keeps doing so.
-/

namespace Spellbook

/-- If the value is a list, it is one of the lists of the store. -/
def Value.IsIn (s : Store) : Value → Prop
  | .list handle => handle < s.size
  | .string _ => True
  | .integer _ => True
  | .boolean _ => True

theorem Value.IsIn.mono {s s' : Store} {v : Value} (h : v.IsIn s) (hle : s.size ≤ s'.size) :
    v.IsIn s' := by
  cases v with
  | list handle => exact Nat.lt_of_lt_of_le h hle
  | string | integer | boolean => trivial

namespace Store

variable {s s' s'' : Store} {items : List Value} {target : Handle} {v : Value}

/-! ## Sound stores -/

/-- Every list that is an item of a list of the store is a list of the store. -/
def Sound (s : Store) : Prop := ∀ handle, ∀ v ∈ s.items handle, v.IsIn s

theorem sound_empty : empty.Sound := by
  intro handle v hv
  rw [items_of_size_le (Nat.zero_le handle)] at hv
  exact absurd hv (Array.not_mem_empty v)

theorem Sound.allocate (h : s.Sound) (hitems : ∀ v ∈ items, v.IsIn s) :
    (s.allocate items).2.Sound := by
  have hle : s.size ≤ (s.allocate items).2.size := by
    rw [size_allocate]
    omega
  intro handle v hv
  rw [items_allocate] at hv
  split at hv
  · exact (hitems v (List.mem_toArray.1 hv)).mono hle
  · exact (h handle v hv).mono hle

theorem Sound.append (h : s.Sound) (hv : v.IsIn s) : (s.append target v).Sound := by
  have hle : s.size ≤ (s.append target v).size := Nat.le_of_eq (size_append s target v).symm
  intro handle w hw
  rw [items_append] at hw
  split at hw
  · rcases Array.mem_push.1 hw with hw | rfl
    · exact (h handle w hw).mono hle
    · exact hv.mono hle
  · exact (h handle w hw).mono hle

/-! ## More lists -/

/-- The second store has the lists of the first as they are, and may have more. -/
structure Extends (s s' : Store) : Prop where
  size_le : s.size ≤ s'.size
  items_eq : ∀ handle < s.size, s'.items handle = s.items handle

theorem Extends.refl (s : Store) : s.Extends s := ⟨Nat.le_refl _, fun _ _ => rfl⟩

theorem Extends.trans (h : s.Extends s') (h' : s'.Extends s'') : s.Extends s'' := by
  refine ⟨Nat.le_trans h.size_le h'.size_le, ?_⟩
  intro handle hlt
  rw [h'.items_eq handle (Nat.lt_of_lt_of_le hlt h.size_le), h.items_eq handle hlt]

theorem extends_allocate (s : Store) (items : List Value) : s.Extends (s.allocate items).2 := by
  refine ⟨?_, ?_⟩
  · rw [size_allocate]
    omega
  · intro handle hlt
    rw [items_allocate, if_neg (Nat.ne_of_lt hlt)]

/-! ## More items -/

/-- The second store has the lists of the first with their items in front, and may have more
lists and more items. -/
structure Grows (s s' : Store) : Prop where
  size_le : s.size ≤ s'.size
  items_isPrefix : ∀ handle < s.size, (s.items handle).toList <+: (s'.items handle).toList

theorem Extends.grows (h : s.Extends s') : s.Grows s' := by
  refine ⟨h.size_le, ?_⟩
  intro handle hlt
  simp only [h.items_eq handle hlt, List.prefix_rfl]

theorem Grows.trans (h : s.Grows s') (h' : s'.Grows s'') : s.Grows s'' := by
  refine ⟨Nat.le_trans h.size_le h'.size_le, ?_⟩
  intro handle hlt
  have hlt' := Nat.lt_of_lt_of_le hlt h.size_le
  exact (h.items_isPrefix handle hlt).trans (h'.items_isPrefix handle hlt')

theorem grows_append (s : Store) (target : Handle) (v : Value) : s.Grows (s.append target v) := by
  refine ⟨Nat.le_of_eq (size_append s target v).symm, ?_⟩
  intro handle _
  rw [items_append]
  split
  · rw [Array.toList_push]
    exact List.prefix_append _ _
  · exact List.prefix_rfl

end Store

end Spellbook
