import Spellbook.Text.Basic

/-!
# Joined texts

What joining does to one more part at the end, and to fewer parts.  Both a spell, which is joined
from its entries, and an output, which is joined from what was printed, grow at the end only.
-/

namespace Spellbook.Text

@[simp] theorem join_nil (separator : Text) : join separator [] = [] := rfl

@[simp] theorem join_singleton (separator part : Text) : join separator [part] = part := by
  unfold join
  exact List.intercalate_singleton

theorem join_cons_of_ne_nil (separator part : Text) {parts : List Text} (h : parts ≠ []) :
    join separator (part :: parts) = part ++ separator ++ join separator parts := by
  unfold join
  rw [List.intercalate_cons_of_ne_nil h, List.append_assoc]

theorem join_append_of_ne_nil (separator : Text) {parts more : List Text}
    (hparts : parts ≠ []) (hmore : more ≠ []) :
    join separator (parts ++ more) =
      join separator parts ++ separator ++ join separator more := by
  induction parts with
  | nil => exact absurd rfl hparts
  | cons part parts ih =>
    by_cases hrest : parts = []
    · subst hrest
      rw [List.singleton_append, join_cons_of_ne_nil separator part hmore, join_singleton]
    · have happend : parts ++ more ≠ [] := by simp [hrest]
      rw [List.cons_append, join_cons_of_ne_nil separator part happend, ih hrest,
        join_cons_of_ne_nil separator part hrest]
      simp only [List.append_assoc]

/-- With one more separator in front, each part stands behind a separator. -/
theorem append_join (separator : Text) {parts : List Text} (h : parts ≠ []) :
    separator ++ join separator parts = parts.flatMap (separator ++ ·) := by
  induction parts with
  | nil => exact absurd rfl h
  | cons part parts ih =>
    rw [List.flatMap_cons]
    by_cases hrest : parts = []
    · subst hrest
      rw [join_singleton, List.flatMap_nil, List.append_nil]
    · rw [join_cons_of_ne_nil separator part hrest, List.append_assoc, ih hrest,
        ← List.append_assoc]

/-- Nothing is joined to the empty text but nothing itself, if no part is empty. -/
theorem join_eq_nil_iff {separator : Text} {parts : List Text} (h : [] ∉ parts) :
    join separator parts = [] ↔ parts = [] := by
  constructor
  · intro hjoin
    cases parts with
    | nil => rfl
    | cons part parts =>
      have hpart : part ≠ [] := by
        rintro rfl
        exact h List.mem_cons_self
      by_cases hrest : parts = []
      · subst hrest
        rw [join_singleton] at hjoin
        exact absurd hjoin hpart
      · rw [join_cons_of_ne_nil separator part hrest] at hjoin
        simp [hpart] at hjoin
  · rintro rfl
    rfl

/-- The parts joined before are the front of all parts joined. -/
theorem join_isPrefix (separator : Text) {parts all : List Text} (h : parts <+: all) :
    join separator parts <+: join separator all := by
  obtain ⟨more, rfl⟩ := h
  by_cases hparts : parts = []
  · subst hparts
    exact List.nil_prefix
  by_cases hmore : more = []
  · subst hmore
    simp only [List.append_nil, List.prefix_rfl]
  · rw [join_append_of_ne_nil separator hparts hmore, List.append_assoc]
    exact List.prefix_append _ _

end Spellbook.Text
