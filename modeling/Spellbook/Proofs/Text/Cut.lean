import Spellbook.Text.Basic

/-!
# Where a text is cut

A text in two parts tells its parts if no character of the second kind stands in the first part:
the cut is then at the end of the longest front of one kind, or right before a character that the
front does not hold.
-/

namespace Spellbook.Text

variable {p : Char → Bool} {v w s t : Text} {d : Char}

theorem dropWhile_append_of_head (hv : v.all p) (hs : s.head?.any p = false) :
    (v ++ s).dropWhile p = s := by
  rw [List.dropWhile_append_of_pos (List.all_eq_true.1 hv)]
  cases s with
  | nil => rfl
  | cons d t => exact List.dropWhile_cons_of_neg (by simpa using hs)

theorem takeWhile_append_of_head (hv : v.all p) (hs : s.head?.any p = false) :
    (v ++ s).takeWhile p = v := by
  have happend := List.takeWhile_append_dropWhile (p := p) (l := v ++ s)
  rw [dropWhile_append_of_head hv hs] at happend
  exact List.append_cancel_right happend

/-- A text begins as its first part does. -/
theorem head_of_append (hne : v ≠ []) (hv : v.all p) (h : v ++ s = d :: t) : p d = true := by
  obtain ⟨c, v, rfl⟩ := List.exists_cons_of_ne_nil hne
  obtain rfl : c = d := (List.cons.inj h).1
  exact List.all_eq_true.1 hv c List.mem_cons_self

/-- Two texts that are cut at the end of the same kind of characters have the same parts. -/
theorem append_inj_of_head (hv : v.all p) (hw : w.all p) (hs : s.head?.any p = false)
    (ht : t.head?.any p = false) (h : v ++ s = w ++ t) : v = w ∧ s = t := by
  constructor
  · rw [← takeWhile_append_of_head hv hs, h, takeWhile_append_of_head hw ht]
  · rw [← dropWhile_append_of_head hv hs, h, dropWhile_append_of_head hw ht]

theorem all_ne_of_notMem (h : d ∉ v) : v.all (fun e => e != d) := by
  rw [List.all_eq_true]
  intro e he
  rw [bne_iff_ne]
  rintro rfl
  exact h he

theorem takeWhile_ne (h : d ∉ v) (t : Text) : (v ++ d :: t).takeWhile (fun e => e != d) = v :=
  takeWhile_append_of_head (all_ne_of_notMem h) (by simp)

theorem dropWhile_ne (h : d ∉ v) (t : Text) :
    (v ++ d :: t).dropWhile (fun e => e != d) = d :: t :=
  dropWhile_append_of_head (all_ne_of_notMem h) (by simp)

/-- Two texts that are cut at the first occurrence of the same character have the same parts. -/
theorem append_cons_inj_of_notMem (hv : d ∉ v) (hw : d ∉ w) (h : v ++ d :: s = w ++ d :: t) :
    v = w ∧ s = t := by
  have hparts := append_inj_of_head (all_ne_of_notMem hv) (all_ne_of_notMem hw) (by simp)
    (by simp) h
  exact ⟨hparts.1, (List.cons.inj hparts.2).2⟩

end Spellbook.Text
