import Spellbook.Text.Blank
import Spellbook.Text.Lines

/-!
# Trimmed texts

A text that goes on after its trimmed end goes on after the whole of it: what is trimmed from the
front of a longer text comes back as soon as something visible follows.  A text that is trimmed at
both ends loses nothing but blanks, and begins with a visible character unless it is empty.  A text
clips to another one if it has blanks at its ends in addition (`Clips`); both are the same trimmed.
-/

namespace Spellbook.Text

theorem trimEnd_append (t u : Text) :
    trimEnd (t ++ u) = if trimEnd u = [] then trimEnd t else t ++ trimEnd u := by
  unfold trimEnd
  rw [List.reverse_append, List.dropWhile_append]
  simp only [List.isEmpty_iff, List.reverse_eq_nil_iff]
  split
  · rfl
  · rw [List.reverse_append, List.reverse_reverse]

theorem trimEnd_isPrefix (t : Text) : trimEnd t <+: t := by
  unfold trimEnd
  rw [← List.reverse_suffix, List.reverse_reverse]
  exact List.dropWhile_suffix _

/-- Trimming keeps the order of texts by their fronts. -/
theorem trimEnd_mono {t u : Text} (h : t <+: u) : trimEnd t <+: trimEnd u := by
  obtain ⟨more, rfl⟩ := h
  rw [trimEnd_append]
  split
  · exact List.prefix_rfl
  · exact (trimEnd_isPrefix t).trans (List.prefix_append _ _)

/-- What is trimmed from the end of a text is blank. -/
theorem exists_eq_trimEnd_append (t : Text) : ∃ back, t = trimEnd t ++ back ∧ back.all isBlank := by
  refine ⟨(t.reverse.takeWhile isBlank).reverse, ?_, ?_⟩
  · unfold trimEnd
    rw [← List.reverse_append, List.takeWhile_append_dropWhile, List.reverse_reverse]
  · rw [List.all_reverse]
    exact List.all_takeWhile

/-- The text ends with a character that is not blank. -/
def EndsVisible (t : Text) : Prop := ∃ c ∈ t.getLast?, isBlank c = false

theorem endsVisible_iff {t : Text} : EndsVisible t ↔ t ≠ [] ∧ trimEnd t = t := by
  have hlast (front : Text) (c : Char) :
      trimEnd (front ++ [c]) = if isBlank c then trimEnd front else front ++ [c] := by
    by_cases hc : isBlank c <;> simp [trimEnd, hc]
  constructor
  · intro h
    obtain ⟨c, hc, hvisible⟩ := h
    obtain ⟨front, rfl⟩ := List.getLast?_eq_some_iff.1 hc
    refine ⟨List.append_ne_nil_of_right_ne_nil _ (List.cons_ne_nil _ _), ?_⟩
    rw [hlast, hvisible]
    rfl
  · intro h
    obtain ⟨hne, htrim⟩ := h
    refine ⟨t.getLast hne, List.getLast?_eq_some_getLast hne, ?_⟩
    cases hblank : isBlank (t.getLast hne) with
    | false => rfl
    | true =>
      -- Then the trimmed text would be shorter.
      have hshort := hlast t.dropLast (t.getLast hne)
      rw [List.dropLast_concat_getLast, htrim, if_pos hblank] at hshort
      have hle := (trimEnd_isPrefix t.dropLast).length_le
      have hpos := List.length_pos_iff.2 hne
      rw [← hshort, List.length_dropLast] at hle
      omega

/-! ## Both ends -/

/-- What is trimmed from a text is blank. -/
theorem exists_eq_append_trim (t : Text) : ∃ front back,
    t = front ++ trim t ++ back ∧ front.all isBlank ∧ back.all isBlank := by
  obtain ⟨back, hback, hblank⟩ := exists_eq_trimEnd_append (trimStart t)
  refine ⟨t.takeWhile isBlank, back, ?_, List.all_takeWhile, hblank⟩
  unfold trim
  rw [List.append_assoc, ← hback]
  exact List.takeWhile_append_dropWhile.symm

/-- The text begins with a character that is not blank. -/
def BeginsVisible (t : Text) : Prop := ∃ c rest, t = c :: rest ∧ isBlank c = false

theorem BeginsVisible.append {t : Text} (h : BeginsVisible t) (u : Text) :
    BeginsVisible (t ++ u) := by
  obtain ⟨c, rest, rfl, hc⟩ := h
  exact ⟨c, rest ++ u, rfl, hc⟩

theorem BeginsVisible.ne_nil {t : Text} (h : BeginsVisible t) : t ≠ [] := by
  obtain ⟨c, rest, rfl, -⟩ := h
  exact List.cons_ne_nil c rest

theorem beginsVisible_trim {t : Text} (h : trim t ≠ []) : BeginsVisible (trim t) := by
  obtain ⟨c, rest, htrim⟩ := List.exists_cons_of_ne_nil h
  obtain ⟨back, hback⟩ : trim t <+: t.dropWhile isBlank := trimEnd_isPrefix _
  have hdrop : t.dropWhile isBlank = c :: (rest ++ back) := by rw [← hback, htrim, List.cons_append]
  have hvisible := List.head?_dropWhile_not isBlank t
  rw [hdrop] at hvisible
  exact ⟨c, rest, htrim, hvisible⟩

/-! ## Blanks at the ends -/

/-- The text becomes the other one if some of the blanks at its ends are dropped. -/
def Clips (t u : Text) : Prop :=
  ∃ front back, t = front ++ u ++ back ∧ front.all isBlank ∧ back.all isBlank

theorem Clips.trans {t u v : Text} (htu : Clips t u) (huv : Clips u v) : Clips t v := by
  obtain ⟨front, back, rfl, hfront, hback⟩ := htu
  obtain ⟨front', back', rfl, hfront', hback'⟩ := huv
  refine ⟨front ++ front', back' ++ back, by simp only [List.append_assoc], ?_, ?_⟩
  · rw [List.all_append, hfront, hfront', Bool.and_self]
  · rw [List.all_append, hback, hback', Bool.and_self]

theorem clips_trim (t : Text) : Clips t (trim t) := exists_eq_append_trim t

theorem clips_dropCarriage (t : Text) : Clips t (dropCarriage t) := by
  unfold dropCarriage
  split
  · next hlast =>
    obtain ⟨front, rfl⟩ := List.getLast?_eq_some_iff.1 hlast
    rw [List.dropLast_concat]
    exact ⟨[], ['\r'], rfl, rfl, by decide⟩
  · exact ⟨[], [], (List.append_nil t).symm, rfl, rfl⟩

/-- A trimmed text does not end with a carriage return. -/
theorem dropCarriage_trim (t : Text) : dropCarriage (trim t) = trim t := by
  unfold dropCarriage
  rw [if_neg]
  intro hlast
  unfold trim trimEnd at hlast
  rw [List.getLast?_reverse] at hlast
  have hvisible := List.head?_dropWhile_not isBlank (trimStart t).reverse
  rw [hlast] at hvisible
  exact absurd hvisible (by decide)

theorem Clips.isInfix {t u : Text} (h : Clips t u) : u <:+: t := by
  obtain ⟨front, back, rfl, -, -⟩ := h
  exact ⟨front, back, rfl⟩

theorem trimStart_append_of_blank {front : Text} (h : front.all isBlank) (t : Text) :
    trimStart (front ++ t) = trimStart t := by
  unfold trimStart
  exact List.dropWhile_append_of_pos (List.all_eq_true.1 h)

theorem trimStart_eq_nil_of_blank {t : Text} (h : t.all isBlank) : trimStart t = [] := by
  have hstart := trimStart_append_of_blank h []
  rwa [List.append_nil] at hstart

theorem trimEnd_eq_nil_of_blank {t : Text} (h : t.all isBlank) : trimEnd t = [] := by
  have hreverse : t.reverse.all isBlank := by rwa [List.all_reverse]
  have hstart : t.reverse.dropWhile isBlank = [] := trimStart_eq_nil_of_blank hreverse
  unfold trimEnd
  rw [hstart, List.reverse_nil]

theorem trim_append_of_blank {back : Text} (h : back.all isBlank) (t : Text) :
    trim (t ++ back) = trim t := by
  have hback : back.dropWhile isBlank = [] := trimStart_eq_nil_of_blank h
  unfold trim trimStart
  rw [List.dropWhile_append]
  split
  · next hnil => rw [List.isEmpty_iff.1 hnil, hback]
  · rw [trimEnd_append, if_pos (trimEnd_eq_nil_of_blank h)]

theorem Clips.trim_eq {t u : Text} (h : Clips t u) : trim t = trim u := by
  obtain ⟨front, back, rfl, hfront, hback⟩ := h
  rw [trim_append_of_blank hback]
  unfold trim
  rw [trimStart_append_of_blank hfront]

end Spellbook.Text
