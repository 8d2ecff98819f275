import Spellbook.Text.Lines

/-!
# Pieces between newlines

Cutting a text at its newlines is the library's `splitOn`.  Two texts with a newline between them
have the pieces of the one and then the pieces of the other, and the pieces joined by newlines are
the text again.  A piece is its line and at most one carriage return.
-/

namespace Spellbook.Text

theorem splitNewlines_eq_splitOn (t : Text) : splitNewlines t = t.splitOn '\n' := by
  rw [List.splitOn_eq_splitOnP]
  induction t with
  | nil => rfl
  | cons c t ih =>
    rw [List.splitOnP_cons_eq_if_modifyHead, ← ih, splitNewlines]
    by_cases hc : c = '\n'
    · rw [if_pos hc, if_pos (beq_iff_eq.2 hc)]
    · rw [if_neg hc, if_neg (mt beq_iff_eq.1 hc)]
      obtain ⟨piece, pieces, hpieces⟩ := List.exists_cons_of_ne_nil (splitNewlines_ne_nil t)
      rw [hpieces]
      rfl

theorem splitNewlines_append (s t : Text) :
    splitNewlines (s ++ "\n" ++ t) = splitNewlines s ++ splitNewlines t := by
  have hnewline : s ++ "\n" ++ t = s ++ '\n' :: t := by simp
  rw [hnewline]
  simp only [splitNewlines_eq_splitOn, List.splitOn_eq_splitOnP]
  exact List.splitOnP_append_cons s t (by decide)

theorem splitNewlines_of_notMem {t : Text} (h : '\n' ∉ t) : splitNewlines t = [t] := by
  rw [splitNewlines_eq_splitOn, List.splitOn_eq_singleton h]

theorem join_splitNewlines (t : Text) : join "\n" (splitNewlines t) = t := by
  rw [splitNewlines_eq_splitOn]
  exact List.intercalate_splitOn '\n'

theorem newline_notMem_of_mem {t piece : Text} (h : piece ∈ splitNewlines t) : '\n' ∉ piece := by
  induction t generalizing piece with
  | nil =>
    obtain rfl := List.mem_singleton.1 h
    exact List.not_mem_nil
  | cons c t ih =>
    rw [splitNewlines] at h
    split at h
    · rcases List.mem_cons.1 h with rfl | h
      · exact List.not_mem_nil
      · exact ih h
    · next hc =>
      split at h
      · next hnil => exact absurd hnil (splitNewlines_ne_nil t)
      · next first others hpieces =>
        rw [hpieces] at ih
        rcases List.mem_cons.1 h with rfl | h
        · rw [List.mem_cons, not_or]
          exact ⟨Ne.symm hc, ih List.mem_cons_self⟩
        · exact ih (List.mem_cons_of_mem _ h)

/-- A text is one line, or one line in front of a text. -/
theorem lines_induction {motive : Text → Prop} (last : ∀ t, '\n' ∉ t → motive t)
    (line : ∀ a b, '\n' ∉ a → motive b → motive (a ++ "\n" ++ b)) (t : Text) : motive t := by
  induction hlength : t.length using Nat.strongRecOn generalizing t with
  | ind length ih =>
    subst hlength
    by_cases hnewline : '\n' ∈ t
    · obtain ⟨a, b, rfl, ha⟩ := List.eq_append_cons_of_mem hnewline
      have hshorter : b.length < (a ++ '\n' :: b).length := by
        rw [List.length_append, List.length_cons]
        omega
      have hcut : a ++ '\n' :: b = a ++ "\n" ++ b := by simp
      rw [hcut]
      exact line a b ha (ih b.length hshorter b rfl)
    · exact last t hnewline

/-! ## Carriage returns -/

theorem dropCarriage_isPrefix (t : Text) : dropCarriage t <+: t := by
  unfold dropCarriage
  split
  · exact List.dropLast_prefix t
  · exact List.prefix_rfl

theorem head?_dropCarriage {c : Char} (hc : c ≠ '\r') (t : Text) :
    (dropCarriage (c :: t)).head? = some c := by
  unfold dropCarriage
  split
  · next hlast =>
    cases t with
    | nil => exact absurd (Option.some.inj hlast) hc
    | cons d t => rfl
  · rfl

theorem newline_notMem_dropCarriage {t : Text} (h : '\n' ∉ t) : '\n' ∉ dropCarriage t :=
  fun hmem => h ((dropCarriage_isPrefix t).subset hmem)

/-- What is dropped is one carriage return or nothing, and nothing only if there is none to drop. -/
theorem exists_carriage (t : Text) : ∃ carriage, t = dropCarriage t ++ carriage ∧
    (carriage = [] ∧ (dropCarriage t).getLast? ≠ some '\r' ∨ carriage = ['\r']) := by
  unfold dropCarriage
  split
  · next hlast =>
    obtain ⟨front, rfl⟩ := List.getLast?_eq_some_iff.1 hlast
    exact ⟨['\r'], by rw [List.dropLast_concat], .inr rfl⟩
  · next hlast => exact ⟨[], (List.append_nil t).symm, .inl ⟨rfl, hlast⟩⟩

/-- Between a line and the next one there is a newline, or a carriage return and a newline. -/
theorem exists_ending (t : Text) : ∃ ending, t ++ "\n" = dropCarriage t ++ ending ∧
    (ending = "\n".toList ∧ (dropCarriage t).getLast? ≠ some '\r' ∨ ending = "\r\n".toList) := by
  obtain ⟨carriage, ht, hcarriage⟩ := exists_carriage t
  refine ⟨carriage ++ "\n", ?_, ?_⟩
  · rw [← List.append_assoc, ← ht]
  · rcases hcarriage with ⟨rfl, hlast⟩ | rfl
    · exact .inl ⟨rfl, hlast⟩
    · exact .inr rfl

end Spellbook.Text
