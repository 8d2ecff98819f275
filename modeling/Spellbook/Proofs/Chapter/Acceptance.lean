import Spellbook.Chapter.Basic
import Spellbook.Proofs.Text.Occurrences

/-!
# What the output of a chapter has to show

A needle that has to be repeated is looked for from the left, and each occurrence is taken as
soon as it fits.  No other choice of occurrences gives more of them.
-/

namespace Spellbook

/-- An output follows the rule exactly if it holds so many occurrences of the needle of which no two
share a character.  So it still follows the rule with any text around it. -/
theorem Acceptance.accepts_repeats_iff {needle : Text} (hneedle : needle ≠ []) (times : Nat)
    (output : Text) :
    ((Acceptance.repeats needle times).accepts output = true ↔
      ∃ positions : Finset Nat, positions.card = times ∧ Text.Packs needle output positions) ∧
    ∀ before after, (Acceptance.repeats needle times).accepts output = true →
      (Acceptance.repeats needle times).accepts (before ++ output ++ after) = true := by
  have haccepts (t : Text) : (Acceptance.repeats needle times).accepts t = true ↔
      times ≤ Text.occurrences needle t := decide_eq_true_iff
  refine ⟨(haccepts output).trans (Text.le_occurrences_iff hneedle), ?_⟩
  intro before after h
  rw [haccepts] at h ⊢
  exact h.trans (Text.occurrences_le_of_isInfix hneedle (List.infix_append before output after))

/-- The needle overlaps itself: from the third character on it is there twice, too, but not
behind the first occurrence. -/
theorem Acceptance.accepts_repeats_iff_overlapping :
    let needle : Text := "aba"
    let output : Text := "ababababa"
    needle ≠ [] ∧ Text.Packs needle output {2, 6} ∧
      (Acceptance.repeats needle 2).accepts output = true ∧
      (Acceptance.repeats needle 3).accepts output = false ∧
      (Acceptance.repeats needle 2).accepts ("ba" ++ output ++ "?") = true := by
  intro needle output
  have hpacks : Text.Packs needle output {2, 6} := by
    constructor
    · decide
    · intro i hi j hj hne
      have hall : ∀ i ∈ ({2, 6} : Finset Nat), ∀ j ∈ ({2, 6} : Finset Nat), i ≠ j →
          Disjoint (Finset.Ico i (i + needle.length)) (Finset.Ico j (j + needle.length)) := by
        decide
      exact hall i (Finset.mem_coe.1 hi) j (Finset.mem_coe.1 hj) hne
  obtain ⟨hiff, haround⟩ := accepts_repeats_iff (by decide : needle ≠ []) 2 output
  have haccepts := hiff.2 ⟨{2, 6}, by decide, hpacks⟩
  exact ⟨by decide, hpacks, haccepts, by decide, haround "ba" "?" haccepts⟩

end Spellbook
