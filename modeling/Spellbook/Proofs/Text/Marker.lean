import Spellbook.Text.Basic

/-!
# Texts that hold a marker

A search finds the marker exactly if the marker is a stretch of the text, and what it finds is the
first occurrence.  So a part of a text that does not hold the marker does not hold it either.
-/

namespace Spellbook.Text

theorem isSome_cut? (before marker after : Text) :
    (cut? marker (before ++ marker ++ after)).isSome = true := by
  induction before with
  | nil =>
    have hfront : dropFront? marker (marker ++ after) = some after :=
      dropFront?_eq_some_iff.2 rfl
    rw [List.nil_append]
    cases htext : marker ++ after with
    | nil =>
      obtain ⟨rfl, -⟩ := List.append_eq_nil_iff.1 htext
      rfl
    | cons c t =>
      rw [htext] at hfront
      rw [cut?, hfront]
      rfl
  | cons c before ih =>
    rw [List.cons_append, List.cons_append, cut?]
    split
    · rfl
    · rwa [Option.isSome_map]

/-- No occurrence of the marker begins in front of the one that is found. -/
theorem isPrefix_of_cut? {marker t before after : Text} (h : cut? marker t = some (before, after))
    {before' after' : Text} (ht : t = before' ++ marker ++ after') : before <+: before' := by
  induction t generalizing before after before' with
  | nil =>
    have hnil := (eq_append_of_cut? h).symm
    rw [List.append_assoc, List.append_eq_nil_iff] at hnil
    rw [hnil.1]
    exact List.nil_prefix
  | cons c t ih =>
    rw [cut?] at h
    split at h
    · obtain ⟨rfl, -⟩ := Prod.mk.inj (Option.some.inj h)
      exact List.nil_prefix
    · next hfront =>
      obtain ⟨⟨b, a⟩, hcut, hpair⟩ := Option.map_eq_some_iff.1 h
      obtain ⟨rfl, rfl⟩ := Prod.mk.inj hpair
      cases before' with
      | nil =>
        have hfound : dropFront? marker (c :: t) = some after' := dropFront?_eq_some_iff.2 ht
        rw [hfound] at hfront
        contradiction
      | cons d before' =>
        rw [List.cons_append, List.cons_append] at ht
        obtain ⟨rfl, htail⟩ := List.cons.inj ht
        rw [List.cons_prefix_cons]
        exact ⟨rfl, ih hcut htail⟩

theorem contains_iff {marker t : Text} : contains marker t = true ↔ marker <:+: t := by
  constructor
  · intro h
    obtain ⟨⟨before, after⟩, hcut⟩ := Option.isSome_iff_exists.1 h
    exact ⟨before, after, (eq_append_of_cut? hcut).symm⟩
  · rintro ⟨before, after, rfl⟩
    exact isSome_cut? before marker after

theorem contains_nil (t : Text) : contains [] t = true := contains_iff.2 List.nil_infix

theorem contains_eq_false_of_isInfix {marker part t : Text} (hpart : part <:+: t)
    (h : contains marker t = false) : contains marker part = false := by
  rw [← Bool.not_eq_true, contains_iff] at h ⊢
  exact fun hmarker => h (hmarker.trans hpart)

end Spellbook.Text
