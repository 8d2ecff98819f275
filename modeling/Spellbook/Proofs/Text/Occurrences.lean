import Mathlib.Data.Set.Pairwise.Basic
import Mathlib.Order.Interval.Finset.Nat
import Spellbook.Proofs.Text.Marker

/-!
# Occurrences of a marker

A marker is cut out of a text at its leftmost occurrence, and the search goes on behind it.  The
count that results is the greatest number of occurrences of which no two share a character
(`le_occurrences_iff`): of such occurrences at most one reaches into the stretch up to the end of
the leftmost occurrence, so taking that one loses nothing.
-/

namespace Spellbook.Text

variable {marker t before after : Text} {i : Nat}

/-! ## Where a marker occurs -/

/-- The marker stands in the text behind its first `i` characters. -/
def OccursAt (marker t : Text) (i : Nat) : Prop := marker <+: t.drop i

instance (marker t : Text) (i : Nat) : Decidable (OccursAt marker t i) :=
  inferInstanceAs (Decidable (marker <+: t.drop i))

theorem OccursAt.getElem?_eq (h : OccursAt marker t i) {k : Nat} (hk : k < marker.length) :
    t[i + k]? = some marker[k] := by
  rw [← List.getElem?_drop]
  exact List.prefix_iff_getElem?.1 h k hk

theorem OccursAt.add_length_le (h : OccursAt marker t i) (hmarker : marker ≠ []) :
    i + marker.length ≤ t.length := by
  have hlength := h.length_le
  have hpos := List.length_pos_iff.2 hmarker
  rw [List.length_drop] at hlength
  omega

theorem occursAt_append_length (before t : Text) (i : Nat) :
    OccursAt marker (before ++ t) (before.length + i) ↔ OccursAt marker t i := by
  unfold OccursAt
  rw [List.drop_length_add_append]

/-- An occurrence that begins behind the first part is one of the second part. -/
theorem OccursAt.sub_length (h : OccursAt marker (before ++ t) i) (hi : before.length ≤ i) :
    OccursAt marker t (i - before.length) := by
  rwa [← occursAt_append_length before, Nat.add_sub_cancel' hi]

theorem occursAt_middle (before marker after : Text) :
    OccursAt marker (before ++ marker ++ after) before.length := by
  rw [List.append_assoc]
  exact (occursAt_append_length before _ 0).2 (List.prefix_append marker after)

theorem OccursAt.append (h : OccursAt marker t i) (after : Text) :
    OccursAt marker (t ++ after) i :=
  h.trans ((List.prefix_append t after).drop i)

/-- An occurrence that ends inside the first part is one of the first part. -/
theorem OccursAt.of_append (h : OccursAt marker (t ++ after) i)
    (hi : i + marker.length ≤ t.length) : OccursAt marker t i := by
  unfold OccursAt at h ⊢
  rw [List.drop_append_of_le_length (by omega)] at h
  refine List.prefix_of_prefix_length_le h (List.prefix_append _ _) ?_
  rw [List.length_drop]
  omega

theorem OccursAt.isInfix (h : OccursAt marker t i) : marker <:+: t :=
  (List.IsPrefix.isInfix h).trans (List.drop_suffix i t).isInfix

theorem exists_occursAt_iff : (∃ i, OccursAt marker t i) ↔ marker <:+: t := by
  constructor
  · rintro ⟨i, h⟩
    exact h.isInfix
  · rintro ⟨before, after, rfl⟩
    exact ⟨before.length, occursAt_middle before marker after⟩

/-! ## Cutting at the leftmost occurrence -/

theorem cut?_eq_none_iff : cut? marker t = none ↔ ¬marker <:+: t := by
  rw [← contains_iff, contains, ← Option.not_isSome_iff_eq_none]

/-- The text is cut at an occurrence, and none begins further in front. -/
theorem cut?_eq_some_iff : cut? marker t = some (before, after) ↔
    t = before ++ marker ++ after ∧ ∀ i, OccursAt marker t i → before.length ≤ i := by
  constructor
  · intro h
    refine ⟨eq_append_of_cut? h, ?_⟩
    intro i hi
    by_cases hlt : i ≤ t.length
    · obtain ⟨rest, hrest⟩ := hi
      have ht : t = t.take i ++ marker ++ rest := by
        rw [List.append_assoc, hrest, List.take_append_drop]
      have hle := (isPrefix_of_cut? h ht).length_le
      rw [List.length_take] at hle
      omega
    · have hlength := congrArg List.length (eq_append_of_cut? h)
      rw [List.length_append, List.length_append] at hlength
      omega
  · rintro ⟨rfl, hleft⟩
    obtain ⟨⟨before', after'⟩, hcut⟩ := Option.isSome_iff_exists.1 (isSome_cut? before marker after)
    have hprefix := isPrefix_of_cut? hcut rfl
    have hsplit := eq_append_of_cut? hcut
    have hoccurs : OccursAt marker (before ++ marker ++ after) before'.length := by
      rw [hsplit]
      exact occursAt_middle before' marker after'
    obtain rfl : before' = before := hprefix.eq_of_length_le (hleft _ hoccurs)
    rwa [← List.append_cancel_left hsplit] at hcut

/-- What stands in front of the leftmost occurrence does not hold the marker. -/
theorem not_isInfix_of_cut? (h : cut? marker t = some (before, after)) (hmarker : marker ≠ []) :
    ¬marker <:+: before := by
  intro hheld
  obtain ⟨rfl, hleft⟩ := cut?_eq_some_iff.1 h
  obtain ⟨i, hi⟩ := exists_occursAt_iff.2 hheld
  have hend := hi.add_length_le hmarker
  have hle := hleft i ((hi.append marker).append after)
  have hpos := List.length_pos_iff.2 hmarker
  omega

/-- A text holds no marker, or is cut at one with a shorter text behind it. -/
theorem cut_induction (hmarker : marker ≠ []) {motive : Text → Prop}
    (none : ∀ t, ¬marker <:+: t → motive t)
    (some : ∀ t before after, cut? marker t = some (before, after) → motive after → motive t)
    (t : Text) : motive t := by
  induction hlength : t.length using Nat.strongRecOn generalizing t with
  | ind length ih =>
    rcases hcut : cut? marker t with _ | ⟨before, after⟩
    · exact none t (cut?_eq_none_iff.1 hcut)
    · have hsum := congrArg List.length (eq_append_of_cut? hcut)
      have hpos := List.length_pos_iff.2 hmarker
      simp only [List.length_append] at hsum
      exact some t before after hcut (ih after.length (by omega) after rfl)

/-! ## Counting -/

theorem occurrencesAfter_eq_drop (marker : Text) (skip : Nat) (t : Text) :
    occurrencesAfter marker skip t = occurrencesAfter marker 0 (t.drop skip) := by
  induction t generalizing skip with
  | nil => simp [occurrencesAfter]
  | cons c t ih =>
    cases skip with
    | zero => rfl
    | succ skip => rw [occurrencesAfter, ih, List.drop_succ_cons]

theorem occurrences_of_not_isInfix (hmarker : marker ≠ []) (h : ¬marker <:+: t) :
    occurrences marker t = 0 := by
  rw [occurrences, if_neg (mt List.isEmpty_iff.1 hmarker)]
  induction t with
  | nil => rfl
  | cons c t ih =>
    have hfront : ¬(dropFront? marker (c :: t)).isSome = true := by
      intro hsome
      obtain ⟨rest, hrest⟩ := Option.isSome_iff_exists.1 hsome
      exact h ⟨[], rest, (dropFront?_eq_some_iff.1 hrest).symm⟩
    rw [occurrencesAfter, if_neg hfront]
    exact ih fun hheld => h (hheld.trans (List.suffix_cons c t).isInfix)

/-- The occurrence at which the text is cut counts once, and the count goes on behind it. -/
theorem occurrences_of_cut? (hmarker : marker ≠ []) (h : cut? marker t = some (before, after)) :
    occurrences marker t = occurrences marker after + 1 := by
  rw [occurrences, occurrences, if_neg (mt List.isEmpty_iff.1 hmarker),
    if_neg (mt List.isEmpty_iff.1 hmarker)]
  induction t generalizing before with
  | nil =>
    rw [cut?, if_neg (mt List.isEmpty_iff.1 hmarker)] at h
    contradiction
  | cons c t ih =>
    rw [cut?] at h
    rw [occurrencesAfter]
    cases hfront : dropFront? marker (c :: t) with
    | some rest =>
      rw [hfront] at h
      obtain ⟨-, rfl⟩ := Prod.mk.inj (Option.some.inj h)
      have hdrop : t.drop (marker.length - 1) = rest := by
        have hpos := List.length_pos_iff.2 hmarker
        have hall := congrArg (List.drop marker.length) (dropFront?_eq_some_iff.1 hfront)
        rw [List.drop_left, ← Nat.sub_add_cancel hpos, List.drop_succ_cons] at hall
        exact hall
      rw [Option.isSome_some, if_pos rfl, occurrencesAfter_eq_drop, hdrop]
    | none =>
      rw [hfront] at h
      obtain ⟨⟨front, rest⟩, hcut, hpair⟩ := Option.map_eq_some_iff.1 h
      obtain ⟨-, rfl⟩ := Prod.mk.inj hpair
      rw [Option.isSome_none, if_neg Bool.false_ne_true]
      exact ih hcut

/-! ## The greatest number of occurrences -/

/-- The marker occurs at the positions, and no two of these occurrences share a character. -/
structure Packs (marker t : Text) (positions : Finset Nat) : Prop where
  occurs : ∀ i ∈ positions, OccursAt marker t i
  disjoint : (positions : Set Nat).PairwiseDisjoint fun i => Finset.Ico i (i + marker.length)

variable {positions : Finset Nat}

theorem Packs.add_length_le (h : Packs marker t positions) (hmarker : marker ≠ []) {j : Nat}
    (hi : i ∈ positions) (hj : j ∈ positions) (hlt : i < j) : i + marker.length ≤ j := by
  have hpos := List.length_pos_iff.2 hmarker
  have hdisjoint := h.disjoint hi hj (Nat.ne_of_lt hlt)
  by_contra hle
  have hfirst : j ∈ Finset.Ico i (i + marker.length) := Finset.mem_Ico.2 (by omega)
  have hsecond : j ∈ Finset.Ico j (j + marker.length) := Finset.mem_Ico.2 (by omega)
  exact Finset.disjoint_left.1 hdisjoint hfirst hsecond

theorem Packs.subset (h : Packs marker t positions) {fewer : Finset Nat}
    (hsub : fewer ⊆ positions) : Packs marker t fewer :=
  ⟨fun i hi => h.occurs i (hsub hi), h.disjoint.subset (Finset.coe_subset.2 hsub)⟩

/-- Of the occurrences that begin within the length of one marker, any two share a character. -/
theorem Packs.card_le_one (h : Packs marker t positions) (hmarker : marker ≠ []) {start : Nat}
    (hnear : ∀ i ∈ positions, start ≤ i ∧ i < start + marker.length) : positions.card ≤ 1 := by
  rw [Finset.card_le_one]
  intro i hi j hj
  obtain ⟨hile, hilt⟩ := hnear i hi
  obtain ⟨hjle, hjlt⟩ := hnear j hj
  by_contra hne
  rcases Nat.lt_or_gt_of_ne hne with hlt | hlt
  · have hle := h.add_length_le hmarker hi hj hlt
    omega
  · have hle := h.add_length_le hmarker hj hi hlt
    omega

theorem card_image_add (positions : Finset Nat) (n : Nat) :
    (positions.image (n + ·)).card = positions.card :=
  Finset.card_image_of_injective positions fun _ _ h => Nat.add_left_cancel h

/-- The occurrences in a part of a text are occurrences in the text. -/
theorem Packs.embed (h : Packs marker t positions) (before after : Text) :
    Packs marker (before ++ t ++ after) (positions.image (before.length + ·)) := by
  constructor
  · intro i hi
    obtain ⟨j, hj, rfl⟩ := Finset.mem_image.1 hi
    rw [List.append_assoc]
    exact (occursAt_append_length before _ j).2 ((h.occurs j hj).append after)
  · intro i hi j hj hne
    obtain ⟨i', hi', rfl⟩ := Finset.mem_image.1 hi
    obtain ⟨j', hj', rfl⟩ := Finset.mem_image.1 hj
    have hdisjoint := h.disjoint hi' hj' fun heq => hne (congrArg _ heq)
    apply Finset.disjoint_left.2
    intro k hk hk'
    have hin : before.length + i' ≤ k ∧ k < before.length + i' + marker.length :=
      Finset.mem_Ico.1 hk
    have hin' : before.length + j' ≤ k ∧ k < before.length + j' + marker.length :=
      Finset.mem_Ico.1 hk'
    have hmem : k - before.length ∈ Finset.Ico i' (i' + marker.length) :=
      Finset.mem_Ico.2 (by omega)
    have hmem' : k - before.length ∈ Finset.Ico j' (j' + marker.length) :=
      Finset.mem_Ico.2 (by omega)
    exact Finset.disjoint_left.1 hdisjoint hmem hmem'

/-- The leftmost occurrence can be taken in addition to any that stand behind it. -/
theorem Packs.insert (h : Packs marker t positions) (hi : OccursAt marker t i)
    (hbehind : ∀ j ∈ positions, i + marker.length ≤ j) :
    Packs marker t (insert i positions) := by
  constructor
  · intro j hj
    rcases Finset.mem_insert.1 hj with rfl | hj
    · exact hi
    · exact h.occurs j hj
  · rw [Finset.coe_insert]
    refine h.disjoint.insert ?_
    intro j hj _
    rw [Finset.disjoint_left]
    intro k hk hk'
    have hle := hbehind j hj
    rw [Finset.mem_Ico] at hk hk'
    omega

/-- There are as many occurrences as are counted. -/
theorem exists_packs (hmarker : marker ≠ []) (t : Text) :
    ∃ positions : Finset Nat, positions.card = occurrences marker t ∧ Packs marker t positions := by
  induction t using cut_induction hmarker with
  | none t hfree =>
    refine ⟨∅, ?_, ?_, ?_⟩
    · rw [Finset.card_empty, occurrences_of_not_isInfix hmarker hfree]
    · exact fun i hi => absurd hi (Finset.notMem_empty i)
    · rw [Finset.coe_empty]
      exact Set.pairwiseDisjoint_empty
  | some t before after hcut ih =>
    obtain ⟨positions, hcard, hpacks⟩ := ih
    obtain ⟨rfl, -⟩ := cut?_eq_some_iff.1 hcut
    have hembed := hpacks.embed (before ++ marker) []
    rw [List.append_nil] at hembed
    have hbehind : ∀ j ∈ positions.image ((before ++ marker).length + ·),
        before.length + marker.length ≤ j := by
      intro j hj
      obtain ⟨k, -, rfl⟩ := Finset.mem_image.1 hj
      rw [List.length_append]
      omega
    refine ⟨_, ?_, hembed.insert (occursAt_middle before marker after) hbehind⟩
    have hnew : before.length ∉ positions.image ((before ++ marker).length + ·) := by
      intro hmem
      have hle := hbehind _ hmem
      have hpos := List.length_pos_iff.2 hmarker
      omega
    rw [Finset.card_insert_of_notMem hnew, card_image_add, hcard, occurrences_of_cut? hmarker hcut]

/-- Occurrences that share no character are not more than are counted.  The induction is on what is
left of the text: all of them begin in it. -/
theorem Packs.card_le (hmarker : marker ≠ []) {front t : Text}
    (h : Packs marker (front ++ t) positions) (hfrom : ∀ i ∈ positions, front.length ≤ i) :
    positions.card ≤ occurrences marker t := by
  induction t using cut_induction hmarker generalizing front positions with
  | none t hfree =>
    have hnone : positions = ∅ := by
      apply Finset.eq_empty_of_forall_notMem
      intro i hi
      exact hfree ((h.occurs i hi).sub_length (hfrom i hi)).isInfix
    rw [hnone]
    exact Nat.zero_le _
  | some t before after hcut ih =>
    obtain ⟨rfl, hleft⟩ := cut?_eq_some_iff.1 hcut
    let stop := front.length + before.length + marker.length
    have hone : (positions.filter (· < stop)).card ≤ 1 := by
      apply (h.subset (Finset.filter_subset _ _)).card_le_one hmarker
      intro i hi
      obtain ⟨hmem, hlt⟩ := Finset.mem_filter.1 hi
      have hle := hleft _ ((h.occurs i hmem).sub_length (hfrom i hmem))
      have hstart := hfrom i hmem
      exact ⟨by omega, hlt⟩
    have hrest : (positions.filter (¬· < stop)).card ≤ occurrences marker after := by
      have hbehind : Packs marker (front ++ (before ++ marker) ++ after)
          (positions.filter (¬· < stop)) := by
        rw [List.append_assoc front]
        exact h.subset (Finset.filter_subset _ _)
      apply ih hbehind
      intro i hi
      have hle := (Finset.mem_filter.1 hi).2
      rw [List.length_append, List.length_append]
      omega
    have hsplit := Finset.card_filter_add_card_filter_not (s := positions) (· < stop)
    rw [occurrences_of_cut? hmarker hcut]
    omega

/-- The count is the greatest number of occurrences that share no character. -/
theorem le_occurrences_iff (hmarker : marker ≠ []) {n : Nat} :
    n ≤ occurrences marker t ↔
      ∃ positions : Finset Nat, positions.card = n ∧ Packs marker t positions := by
  constructor
  · intro hle
    obtain ⟨all, hcard, hpacks⟩ := exists_packs hmarker t
    obtain ⟨positions, hsub, hn⟩ := Finset.exists_subset_card_eq (hcard ▸ hle)
    exact ⟨positions, hn, hpacks.subset hsub⟩
  · rintro ⟨positions, rfl, hpacks⟩
    have hall : Packs marker ([] ++ t) positions := hpacks
    exact hall.card_le hmarker fun i _ => Nat.zero_le i

/-- A text has at least the occurrences that a part of it has. -/
theorem occurrences_le_of_isInfix (hmarker : marker ≠ []) {part : Text} (h : part <:+: t) :
    occurrences marker part ≤ occurrences marker t := by
  obtain ⟨before, after, rfl⟩ := h
  obtain ⟨positions, hcard, hpacks⟩ := exists_packs hmarker part
  rw [le_occurrences_iff hmarker]
  exact ⟨_, by rw [card_image_add, hcard], hpacks.embed before after⟩

theorem occurrences_eq_zero_iff (hmarker : marker ≠ []) :
    occurrences marker t = 0 ↔ ¬marker <:+: t := by
  refine ⟨?_, occurrences_of_not_isInfix hmarker⟩
  rw [← cut?_eq_none_iff]
  intro hzero
  rcases hcut : cut? marker t with _ | ⟨before, after⟩
  · rfl
  · rw [occurrences_of_cut? hmarker hcut] at hzero
    contradiction

end Spellbook.Text
