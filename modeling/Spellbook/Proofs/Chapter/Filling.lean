import Spellbook.Chapter.Basic
import Spellbook.Proofs.Text.Occurrences

/-!
# Filling blanks

Each token replaces the first marker that is left in the text by then.  A token that shares no
character with the marker seals off what stands in front of it: no marker begins there any more,
so the next token goes to the next marker of the code.  Then the tokens take the places of the
markers in their order (`fill_positional`).
-/

namespace Spellbook

open Text

variable {marker : Text}

/-! ## Pieces between markers -/

/-- The pieces that are left if the marker is cut out of the text at its leftmost occurrence, and
then out of what follows in the same way. -/
inductive CutsInto (marker : Text) : Text → Text → List Text → Prop
  | whole {t : Text} : ¬marker <:+: t → CutsInto marker t t []
  | cut {before after first : Text} {others : List Text} :
    (∀ i, OccursAt marker (before ++ marker ++ after) i → before.length ≤ i) →
    CutsInto marker after first others →
    CutsInto marker (before ++ marker ++ after) before (first :: others)

/-- The first piece, and then the others, each behind its separator. -/
def lace (first : Text) (separators others : List Text) : Text :=
  first ++ (List.zipWith (· ++ ·) separators others).flatten

theorem lace_nil (first : Text) (separators : List Text) : lace first separators [] = first := by
  rw [lace, List.zipWith_nil_right, List.flatten_nil, List.append_nil]

theorem lace_cons (first separator other : Text) (separators others : List Text) :
    lace first (separator :: separators) (other :: others) =
      first ++ separator ++ lace other separators others := by
  unfold lace
  rw [List.zipWith_cons_cons, List.flatten_cons, List.append_assoc, List.append_assoc]

theorem exists_cutsInto (hmarker : marker ≠ []) (t : Text) :
    ∃ first others, CutsInto marker t first others := by
  induction t using cut_induction hmarker with
  | none t hfree => exact ⟨t, [], .whole hfree⟩
  | some t before after hcut ih =>
    obtain ⟨first, others, hpieces⟩ := ih
    obtain ⟨rfl, hleft⟩ := cut?_eq_some_iff.1 hcut
    exact ⟨before, first :: others, .cut hleft hpieces⟩

namespace CutsInto

variable {t first first' : Text} {others others' : List Text}

/-- There is only one way to cut a text into pieces. -/
theorem unique (h : CutsInto marker t first others) (h' : CutsInto marker t first' others') :
    first' = first ∧ others' = others := by
  induction h generalizing first' others' with
  | whole hfree =>
    cases h' with
    | whole => exact ⟨rfl, rfl⟩
    | cut => exact absurd ⟨_, _, rfl⟩ hfree
  | @cut before after first others hleft hpieces ih =>
    have hcut := cut?_eq_some_iff.2 ⟨rfl, hleft⟩
    generalize ht : before ++ marker ++ after = t at h' hcut
    cases h' with
    | whole hfree => exact absurd ⟨_, _, ht⟩ hfree
    | @cut before' after' first' others' hleft' hpieces' =>
      rw [cut?_eq_some_iff.2 ⟨rfl, hleft'⟩] at hcut
      obtain ⟨rfl, rfl⟩ := Prod.mk.inj (Option.some.inj hcut)
      obtain ⟨rfl, rfl⟩ := ih hpieces'
      exact ⟨rfl, rfl⟩

theorem length_others (h : CutsInto marker t first others) (hmarker : marker ≠ []) :
    others.length = occurrences marker t := by
  induction h with
  | whole hfree => rw [occurrences_of_not_isInfix hmarker hfree, List.length_nil]
  | cut hleft _ ih =>
    rw [occurrences_of_cut? hmarker (cut?_eq_some_iff.2 ⟨rfl, hleft⟩), List.length_cons, ih]

/-- The text is its pieces with the marker between them. -/
theorem eq_lace (h : CutsInto marker t first others) :
    t = lace first (List.replicate others.length marker) others := by
  induction h with
  | whole => rw [lace_nil]
  | cut _ _ ih => rw [List.length_cons, List.replicate_succ, lace_cons, ← ih]

end CutsInto

/-! ## What is sealed off -/

/-- No marker begins in the front, whatever follows it. -/
def Sealed (marker front : Text) : Prop :=
  ∀ rest i, OccursAt marker (front ++ rest) i → front.length ≤ i

/-- A front without the marker is sealed by characters that the marker does not hold. -/
theorem sealed_append {front token : Text} (hmarker : marker ≠ []) (hfree : ¬marker <:+: front)
    (htoken : token ≠ []) (hapart : ∀ c ∈ token, c ∉ marker) :
    Sealed marker (front ++ token) := by
  intro rest i hi
  by_contra hlt
  rw [List.length_append] at hlt
  have hpos := List.length_pos_iff.2 hmarker
  have htokenpos := List.length_pos_iff.2 htoken
  by_cases hend : i + marker.length ≤ front.length
  · rw [List.append_assoc] at hi
    exact hfree (hi.of_append hend).isInfix
  · -- The marker holds the first character of the token that is not in front of it.
    let k := max i front.length
    have hkmarker : k - i < marker.length := by omega
    have hktoken : k - front.length < token.length := by omega
    have hchar := hi.getElem?_eq hkmarker
    rw [Nat.add_sub_cancel' (Nat.le_max_left _ _), List.append_assoc,
      List.getElem?_append_right (Nat.le_max_right _ _), List.getElem?_append_left hktoken,
      List.getElem?_eq_getElem hktoken] at hchar
    have hmem : marker[k - i] ∈ token := Option.some.inj hchar ▸ List.getElem_mem hktoken
    exact hapart _ hmem (List.getElem_mem hkmarker)

namespace Sealed

variable {front : Text}

theorem cut?_append (h : Sealed marker front) (rest : Text) :
    cut? marker (front ++ rest) =
      (cut? marker rest).map fun (before, after) => (front ++ before, after) := by
  rcases hcut : cut? marker rest with _ | ⟨before, after⟩
  · rw [Option.map_none, cut?_eq_none_iff]
    rw [cut?_eq_none_iff] at hcut
    intro hheld
    obtain ⟨i, hi⟩ := exists_occursAt_iff.2 hheld
    exact hcut (hi.sub_length (h rest i hi)).isInfix
  · obtain ⟨rfl, hleft⟩ := cut?_eq_some_iff.1 hcut
    rw [Option.map_some, cut?_eq_some_iff]
    refine ⟨by simp only [List.append_assoc], ?_⟩
    intro i hi
    have hfront := h _ i hi
    have hle := hleft _ (hi.sub_length hfront)
    rw [List.length_append]
    omega

theorem occurrences_append (h : Sealed marker front) (hmarker : marker ≠ []) (rest : Text) :
    occurrences marker (front ++ rest) = occurrences marker rest := by
  have hfront := h.cut?_append rest
  rcases hcut : cut? marker rest with _ | ⟨before, after⟩
  · rw [hcut, Option.map_none, cut?_eq_none_iff] at hfront
    rw [cut?_eq_none_iff] at hcut
    rw [occurrences_of_not_isInfix hmarker hfront, occurrences_of_not_isInfix hmarker hcut]
  · rw [hcut, Option.map_some] at hfront
    rw [occurrences_of_cut? hmarker hfront, occurrences_of_cut? hmarker hcut]

/-- Tokens go to markers behind the front. -/
theorem fill_append (h : Sealed marker front) (tokens : List Text) (rest : Text) :
    fill marker tokens (front ++ rest) = front ++ fill marker tokens rest := by
  induction tokens generalizing rest with
  | nil => rfl
  | cons token tokens ih =>
    have hreplace : replaceFirst marker token (front ++ rest) =
        front ++ replaceFirst marker token rest := by
      unfold replaceFirst
      rw [h.cut?_append]
      rcases cut? marker rest with _ | ⟨before, after⟩
      · rfl
      · simp only [Option.map_some, List.append_assoc]
    calc fill marker (token :: tokens) (front ++ rest)
        = fill marker tokens (front ++ replaceFirst marker token rest) :=
          congrArg (fill marker tokens) hreplace
      _ = front ++ fill marker (token :: tokens) rest := ih _

end Sealed

/-- In the place of a leftmost marker, the token seals off all that stands in front of
the next one. -/
def Seals (marker token : Text) : Prop :=
  ∀ t before after, cut? marker t = some (before, after) → Sealed marker (before ++ token)

theorem seals_of_apart {token : Text} (hmarker : marker ≠ []) (htoken : token ≠ [])
    (hapart : ∀ c ∈ token, c ∉ marker) : Seals marker token :=
  fun _ _ _ hcut => sealed_append hmarker (not_isInfix_of_cut? hcut hmarker) htoken hapart

/-! ## Filled texts -/

theorem fill_of_not_isInfix {t : Text} (h : ¬marker <:+: t) (tokens : List Text) :
    fill marker tokens t = t := by
  have hreplace (token : Text) : replaceFirst marker token t = t := by
    rw [replaceFirst, cut?_eq_none_iff.2 h]
  induction tokens with
  | nil => rfl
  | cons token tokens ih =>
    calc fill marker (token :: tokens) t
        = fill marker tokens t := congrArg (fill marker tokens) (hreplace token)
      _ = t := ih

theorem fill_cons_of_cut? {t before after token : Text}
    (hcut : cut? marker t = some (before, after)) (htoken : Seals marker token)
    (tokens : List Text) :
    fill marker (token :: tokens) t = before ++ token ++ fill marker tokens after := by
  have hreplace : replaceFirst marker token t = before ++ token ++ after := by
    rw [replaceFirst, hcut]
  calc fill marker (token :: tokens) t
      = fill marker tokens (before ++ token ++ after) := congrArg (fill marker tokens) hreplace
    _ = before ++ token ++ fill marker tokens after :=
        (htoken t before after hcut).fill_append tokens after

/-- Tokens that seal take the places of the first markers in turn, and the other markers stay. -/
theorem CutsInto.fill_eq {t first : Text} {others : List Text} (h : CutsInto marker t first others)
    {tokens : List Text} (htokens : ∀ token ∈ tokens, Seals marker token) :
    fill marker tokens t = lace first
      (tokens.take others.length ++ List.replicate (others.length - tokens.length) marker)
      others := by
  induction h generalizing tokens with
  | whole hfree =>
    rw [fill_of_not_isInfix hfree, lace_nil]
  | @cut before after first others hleft hpieces ih =>
    cases tokens with
    | nil =>
      rw [List.take_nil, List.nil_append]
      exact (CutsInto.cut hleft hpieces).eq_lace
    | cons token tokens =>
      have hcut := cut?_eq_some_iff.2 ⟨rfl, hleft⟩
      have htoken := htokens token List.mem_cons_self
      rw [fill_cons_of_cut? hcut htoken, ih fun other hother =>
        htokens other (List.mem_cons_of_mem token hother)]
      rw [List.length_cons, List.length_cons, List.take_succ_cons, List.cons_append, lace_cons,
        Nat.add_sub_add_right]

/-- Each token that seals uses up one marker, as long as there is one. -/
theorem occurrences_fill (hmarker : marker ≠ []) {tokens : List Text}
    (htokens : ∀ token ∈ tokens, Seals marker token) (t : Text) :
    occurrences marker (fill marker tokens t) = occurrences marker t - tokens.length := by
  induction t using cut_induction hmarker generalizing tokens with
  | none t hfree =>
    rw [fill_of_not_isInfix hfree, occurrences_of_not_isInfix hmarker hfree, Nat.zero_sub]
  | some t before after hcut ih =>
    cases tokens with
    | nil => rfl
    | cons token tokens =>
      have htoken := htokens token List.mem_cons_self
      rw [fill_cons_of_cut? hcut htoken, (htoken t before after hcut).occurrences_append hmarker,
        ih fun other hother => htokens other (List.mem_cons_of_mem token hother),
        occurrences_of_cut? hmarker hcut, List.length_cons, Nat.add_sub_add_right]

/-- There is one way to cut a code at its leftmost markers.  Tokens that share no character with
the marker take the places of the first markers in their order.  All else stays: the pieces, the
markers for which there is no token, and the code if there are more tokens than markers. -/
theorem fill_positional {tokens : List Text} (hmarker : marker ≠ [])
    (htokens : ∀ token ∈ tokens, token ≠ [] ∧ ∀ c ∈ token, c ∉ marker) (code : Text) :
    ∃ first others,
      (∀ first' others', CutsInto marker code first' others' ↔ first' = first ∧ others' = others) ∧
      let count := others.length
      count = occurrences marker code ∧
      code = lace first (List.replicate count marker) others ∧
      fill marker tokens code = lace first
        (tokens.take count ++ List.replicate (count - tokens.length) marker) others ∧
      occurrences marker (fill marker tokens code) = count - min tokens.length count ∧
      fill marker tokens code = fill marker (tokens.take count) code := by
  have hseals : ∀ token ∈ tokens, Seals marker token := fun token htoken =>
    seals_of_apart hmarker (htokens token htoken).1 (htokens token htoken).2
  obtain ⟨first, others, hpieces⟩ := exists_cutsInto hmarker code
  have hcount := hpieces.length_others hmarker
  refine ⟨first, others, ?_, hcount, hpieces.eq_lace, hpieces.fill_eq hseals, ?_, ?_⟩
  · intro first' others'
    refine ⟨hpieces.unique, ?_⟩
    rintro ⟨rfl, rfl⟩
    exact hpieces
  · rw [occurrences_fill hmarker hseals, ← hcount]
    omega
  · have htaken : ∀ token ∈ tokens.take others.length, Seals marker token := fun token htoken =>
      hseals token (List.mem_of_mem_take htoken)
    rw [hpieces.fill_eq hseals, hpieces.fill_eq htaken, List.take_take, Nat.min_self,
      List.length_take]
    congr 3
    omega

/-- Five question marks hold one blank and two more marks, and a third token has no place. -/
theorem fill_positional_marks :
    let code : Text := "a ????? b ???"
    let tokens : List Text := ["x", "True", "y"]
    (∀ token ∈ tokens, token ≠ [] ∧ ∀ c ∈ token, c ∉ ("???" : Text)) ∧
      fill "???" tokens code = "a x?? b True" ∧
      ∃ first others,
        (∀ first' others',
          CutsInto "???" code first' others' ↔ first' = first ∧ others' = others) ∧
        others.length = 2 ∧
        fill "???" tokens code = lace first (tokens.take 2 ++ []) others := by
  intro code tokens
  have htokens : ∀ token ∈ tokens, token ≠ [] ∧ ∀ c ∈ token, c ∉ ("???" : Text) := by
    simp only [tokens, List.forall_mem_cons]
    simp
  obtain ⟨first, others, hpieces, hcount, -, hfill, -⟩ :=
    fill_positional (by decide) htokens code
  have htwo : others.length = 2 := hcount.trans (by decide)
  rw [htwo] at hfill
  exact ⟨htokens, by decide, first, others, hpieces, htwo, hfill⟩

end Spellbook
