import Spellbook.Chapter.Catalog
import Spellbook.Proofs.Chapter.Filling

/-!
# Attempts

An attempt is refused unless there is one token for each blank of the starter code, and nothing
is run then.  The blanks are counted before they are filled.  So an attempt that is run has no
blank left exactly if every token lowered the number of blanks when it was put in, and a token
that brings in a blank of its own is not noticed (`Chapter.attempt_holds_blank_iff`).
-/

namespace Spellbook

open Text

/-! ## Markers that tokens use up -/

section Used

variable {marker : Text}

/-- A token uses up at most one marker. -/
theorem occurrences_le_replaceFirst (hmarker : marker ≠ []) (token t : Text) :
    occurrences marker t ≤ occurrences marker (replaceFirst marker token t) + 1 := by
  unfold replaceFirst
  rcases hcut : cut? marker t with _ | ⟨before, after⟩
  · exact Nat.le_succ _
  · rw [occurrences_of_cut? hmarker hcut]
    have hafter := List.suffix_append (before ++ token) after
    exact Nat.succ_le_succ (occurrences_le_of_isInfix hmarker hafter.isInfix)

theorem occurrences_le_fill (hmarker : marker ≠ []) (tokens : List Text) (t : Text) :
    occurrences marker t ≤ occurrences marker (fill marker tokens t) + tokens.length := by
  induction tokens generalizing t with
  | nil => exact Nat.le_refl _
  | cons token tokens ih =>
    calc occurrences marker t
        ≤ occurrences marker (replaceFirst marker token t) + 1 :=
          occurrences_le_replaceFirst hmarker token t
      _ ≤ occurrences marker (fill marker (token :: tokens) t) + tokens.length + 1 :=
          Nat.succ_le_succ (ih _)

/-- The tokens use up as many markers as they are exactly if each of them lowers the count. -/
theorem occurrences_eq_fill_add_iff (hmarker : marker ≠ []) (tokens : List Text) (t : Text) :
    occurrences marker t = occurrences marker (fill marker tokens t) + tokens.length ↔
      ∀ i < tokens.length, occurrences marker (fill marker (tokens.take (i + 1)) t) <
        occurrences marker (fill marker (tokens.take i) t) := by
  induction tokens generalizing t with
  | nil => exact iff_of_true rfl fun i hi => absurd hi (Nat.not_lt_zero i)
  | cons token tokens ih =>
    have hfirst := occurrences_le_replaceFirst hmarker token t
    have hothers := occurrences_le_fill hmarker tokens (replaceFirst marker token t)
    have hih := ih (replaceFirst marker token t)
    have hfill : fill marker (token :: tokens) t =
        fill marker tokens (replaceFirst marker token t) := rfl
    rw [hfill, List.length_cons]
    constructor
    · intro heq i hi
      cases i with
      | zero =>
        have hlt : occurrences marker (replaceFirst marker token t) < occurrences marker t := by
          omega
        exact hlt
      | succ i => exact hih.1 (by omega) i (by omega)
    · intro hlower
      have hlt : occurrences marker (replaceFirst marker token t) < occurrences marker t :=
        hlower 0 (Nat.succ_pos _)
      have heq := hih.2 fun i hi => hlower (i + 1) (Nat.succ_lt_succ hi)
      omega

end Used

namespace Chapter

theorem blank_ne_nil : blank ≠ [] := by decide

theorem eq_of_mem_blank {c : Char} (h : c ∈ blank) : c = '?' := by
  have hblank : blank = List.replicate 3 '?' := rfl
  rw [hblank] at h
  exact List.eq_of_mem_replicate h

/-- A token without question marks seals, even if it is empty: in front of a leftmost blank there is
no question mark that could be the beginning of another one. -/
theorem seals_blank {token : Text} (h : '?' ∉ token) : Seals blank token := by
  intro t before after hcut
  have hfree := not_isInfix_of_cut? hcut blank_ne_nil
  have hapart : ∀ c ∈ token, c ∉ blank := by
    intro c hc hblank
    rw [eq_of_mem_blank hblank] at hc
    exact h hc
  by_cases htoken : token = []
  · rw [htoken, List.append_nil]
    rcases List.eq_nil_or_concat' before with rfl | ⟨front, d, rfl⟩
    · exact fun _ i _ => Nat.zero_le i
    · have hd : d ∉ blank := by
        intro hmem
        obtain ⟨rfl, hleft⟩ := cut?_eq_some_iff.1 hcut
        have hoccurs : OccursAt blank (front ++ [d] ++ blank ++ after) front.length := by
          rw [eq_of_mem_blank hmem]
          have hsame : front ++ ['?'] ++ blank ++ after = front ++ blank ++ ('?' :: after) := by
            simp [blank, defaultMarker]
          rw [hsame]
          exact occursAt_middle front blank _
        have hle := hleft _ hoccurs
        rw [List.length_append, List.length_singleton] at hle
        omega
      have hfront : ¬blank <:+: front := fun hheld =>
        hfree (hheld.trans (List.prefix_append front [d]).isInfix)
      exact sealed_append blank_ne_nil hfront (List.cons_ne_nil d [])
        fun c hc => List.mem_singleton.1 hc ▸ hd
  · exact sealed_append blank_ne_nil hfree htoken hapart

/-- The number of blanks in the code once the first tokens have been put in. -/
def blanksLeft (c : Chapter) (tokens : List Text) (count : Nat) : Nat :=
  occurrences blank (fill blank (tokens.take count) c.starterCode)

/-- With more tokens than blanks, or fewer, an attempt is refused whatever the settings are, and
there is no evaluation.  Otherwise the filled code is run.  It holds a blank exactly if one of
the tokens did not lower the number of blanks, which no token without question marks does. -/
theorem attempt_holds_blank_iff (c : Chapter) (settings : Settings) (tokens : List Text) :
    (c.blanks < tokens.length →
      c.attempt settings tokens = .error (.tooManyTokens c.blanks tokens.length)) ∧
    (tokens.length < c.blanks →
      c.attempt settings tokens = .error (.unfilled (c.blanks - tokens.length))) ∧
    (tokens.length = c.blanks → ∃ a, c.attempt settings tokens = .ok a ∧
      a.code = fill blank tokens c.starterCode ∧ a.evaluation = evaluate settings a.code ∧
      (Text.contains blank a.code = true ↔
        ∃ i < tokens.length, c.blanksLeft tokens i ≤ c.blanksLeft tokens (i + 1)) ∧
      ((∀ token ∈ tokens, '?' ∉ token) → Text.contains blank a.code = false)) := by
  unfold attempt
  refine ⟨?_, ?_, ?_⟩
  · intro hmany
    rw [if_pos hmany]
  · intro hfew
    rw [if_neg (Nat.not_lt_of_gt hfew), if_pos hfew]
  · intro hcount
    have hblanks : occurrences blank c.starterCode = tokens.length := hcount.symm
    rw [if_neg (Nat.not_lt_of_le (Nat.le_of_eq hcount)),
      if_neg (Nat.not_lt_of_le (Nat.le_of_eq hcount.symm))]
    refine ⟨_, rfl, rfl, rfl, ?_, ?_⟩
    · have hused := occurrences_eq_fill_add_iff blank_ne_nil tokens c.starterCode
      rw [hblanks, Nat.right_eq_add, occurrences_eq_zero_iff blank_ne_nil] at hused
      rw [contains_iff, ← not_iff_not, hused]
      simp only [not_exists, not_and, Nat.not_le, blanksLeft]
    · intro htokens
      have hleft := occurrences_fill blank_ne_nil
        (fun token htoken => seals_blank (htokens token htoken)) c.starterCode
      rw [hblanks, Nat.sub_self, occurrences_eq_zero_iff blank_ne_nil] at hleft
      rw [← Bool.not_eq_true, contains_iff]
      exact hleft

/-- The first token brings in a blank again, so the second one fills that and not the other orb. -/
theorem attempt_holds_blank_iff_orbs :
    let tokens : List Text := ["???", "True"]
    tokens.length = gargoyleOrbs.blanks ∧
      ∃ a, gargoyleOrbs.attempt {} tokens = .ok a ∧ Text.contains blank a.code = true := by
  intro tokens
  have hcount : tokens.length = gargoyleOrbs.blanks := by decide
  obtain ⟨a, hattempt, -, -, hblank, -⟩ :=
    (attempt_holds_blank_iff gargoyleOrbs {} tokens).2.2 hcount
  exact ⟨hcount, a, hattempt, hblank.2 ⟨0, by decide, by decide⟩⟩

/-- A spell with a blank is run to its end if the token holds the blank and the settings look for
another marker. -/
theorem attempt_runs_blank : ∃ a, sealedGates.attempt ⟨"<b>", 10000⟩ ["'???'"] = .ok a ∧
    Text.contains blank a.code = true ∧ a.evaluation.succeeded = true := by
  have hattempt : (sealedGates.attempt ⟨"<b>", 10000⟩ ["'???'"]).map
      (fun a => (Text.contains blank a.code, a.evaluation.succeeded)) = .ok (true, true) := by
    decide +kernel
  rcases h : sealedGates.attempt ⟨"<b>", 10000⟩ ["'???'"] with e | a
  · rw [h] at hattempt
    contradiction
  · rw [h] at hattempt
    obtain ⟨hblank, hruns⟩ := Prod.mk.inj (Except.ok.inj hattempt)
    exact ⟨a, rfl, hblank, hruns⟩

end Chapter

end Spellbook
