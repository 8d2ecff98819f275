import Mathlib.Control.Monad.Basic
import Spellbook.Proofs.Run.Sequence
import Spellbook.Proofs.Session.CleanBuffer
import Spellbook.Proofs.Source.Joined

/-!
# What a session shows

The output of a session only ever goes on, and an answer is the part that was added.

Every entry begins with a visible character, so its first line is not indented, and no header above
takes that line as its body.  So the spell with the entry at its end runs like the spell before and
then goes on.
-/

namespace Spellbook

/-- A spell that runs with another one under it runs on its own, and printed a front part of what
both print. -/
theorem output_isPrefix_of_runs {settings : Settings} {a b : Text}
    (h : (evaluate settings (a ++ "\n" ++ b)).failure = none) (hflush : BeginsFlush b) :
    (evaluate settings a).output <+: (evaluate settings (a ++ "\n" ++ b)).output := by
  obtain ⟨r, hread, -⟩ := exists_of_evaluate_runs h
  obtain ⟨p, q, hfirst, -, hstatements⟩ := Program.exists_both_of_read_append hread hflush
  rw [evaluate_of_read hfirst, evaluate_of_read hread]
  apply Evaluation.output_prefix
  rw [Program.run, Program.run, hstatements]
  exact Statement.printed_runAll_append settings.maxSteps p.statements _ .initial

namespace Session

theorem IsClean.shown_isPrefix {s : Session} (hs : s.IsClean) {entry : Text}
    (hentry : entry.BeginsVisible)
    (h : (evaluate s.config.settings (spell (s.entries ++ [entry]))).failure = none) :
    s.shown <+: (evaluate s.config.settings (spell (s.entries ++ [entry]))).output := by
  by_cases hentries : s.entries = []
  · rw [hs.shown_eq, buffer_of_entries_eq_nil hentries, evaluate_nil]
    exact List.nil_prefix
  · rw [spell_of_entries_ne_nil hentries] at h ⊢
    rw [hs.shown_eq]
    exact output_isPrefix_of_runs h hentry.beginsFlush

/-- What follows the old output is new, but for the newline that it may begin with. -/
theorem eq_newOutput_append {shown : Text} (h : shown ≠ []) (rest : Text) :
    rest = if rest.head? = some '\n' then '\n' :: newOutput shown (shown ++ rest)
      else newOutput shown (shown ++ rest) := by
  have hshown : ¬shown.isEmpty = true := by rwa [List.isEmpty_iff]
  unfold newOutput
  rw [if_neg hshown, Text.dropFront?_eq_some_iff.2 rfl]
  by_cases hhead : rest.head? = some '\n'
  · obtain ⟨more, rfl⟩ := List.head?_eq_some_iff.1 hhead
    rfl
  · rw [if_neg hhead]
    split
    · next more hmore =>
      rw [Option.some.inj hmore] at hhead
      exact absurd rfl hhead
    · next more _ hmore => exact Option.some.inj hmore
    · next hmore => exact nomatch hmore

/-- An answer with output shows what the line added: the old output is a front part of the new
one, and what follows it is shown, but for the newline that it may begin with. -/
theorem output_goes_on {config : SessionConfig} {s : Session} (h : Reachable config s)
    {line added : Text} (hanswer : (s.feed line).1 = .ok (.output added)) :
    s.shown <+: (s.feed line).2.shown ∧
    (s.shown = [] → added = (s.feed line).2.shown) ∧
    (s.shown ≠ [] → ∃ rest, Text.dropFront? s.shown (s.feed line).2.shown = some rest ∧
      (s.feed line).2.shown =
        s.shown ++ if rest.head? = some '\n' then '\n' :: added else added) := by
  have htrial : isTrial (s.feed line).1 = true := by
    rw [hanswer]
    rfl
  obtain ⟨entry, hdemand⟩ := exists_trial_of_isTrial htrial
  have hvisible := h.beginsVisible_of_trial hdemand
  have hclean : s.cancel.IsClean := h.isClean.congr rfl rfl rfl rfl
  rw [feed_eq_meet, hdemand, meet] at hanswer ⊢
  let tried := spell (s.cancel.entries ++ [entry])
  cases hrun : (evaluate s.cancel.config.settings tried).failure with
  | some failure =>
    rw [hclean.accept_of_fails hrun] at hanswer
    cases hanswer
  | none =>
    obtain ⟨rest, hrest⟩ := hclean.shown_isPrefix hvisible hrun
    rw [hclean.accept_of_runs hrun] at hanswer ⊢
    dsimp only at hanswer ⊢
    rw [← hrest] at hanswer ⊢
    have hadded : newOutput s.shown (s.shown ++ rest) = added :=
      Reply.output.inj (Except.ok.inj hanswer)
    refine ⟨List.prefix_append _ _, ?_, ?_⟩
    · intro hshown
      rw [← hadded, hshown]
      exact congrArg (· ++ rest) hshown.symm
    · intro hshown
      refine ⟨rest, Text.dropFront?_eq_some_iff.2 rfl, ?_⟩
      rw [← hadded, ← eq_newOutput_append hshown]
      rfl

/-- An empty line that was trimmed from the old output is part of what the next line adds. -/
theorem output_goes_on_behind_empty_line : ∃ s, Reachable {} s ∧
    (s.feed "print('b')").1 = .ok (.output "\nb") ∧ s.shown ≠ [] ∧
    ∃ rest, Text.dropFront? s.shown (s.feed "print('b')").2.shown = some rest ∧
      (s.feed "print('b')").2.shown =
        s.shown ++ if rest.head? = some '\n' then '\n' :: ("\nb" : Text) else "\nb" := by
  have hstart : Reachable {} (start {}) := .start
  have hempty := (hstart.feed "print('a')").feed "print()"
  refine ⟨_, hempty, ?_, ?_, (output_goes_on hempty ?_).2.2 ?_⟩ <;> decide +kernel

end Session

end Spellbook
