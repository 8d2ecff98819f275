import Spellbook.Proofs.Session.Reachable
import Spellbook.Proofs.Source.Lines
import Spellbook.Proofs.Text.Join

/-!
# The buffer of a session runs cleanly

In every reachable session each front part of the entries is a spell that runs to its end, and
what the session keeps of its last run is what running the buffer again would give.

The output and the steps are written when an entry is kept, when the last entry is taken back and
when the buffer is cleared.  Taking an entry back does not look at the failure of the shorter
spell, so the invariant has to hold that every shorter spell ran: each was the whole buffer once.
No entry is empty, so that the spell tried with one more entry is the buffer that is kept.
-/

namespace Spellbook.Session

/-- The spell that entries make. -/
def spell (entries : List Text) : Text := Text.join "\n" entries

/-- Every front part of the entries is a spell that runs, and the output and the steps that the
session keeps are those of its buffer. -/
structure IsClean (s : Session) : Prop where
  entries_ne_nil : [] ∉ s.entries
  runs : ∀ front, front <+: s.entries →
    (evaluate s.config.settings (spell front)).failure = none
  shown_eq : s.shown = (evaluate s.config.settings s.buffer).output
  steps_eq : s.tally.steps = (evaluate s.config.settings s.buffer).steps

/-! ## The empty spell -/

theorem evaluate_nil (settings : Settings) : evaluate settings [] = ⟨[], 0, none⟩ := by
  unfold evaluate
  rw [Program.read_nil]
  rfl

theorem buffer_of_entries_eq_nil {s : Session} (hentries : s.entries = []) : s.buffer = [] := by
  unfold buffer
  rw [hentries, Text.join_nil]

theorem spell_of_entries_eq_nil {s : Session} (hentries : s.entries = []) (entry : Text) :
    spell (s.entries ++ [entry]) = entry := by
  rw [spell, hentries, List.nil_append, Text.join_singleton]

/-- One more entry stands under the buffer. -/
theorem spell_of_entries_ne_nil {s : Session} (hentries : s.entries ≠ []) (entry : Text) :
    spell (s.entries ++ [entry]) = s.buffer ++ "\n" ++ entry := by
  rw [spell, Text.join_append_of_ne_nil "\n" hentries (List.cons_ne_nil _ _), Text.join_singleton]
  rfl

theorem isClean_of_entries_eq_nil {s : Session} (hentries : s.entries = [])
    (hshown : s.shown = []) (hsteps : s.tally.steps = 0) : s.IsClean := by
  have hbuffer := buffer_of_entries_eq_nil hentries
  refine ⟨by simp [hentries], ?_, ?_, ?_⟩
  · intro front hfront
    rw [hentries, List.prefix_nil] at hfront
    rw [hfront, spell, Text.join_nil, evaluate_nil]
  · rw [hbuffer, evaluate_nil, hshown]
  · rw [hbuffer, evaluate_nil, hsteps]

/-! ## One step -/

/-- Cleanness looks at the configuration, the entries, the output and the steps only. -/
theorem IsClean.congr {s t : Session} (hs : s.IsClean) (hconfig : t.config = s.config)
    (hentries : t.entries = s.entries) (hshown : t.shown = s.shown)
    (hsteps : t.tally.steps = s.tally.steps) : t.IsClean := by
  have hbuffer : t.buffer = s.buffer := by
    unfold buffer
    rw [hentries]
  refine ⟨hentries ▸ hs.entries_ne_nil, ?_, ?_, ?_⟩
  · rw [hentries, hconfig]
    exact hs.runs
  · rw [hshown, hconfig, hbuffer]
    exact hs.shown_eq
  · rw [hsteps, hconfig, hbuffer]
    exact hs.steps_eq

/-- The spell that is tried is the one that the buffer holds once the entry is kept. -/
theorem tried_eq_spell {s : Session} (hs : s.IsClean) (entry : Text) :
    (if s.buffer.isEmpty then entry else s.buffer ++ "\n" ++ entry) =
      spell (s.entries ++ [entry]) := by
  by_cases hentries : s.entries = []
  · have hbuffer : s.buffer.isEmpty = true := by
      rw [List.isEmpty_iff, buffer_of_entries_eq_nil hentries]
    rw [if_pos hbuffer, spell_of_entries_eq_nil hentries]
  · have hbuffer : ¬s.buffer.isEmpty = true := by
      rw [List.isEmpty_iff]
      intro h
      exact hentries ((Text.join_eq_nil_iff hs.entries_ne_nil).1 h)
    rw [if_neg hbuffer, spell_of_entries_ne_nil hentries]

theorem IsClean.accept_of_fails {s : Session} (hs : s.IsClean) {entry : Text} {failure : Failure}
    (h : (evaluate s.config.settings (spell (s.entries ++ [entry]))).failure = some failure) :
    s.accept entry = (.error (.failure failure),
      { s with
        lastSource := spell (s.entries ++ [entry])
        tally := { s.tally with errors := s.tally.errors + 1 } }) := by
  unfold Session.accept
  dsimp only
  rw [tried_eq_spell hs, h]

theorem IsClean.accept_of_runs {s : Session} (hs : s.IsClean) {entry : Text}
    (h : (evaluate s.config.settings (spell (s.entries ++ [entry]))).failure = none) :
    s.accept entry =
      (.ok (.output (newOutput s.shown
        (evaluate s.config.settings (spell (s.entries ++ [entry]))).output)),
      { s with
        entries := s.entries ++ [entry]
        shown := (evaluate s.config.settings (spell (s.entries ++ [entry]))).output
        lastSource := spell (s.entries ++ [entry])
        tally := { s.tally with
          accepted := s.tally.accepted + 1
          steps := (evaluate s.config.settings (spell (s.entries ++ [entry]))).steps } }) := by
  unfold Session.accept
  dsimp only
  rw [tried_eq_spell hs, h]

theorem IsClean.accept {s : Session} (hs : s.IsClean) {entry : Text} (hentry : entry ≠ []) :
    (s.accept entry).2.IsClean := by
  unfold Session.accept
  dsimp only
  split
  · exact hs.congr rfl rfl rfl rfl
  · next hrun =>
    rw [tried_eq_spell hs] at hrun ⊢
    refine ⟨?_, ?_, rfl, rfl⟩
    · rw [List.mem_append, List.mem_singleton]
      rintro (hmem | hempty)
      · exact hs.entries_ne_nil hmem
      · exact hentry hempty.symm
    · intro front hfront
      rcases List.prefix_concat_iff.1 hfront with rfl | hfront
      · exact hrun
      · exact hs.runs front hfront

theorem IsClean.undo {s shorter : Session} {entry : Text} (hs : s.IsClean)
    (h : s.undo = some (entry, shorter)) : shorter.IsClean := by
  unfold Session.undo at h
  split at h
  · cases h
  · obtain ⟨-, rfl⟩ := Prod.mk.inj (Option.some.inj h)
    have hfront : s.entries.dropLast <+: s.entries := List.dropLast_prefix _
    refine ⟨fun hmem => hs.entries_ne_nil (hfront.subset hmem), ?_, rfl, rfl⟩
    intro front h
    exact hs.runs front (h.trans hfront)

theorem IsClean.obey {s : Session} (hs : s.IsClean) (command : Command) :
    (s.obey command).2.IsClean := by
  cases command with
  | clear => exact isClean_of_entries_eq_nil rfl rfl rfl
  | undo =>
    unfold Session.obey
    dsimp only
    split
    · next hundo => exact hs.undo hundo
    · exact hs
  | help | list | tally | config | exit | unknown => exact hs

theorem IsClean.feed {s : Session} (hs : s.IsClean) (line : Text) :
    (s.feed line).2.IsClean := by
  rcases feed_cases s line with h | ⟨header, h⟩ | ⟨entry, hentry, h⟩ | ⟨command, commands, h⟩
  · rw [h]
    exact hs
  · rw [h]
    exact hs.congr rfl rfl rfl rfl
  · rw [h]
    have hcancel : s.cancel.IsClean := hs.congr rfl rfl rfl rfl
    exact hcancel.accept hentry
  · rw [h]
    have hcounted : IsClean { s with tally := { s.tally with commands } } :=
      hs.congr rfl rfl rfl rfl
    exact hcounted.obey command

/-! ## Every run -/

theorem Reachable.isClean {config : SessionConfig} {s : Session} (h : Reachable config s) :
    s.IsClean := by
  induction h with
  | start => exact isClean_of_entries_eq_nil rfl rfl rfl
  | feed line _ ih => exact ih.feed line
  | cancel _ ih => exact ih.congr rfl rfl rfl rfl

/-- Whatever lines and cancellations led to a session: its first entries, however many, make a
spell that runs to its end, and its output and its steps are those of its buffer. -/
theorem buffer_runs_clean {config : SessionConfig} {s : Session} (h : Reachable config s) :
    (∀ count ≤ s.entries.length,
      (evaluate config.settings (Text.join "\n" (s.entries.take count))).succeeded = true) ∧
    s.shown = (evaluate config.settings s.buffer).output ∧
    s.tally.steps = (evaluate config.settings s.buffer).steps := by
  have hclean := h.isClean
  rw [← h.config_eq]
  refine ⟨?_, hclean.shown_eq, hclean.steps_eq⟩
  intro count _
  have hruns := hclean.runs _ (List.take_prefix count s.entries)
  unfold Evaluation.succeeded
  rw [Option.isNone_iff_eq_none]
  exact hruns

/-- A loop that was entered on two lines, and a line that failed and was dropped. -/
theorem buffer_runs_clean_loop : ∃ s, Reachable {} s ∧ s.entries.length = 2 ∧
    (∀ count ≤ s.entries.length,
      (evaluate {} (Text.join "\n" (s.entries.take count))).succeeded = true) ∧
    s.shown = (evaluate {} s.buffer).output ∧ s.tally.steps = (evaluate {} s.buffer).steps := by
  have hstart : Reachable {} (start {}) := .start
  have hassigned := hstart.feed "souls = ['Ada']"
  have hheader := hassigned.feed "for soul in souls:"
  have hbody := hheader.feed "print(soul)"
  have hdropped := hbody.feed "print(nobody)"
  refine ⟨_, hdropped, ?_, buffer_runs_clean hdropped⟩
  decide +kernel

end Spellbook.Session
