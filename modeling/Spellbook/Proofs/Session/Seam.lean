import Spellbook.Proofs.Session.Display

/-!
# Where an answer begins

An answer is cut from the output of the whole buffer, behind what was shown before.  What was
shown before was trimmed, and the output is trimmed at its new end only.  So an answer is what
the new entry prints by itself, trimmed, unless earlier lines end with blanks, or with empty
lines: these come back in front of it as soon as the new entry prints something visible
(`Session.output_of_entry`).
-/

namespace Spellbook

/-! ## What statements print -/

/-- What the statements print, one behind another from the state on. -/
def Statement.printedBy (limit : Nat) (statements : List Statement) (st : State) : List Text :=
  (Statement.runAll limit statements st).state.printed.toList.drop st.printed.size

/-- Behind statements that succeed the others print what they print from there on. -/
theorem Statement.printed_append_printedBy {limit : Nat} {first : List Statement}
    (more : List Statement) {st : State} (h : (Statement.runAll limit first st).error = none) :
    (Statement.runAll limit (first ++ more) st).state.printed.toList =
      (Statement.runAll limit first st).state.printed.toList ++
        Statement.printedBy limit more (Statement.runAll limit first st).state := by
  obtain ⟨rest, hrest⟩ := Statement.printed_runAll_append limit first more st
  have hbehind : Statement.runAll limit (first ++ more) st =
      Statement.runAll limit more (Statement.runAll limit first st).state := by
    rw [Statement.runAll_append]
    rcases hfirst : Statement.runAll limit first st with ⟨st', _ | e⟩
    · rfl
    · rw [hfirst] at h
      contradiction
  unfold Statement.printedBy
  rw [← hbehind, ← hrest, ← Array.length_toList, List.drop_left]

/-- What a run of the spell prints in the statements that stand on the first lines. -/
def Program.printedUpTo (limit : Nat) (p : Program) (count : Nat) : List Text :=
  Statement.printedBy limit (p.upTo count) .initial

/-- What a run of the spell prints in the statements that stand behind the first lines. -/
def Program.printedBeyond (limit : Nat) (p : Program) (count : Nat) : List Text :=
  Statement.printedBy limit (p.beyond count) (Statement.runAll limit (p.upTo count) .initial).state

/-- A run of the spell prints what the statements on the first lines print, and then what the others
print. -/
theorem Program.printed_run {limit count : Nat} {p : Program}
    (hstatements : p.statements = p.upTo count ++ p.beyond count)
    (hrun : (p.run limit).error = none) :
    (p.run limit).state.printed.toList =
      p.printedUpTo limit count ++ p.printedBeyond limit count := by
  unfold Program.run at hrun ⊢
  rw [hstatements] at hrun ⊢
  rw [Statement.runAll_append] at hrun
  exact Statement.printed_append_printedBy _ (Outcome.error_of_andThen hrun)

namespace Session

/-! ## Cutting an output -/

theorem newOutput_nil (current : Text) : newOutput [] current = current := rfl

theorem newOutput_self (shown : Text) : newOutput shown shown = [] := by
  by_cases h : shown = []
  · rw [h, newOutput_nil]
  · have hrest := eq_newOutput_append h []
    rw [List.append_nil] at hrest
    exact hrest.symm

/-- What is behind the old output is new, with the newline that it may begin with or without it. -/
theorem cases_newOutput_append (shown rest : Text) :
    newOutput shown (shown ++ rest) = rest ∨ rest = '\n' :: newOutput shown (shown ++ rest) := by
  by_cases h : shown = []
  · rw [h]
    exact .inl rfl
  · have hrest := eq_newOutput_append h rest
    by_cases hhead : rest.head? = some '\n'
    · rw [if_pos hhead] at hrest
      exact .inr hrest
    · rw [if_neg hhead] at hrest
      exact .inl hrest.symm

/-- The cut is at the beginning of what is behind the old output. -/
theorem newOutput_append_append (shown : Text) {rest : Text} (hrest : rest ≠ []) (more : Text) :
    newOutput shown (shown ++ (rest ++ more)) = newOutput shown (shown ++ rest) ++ more := by
  by_cases h : shown = []
  · rw [h]
    rfl
  · have hall := eq_newOutput_append h (rest ++ more)
    have hpart := eq_newOutput_append h rest
    rw [List.head?_append_of_ne_nil _ hrest] at hall
    by_cases hhead : rest.head? = some '\n'
    · rw [if_pos hhead] at hall hpart
      have heq : '\n' :: newOutput shown (shown ++ (rest ++ more)) =
          '\n' :: (newOutput shown (shown ++ rest) ++ more) := by
        rw [← hall, ← List.cons_append, ← hpart]
      exact List.tail_eq_of_cons_eq heq
    · rw [if_neg hhead] at hall hpart
      rw [← hall, ← hpart]

/-- What comes back in front of the lines that are new: the end of the earlier lines that was
trimmed when they were shown. -/
def seam (earlier added : List Text) : Text :=
  if earlier = [] ∨ Text.trimEnd (Text.join "\n" added) = [] then []
  else newOutput (Text.trimEnd (Text.join "\n" earlier)) (Text.join "\n" earlier ++ "\n")

theorem newOutput_join (earlier added : List Text) :
    newOutput (Text.trimEnd (Text.join "\n" earlier))
        (Text.trimEnd (Text.join "\n" (earlier ++ added))) =
      seam earlier added ++ Text.trimEnd (Text.join "\n" added) := by
  unfold seam
  by_cases hearlier : earlier = []
  · rw [if_pos (.inl hearlier), hearlier, List.nil_append]
    rfl
  · by_cases hadded : added = []
    · rw [hadded, List.append_nil, newOutput_self, if_pos (.inr rfl)]
      rfl
    · rw [Text.join_append_of_ne_nil "\n" hearlier hadded, Text.trimEnd_append]
      by_cases htrim : Text.trimEnd (Text.join "\n" added) = []
      · rw [if_pos htrim, if_pos (.inr htrim), htrim, Text.trimEnd_append,
          if_pos (show Text.trimEnd "\n" = [] by decide), newOutput_self]
        rfl
      · rw [if_neg htrim, if_neg (not_or.2 ⟨hearlier, htrim⟩)]
        obtain ⟨back, hback, -⟩ := Text.exists_eq_trimEnd_append (Text.join "\n" earlier)
        generalize Text.trimEnd (Text.join "\n" earlier) = shown at hback ⊢
        have hne : back ++ ("\n" : Text) ≠ [] :=
          List.append_ne_nil_of_right_ne_nil _ (List.cons_ne_nil _ _)
        rw [hback, List.append_assoc shown back, List.append_assoc,
          newOutput_append_append shown hne]

theorem all_isBlank_seam (earlier added : List Text) : (seam earlier added).all Text.isBlank := by
  unfold seam
  split
  · rfl
  · obtain ⟨back, hback, hblank⟩ := Text.exists_eq_trimEnd_append (Text.join "\n" earlier)
    generalize Text.trimEnd (Text.join "\n" earlier) = shown at hback ⊢
    have hrest : (back ++ ("\n" : Text)).all Text.isBlank := by
      rw [List.all_append, hblank]
      decide
    rw [hback, List.append_assoc]
    rcases cases_newOutput_append shown (back ++ "\n") with hall | hall
    · rwa [hall]
    · rw [hall, List.all_cons] at hrest
      exact (Bool.and_eq_true _ _ ▸ hrest).2

/-- Nothing comes back behind earlier lines that end with something visible. -/
theorem newOutput_newline_eq_nil_iff (t : Text) :
    newOutput (Text.trimEnd t) (t ++ "\n") = [] ↔ t.EndsVisible := by
  rw [Text.endsVisible_iff]
  constructor
  · intro h
    obtain ⟨back, hback, -⟩ := Text.exists_eq_trimEnd_append t
    have hrest : t ++ "\n" = Text.trimEnd t ++ (back ++ "\n") := by
      rw [← List.append_assoc, ← hback]
    rw [hrest] at h
    rcases cases_newOutput_append (Text.trimEnd t) (back ++ "\n") with hall | hall
    · rw [h] at hall
      exact absurd hall.symm (List.append_ne_nil_of_right_ne_nil _ (List.cons_ne_nil _ _))
    · rw [h] at hall
      have hnewline : back ++ ("\n" : Text) = [] ++ ("\n" : Text) := hall
      have hnil := List.append_cancel_right hnewline
      rw [hnil, List.append_nil] at hback
      refine ⟨?_, hback.symm⟩
      rintro rfl
      rw [hnil] at h
      contradiction
  · intro h
    obtain ⟨hne, htrim⟩ := h
    rw [htrim]
    have hnewline := eq_newOutput_append hne "\n"
    rw [if_pos (show ("\n" : Text).head? = some '\n' from rfl)] at hnewline
    exact (List.tail_eq_of_cons_eq hnewline).symm

theorem seam_eq_nil_iff (earlier added : List Text) :
    seam earlier added = [] ↔ Text.trimEnd (Text.join "\n" added) = [] ∨ earlier = [] ∨
      (Text.join "\n" earlier).EndsVisible := by
  unfold seam
  by_cases h : earlier = [] ∨ Text.trimEnd (Text.join "\n" added) = []
  · rw [if_pos h]
    exact iff_of_true rfl (h.symm.imp_right .inl)
  · obtain ⟨hearlier, hadded⟩ := not_or.1 h
    rw [if_neg h, newOutput_newline_eq_nil_iff, or_iff_right hadded, or_iff_right hearlier]

/-! ## The entry in the buffer -/

/-- The number of lines of the entries. -/
def lineCount (s : Session) : Nat :=
  if s.entries.isEmpty then 0 else (SourceLine.split s.buffer).length

/-- An answer with output comes from an entry that was kept. -/
theorem exists_entry_of_output {config : SessionConfig} {s : Session} (h : Reachable config s)
    {line text : Text} (hanswer : (s.feed line).1 = .ok (.output text)) :
    ∃ entry, entry.BeginsVisible ∧ (s.feed line).2.entries = s.entries ++ [entry] ∧
      (evaluate s.config.settings (spell (s.entries ++ [entry]))).failure = none ∧
      text =
        newOutput s.shown (evaluate s.config.settings (spell (s.entries ++ [entry]))).output := by
  have htrial : isTrial (s.feed line).1 = true := by
    rw [hanswer]
    rfl
  obtain ⟨entry, hdemand⟩ := exists_trial_of_isTrial htrial
  have hclean : s.cancel.IsClean := h.isClean.congr rfl rfl rfl rfl
  rw [feed_eq_meet, hdemand, meet] at hanswer ⊢
  cases hrun :
      (evaluate s.cancel.config.settings (spell (s.cancel.entries ++ [entry]))).failure with
  | some failure =>
    rw [hclean.accept_of_fails hrun] at hanswer
    contradiction
  | none =>
    rw [hclean.accept_of_runs hrun] at hanswer ⊢
    have htext := Reply.output.inj (Except.ok.inj hanswer)
    exact ⟨entry, h.beginsVisible_of_trial hdemand, rfl, hrun, htext.symm⟩

/-- What was shown before is the trimmed output of the statements on the lines of
the old entries. -/
theorem IsClean.shown_eq_printedUpTo {s : Session} (hs : s.IsClean) {entry : Text}
    (hentry : entry.BeginsVisible) {p : Program}
    (hread : Program.read s.config.settings.marker (spell (s.entries ++ [entry])) = .ok p) :
    p.statements = p.upTo s.lineCount ++ p.beyond s.lineCount ∧
      s.shown = Text.trimEnd
        (Text.join "\n" (p.printedUpTo s.config.settings.maxSteps s.lineCount)) := by
  unfold Program.printedUpTo lineCount
  by_cases hentries : s.entries = []
  · rw [if_pos (List.isEmpty_iff.2 hentries), Program.upTo_zero hread, Program.beyond_zero hread]
    refine ⟨rfl, ?_⟩
    rw [hs.shown_eq, buffer_of_entries_eq_nil hentries, evaluate_nil]
    rfl
  · rw [if_neg (mt List.isEmpty_iff.1 hentries)]
    rw [spell_of_entries_ne_nil hentries] at hread
    obtain ⟨q, hq, hfirst, hstatements⟩ :=
      Program.exists_upTo_of_read_append hread hentry.beginsFlush
    rw [hfirst]
    refine ⟨hstatements, ?_⟩
    rw [hs.shown_eq, evaluate_of_read hq]
    rfl

/-! ## The main result -/

/-- An answer with output is the trimmed output of the new entry's own statements, and in front
of it whatever blanks and empty lines at the end of the earlier lines had not been shown.  So it
is just the former if the new entry prints nothing visible, if nothing was printed before, or if
what was printed before ends with something visible. -/
theorem output_of_entry {config : SessionConfig} {s : Session} (h : Reachable config s)
    {line text : Text} (hanswer : (s.feed line).1 = .ok (.output text)) :
    ∃ entry p, (s.feed line).2.entries = s.entries ++ [entry] ∧
      Program.read config.settings.marker (s.feed line).2.buffer = .ok p ∧
      p.statements = p.upTo s.lineCount ++ p.beyond s.lineCount ∧
      let earlier := p.printedUpTo config.settings.maxSteps s.lineCount
      let own := p.printedBeyond config.settings.maxSteps s.lineCount
      let expected := Text.trimEnd (Text.join "\n" own)
      s.shown = Text.trimEnd (Text.join "\n" earlier) ∧
      text = seam earlier own ++ expected ∧ (seam earlier own).all Text.isBlank ∧
      (text = expected ↔
        expected = [] ∨ earlier = [] ∨ (Text.join "\n" earlier).EndsVisible) := by
  obtain ⟨entry, hvisible, hentries, hfailure, htext⟩ := exists_entry_of_output h hanswer
  obtain ⟨p, hread, hrun⟩ := exists_of_evaluate_runs hfailure
  obtain ⟨hstatements, hshown⟩ := h.isClean.shown_eq_printedUpTo hvisible hread
  rw [evaluate_of_read hread] at htext
  have hbuffer : (s.feed line).2.buffer = spell (s.entries ++ [entry]) := by
    unfold buffer
    rw [hentries]
    rfl
  rw [← hbuffer] at hread
  rw [h.config_eq] at hread hrun hshown htext
  refine ⟨entry, p, hentries, hread, hstatements, ?_⟩
  intro earlier own expected
  have hcut : text = seam earlier own ++ expected := by
    rw [htext, hshown, ← newOutput_join, ← Program.printed_run hstatements hrun]
    rfl
  refine ⟨hshown, hcut, all_isBlank_seam earlier own, ?_⟩
  rw [hcut, List.append_left_eq_self, seam_eq_nil_iff]

/-- A blank and a newline that an earlier line ended with come back in front of the new line. -/
theorem output_of_entry_behind_blank : ∃ s entry p, Reachable {} s ∧
    (s.feed "print('b')").1 = .ok (.output " \nb") ∧
    (s.feed "print('b')").2.entries = s.entries ++ [entry] ∧
    Program.read "???" (s.feed "print('b')").2.buffer = .ok p ∧
    s.shown = Text.trimEnd (Text.join "\n" (p.printedUpTo 10000 s.lineCount)) ∧
    (" \nb" : Text) = seam (p.printedUpTo 10000 s.lineCount) (p.printedBeyond 10000 s.lineCount) ++
      Text.trimEnd (Text.join "\n" (p.printedBeyond 10000 s.lineCount)) := by
  have hstart : Reachable {} (start {}) := .start
  have hblank := hstart.feed "print('a ')"
  have hanswer :
      (((start {}).feed "print('a ')").2.feed "print('b')").1 = .ok (.output " \nb") := by
    decide +kernel
  obtain ⟨entry, p, hentries, hread, -, hshown, hcut, -⟩ := output_of_entry hblank hanswer
  exact ⟨_, entry, p, hblank, hanswer, hentries, hread, hshown, hcut⟩

/-- An answer is not always what the new entry prints: behind an empty line it begins
with a newline. -/
theorem output_ne_own_lines : ∃ s p, Reachable {} s ∧
    (s.feed "print('b')").1 = .ok (.output "\nb") ∧
    Program.read "???" (s.feed "print('b')").2.buffer = .ok p ∧
    p.printedBeyond 10000 s.lineCount = ["b"] ∧
    (("\nb" : Text) ≠ Text.trimEnd (Text.join "\n" (p.printedBeyond 10000 s.lineCount))) := by
  have hstart : Reachable {} (start {}) := .start
  have hempty := (hstart.feed "print('a')").feed "print()"
  let s := (((start {}).feed "print('a')").2.feed "print()").2
  have hown : (Program.read "???" (s.feed "print('b')").2.buffer).map
      (fun p => p.printedBeyond 10000 s.lineCount) = .ok ["b"] := by decide +kernel
  obtain ⟨p, hread, hprinted⟩ := exists_of_map_eq_ok hown
  refine ⟨s, p, hempty, by decide +kernel, hread, hprinted, ?_⟩
  rw [hprinted]
  decide

end Session

end Spellbook
