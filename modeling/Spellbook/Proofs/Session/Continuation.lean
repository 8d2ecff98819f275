import Spellbook.Proofs.Session.CleanBuffer

/-!
# What a session can still do

The future of a session depends on its entries and on the header that waits.  Entries that were
refused, headers that were cancelled and entries that were taken back leave other counts behind and
another spell that was tried last, but no other answers.

Two sessions are alike if they differ in these things only.  Every input leaves them alike, and one
that makes them try a spell leaves them with the same spell tried last, because the spell that they
try is made from the entries.
-/

namespace Spellbook.Session

/-! ## Inputs -/

/-- What can happen to a session. -/
inductive Input where
  | line (text : Text)
  | cancel

def next (s : Session) : Input → Session
  | .line text => (s.feed text).2
  | .cancel => s.cancel

/-- The session after the inputs. -/
def after (s : Session) (inputs : List Input) : Session := inputs.foldl next s

/-- The answers to a line are the same, but for the counts in the text of the tally. -/
def AnswersAgree (line : Text) (a b : Except Refusal Reply) : Prop :=
  a = b ∨ Command.ofName (Text.firstWord (Text.trim line)) = .tally ∧
    ∃ s t : Session, s.tally.steps = t.tally.steps ∧
      a = .ok (.command s.tallyText) ∧ b = .ok (.command t.tallyText)

/-- Whatever inputs come, the sessions answer the next line alike, have the same buffer and steps,
and both wait for a body or both do not.  Once a line has made them try a spell, the spell that was
tried last is the same, too. -/
structure Indistinguishable (s t : Session) : Prop where
  answers : ∀ inputs line,
    AnswersAgree line ((s.after inputs).feed line).1 ((t.after inputs).feed line).1
  buffer_eq : ∀ inputs, (s.after inputs).buffer = (t.after inputs).buffer
  isAwaiting_eq : ∀ inputs, (s.after inputs).isAwaiting = (t.after inputs).isAwaiting
  steps_eq : ∀ inputs, (s.after inputs).tally.steps = (t.after inputs).tally.steps
  lastSource_eq : ∀ inputs line more, isTrial ((s.after inputs).feed line).1 = true →
    (s.after (inputs ++ .line line :: more)).lastSource =
      (t.after (inputs ++ .line line :: more)).lastSource

/-! ## Sessions that are alike -/

/-- The sessions differ in their counts only, and if they have not tried the same spell, in the
spell that they tried last. -/
structure Alike (tried : Bool) (s t : Session) : Prop where
  config_eq : s.config = t.config
  entries_eq : s.entries = t.entries
  pending_eq : s.pending = t.pending
  shown_eq : s.shown = t.shown
  steps_eq : s.tally.steps = t.tally.steps
  lastSource_eq : tried = true → s.lastSource = t.lastSource

namespace Alike

variable {tried : Bool} {s t : Session}

theorem buffer_eq (h : Alike tried s t) : s.buffer = t.buffer := by
  unfold buffer
  rw [h.entries_eq]

theorem weaken (h : Alike true s t) : Alike tried s t :=
  { h with lastSource_eq := fun _ => h.lastSource_eq rfl }

theorem cancel (h : Alike tried s t) : Alike tried s.cancel t.cancel :=
  { h with pending_eq := rfl }

theorem count (h : Alike tried s t) (m n : Nat) :
    Alike tried { s with tally := { s.tally with commands := m } }
      { t with tally := { t.tally with commands := n } } :=
  { h with }

theorem accept (h : Alike tried s t) (entry : Text) :
    (s.accept entry).1 = (t.accept entry).1 ∧
      Alike true (s.accept entry).2 (t.accept entry).2 := by
  unfold Session.accept
  dsimp only
  rw [h.buffer_eq, h.config_eq]
  split
  · exact ⟨rfl, { h with config_eq := rfl, lastSource_eq := fun _ => rfl }⟩
  · refine ⟨by rw [h.shown_eq], ?_⟩
    exact ⟨rfl, congrArg (· ++ [entry]) h.entries_eq, h.pending_eq, rfl, rfl, fun _ => rfl⟩

theorem undo (h : Alike tried s t) :
    s.undo = none ∧ t.undo = none ∨ ∃ entry s' t', s.undo = some (entry, s') ∧
      t.undo = some (entry, t') ∧ Alike tried s' t' := by
  have hshorter : buffer { s with entries := s.entries.dropLast } =
      buffer { t with entries := t.entries.dropLast } := by
    unfold buffer
    rw [h.entries_eq]
  unfold Session.undo
  dsimp only
  rw [hshorter, h.config_eq, h.entries_eq]
  cases t.entries.getLast? with
  | none => exact .inl ⟨rfl, rfl⟩
  | some entry =>
    exact .inr ⟨entry, _, _, rfl, rfl, rfl, rfl, h.pending_eq, rfl, rfl, h.lastSource_eq⟩

/-- Of all commands only the tally shows what may differ. -/
theorem obey (h : Alike tried s t) (command : Command) :
    ((s.obey command).1 = (t.obey command).1 ∨ command = .tally ∧
      (s.obey command).1 = .ok (.command s.tallyText) ∧
      (t.obey command).1 = .ok (.command t.tallyText)) ∧
    Alike tried (s.obey command).2 (t.obey command).2 := by
  cases command with
  | tally => exact ⟨.inr ⟨rfl, rfl, rfl⟩, h⟩
  | clear => exact ⟨.inl rfl, h.config_eq, rfl, rfl, rfl, rfl, h.lastSource_eq⟩
  | undo =>
    unfold Session.obey
    rcases h.undo with ⟨hs, ht⟩ | ⟨entry, s', t', hs, ht, halike⟩
    · rw [hs, ht]
      exact ⟨.inl rfl, h⟩
    · rw [hs, ht]
      exact ⟨.inl rfl, halike⟩
  | list =>
    refine ⟨.inl ?_, h⟩
    unfold Session.obey listing
    rw [h.entries_eq, h.buffer_eq]
  | config =>
    refine ⟨.inl ?_, h⟩
    unfold Session.obey configText
    rw [h.config_eq]
  | help | exit | unknown => exact ⟨.inl rfl, h⟩

theorem demand_eq (h : Alike tried s t) (line : Text) : s.demand line = t.demand line := by
  unfold demand
  rw [h.pending_eq, h.config_eq]

theorem feed (h : Alike tried s t) (line : Text) :
    AnswersAgree line (s.feed line).1 (t.feed line).1 ∧
      Alike tried (s.feed line).2 (t.feed line).2 := by
  rw [feed_eq_meet, feed_eq_meet, ← h.demand_eq line]
  cases hdemand : s.demand line with
  | nothing => exact ⟨.inl rfl, h⟩
  | wait header => exact ⟨.inl rfl, { h with pending_eq := rfl }⟩
  | trial entry =>
    obtain ⟨hanswer, halike⟩ := h.cancel.accept entry
    exact ⟨.inl hanswer, halike.weaken⟩
  | command command =>
    have hcounted := h.count (s.tally.commands + 1) (t.tally.commands + 1)
    obtain ⟨hanswer | ⟨rfl, hs, ht⟩, halike⟩ := hcounted.obey command
    · exact ⟨.inl hanswer, halike⟩
    · refine ⟨.inr ⟨(eq_ofName_of_command hdemand).2.symm, _, _, ?_, hs, ht⟩, halike⟩
      exact h.steps_eq

/-- Trying a spell makes up for whatever was tried before. -/
theorem feed_of_isTrial (h : Alike tried s t) {line : Text}
    (htrial : isTrial (s.feed line).1 = true) : Alike true (s.feed line).2 (t.feed line).2 := by
  obtain ⟨entry, hdemand⟩ := exists_trial_of_isTrial htrial
  rw [feed_eq_meet, feed_eq_meet, ← h.demand_eq line, hdemand]
  exact (h.cancel.accept entry).2

/-! ## Every continuation -/

theorem after (h : Alike tried s t) (inputs : List Input) :
    Alike tried (s.after inputs) (t.after inputs) := by
  induction inputs generalizing s t with
  | nil => exact h
  | cons input inputs ih =>
    cases input with
    | line text => exact ih (h.feed text).2
    | cancel => exact ih h.cancel

theorem indistinguishable (h : Alike tried s t) : Indistinguishable s t := by
  refine ⟨?_, ?_, ?_, ?_, ?_⟩
  · intro inputs line
    exact ((h.after inputs).feed line).1
  · intro inputs
    exact (h.after inputs).buffer_eq
  · intro inputs
    unfold isAwaiting
    rw [(h.after inputs).pending_eq]
  · intro inputs
    exact (h.after inputs).steps_eq
  · intro inputs line more htrial
    have halike := (h.after inputs).feed_of_isTrial htrial
    have hmore := (halike.after more).lastSource_eq rfl
    unfold Session.after at hmore ⊢
    rw [List.foldl_append, List.foldl_append]
    exact hmore

end Alike

/-- The output and the steps that a session keeps are those of its entries. -/
theorem Reachable.alike {config : SessionConfig} {s t : Session} (hs : Reachable config s)
    (ht : Reachable config t) (hentries : s.entries = t.entries)
    (hpending : s.pending = t.pending) : Alike false s t := by
  have hconfig : s.config = t.config := by rw [hs.config_eq, ht.config_eq]
  have hbuffer : s.buffer = t.buffer := by
    unfold buffer
    rw [hentries]
  refine ⟨hconfig, hentries, hpending, ?_, ?_, fun h => nomatch h⟩
  · rw [hs.isClean.shown_eq, ht.isClean.shown_eq, hconfig, hbuffer]
  · rw [hs.isClean.steps_eq, ht.isClean.steps_eq, hconfig, hbuffer]

/-! ## What leaves no trace -/

/-- What an answer says of the sessions before and after it: a refusal keeps the entries and drops
the header, a header that waits was not there before, and output comes from one more entry. -/
def Tells (s t : Session) : Except Refusal Reply → Prop
  | .error _ => t.entries = s.entries ∧ t.pending = none
  | .ok .awaitingBody => t.entries = s.entries ∧ s.pending = none
  | .ok (.output _) => (∃ entry, t.entries = s.entries ++ [entry]) ∧ t.pending = none
  | .ok (.command _) => True
  | .ok .empty => True
  | .ok .exit => True

theorem tells_feed (s : Session) (line : Text) : Tells s (s.feed line).2 (s.feed line).1 := by
  rw [feed_eq_meet]
  cases hdemand : s.demand line with
  | nothing => exact trivial
  | wait header => exact ⟨rfl, (eq_trim_of_wait hdemand).1⟩
  | trial entry =>
    unfold meet accept
    dsimp only
    split
    · exact ⟨rfl, rfl⟩
    · exact ⟨⟨entry, rfl⟩, rfl⟩
  | command command =>
    cases command with
    | unknown name => exact ⟨rfl, (eq_ofName_of_command hdemand).1⟩
    | undo =>
      unfold meet obey
      dsimp only
      split <;> exact trivial
    | help | list | clear | tally | config | exit => exact trivial

/-- The command takes the last entry back, and nothing waits behind it. -/
theorem entries_feed_undo {s : Session} (h : s.pending = none) :
    (s.feed "/undo").2.entries = s.entries.dropLast ∧ (s.feed "/undo").2.pending = none := by
  have hdemand : s.demand "/undo" = .command .undo := by
    rw [demand_of_none h]
    rfl
  rw [feed_eq_meet, hdemand]
  unfold meet obey undo
  dsimp only
  cases hlast : s.entries.getLast? with
  | none =>
    rw [List.getLast?_eq_none_iff] at hlast
    refine ⟨?_, h⟩
    rw [hlast]
    rfl
  | some entry => exact ⟨rfl, h⟩

/-- Two sessions with the same entries, of which the same header waits or none does, cannot be told
apart.  So none of these can be told from the session without it: an entry that was refused, with
the header that it was to be the body of; a header that was cancelled; and an entry that was kept
and taken back. -/
theorem future_of_entries {config : SessionConfig} {s t : Session} (hs : Reachable config s)
    (ht : Reachable config t) (hentries : s.entries = t.entries)
    (hpending : s.pending = t.pending) :
    Indistinguishable s t ∧
    (∀ line refusal, (s.feed line).1 = .error refusal →
      Indistinguishable (s.feed line).2 s.cancel) ∧
    (∀ line, (s.feed line).1 = .ok .awaitingBody →
      Indistinguishable (s.feed line).2.cancel s) ∧
    (∀ line added, (s.feed line).1 = .ok (.output added) →
      Indistinguishable ((s.feed line).2.feed "/undo").2 s.cancel) := by
  refine ⟨(hs.alike ht hentries hpending).indistinguishable, ?_, ?_, ?_⟩
  · intro line refusal h
    have htells := tells_feed s line
    rw [h] at htells
    exact ((hs.feed line).alike hs.cancel htells.1 htells.2).indistinguishable
  · intro line h
    have htells := tells_feed s line
    rw [h] at htells
    exact ((hs.feed line).cancel.alike hs htells.1 htells.2.symm).indistinguishable
  · intro line added h
    have htells := tells_feed s line
    rw [h] at htells
    obtain ⟨⟨entry, hkept⟩, hnone⟩ := htells
    obtain ⟨htaken, hwaiting⟩ := entries_feed_undo hnone
    rw [hkept, List.dropLast_concat] at htaken
    exact (((hs.feed line).feed "/undo").alike hs.cancel htaken hwaiting).indistinguishable

/-- A line that was refused and one that was taken back, both before a header that waits: only the
counts know of them. -/
theorem future_of_entries_behind_refusal_and_undo : ∃ s t, Reachable {} s ∧ Reachable {} t ∧
    s.entries = t.entries ∧ s.pending = t.pending ∧ s.isAwaiting = true ∧ s.tally ≠ t.tally ∧
    Indistinguishable s t := by
  have hstart : Reachable {} (start {}) := .start
  have hassigned := hstart.feed "souls = ['Ada']"
  have hs := (hassigned.feed "print(nobody)").feed "for soul in souls:"
  have ht := ((hassigned.feed "print('Ada')").feed "/undo").feed "for soul in souls:"
  refine ⟨_, _, hs, ht, ?_, ?_, ?_, ?_, (future_of_entries hs ht ?_ ?_).1⟩ <;> decide +kernel

end Spellbook.Session
