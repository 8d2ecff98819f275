import Spellbook.Proofs.Text.Trim
import Spellbook.Session.Basic

/-!
# Reachable sessions

A session is reachable if it comes from the start by lines and cancellations, in any order and
whatever the answers were.  A line does one of four things to a session, and `feed_cases` says
which.
-/

namespace Spellbook.Session

/-- The sessions that a configuration can lead to. -/
inductive Reachable (config : SessionConfig) : Session → Prop
  | start : Reachable config (start config)
  | feed {s : Session} (line : Text) : Reachable config s → Reachable config (s.feed line).2
  | cancel {s : Session} : Reachable config s → Reachable config s.cancel

/-! ## What a line does -/

/-- What a line asks of a session. -/
inductive Demand where
  | nothing
  | command (command : Command)
  | wait (header : Text)
  | trial (entry : Text)

/-- What a trimmed line asks for when no header waits. -/
def Demand.ofEntry (marker entry : Text) : Demand :=
  if entry.isEmpty ∨ entry.head? = some '#' then .nothing
  else if entry.head? = some '/' then .command (.ofName (Text.firstWord entry))
  else if opensBlock entry && !Text.contains marker entry then .wait entry
  else .trial entry

/-- A line that a header waits for is tried as its body, whatever it holds. -/
def demand (s : Session) (line : Text) : Demand :=
  match s.pending with
  | some header => .trial (header ++ "\n" ++ indentBody line)
  | none => .ofEntry s.config.settings.marker (Text.trim line)

/-- The answer to a demand, and the session after it. -/
def meet (s : Session) : Demand → Except Refusal Reply × Session
  | .nothing => (.ok .empty, s)
  | .command command =>
    obey { s with tally := { s.tally with commands := s.tally.commands + 1 } } command
  | .wait header => (.ok .awaitingBody, { s with pending := some header })
  | .trial entry => s.cancel.accept entry

theorem cancel_of_pending {s : Session} (h : s.pending = none) : s.cancel = s := by
  unfold cancel
  rw [← h]

theorem demand_of_pending {s : Session} {header : Text} (h : s.pending = some header)
    (line : Text) : s.demand line = .trial (header ++ "\n" ++ indentBody line) := by
  unfold demand
  rw [h]

theorem demand_of_none {s : Session} (h : s.pending = none) (line : Text) :
    s.demand line = .ofEntry s.config.settings.marker (Text.trim line) := by
  unfold demand
  rw [h]

theorem feed_eq_meet (s : Session) (line : Text) : s.feed line = s.meet (s.demand line) := by
  unfold feed
  cases hpending : s.pending with
  | some header =>
    rw [demand_of_pending hpending]
    rfl
  | none =>
    rw [demand_of_none hpending]
    unfold Demand.ofEntry
    dsimp only
    split
    · rfl
    · split
      · rw [meet, hpending]
      · split
        · rfl
        · rw [meet, cancel_of_pending hpending]

/-- An entry that waits or is tried is the trimmed line, which is not empty. -/
theorem Demand.eq_of_ofEntry {marker trimmed entry : Text}
    (h : ofEntry marker trimmed = .wait entry ∨ ofEntry marker trimmed = .trial entry) :
    entry = trimmed ∧ trimmed ≠ [] := by
  unfold ofEntry at h
  split at h
  · rcases h with h | h <;> exact nomatch h
  · next hsilent =>
    have htrimmed : trimmed ≠ [] := by
      rintro rfl
      exact hsilent (.inl rfl)
    refine ⟨?_, htrimmed⟩
    split at h
    · rcases h with h | h <;> exact nomatch h
    · split at h
      · rcases h with h | h
        · exact (Demand.wait.inj h).symm
        · exact nomatch h
      · rcases h with h | h
        · exact nomatch h
        · exact (Demand.trial.inj h).symm

theorem eq_trim_of_wait {s : Session} {line header : Text} (h : s.demand line = .wait header) :
    s.pending = none ∧ header = Text.trim line ∧ Text.trim line ≠ [] := by
  cases hpending : s.pending with
  | some waiting =>
    rw [demand_of_pending hpending] at h
    exact nomatch h
  | none =>
    rw [demand_of_none hpending] at h
    exact ⟨rfl, Demand.eq_of_ofEntry (.inl h)⟩

theorem eq_trim_of_trial {s : Session} {line entry : Text} (hpending : s.pending = none)
    (h : s.demand line = .trial entry) : entry = Text.trim line ∧ Text.trim line ≠ [] := by
  rw [demand_of_none hpending] at h
  exact Demand.eq_of_ofEntry (.inr h)

theorem Demand.eq_ofName_of_ofEntry {marker trimmed : Text} {command : Command}
    (h : ofEntry marker trimmed = .command command) :
    command = .ofName (Text.firstWord trimmed) := by
  unfold ofEntry at h
  split at h
  · exact nomatch h
  · split at h
    · exact (Demand.command.inj h).symm
    · split at h <;> exact nomatch h

theorem eq_ofName_of_command {s : Session} {line : Text} {command : Command}
    (h : s.demand line = .command command) :
    s.pending = none ∧ command = .ofName (Text.firstWord (Text.trim line)) := by
  cases hpending : s.pending with
  | some waiting =>
    rw [demand_of_pending hpending] at h
    exact nomatch h
  | none =>
    rw [demand_of_none hpending] at h
    exact ⟨rfl, Demand.eq_ofName_of_ofEntry h⟩

/-- A line leaves the session alone, lets a header wait, tries an entry that is not empty, or
carries out a command. -/
theorem feed_cases (s : Session) (line : Text) :
    (s.feed line).2 = s ∨
      (∃ header, (s.feed line).2 = { s with pending := some header }) ∨
      (∃ entry, entry ≠ [] ∧ (s.feed line).2 = (s.cancel.accept entry).2) ∨
      ∃ command commands,
        (s.feed line).2 = (obey { s with tally := { s.tally with commands } } command).2 := by
  rw [feed_eq_meet]
  cases hdemand : s.demand line with
  | nothing => exact .inl rfl
  | command command => exact .inr (.inr (.inr ⟨command, _, rfl⟩))
  | wait header => exact .inr (.inl ⟨header, rfl⟩)
  | trial entry =>
    refine .inr (.inr (.inl ⟨entry, ?_, rfl⟩))
    cases hpending : s.pending with
    | none =>
      obtain ⟨rfl, hentry⟩ := eq_trim_of_trial hpending hdemand
      exact hentry
    | some header =>
      rw [demand_of_pending hpending] at hdemand
      rw [← Demand.trial.inj hdemand]
      simp

/-! ## The configuration -/

@[simp] theorem config_accept (s : Session) (entry : Text) :
    (s.accept entry).2.config = s.config := by
  unfold accept
  dsimp only
  split <;> rfl

@[simp] theorem config_obey (s : Session) (command : Command) :
    (s.obey command).2.config = s.config := by
  cases command with
  | undo =>
    unfold obey undo
    dsimp only
    cases s.entries.getLast? <;> rfl
  | help | list | clear | tally | config | exit | unknown => rfl

@[simp] theorem config_feed (s : Session) (line : Text) :
    (s.feed line).2.config = s.config := by
  rcases feed_cases s line with h | ⟨header, h⟩ | ⟨entry, -, h⟩ | ⟨command, commands, h⟩
  · rw [h]
  · rw [h]
  · rw [h, config_accept]
    rfl
  · rw [h, config_obey]

theorem Reachable.config_eq {config : SessionConfig} {s : Session} (h : Reachable config s) :
    s.config = config := by
  induction h with
  | start => rfl
  | feed line _ ih => rw [config_feed, ih]
  | cancel _ ih => exact ih

/-! ## The header that waits -/

@[simp] theorem pending_accept (s : Session) (entry : Text) :
    (s.accept entry).2.pending = s.pending := by
  unfold accept
  dsimp only
  split <;> rfl

theorem pending_obey {s : Session} {command : Command} {header : Text}
    (h : (s.obey command).2.pending = some header) : s.pending = some header := by
  cases command with
  | clear => exact nomatch h
  | undo =>
    unfold obey undo at h
    dsimp only at h
    cases hlast : s.entries.getLast? with
    | none => rwa [hlast] at h
    | some entry => rwa [hlast] at h
  | help | list | tally | config | exit | unknown => exact h

/-- A header that waits begins with a visible character, because it was trimmed. -/
theorem Reachable.beginsVisible_of_pending {config : SessionConfig} {s : Session}
    (h : Reachable config s) {header : Text} (hpending : s.pending = some header) :
    header.BeginsVisible := by
  induction h generalizing header with
  | start => exact nomatch hpending
  | cancel _ _ => exact nomatch hpending
  | @feed s line _ ih =>
    rw [feed_eq_meet] at hpending
    cases hdemand : s.demand line with
    | nothing =>
      rw [hdemand] at hpending
      exact ih hpending
    | command command =>
      rw [hdemand] at hpending
      have hwaiting := pending_obey hpending
      exact ih hwaiting
    | wait waiting =>
      rw [hdemand] at hpending
      obtain rfl := Option.some.inj hpending
      obtain ⟨-, rfl, hline⟩ := eq_trim_of_wait hdemand
      exact Text.beginsVisible_trim hline
    | trial entry =>
      rw [hdemand, meet, pending_accept] at hpending
      exact nomatch hpending

theorem Reachable.beginsVisible_of_trial {config : SessionConfig} {s : Session}
    (h : Reachable config s) {line entry : Text} (hdemand : s.demand line = .trial entry) :
    entry.BeginsVisible := by
  cases hpending : s.pending with
  | none =>
    obtain ⟨rfl, hentry⟩ := eq_trim_of_trial hpending hdemand
    exact Text.beginsVisible_trim hentry
  | some header =>
    rw [demand_of_pending hpending] at hdemand
    rw [← Demand.trial.inj hdemand]
    exact ((h.beginsVisible_of_pending hpending).append _).append _

/-! ## Trials -/

/-- Whether an answer comes from trying a spell. -/
def isTrial : Except Refusal Reply → Bool
  | .ok (.output _) => true
  | .error (.failure _) => true
  | .ok .awaitingBody => false
  | .ok (.command _) => false
  | .ok .empty => false
  | .ok .exit => false
  | .error (.unknownCommand _) => false

theorem isTrial_obey (s : Session) (command : Command) : isTrial (s.obey command).1 = false := by
  cases command with
  | undo =>
    unfold obey
    dsimp only
    split <;> rfl
  | help | list | clear | tally | config | exit | unknown => rfl

theorem exists_trial_of_isTrial {s : Session} {line : Text}
    (h : isTrial (s.feed line).1 = true) : ∃ entry, s.demand line = .trial entry := by
  rw [feed_eq_meet] at h
  cases hdemand : s.demand line with
  | trial entry => exact ⟨entry, rfl⟩
  | nothing | wait =>
    rw [hdemand] at h
    exact nomatch h
  | command command =>
    rw [hdemand, meet, isTrial_obey] at h
    exact nomatch h

end Spellbook.Session
