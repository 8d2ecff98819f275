import Spellbook.Proofs.Run.Visits
import Spellbook.Proofs.Text.Join
import Spellbook.Proofs.Text.Trim
import Spellbook.Run.Evaluation

/-!
# What a lower step limit leaves of a run

Two runs of one spell under two limits are the same up to the first statement that the lower limit
refuses.  `Truncates` says so of any part of a run, seen as an outcome for each limit, and
`Truncates.andThen` puts parts together.  So each statement form needs only its own parts, and no
proof compares two whole runs.
-/

namespace Spellbook

/-! ## Parts of a run -/

/-- The run has been ended by the limit, at the visit. -/
structure Outcome.CutAt (o : Outcome) (limit : Nat) (visit : Visit) : Prop where
  steps_eq : o.state.steps = limit + 1
  error_eq : o.error = some (visit.refusal limit)

theorem Outcome.CutAt.andThen_eq {o : Outcome} {limit : Nat} {visit : Visit}
    (h : o.CutAt limit visit) (next : State → Outcome) : o.andThen next = o := by
  rcases o with ⟨st, none | e⟩
  · exact nomatch h.error_eq
  · rfl

/-- A part of a run that starts in a state, with its outcome and its visits under each limit.  It
counts its visits and keeps what was printed.  A lower limit changes nothing if it is not passed,
and otherwise ends the part at the visit that passes it. -/
structure Truncates (st : State) (run : Nat → Outcome) (visits : Nat → List Visit) : Prop where
  counts : ∀ limit, (run limit).state.steps = st.steps + (visits limit).length
  prints : ∀ limit, st.printed.toList <+: (run limit).state.printed.toList
  same : ∀ {m M}, m ≤ M → (run M).state.steps ≤ m → run m = run M
  cut : ∀ {m M}, m ≤ M → st.steps ≤ m → m < (run M).state.steps →
    ∃ visit, (visits M)[m - st.steps]? = some visit ∧ (run m).CutAt m visit ∧
      (run m).state.printed.toList <+: (run M).state.printed.toList

namespace Truncates

variable {st : State} {run : Nat → Outcome} {visits : Nat → List Visit}

/-- A part that counts nothing does not depend on the limit. -/
theorem of_steps_eq {o : Outcome} (hsteps : o.state.steps = st.steps)
    (hprinted : st.printed.toList <+: o.state.printed.toList) :
    Truncates st (fun _ => o) (fun _ => []) := by
  refine ⟨fun _ => hsteps, fun _ => hprinted, fun _ _ => rfl, ?_⟩
  intro m M _ hle hlt
  omega

/-- A part may as well start in a state with the same steps in which less was printed. -/
theorem of_start {st' : State} (h : Truncates st' run visits) (hsteps : st'.steps = st.steps)
    (hprinted : st.printed.toList <+: st'.printed.toList) : Truncates st run visits := by
  refine ⟨?_, fun limit => hprinted.trans (h.prints limit), h.same, ?_⟩
  · rw [← hsteps]
    exact h.counts
  · rw [← hsteps]
    exact h.cut

theorem countStep (st : State) (line : Nat) (span : Span) :
    Truncates st (fun limit => st.countStep limit line span) (fun _ => [⟨line, span⟩]) := by
  refine ⟨?_, ?_, ?_, ?_⟩
  · intro limit
    unfold State.countStep
    dsimp only
    split <;> rfl
  · intro limit
    unfold State.countStep
    dsimp only
    split <;> exact List.prefix_rfl
  · intro m M hle hsteps
    unfold State.countStep at hsteps ⊢
    have hcounted : st.steps + 1 ≤ m := by
      dsimp only at hsteps
      split at hsteps <;> exact hsteps
    have hm : ¬m < st.steps + 1 := by omega
    have hM : ¬M < st.steps + 1 := by omega
    dsimp only
    rw [if_neg hm, if_neg hM]
  · intro m M _ hle hlt
    have hm : st.steps = m := by
      unfold State.countStep at hlt
      dsimp only at hlt
      split at hlt <;> (dsimp only at hlt; omega)
    subst hm
    have hrefused : st.countStep st.steps line span =
        ⟨{ st with steps := st.steps + 1 }, some (Visit.refusal st.steps ⟨line, span⟩)⟩ := by
      unfold State.countStep
      exact if_pos (Nat.lt_succ_self _)
    refine ⟨⟨line, span⟩, by simp, ?_, ?_⟩
    · rw [hrefused]
      exact ⟨rfl, rfl⟩
    · rw [hrefused]
      unfold State.countStep
      dsimp only
      split <;> exact List.prefix_rfl

section AndThen

variable {next : Nat → State → Outcome} {nextVisits : Nat → State → List Visit}
  (hnext : ∀ st', Truncates st' (fun limit => next limit st') (fun limit => nextVisits limit st'))

include hnext

theorem steps_andThen (o : Outcome) (limit : Nat) :
    (o.andThen (next limit)).state.steps =
      o.state.steps + (o.thenVisits (nextVisits limit)).length := by
  rcases o with ⟨st', none | e⟩
  · exact (hnext st').counts limit
  · rfl

theorem printed_andThen (o : Outcome) (limit : Nat) :
    o.state.printed.toList <+: (o.andThen (next limit)).state.printed.toList := by
  rcases o with ⟨st', none | e⟩
  · exact (hnext st').prints limit
  · exact List.prefix_rfl

theorem andThen_same (o : Outcome) {m M : Nat} (hle : m ≤ M)
    (hsteps : (o.andThen (next M)).state.steps ≤ m) :
    o.andThen (next m) = o.andThen (next M) := by
  rcases o with ⟨st', none | e⟩
  · exact (hnext st').same hle hsteps
  · rfl

/-- Where the first part stays below the limit, the second passes it. -/
theorem andThen_cut (o : Outcome) {m M : Nat} (hle : m ≤ M) (hfirst : o.state.steps ≤ m)
    (hlt : m < (o.andThen (next M)).state.steps) :
    ∃ visit, (o.thenVisits (nextVisits M))[m - o.state.steps]? = some visit ∧
      (o.andThen (next m)).CutAt m visit ∧
      (o.andThen (next m)).state.printed.toList <+:
        (o.andThen (next M)).state.printed.toList := by
  rcases o with ⟨st', none | e⟩
  · exact (hnext st').cut hle hfirst hlt
  · exact absurd hlt (Nat.not_lt.2 hfirst)

/-- Two parts make one, if the second is one from every state that the first can come to. -/
theorem andThen (h : Truncates st run visits) :
    Truncates st (fun limit => (run limit).andThen (next limit))
      (fun limit => visits limit ++ (run limit).thenVisits (nextVisits limit)) := by
  refine ⟨?_, ?_, ?_, ?_⟩
  · intro limit
    rw [steps_andThen hnext, h.counts limit, List.length_append]
    omega
  · intro limit
    exact (h.prints limit).trans (printed_andThen hnext (run limit) limit)
  · intro m M hle hsteps
    have hfirst : (run M).state.steps ≤ m := by
      rw [steps_andThen hnext] at hsteps
      omega
    rw [h.same hle hfirst]
    exact andThen_same hnext (run M) hle hsteps
  · intro m M hle hstart hlt
    have hcounts := h.counts M
    by_cases hfirst : (run M).state.steps ≤ m
    · -- The limit is passed behind the first part, which is the same under both limits.
      obtain ⟨visit, hvisit, hcut, hprinted⟩ := andThen_cut hnext (run M) hle hfirst hlt
      rw [h.same hle hfirst]
      refine ⟨visit, ?_, hcut, hprinted⟩
      rw [List.getElem?_append_right (by omega), ← hvisit]
      congr 1
      omega
    · obtain ⟨visit, hvisit, hcut, hprinted⟩ := h.cut hle hstart (by omega)
      rw [hcut.andThen_eq]
      refine ⟨visit, ?_, hcut, hprinted.trans (printed_andThen hnext (run M) M)⟩
      rw [List.getElem?_append_left (by omega), hvisit]

end AndThen

end Truncates

/-! ## Statements -/

theorem State.steps_commit (st : State) (store : Store) (effect : Effect) :
    (st.commit store effect).steps = st.steps := by
  cases effect <;> rfl

theorem State.printed_commit (st : State) (store : Store) (effect : Effect) :
    st.printed.toList <+: (st.commit store effect).printed.toList := by
  cases effect with
  | print text =>
    have hpush : (st.commit store (.print text)).printed = st.printed.push text := rfl
    rw [hpush, Array.toList_push]
    exact List.prefix_append _ _
  | define | append => exact List.prefix_rfl

theorem State.steps_enter (st : State) (round : Option (Text × Value)) :
    (st.enter round).steps = st.steps := by
  rcases round with - | ⟨name, item⟩ <;> rfl

theorem State.printed_enter (st : State) (round : Option (Text × Value)) :
    (st.enter round).printed = st.printed := by
  rcases round with - | ⟨name, item⟩ <;> rfl

theorem Simple.truncates_perform (s : Simple) (st : State) :
    Truncates st (fun _ => s.perform st) (fun _ => []) := by
  apply Truncates.of_steps_eq
  · unfold Simple.perform
    split
    · rfl
    · exact st.steps_commit _ _
  · unfold Simple.perform
    split
    · exact List.prefix_rfl
    · exact st.printed_commit _ _

theorem Simple.truncates (s : Simple) (st : State) :
    Truncates st (fun limit => s.run limit st) (fun _ => [s.visit]) := by
  have h : Truncates st (fun limit => s.run limit st) _ :=
    Truncates.andThen s.truncates_perform (.countStep st s.line s.span)
  have hvisits : ∀ limit, [(⟨s.line, s.span⟩ : Visit)] ++
      (st.countStep limit s.line s.span).thenVisits (fun _ => []) = [s.visit] := by
    intro limit
    unfold Outcome.thenVisits Simple.visit
    split <;> rfl
  simpa only [hvisits] using h

/-- The step of a run of rounds is one round; a round without a body counts nothing. -/
theorem truncates_runRounds (body : Option Simple) (rounds : List (Option (Text × Value)))
    (st : State) :
    Truncates st (fun limit => runRounds limit body rounds st)
      (fun limit => visitsOfRounds limit body rounds st) := by
  induction rounds generalizing st with
  | nil => exact Truncates.of_steps_eq rfl List.prefix_rfl
  | cons round rounds ih =>
    have hsteps := st.steps_enter round
    have hprinted : st.printed.toList <+: (st.enter round).printed.toList := by
      simp only [st.printed_enter round, List.prefix_rfl]
    cases body with
    | none => exact (ih (st.enter round)).of_start hsteps hprinted
    | some s =>
      have h := Truncates.andThen ih (s.truncates (st.enter round))
      exact h.of_start hsteps hprinted

theorem Block.truncates_perform (b : Block) (st : State) :
    Truncates st (fun limit => b.perform limit st) (fun limit => b.visitsInside limit st) := by
  unfold Block.perform Block.visitsInside
  cases b.header.rounds st.scope st.store with
  | error blame => exact Truncates.of_steps_eq rfl List.prefix_rfl
  | ok rounds => exact truncates_runRounds b.body rounds st

theorem Statement.truncates (s : Statement) (st : State) :
    Truncates st (fun limit => s.run limit st) (fun limit => s.visits limit st) := by
  cases s with
  | simple s => exact s.truncates st
  | block b => exact Truncates.andThen b.truncates_perform (.countStep st b.line b.span)

theorem Statement.truncates_runAll (statements : List Statement) (st : State) :
    Truncates st (fun limit => Statement.runAll limit statements st)
      (fun limit => Statement.visitsAll limit statements st) := by
  induction statements generalizing st with
  | nil => exact Truncates.of_steps_eq rfl List.prefix_rfl
  | cons s rest ih => exact Truncates.andThen ih (s.truncates st)

theorem Program.truncates (p : Program) :
    Truncates .initial (fun limit => p.run limit) (fun limit => p.visits limit) :=
  Statement.truncates_runAll p.statements .initial

/-! ## Evaluations -/

theorem Evaluation.output_prefix {o o' : Outcome}
    (h : o.state.printed.toList <+: o'.state.printed.toList) :
    (Evaluation.ofOutcome o).output <+: (Evaluation.ofOutcome o').output :=
  Text.trimEnd_mono (Text.join_isPrefix _ h)

theorem Evaluation.ofOutcome_of_cutAt {o : Outcome} {limit : Nat} {visit : Visit}
    (h : o.CutAt limit visit) : Evaluation.ofOutcome o =
      ⟨(Evaluation.ofOutcome o).output, limit + 1, some (.running (visit.refusal limit))⟩ := by
  unfold Evaluation.ofOutcome
  rw [h.steps_eq, h.error_eq]
  rfl

/-- The spell run under two limits, of which the second is at least the first.  If the run under
the second counts no more steps than the first limit, both evaluations are the same.  Otherwise
the evaluation under the first ends, one step past the limit, at the statement that comes next in
the run under the second, and what it printed is a front part of what that one printed. -/
theorem Program.evaluate_lower_limit (p : Program) (marker : Text) {m M : Nat} (h : m ≤ M) :
    (p.evaluate ⟨marker, M⟩).steps = (p.visits M).length ∧
    ((p.evaluate ⟨marker, M⟩).steps ≤ m →
      p.evaluate ⟨marker, m⟩ = p.evaluate ⟨marker, M⟩) ∧
    (m < (p.evaluate ⟨marker, M⟩).steps → ∃ visit, (p.visits M)[m]? = some visit ∧
      p.evaluate ⟨marker, m⟩ =
        ⟨(p.evaluate ⟨marker, m⟩).output, m + 1, some (.running (visit.refusal m))⟩ ∧
      (p.evaluate ⟨marker, m⟩).output <+: (p.evaluate ⟨marker, M⟩).output) ∧
    (p.evaluate ⟨marker, M⟩).steps ≤ M + 1 ∧
    (∀ failure, (p.evaluate ⟨marker, M⟩).failure = some failure → failure.kind ≠ .exhausted →
      (p.evaluate ⟨marker, M⟩).steps ≤ M) ∧
    ((p.evaluate ⟨marker, m⟩).succeeded = true →
      p.evaluate ⟨marker, M⟩ = p.evaluate ⟨marker, m⟩) := by
  have hsame : (p.evaluate ⟨marker, M⟩).steps ≤ m →
      p.evaluate ⟨marker, m⟩ = p.evaluate ⟨marker, M⟩ := fun hsteps =>
    congrArg Evaluation.ofOutcome (p.truncates.same h hsteps)
  have hcut : ∀ {m}, m ≤ M → m < (p.evaluate ⟨marker, M⟩).steps →
      ∃ visit, (p.visits M)[m]? = some visit ∧
        p.evaluate ⟨marker, m⟩ =
          ⟨(p.evaluate ⟨marker, m⟩).output, m + 1, some (.running (visit.refusal m))⟩ ∧
        (p.evaluate ⟨marker, m⟩).output <+: (p.evaluate ⟨marker, M⟩).output := by
    intro m hle hlt
    obtain ⟨visit, hvisit, hended, hprinted⟩ := p.truncates.cut hle (Nat.zero_le m) hlt
    exact ⟨visit, hvisit, Evaluation.ofOutcome_of_cutAt hended,
      Evaluation.output_prefix hprinted⟩
  refine ⟨?_, hsame, hcut h, ?_, ?_, ?_⟩
  · have hcounts := p.truncates.counts M
    rw [show State.initial.steps = 0 from rfl, Nat.zero_add] at hcounts
    exact hcounts
  · by_cases hle : (p.evaluate ⟨marker, M⟩).steps ≤ M
    · omega
    · obtain ⟨visit, -, hended, -⟩ := hcut (Nat.le_refl M) (by omega)
      exact Nat.le_of_eq (congrArg Evaluation.steps hended)
  · intro failure hfailure hkind
    by_cases hle : (p.evaluate ⟨marker, M⟩).steps ≤ M
    · exact hle
    · obtain ⟨visit, -, hended, -⟩ := hcut (Nat.le_refl M) (by omega)
      rw [hended] at hfailure
      obtain rfl := Option.some.inj hfailure
      exact absurd rfl hkind
  · intro hsucceeded
    by_cases hle : (p.evaluate ⟨marker, M⟩).steps ≤ m
    · exact (hsame hle).symm
    · obtain ⟨visit, -, hended, -⟩ := hcut h (by omega)
      rw [hended] at hsucceeded
      exact nomatch hsucceeded

/-- A loop over two items that prints each: with three steps it ends in its second round. -/
theorem Program.evaluate_lower_limit_loop : ∃ p : Program, 3 ≤ 4 ∧
    3 < (p.evaluate ⟨defaultMarker, 4⟩).steps ∧ ∃ visit, (p.visits 4)[3]? = some visit ∧
      p.evaluate ⟨defaultMarker, 3⟩ =
        ⟨(p.evaluate ⟨defaultMarker, 3⟩).output, 4, some (.running (visit.refusal 3))⟩ ∧
      (p.evaluate ⟨defaultMarker, 3⟩).output <+: (p.evaluate ⟨defaultMarker, 4⟩).output := by
  let assigned : Simple :=
    ⟨.assignment ⟨"xs", ⟨0, 2⟩⟩
      (.list [.integer 1 ⟨6, 7⟩, .integer 2 ⟨9, 10⟩] ⟨5, 11⟩), 1, ⟨0, 11⟩⟩
  let printed : Simple := ⟨.print (some (.identifier ⟨"x", ⟨34, 35⟩⟩)), 3, ⟨28, 36⟩⟩
  let loop : Block := ⟨.loop ⟨"x", ⟨16, 17⟩⟩ ⟨"xs", ⟨21, 23⟩⟩, 2, ⟨12, 24⟩, some printed⟩
  let p : Program := ⟨[.simple assigned, .block loop], ⟨0, 36⟩⟩
  have hlt : 3 < (p.evaluate ⟨defaultMarker, 4⟩).steps := by decide +kernel
  exact ⟨p, by decide, hlt, (p.evaluate_lower_limit defaultMarker (by decide)).2.2.1 hlt⟩

end Spellbook
