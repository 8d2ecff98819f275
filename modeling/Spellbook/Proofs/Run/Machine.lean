import Mathlib.Logic.Relation
import Spellbook.Run.Execute

/-!
# A run, point by point

A run goes from one point between two statements to the next.  The steps are those of a machine that
keeps what is left to do as a list of tasks: the statements to come, and the rounds to come of the
block that is being carried out.  The machine goes to the outcome of the run and nowhere else
(`Program.reaches_run`, `Program.reaches_last`).
-/

namespace Spellbook

/-- What is left to do: a statement, or the rest of the rounds of a block. -/
inductive Task where
  | statement (s : Statement)
  | rounds (body : Option Simple) (rounds : List (Option (Text × Value)))

/-- A point of a run between two statements.  After an error nothing is left to do. -/
inductive Point where
  | going (st : State) (tasks : List Task)
  | failed (st : State) (error : RunError)

namespace Point

def state : Point → State
  | going st _ => st
  | failed st _ => st

/-- The point that a run with tasks left comes to by an outcome. -/
def ofOutcome : Outcome → List Task → Point
  | ⟨st, none⟩, tasks => going st tasks
  | ⟨st, some error⟩, _ => failed st error

theorem state_ofOutcome (o : Outcome) (tasks : List Task) :
    (ofOutcome o tasks).state = o.state := by
  rcases o with ⟨st, none | e⟩ <;> rfl

end Point

/-- The state in which one more statement has been counted. -/
def State.counted (st : State) : State := { st with steps := st.steps + 1 }

theorem State.countStep_of_lt {limit line : Nat} {span : Span} {st : State}
    (h : st.steps < limit) : st.countStep limit line span = ⟨st.counted, none⟩ := by
  unfold State.countStep
  exact if_neg (Nat.not_lt.2 h)

theorem State.countStep_of_le {limit line : Nat} {span : Span} {st : State}
    (h : limit ≤ st.steps) :
    st.countStep limit line span =
      ⟨st.counted, some (Blame.onLine line ⟨.stepLimit limit, span⟩)⟩ := by
  unfold State.countStep
  exact if_pos (Nat.lt_succ_of_le h)

/-- From one point of a run to the next.  A statement is counted and then carried out, and where
this fails the state is only the counted one.  A header leaves its rounds to be done, a round
enters and leaves the body to be done. -/
inductive Point.Step (limit : Nat) : Point → Point → Prop
  | act {s : Simple} {st : State} {tasks : List Task} {effect : Effect} {store : Store} :
    st.steps < limit → s.action.effect st.scope st.store = .ok (effect, store) →
      Step limit (going st (.statement (.simple s) :: tasks))
        (going (st.counted.commit store effect) tasks)
  | actFails {s : Simple} {st : State} {tasks : List Task} {blame : Blame RunCause} :
    st.steps < limit → s.action.effect st.scope st.store = .error blame →
      Step limit (going st (.statement (.simple s) :: tasks))
        (failed st.counted (blame.onLine s.line))
  | header {b : Block} {st : State} {tasks : List Task}
      {rounds : List (Option (Text × Value))} :
    st.steps < limit → b.header.rounds st.scope st.store = .ok rounds →
      Step limit (going st (.statement (.block b) :: tasks))
        (going st.counted (.rounds b.body rounds :: tasks))
  | headerFails {b : Block} {st : State} {tasks : List Task} {blame : Blame RunCause} :
    st.steps < limit → b.header.rounds st.scope st.store = .error blame →
      Step limit (going st (.statement (.block b) :: tasks))
        (failed st.counted (blame.onLine b.line))
  | refuse {s : Statement} {st : State} {tasks : List Task} :
    limit ≤ st.steps →
      Step limit (going st (.statement s :: tasks))
        (failed st.counted (Blame.onLine s.line ⟨.stepLimit limit, s.span⟩))
  | enter {body : Option Simple} {round : Option (Text × Value)}
      {rounds : List (Option (Text × Value))} {st : State} {tasks : List Task} :
    Step limit (going st (.rounds body (round :: rounds) :: tasks))
      (going (st.enter round)
        (body.toList.map (fun s => .statement (.simple s)) ++ .rounds body rounds :: tasks))
  | leave {body : Option Simple} {st : State} {tasks : List Task} :
    Step limit (going st (.rounds body [] :: tasks)) (going st tasks)

namespace Point

variable {limit : Nat} {p q last : Point}

theorem Step.unique {q' : Point} (h : Step limit p q) (h' : Step limit p q') : q = q' := by
  cases h with
  | act hcount h =>
    cases h' with
    | act hcount' h' =>
      cases h.symm.trans h'
      rfl
    | actFails hcount' h' => cases h.symm.trans h'
    | refuse hlimit => omega
  | actFails hcount h =>
    cases h' with
    | act hcount' h' => cases h.symm.trans h'
    | actFails hcount' h' =>
      cases h.symm.trans h'
      rfl
    | refuse hlimit => omega
  | header hcount h =>
    cases h' with
    | header hcount' h' =>
      cases h.symm.trans h'
      rfl
    | headerFails hcount' h' => cases h.symm.trans h'
    | refuse hlimit => omega
  | headerFails hcount h =>
    cases h' with
    | header hcount' h' => cases h.symm.trans h'
    | headerFails hcount' h' =>
      cases h.symm.trans h'
      rfl
    | refuse hlimit => omega
  | refuse hlimit =>
    cases h' with
    | act hcount | actFails hcount | header hcount | headerFails hcount => omega
    | refuse => rfl
  | enter | leave =>
    cases h'
    rfl

/-- One point of a run is the other or comes before it. -/
abbrev Reaches (limit : Nat) : Point → Point → Prop := Relation.ReflTransGen (Step limit)

/-- At the end of a run there is nothing left to do. -/
theorem not_step_ofOutcome_nil (o : Outcome) : ¬Step limit (ofOutcome o []) q := by
  intro h
  rcases o with ⟨st, none | e⟩ <;> cases h

/-- A run has one way to go, so that it comes to its end from each of its points. -/
theorem Reaches.to_last {o : Outcome} (h : Reaches limit p q)
    (hlast : Reaches limit p (ofOutcome o [])) : Reaches limit q (ofOutcome o []) := by
  -- Of two points that are reached, one comes before the other, and nothing comes after the end.
  have hunique : Relator.RightUnique (Step limit) := fun _ _ _ h h' => h.unique h'
  rcases Relation.ReflTransGen.total_of_right_unique hunique h hlast with h | h
  · exact h
  · rcases h.cases_head with rfl | ⟨next, hstep, -⟩
    · exact .refl
    · exact absurd hstep (not_step_ofOutcome_nil o)

/-- What follows an outcome goes on from the point that the outcome comes to. -/
theorem Reaches.andThen {o : Outcome} {next : State → Outcome} {tasks more : List Task}
    (h : Reaches limit p (ofOutcome o tasks))
    (hnext : ∀ st, Reaches limit (going st tasks) (ofOutcome (next st) more)) :
    Reaches limit p (ofOutcome (o.andThen next) more) := by
  rcases o with ⟨st, none | e⟩
  · exact h.trans (hnext st)
  · exact h

end Point

open Point (Reaches Step)

/-! ## Every outcome is reached -/

section Outcomes

variable (limit : Nat)

theorem Simple.step_run (s : Simple) (st : State) (tasks : List Task) :
    Step limit (.going st (.statement (.simple s) :: tasks))
      (.ofOutcome (s.run limit st) tasks) := by
  unfold Simple.run
  rcases Nat.lt_or_ge st.steps limit with hlimit | hlimit
  · rw [State.countStep_of_lt hlimit]
    change Step limit _ (.ofOutcome (s.perform st.counted) tasks)
    unfold Simple.perform
    split
    · next blame heffect => exact .actFails hlimit heffect
    · next effect store heffect => exact .act hlimit heffect
  · rw [State.countStep_of_le hlimit]
    exact .refuse hlimit

theorem reaches_runRounds (body : Option Simple) (rounds : List (Option (Text × Value)))
    (st : State) (tasks : List Task) :
    Reaches limit (.going st (.rounds body rounds :: tasks))
      (.ofOutcome (runRounds limit body rounds st) tasks) := by
  induction rounds generalizing st with
  | nil => exact .single .leave
  | cons round rounds ih =>
    cases body with
    | none => exact .head .enter (ih (st.enter round))
    | some s =>
      have hbody : Reaches limit (.going st (.rounds (some s) (round :: rounds) :: tasks))
          (.ofOutcome (s.run limit (st.enter round)) (.rounds (some s) rounds :: tasks)) :=
        .head .enter (.single (s.step_run limit _ _))
      exact hbody.andThen ih

theorem Statement.reaches_run (s : Statement) (st : State) (tasks : List Task) :
    Reaches limit (.going st (.statement s :: tasks)) (.ofOutcome (s.run limit st) tasks) := by
  cases s with
  | simple s => exact .single (s.step_run limit st tasks)
  | block b =>
    change Reaches limit _ (.ofOutcome (b.run limit st) tasks)
    unfold Block.run
    rcases Nat.lt_or_ge st.steps limit with hlimit | hlimit
    · rw [State.countStep_of_lt hlimit]
      change Reaches limit _ (.ofOutcome (b.perform limit st.counted) tasks)
      unfold Block.perform
      split
      · next blame hrounds => exact .single (.headerFails hlimit hrounds)
      · next rounds hrounds =>
        exact .head (.header hlimit hrounds) (reaches_runRounds limit b.body rounds _ tasks)
    · rw [State.countStep_of_le hlimit]
      exact .single (.refuse hlimit)

theorem Statement.reaches_runAll (statements : List Statement) (st : State)
    (tasks : List Task) :
    Reaches limit (.going st (statements.map .statement ++ tasks))
      (.ofOutcome (Statement.runAll limit statements st) tasks) := by
  induction statements generalizing st with
  | nil => exact .refl
  | cons s rest ih => exact (s.reaches_run limit st _).andThen ih

end Outcomes

/-! ## Whole spells -/

/-- The point before the first statement of a spell. -/
def Program.start (p : Program) : Point := .going .initial (p.statements.map .statement)

/-- The point at the end of the run of a spell. -/
def Program.last (limit : Nat) (p : Program) : Point := .ofOutcome (p.run limit) []

theorem Program.reaches_run (limit : Nat) (p : Program) : p.start.Reaches limit (p.last limit) := by
  have hreaches := Statement.reaches_runAll limit p.statements .initial []
  rwa [List.append_nil] at hreaches

/-- Each point of a run comes before its end. -/
theorem Program.reaches_last {limit : Nat} {p : Program} {q : Point}
    (h : p.start.Reaches limit q) : q.Reaches limit (p.last limit) :=
  h.to_last (p.reaches_run limit)

theorem Program.last_of_error {limit : Nat} {p : Program} {e : RunError}
    (h : (p.run limit).error = some e) : p.last limit = .failed (p.run limit).state e := by
  unfold Program.last
  generalize p.run limit = o at h ⊢
  rcases o with ⟨st, none | e'⟩
  · contradiction
  · exact congrArg (Point.failed st) (Option.some.inj h)

/-- The error of a run is raised by its last step. -/
theorem Program.exists_step_of_error {limit : Nat} {p : Program} {e : RunError}
    (h : (p.run limit).error = some e) :
    ∃ q, p.start.Reaches limit q ∧ q.Step limit (.failed (p.run limit).state e) := by
  rw [← last_of_error h]
  rcases (p.reaches_run limit).cases_tail with hstart | hstep
  · rw [last_of_error h] at hstart
    contradiction
  · exact hstep

end Spellbook
