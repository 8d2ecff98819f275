import Spellbook.Proofs.Run.Causes
import Spellbook.Proofs.Run.Machine
import Spellbook.Proofs.Run.Sequence
import Spellbook.Proofs.Source.Blame

/-!
# What a run blames

A statement that cannot be carried out is blamed on its own line: on the whole statement if it is
one too many, and otherwise on a node of what the line says.  A body is blamed on its own line
and not on that of its header.  Together with the errors of reading, every failure points at the
line it is reported on (`failure_pointsAt`).
-/

namespace Spellbook

/-! ## Statements -/

/-- The error is reported on the line, for a node of the clause. -/
structure Clause.Blamed (c : Clause) (line : Nat) (e : RunError) : Prop where
  line_eq : e.line = line
  inside : ∃ n : Node, n.Inside (.clause c) ∧ e.span = n.span

theorem State.error_countStep {limit line : Nat} {span : Span} {st : State} {e : RunError}
    (h : (st.countStep limit line span).error = some e) :
    e = Blame.onLine line ⟨.stepLimit limit, span⟩ := by
  rcases Nat.lt_or_ge st.steps limit with hlimit | hlimit
  · rw [countStep_of_lt hlimit] at h
    contradiction
  · rw [countStep_of_le hlimit] at h
    exact (Option.some.inj h).symm

variable {limit : Nat} {e : RunError}

theorem Simple.blamed_of_run {s : Simple} {st : State} (h : (s.run limit st).error = some e) :
    s.clause.Blamed s.line e := by
  rcases Outcome.error_of_andThen_eq_some h with h | ⟨st', h⟩
  · obtain rfl := State.error_countStep h
    exact ⟨rfl, _, .refl _, rfl⟩
  · unfold Simple.perform at h
    split at h
    · next blame heffect =>
      obtain rfl := Option.some.inj h
      exact ⟨rfl, (Action.raised_of_effect s.span heffect).inside⟩
    · contradiction

/-- An error in a round is one of the body. -/
theorem blamed_of_runRounds {body : Option Simple} {rounds : List (Option (Text × Value))}
    {st : State} (h : (runRounds limit body rounds st).error = some e) :
    ∃ s ∈ body, s.clause.Blamed s.line e := by
  induction rounds generalizing st with
  | nil => contradiction
  | cons round rounds ih =>
    cases body with
    | none => exact ih h
    | some s =>
      rcases Outcome.error_of_andThen_eq_some h with h | ⟨st', h⟩
      · exact ⟨s, rfl, Simple.blamed_of_run h⟩
      · exact ih h

/-- The error is one of the statement or of its body, each on its own line. -/
def Statement.Blamed (s : Statement) (e : RunError) : Prop :=
  s.clause.Blamed s.line e ∨ ∃ body ∈ s.body?, body.clause.Blamed body.line e

theorem Statement.blamed_of_run {s : Statement} {st : State}
    (h : (s.run limit st).error = some e) : s.Blamed e := by
  cases s with
  | simple s => exact .inl (Simple.blamed_of_run h)
  | block b =>
    rcases Outcome.error_of_andThen_eq_some h with h | ⟨st', h⟩
    · obtain rfl := State.error_countStep h
      exact .inl ⟨rfl, _, .refl _, rfl⟩
    · unfold Block.perform at h
      split at h
      · next blame hrounds =>
        obtain rfl := Option.some.inj h
        exact .inl ⟨rfl, (Header.raised_of_rounds b.span hrounds).inside⟩
      · exact .inr (blamed_of_runRounds h)

theorem Statement.exists_blamed_of_runAll {statements : List Statement} {st : State}
    (h : (Statement.runAll limit statements st).error = some e) :
    ∃ s ∈ statements, s.Blamed e := by
  induction statements generalizing st with
  | nil => contradiction
  | cons s rest ih =>
    rcases Outcome.error_of_andThen_eq_some h with h | ⟨st', h⟩
    · exact ⟨s, List.mem_cons_self, Statement.blamed_of_run h⟩
    · obtain ⟨s', hs', hblamed⟩ := ih h
      exact ⟨s', List.mem_cons_of_mem s hs', hblamed⟩

/-! ## Failures and their lines -/

theorem Clause.Blamed.pointsAt {marker source : Text} {l : SourceLine} {c : Clause}
    (h : c.Blamed l.number e) (hl : l ∈ SourceLine.split source)
    (hclause : l.clause marker = .ok c) : (Failure.running e).PointsAt l := by
  obtain ⟨n, hn, hspan⟩ := h.inside
  have hlies := (Node.faithfulOn_of_clause hl hclause hn).liesOn
  rw [← hspan] at hlies
  exact .of_liesOn h.line_eq hlies id

theorem Program.exists_pointsAt_of_run {marker source : Text} {p : Program}
    (hread : Program.read marker source = .ok p) (h : (p.run limit).error = some e) :
    ∃ l ∈ SourceLine.split source, ¬l.isSilent = true ∧ (Failure.running e).PointsAt l := by
  obtain ⟨s, hs, hblamed⟩ := Statement.exists_blamed_of_runAll h
  obtain ⟨front, l, rest, hsplit, hl⟩ :=
    Statement.stands_of_mem (Program.statements_of_read hread) hs
  rcases hblamed with hblamed | ⟨body, hbody, hblamed⟩
  · have hmem : l ∈ SourceLine.split source := by
      rw [hsplit]
      exact List.mem_append_right front List.mem_cons_self
    rw [hl.line_eq] at hblamed
    exact ⟨l, hmem, hl.speaks, hblamed.pointsAt hmem hl.clause_eq⟩
  · obtain ⟨next, hnext, -, hspeaks, hclause, hline⟩ := hl.next_of_body hbody
    have hmem := SourceLine.mem_split_of_head? hsplit hnext
    rw [hline] at hblamed
    exact ⟨next, hmem, hspeaks, hblamed.pointsAt hmem hclause⟩

/-- Every failure of a source is reported on a line of the source that is neither blank nor a
comment, and points at bytes of that line. -/
theorem failure_pointsAt {settings : Settings} {source : Text} {f : Failure}
    (h : (evaluate settings source).failure = some f) :
    ∃ l ∈ SourceLine.split source, ¬l.isSilent = true ∧ f.PointsAt l := by
  cases hread : Program.read settings.marker source with
  | error e =>
    unfold evaluate at h
    rw [hread] at h
    obtain rfl := Option.some.inj h
    obtain ⟨l, hl, hspeaks, hrefused⟩ := Program.exists_refuses hread
    exact ⟨l, hl, hspeaks, hrefused.pointsAt hl⟩
  | ok p =>
    rw [evaluate_of_read hread] at h
    obtain ⟨e, he, rfl⟩ := Option.map_eq_some_iff.1 h
    exact Program.exists_pointsAt_of_run hread he

/-- The second round of a loop asks for the length of a string, on a line behind a character of two
bytes and two line endings of two bytes. -/
theorem failure_pointsAt_second_round :
    let source : Text := "xs = [[], 'é']\r\nfor x in xs:\r\n\tprint(len(x))"
    let failure : Failure := .running ⟨⟨.misuse .length .string, ⟨42, 43⟩⟩, 3⟩
    (evaluate ⟨defaultMarker, 10000⟩ source).failure = some failure ∧
      ∃ l ∈ SourceLine.split source, ¬l.isSilent = true ∧ failure.PointsAt l := by
  intro source failure
  have hfailure : (evaluate ⟨defaultMarker, 10000⟩ source).failure = some failure := by
    decide +kernel
  exact ⟨hfailure, failure_pointsAt hfailure⟩

end Spellbook
