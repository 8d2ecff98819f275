import Spellbook.Proofs.Grammar.Frontier
import Spellbook.Proofs.Source.Spans
import Spellbook.Run.Failure

/-!
# The line to blame

A spell cannot be read because of one of its lines: the text of the line cannot be read, or the line
is a header in the place of a body.  The blame is reported on that line and points at bytes of it
(`SourceLine.Refuses.pointsAt`).
-/

namespace Spellbook

/-! ## Bytes of a line -/

/-- The span is a stretch of the line. -/
structure Span.LiesOn (l : SourceLine) (s : Span) : Prop where
  offset_le_start : l.offset ≤ s.start
  start_le_stop : s.start ≤ s.stop
  stop_le_end : s.stop ≤ l.offset + Text.byteLength l.text

theorem Node.FaithfulOn.liesOn {source : Text} {l : SourceLine} {n : Node}
    (h : n.FaithfulOn source l) : n.span.LiesOn l :=
  ⟨h.offset_le_start, Nat.le_of_lt h.start_lt_stop, h.stop_le_end⟩

theorem Span.liesOn_shift {l : SourceLine} {s : Span} (hle : s.start ≤ s.stop)
    (hstop : s.stop ≤ Text.byteLength l.text) : (s.shift l.offset).LiesOn l := by
  refine ⟨?_, ?_, ?_⟩
  · rw [Span.start_shift]
    omega
  · rw [Span.start_shift, Span.stop_shift]
    omega
  · rw [Span.stop_shift]
    omega

/-- The cause is that no rule fits the text. -/
def SyntaxCause.IsMisfit : SyntaxCause → Prop
  | .unexpected _ => True
  | .unfilledBlank _ => False
  | .oversizedInteger _ => False
  | .nestedBlock => False

/-- The failure is that no rule fits a line. -/
def Failure.IsMisfit : Failure → Prop
  | .reading e => e.cause.IsMisfit
  | .running _ => False

/-- The failure is reported on the line and points at bytes of it.  Where no rule fits, the blame is
one byte long, and it may begin at the end of the line. -/
structure Failure.PointsAt (f : Failure) (l : SourceLine) : Prop where
  line_eq : f.line = l.number
  offset_le_start : l.offset ≤ f.span.start
  start_le_end : f.span.start ≤ l.offset + Text.byteLength l.text
  length_eq_one : f.IsMisfit → f.span.length = 1
  stop_le_end : ¬f.IsMisfit → f.span.start + f.span.length ≤ l.offset + Text.byteLength l.text

namespace Failure.PointsAt

variable {f : Failure} {l : SourceLine}

theorem of_liesOn (hline : f.line = l.number) (hspan : f.span.LiesOn l) (hfits : ¬f.IsMisfit) :
    f.PointsAt l := by
  obtain ⟨hstart, hle, hstop⟩ := hspan
  have hlength : f.span.start + f.span.length = f.span.stop := by
    unfold Span.length
    omega
  refine ⟨hline, hstart, by omega, fun hmisfit => absurd hmisfit hfits, ?_⟩
  intro _
  omega

/-- A place of the text, seen from the start of the source. -/
theorem of_place {rules : List Rule} {position : Nat} (h : position ≤ Text.byteLength l.text) :
    (Failure.reading ⟨⟨.unexpected rules, Span.shift l.offset ⟨position, position + 1⟩⟩,
      l.number⟩).PointsAt l := by
  refine ⟨rfl, Nat.le_add_left _ _, ?_, ?_, fun hfits => absurd trivial hfits⟩
  · change position + l.offset ≤ l.offset + Text.byteLength l.text
    omega
  · intro _
    change (Span.shift l.offset ⟨position, position + 1⟩).length = 1
    rw [Span.length_shift]
    exact Nat.add_sub_cancel_left position 1

end Failure.PointsAt

/-! ## Texts that cannot be read -/

theorem exists_of_oversized? {t : Text} {literals : List (Nat × Span)} {blame : Blame SyntaxCause}
    (h : oversized? t literals = some blame) : ∃ value digits,
      (value, blame.span) ∈ literals ∧ blame.cause = .oversizedInteger digits := by
  obtain ⟨⟨value, span⟩, hfind, rfl⟩ := Option.map_eq_some_iff.1 h
  exact ⟨value, _, List.mem_of_find?_eq_some hfind, rfl⟩

/-- The blame is a place of the text that no rule fits, or a whole integer literal of the text. -/
theorem Clause.blame_of_read {t : Text} {blame : Blame SyntaxCause}
    (h : Clause.read t = .error blame) :
    (∃ rules position, blame = ⟨.unexpected rules, ⟨position, position + 1⟩⟩ ∧
      position ≤ Text.byteLength t) ∨
    (∃ digits span, blame = ⟨.oversizedInteger digits, span⟩ ∧ span.start ≤ span.stop ∧
      span.stop ≤ Text.byteLength t) := by
  unfold Clause.read readWhole at h
  cases hparse : Grammar.line.parse t with
  | error blame' =>
    rw [hparse] at h
    obtain rfl := Except.error.inj h
    have hrule (c : Cursor) (hread : Grammar.line.read c = none) : Rule.Fails c .line :=
      fun _ => hread
    obtain ⟨f, hjustified, -, -, hblame⟩ :=
      Pattern.exists_justified_of_parse (Grammar.statement_confined t _) hrule hparse
    exact .inl ⟨_, f.position, hblame, hjustified.isBoundary.le_byteLength⟩
  | ok c =>
    rw [hparse] at h
    dsimp only at h
    cases hsize : oversized? t c.integers with
    | none =>
      rw [hsize] at h
      contradiction
    | some blame' =>
      rw [hsize] at h
      obtain rfl := Except.error.inj h
      obtain ⟨value, digits, hliteral, hcause⟩ := exists_of_oversized? hsize
      obtain ⟨behind, hline⟩ := Pattern.exists_read_of_parse hparse
      have hfaithful := allFaithful_of_line hline _ (c.inside_of_mem_integers hliteral)
      refine .inr ⟨digits, blame'.span, ?_, Nat.le_of_lt hfaithful.start_lt_stop,
        hfaithful.isBoundary_stop.le_byteLength⟩
      rw [← hcause]

/-! ## Lines that cannot be read -/

namespace SourceLine

variable {marker : Text} {l : SourceLine} {e : SyntaxError}

theorem exists_span_of_unfilled? {blame : Blame SyntaxCause} (h : l.unfilled? marker = some blame) :
    ∃ span, blame = ⟨.unfilledBlank marker, span⟩ ∧ span.start ≤ span.stop ∧
      span.stop ≤ Text.byteLength l.text := by
  obtain ⟨-, h⟩ := Option.ite_none_left_eq_some.1 h
  obtain ⟨position, hfind, rfl⟩ := Option.map_eq_some_iff.1 h
  obtain ⟨⟨before, after⟩, hcut, rfl⟩ := Option.map_eq_some_iff.1 hfind
  refine ⟨_, rfl, Nat.le_add_right _ _, ?_⟩
  rw [Text.eq_append_of_cut? hcut, Text.byteLength_append, Text.byteLength_append]
  exact Nat.le_add_right _ _

theorem pointsAt_of_clause (h : l.clause marker = .error e) : (Failure.reading e).PointsAt l := by
  unfold clause at h
  cases hfilled : l.unfilled? marker with
  | some blame =>
    rw [hfilled] at h
    obtain rfl := Except.error.inj h
    obtain ⟨span, rfl, hle, hstop⟩ := exists_span_of_unfilled? hfilled
    exact .of_liesOn rfl (Span.liesOn_shift hle hstop) id
  | none =>
    rw [hfilled] at h
    cases hread : Clause.read l.text with
    | ok c =>
      rw [hread] at h
      contradiction
    | error blame =>
      rw [hread] at h
      obtain rfl := Except.error.inj h
      rcases Clause.blame_of_read hread with
        ⟨rules, position, rfl, hposition⟩ | ⟨digits, span, rfl, hle, hstop⟩
      · exact .of_place hposition
      · exact .of_liesOn rfl (Span.liesOn_shift hle hstop) id

/-- The error is what the line brings about: its text cannot be read, or it is a header where a body
should be. -/
inductive Refuses (marker : Text) (l : SourceLine) : SyntaxError → Prop
  | clause {e : SyntaxError} (h : l.clause marker = .error e) : Refuses marker l e
  | nested {header : Header} {span : Span} (h : l.clause marker = .ok ⟨.header header, span⟩) :
    Refuses marker l ⟨⟨.nestedBlock, span⟩, l.number⟩

theorem Refuses.pointsAt {source : Text} (h : l.Refuses marker e) (hl : l ∈ split source) :
    (Failure.reading e).PointsAt l := by
  cases h with
  | clause h => exact pointsAt_of_clause h
  | nested h => exact .of_liesOn rfl (Node.faithfulOn_of_clause hl h (.refl _)).liesOn id

theorem refuses_of_body (h : l.body marker = .error e) :
    ¬l.isSilent = true ∧ l.Refuses marker e := by
  unfold body at h
  split at h
  · contradiction
  · next hsilent =>
    refine ⟨hsilent, ?_⟩
    rcases hclause : l.clause marker with e' | ⟨action | header, span⟩
    · rw [hclause] at h
      obtain rfl := Except.error.inj h
      exact .clause hclause
    · rw [hclause] at h
      contradiction
    · rw [hclause] at h
      obtain rfl := Except.error.inj h
      exact .nested hclause

end SourceLine

/-! ## Spells that cannot be read -/

theorem Statement.exists_refuses {marker : Text} {ls : List SourceLine} {e : SyntaxError}
    (h : ofLines marker ls = .error e) : ∃ l ∈ ls, ¬l.isSilent = true ∧ l.Refuses marker e := by
  -- A line that can be read hands the error of the lines behind it on.
  have hmore {l : SourceLine} {rest : List SourceLine} {s : Statement}
      (hmap : (ofLines marker rest).map (s :: ·) = .error e)
      (ih : ofLines marker rest = .error e →
        ∃ l ∈ rest, ¬l.isSilent = true ∧ l.Refuses marker e) :
      ∃ m ∈ l :: rest, ¬m.isSilent = true ∧ m.Refuses marker e := by
    obtain ⟨m, hm, hrefused⟩ := ih (error_of_map_eq_error hmap)
    exact ⟨m, List.mem_cons_of_mem l hm, hrefused⟩
  induction ls using ofLines_induction marker with
  | nil => contradiction
  | silent l rest hsilent ih =>
    rw [ofLines_silent hsilent] at h
    obtain ⟨m, hm, hrefused⟩ := ih h
    exact ⟨m, List.mem_cons_of_mem l hm, hrefused⟩
  | refused l rest e' hsilent hclause =>
    rw [ofLines_refused hsilent hclause] at h
    obtain rfl := Except.error.inj h
    exact ⟨l, List.mem_cons_self, hsilent, .clause hclause⟩
  | action l rest action span hsilent hclause ih =>
    rw [ofLines_action hsilent hclause] at h
    exact hmore h ih
  | alone l rest header span hsilent hclause hflush ih =>
    rw [ofLines_alone hsilent hclause hflush] at h
    exact hmore h ih
  | body l next others header span hsilent hclause hindented ih =>
    rw [ofLines_body hsilent hclause hindented] at h
    cases hbody : next.body marker with
    | error e' =>
      rw [hbody] at h
      obtain rfl := Except.error.inj h
      obtain ⟨hspeaks, hrefused⟩ := SourceLine.refuses_of_body hbody
      exact ⟨next, List.mem_cons_of_mem l List.mem_cons_self, hspeaks, hrefused⟩
    | ok body =>
      rw [hbody] at h
      obtain ⟨m, hm, hrefused⟩ := hmore h ih
      exact ⟨m, List.mem_cons_of_mem l hm, hrefused⟩

/-- A spell that cannot be read has a line that is to blame. -/
theorem Program.exists_refuses {marker source : Text} {e : SyntaxError}
    (h : Program.read marker source = .error e) :
    ∃ l ∈ SourceLine.split source, ¬l.isSilent = true ∧ l.Refuses marker e :=
  Statement.exists_refuses (error_of_map_eq_error h)

end Spellbook
