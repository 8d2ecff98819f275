import Mathlib.Data.List.Infix
import Spellbook.Proofs.Source.Lines

/-!
# The first line to blame

Lines are read in order, and a line looks at no more than the one behind it.  So when they cannot be
read, one of them stops the reading: the lines in front of it can be read, and whatever stands
behind it, the error is the same (`Statement.StopsAt`).  A spell that cannot be read fails as early
as it can, and nothing that follows takes the error back (`Program.read_fails_early`).
-/

namespace Spellbook

/-! ## The first lines of a source -/

/-- The first lines of the text, with what stands between them. -/
def Text.firstLines (lines : Nat) (t : Text) : Text :=
  join "\n" ((splitNewlines t).take lines)

namespace SourceLine

theorem take_place (number offset lines : Nat) (pieces : List Text) :
    (place number offset pieces).take lines = place number offset (pieces.take lines) := by
  induction pieces generalizing number offset lines with
  | nil => simp [place]
  | cons piece pieces ih =>
    cases lines with
    | zero => rfl
    | succ lines => rw [place, List.take_succ_cons, ih, List.take_succ_cons, place]

theorem split_firstLines {lines : Nat} (h : 0 < lines) (source : Text) :
    split (Text.firstLines lines source) = (split source).take lines := by
  have hpieces : (Text.splitNewlines source).take lines ≠ [] := by
    rw [ne_eq, List.take_eq_nil_iff, not_or]
    exact ⟨Nat.ne_of_gt h, Text.splitNewlines_ne_nil source⟩
  have hnewline : ∀ piece ∈ (Text.splitNewlines source).take lines, '\n' ∉ piece :=
    fun piece hpiece => Text.newline_notMem_of_mem (List.mem_of_mem_take hpiece)
  unfold split
  rw [take_place, Text.splitNewlines_eq_splitOn]
  exact congrArg (place 1 0) (List.splitOn_intercalate '\n' hnewline hpieces)

end SourceLine

/-! ## The line that stops the reading -/

theorem SourceLine.head?_append_cons (front rest : List SourceLine) (l : SourceLine) :
    (front ++ l :: rest).head? = (front ++ [l]).head? := by
  rw [List.head?_append, List.head?_append, List.head?_cons, List.head?_cons]

namespace Statement

variable {marker : Text} {e : SyntaxError} {front ls : List SourceLine} {l : SourceLine}

/-- The lines in front can be read.  With the line behind them they cannot, and the error on that
line is the same whatever follows. -/
structure StopsAt (marker : Text) (e : SyntaxError) (front : List SourceLine) (l : SourceLine) :
    Prop where
  line_eq : e.line = l.number
  readable : ∃ statements, ofLines marker front = .ok statements
  refused : ∀ rest, ofLines marker (front ++ l :: rest) = .error e

/-- Lines further up that only add a statement do not stop the reading.  They may look at the first
of the lines behind them. -/
theorem StopsAt.behind (pre : List SourceLine) (f : List Statement → List Statement)
    (h : StopsAt marker e front l)
    (hread : ∀ tail : List SourceLine, (∀ next ∈ tail.head?, next ∈ (front ++ [l]).head?) →
      ofLines marker (pre ++ tail) = (ofLines marker tail).map f) :
    StopsAt marker e (pre ++ front) l := by
  refine ⟨h.line_eq, ?_, ?_⟩
  · obtain ⟨statements, hfront⟩ := h.readable
    refine ⟨f statements, ?_⟩
    rw [hread front fun next hnext => by rw [List.head?_append, hnext]; rfl, hfront]
    rfl
  · intro rest
    have hhead := SourceLine.head?_append_cons front rest l
    rw [List.append_assoc, hread _ fun next hnext => hhead ▸ hnext, h.refused rest]
    rfl

section Behind

variable {m next : SourceLine} {span : Span}

theorem StopsAt.behind_silent (hsilent : l.isSilent = true) (h : StopsAt marker e front m) :
    StopsAt marker e (l :: front) m := by
  refine h.behind [l] id fun tail _ => ?_
  rw [List.singleton_append, ofLines_silent hsilent]
  cases ofLines marker tail <;> rfl

theorem StopsAt.behind_action {action : Action} (hsilent : ¬l.isSilent = true)
    (hclause : l.clause marker = .ok ⟨.action action, span⟩) (h : StopsAt marker e front m) :
    StopsAt marker e (l :: front) m :=
  h.behind [l] _ fun _ _ => ofLines_action hsilent hclause

variable {header : Header} (hsilent : ¬l.isSilent = true)
  (hclause : l.clause marker = .ok ⟨.header header, span⟩)

include hsilent hclause

theorem StopsAt.behind_alone (hflush : ∀ next ∈ (front ++ [m]).head?, next.isIndented = false)
    (h : StopsAt marker e front m) : StopsAt marker e (l :: front) m := by
  refine h.behind [l] (.block ⟨header, l.number, span, none⟩ :: ·) fun tail hhead => ?_
  exact ofLines_alone hsilent hclause fun next hnext => hflush next (hhead next hnext)

theorem StopsAt.behind_body {body : Option Simple} (hindented : next.isIndented = true)
    (hbody : next.body marker = .ok body) (h : StopsAt marker e front m) :
    StopsAt marker e (l :: next :: front) m := by
  refine h.behind [l, next] (.block ⟨header, l.number, span, body⟩ :: ·) fun tail _ => ?_
  change ofLines marker (l :: next :: tail) = _
  rw [ofLines_body hsilent hclause hindented, hbody]
  rfl

theorem stopsAt_body (hindented : next.isIndented = true) (hbody : next.body marker = .error e) :
    StopsAt marker e [l] next := by
  refine ⟨SourceLine.line_of_body hbody, ?_, fun rest => ?_⟩
  · exact ⟨_, ofLines_alone hsilent hclause fun _ hnone => nomatch hnone⟩
  · rw [List.singleton_append, ofLines_body hsilent hclause hindented, hbody]
    rfl

end Behind

theorem stopsAt_nil (hsilent : ¬l.isSilent = true) (hclause : l.clause marker = .error e) :
    StopsAt marker e [] l :=
  ⟨SourceLine.line_of_clause hclause, ⟨[], rfl⟩, fun _ => ofLines_refused hsilent hclause⟩

theorem exists_stopsAt (h : ofLines marker ls = .error e) :
    ∃ front l rest, ls = front ++ l :: rest ∧ StopsAt marker e front l := by
  induction ls using ofLines_induction marker with
  | nil => contradiction
  | silent l rest hsilent ih =>
    rw [ofLines_silent hsilent] at h
    obtain ⟨front, m, more, rfl, hstop⟩ := ih h
    exact ⟨l :: front, m, more, rfl, hstop.behind_silent hsilent⟩
  | refused l rest e' hsilent hclause =>
    rw [ofLines_refused hsilent hclause] at h
    obtain rfl := Except.error.inj h
    exact ⟨[], l, rest, rfl, stopsAt_nil hsilent hclause⟩
  | action l rest action span hsilent hclause ih =>
    rw [ofLines_action hsilent hclause] at h
    obtain ⟨front, m, more, rfl, hstop⟩ := ih (error_of_map_eq_error h)
    exact ⟨l :: front, m, more, rfl, hstop.behind_action hsilent hclause⟩
  | alone l rest header span hsilent hclause hflush ih =>
    rw [ofLines_alone hsilent hclause hflush] at h
    obtain ⟨front, m, more, rfl, hstop⟩ := ih (error_of_map_eq_error h)
    rw [SourceLine.head?_append_cons] at hflush
    exact ⟨l :: front, m, more, rfl, hstop.behind_alone hsilent hclause hflush⟩
  | body l next others header span hsilent hclause hindented ih =>
    rw [ofLines_body hsilent hclause hindented] at h
    cases hbody : next.body marker with
    | error e' =>
      rw [hbody] at h
      obtain rfl := Except.error.inj h
      exact ⟨[l], next, others, rfl, stopsAt_body hsilent hclause hindented hbody⟩
    | ok body =>
      rw [hbody] at h
      obtain ⟨front, m, more, rfl, hstop⟩ := ih (error_of_map_eq_error h)
      exact ⟨l :: next :: front, m, more, rfl,
        hstop.behind_body hsilent hclause hindented hbody⟩

/-- Behind lines that can be read, a line that cannot be read stops the reading, whether it would be
a body or stand alone. -/
theorem stopsAt_of_clause {statements : List Statement} (hls : ofLines marker ls = .ok statements)
    (hsilent : ¬l.isSilent = true) (hclause : l.clause marker = .error e) :
    StopsAt marker e ls l := by
  induction ls using ofLines_induction marker generalizing statements with
  | nil => exact stopsAt_nil hsilent hclause
  | silent m rest hm ih =>
    rw [ofLines_silent hm] at hls
    exact (ih hls).behind_silent hm
  | refused m rest e' hm hrefused =>
    rw [ofLines_refused hm hrefused] at hls
    contradiction
  | action m rest action span hm haction ih =>
    rw [ofLines_action hm haction] at hls
    obtain ⟨more, hmore, -⟩ := exists_of_map_eq_ok hls
    exact (ih hmore).behind_action hm haction
  | alone m rest header span hm hheader hflush ih =>
    rw [ofLines_alone hm hheader hflush] at hls
    obtain ⟨more, hmore, -⟩ := exists_of_map_eq_ok hls
    cases rest with
    | nil =>
      cases hindented : l.isIndented with
      | true => exact stopsAt_body hm hheader hindented (SourceLine.body_of_clause hsilent hclause)
      | false =>
        refine (ih hmore).behind_alone hm hheader fun next hnext => ?_
        rwa [← Option.some.inj hnext]
    | cons next others => exact (ih hmore).behind_alone hm hheader hflush
  | body m next others header span hm hheader hindented ih =>
    rw [ofLines_body hm hheader hindented] at hls
    cases hbody : next.body marker with
    | error e' =>
      rw [hbody] at hls
      contradiction
    | ok body =>
      rw [hbody] at hls
      obtain ⟨more, hmore, -⟩ := exists_of_map_eq_ok hls
      exact (ih hmore).behind_body hm hheader hindented hbody

/-- The error of the first lines is the error of the whole source, and every error on one of the
first lines is the error of these lines. -/
theorem ofLines_front_eq_error_iff {source : Text} {rest : List SourceLine}
    (hsplit : SourceLine.split source = front ++ rest) :
    ofLines marker front = .error e ↔
      ofLines marker (SourceLine.split source) = .error e ∧ e.line ≤ front.length := by
  constructor
  · intro h
    obtain ⟨before, l, more, rfl, hstop⟩ := exists_stopsAt h
    rw [List.append_assoc, List.cons_append] at hsplit
    rw [hsplit, hstop.refused, hstop.line_eq, SourceLine.number_eq_of_split hsplit,
      List.length_append, List.length_cons]
    exact ⟨rfl, by omega⟩
  · rintro ⟨h, hline⟩
    obtain ⟨before, l, more, hsplit', hstop⟩ := exists_stopsAt h
    rw [hstop.line_eq, SourceLine.number_eq_of_split hsplit'] at hline
    -- The line that stops the reading is one of the first lines.
    have hbegins : before ++ [l] <+: front := by
      refine List.prefix_of_prefix_length_le ⟨more, ?_⟩ ⟨rest, hsplit.symm⟩ ?_
      · rw [hsplit', List.append_assoc, List.singleton_append]
      · rwa [List.length_append, List.length_singleton]
    obtain ⟨others, rfl⟩ := hbegins
    rw [List.append_assoc, List.singleton_append]
    exact hstop.refused others

end Statement

/-! ## Whole sources -/

/-- A spell that cannot be read fails on one of its lines.  The lines in front of that one can be
read as a spell of their own, and every source with the same lines up to it, at the same places,
fails with the same error. -/
theorem Program.read_fails_early {marker source : Text} {e : SyntaxError}
    (h : Program.read marker source = .error e) :
    0 < e.line ∧ e.line ≤ (SourceLine.split source).length ∧
    (∃ p, Program.read marker (Text.firstLines (e.line - 1) source) = .ok p) ∧
    ∀ other, (SourceLine.split other).take e.line = (SourceLine.split source).take e.line →
      Program.read marker other = .error e := by
  obtain ⟨front, l, rest, hsplit, hstop⟩ := Statement.exists_stopsAt (error_of_map_eq_error h)
  have hline : e.line = front.length + 1 := by
    rw [hstop.line_eq, SourceLine.number_eq_of_split hsplit]
  have htake : (SourceLine.split source).take e.line = front ++ [l] := by
    rw [hsplit, hline, List.take_length_add_append, List.take_succ_cons, List.take_zero]
  refine ⟨by omega, ?_, ?_, ?_⟩
  · rw [hsplit, hline, List.length_append, List.length_cons]
    omega
  · rw [hline, Nat.add_sub_cancel]
    rcases Nat.eq_zero_or_pos front.length with hzero | hpos
    · rw [hzero]
      exact ⟨_, Program.read_nil marker⟩
    · obtain ⟨statements, hfront⟩ := hstop.readable
      have hfirst : SourceLine.split (Text.firstLines front.length source) = front := by
        rw [SourceLine.split_firstLines hpos, hsplit, List.take_left]
      rw [← hfirst] at hfront
      exact ⟨_, Program.read_of_statements hfront⟩
  · intro other hother
    have hbegins := List.take_append_drop e.line (SourceLine.split other)
    rw [hother, htake, List.append_assoc, List.singleton_append] at hbegins
    rw [Program.read, ← hbegins, hstop.refused]
    rfl

/-- A block in the place of a body is refused on its own line, although the line in front may have
any other body or none; what the source goes on with does not matter. -/
theorem Program.read_fails_early_nested :
    let source : Text := "xs = ['é']\r\nfor x in xs:\n\tif x:\n\t\tprint(x)"
    let other : Text := "xs = ['é']\r\nfor x in xs:\n\tif x:\r\nprint(???)"
    let e : SyntaxError := ⟨⟨.nestedBlock, ⟨27, 32⟩⟩, 3⟩
    Program.read "???" source = .error e ∧
      (∃ p, Program.read "???" (Text.firstLines 2 source) = .ok p) ∧
      Program.read "???" other = .error e := by
  intro source other e
  have hmap : (Program.read "???" source).map (fun _ => ()) = .error e := by decide +kernel
  have h := error_of_map_eq_error hmap
  obtain ⟨-, -, hfront, hother⟩ := read_fails_early h
  have hsame : (SourceLine.split other).take 3 = (SourceLine.split source).take 3 := by
    decide +kernel
  exact ⟨h, hfront, hother other hsame⟩

end Spellbook
