import Mathlib.Data.List.Forall2
import Spellbook.Proofs.Source.Lines
import Spellbook.Proofs.Syntax.Places

/-!
# The statements on the lines

A statement stands at the line that says it.  What a header owns is decided by the line right behind
it alone: its body if that line is indented, and nothing otherwise.  So the statements of a spell,
each followed by its body, are the lines that are not silent, one for one and in their order
(`Program.lines_told`).
-/

namespace Spellbook

/-! ## What a statement says -/

/-- What the line of the statement says. -/
def Simple.clause (s : Simple) : Clause := ⟨.action s.action, s.span⟩

/-- What the line of the statement says, for a block its header. -/
def Statement.clause : Statement → Clause
  | .simple s => s.clause
  | .block b => ⟨.header b.header, b.span⟩

def Statement.body? : Statement → Option Simple
  | .simple _ => none
  | .block b => b.body

theorem SourceLine.clause_of_body {marker : Text} {l : SourceLine} {s : Simple}
    (h : l.body marker = .ok (some s)) : l.clause marker = .ok s.clause ∧ s.line = l.number := by
  unfold SourceLine.body at h
  split at h
  · exact nomatch h
  · rcases hclause : l.clause marker with e | ⟨action | header, span⟩
    · rw [hclause] at h
      exact nomatch h
    · rw [hclause] at h
      obtain rfl := Option.some.inj (Except.ok.inj h)
      exact ⟨rfl, rfl⟩
    · rw [hclause] at h
      exact nomatch h

theorem SourceLine.isSilent_iff_of_body {marker : Text} {l : SourceLine} {body : Option Simple}
    (h : l.body marker = .ok body) : l.isSilent = true ↔ body = none := by
  unfold SourceLine.body at h
  split at h
  · next hsilent => simp [hsilent, ← Except.ok.inj h]
  · next hsilent =>
    rcases hclause : l.clause marker with e | ⟨action | header, span⟩
    · rw [hclause] at h
      exact nomatch h
    · rw [hclause] at h
      simp [hsilent, ← Except.ok.inj h]
    · rw [hclause] at h
      exact nomatch h

/-! ## Where a statement stands -/

/-- The statement is said by a line with `rest` behind it.  A header takes the next line if that is
indented, and nothing else has a body. -/
structure Statement.StandsAt (marker : Text) (s : Statement) (l : SourceLine)
    (rest : List SourceLine) : Prop where
  speaks : ¬l.isSilent = true
  clause_eq : l.clause marker = .ok s.clause
  line_eq : s.line = l.number
  takes : s.clause.isHeader = true → ∀ next ∈ rest.head?, next.isIndented = true →
    next.body marker = .ok s.body?
  owns : s.body?.isSome = true → s.clause.isHeader = true ∧
    ∃ next ∈ rest.head?, next.isIndented = true

theorem Statement.StandsAt.next_of_body {marker : Text} {s : Statement} {l : SourceLine}
    {rest : List SourceLine} (h : s.StandsAt marker l rest) {body : Simple}
    (hbody : body ∈ s.body?) :
    ∃ next ∈ rest.head?, next.isIndented = true ∧ ¬next.isSilent = true ∧
      next.clause marker = .ok body.clause ∧ body.line = next.number := by
  obtain ⟨hheader, next, hnext, hindented⟩ := h.owns (Option.isSome_of_mem hbody)
  have htaken := h.takes hheader next hnext hindented
  rw [Option.mem_def.1 hbody] at htaken
  have hspeaks : ¬next.isSilent = true := by
    rw [SourceLine.isSilent_iff_of_body htaken]
    exact Option.some_ne_none body
  exact ⟨next, hnext, hindented, hspeaks, SourceLine.clause_of_body htaken⟩

namespace Statement

variable {marker : Text} {ls : List SourceLine} {statements : List Statement} {s : Statement}

/-- The statement stands at one of the lines. -/
def Stands (marker : Text) (s : Statement) (ls : List SourceLine) : Prop :=
  ∃ front l rest, ls = front ++ l :: rest ∧ s.StandsAt marker l rest

theorem Stands.append (h : s.Stands marker ls) (front : List SourceLine) :
    s.Stands marker (front ++ ls) := by
  obtain ⟨front', l, rest, rfl, hs⟩ := h
  exact ⟨front ++ front', l, rest, (List.append_assoc ..).symm, hs⟩

theorem StandsAt.stands {l : SourceLine} {rest : List SourceLine} (h : s.StandsAt marker l rest) :
    s.Stands marker (l :: rest) := ⟨[], l, rest, rfl, h⟩

theorem stands_of_mem (h : ofLines marker ls = .ok statements) (hs : s ∈ statements) :
    s.Stands marker ls := by
  induction ls using ofLines_induction marker generalizing statements with
  | nil =>
    obtain rfl := Except.ok.inj h
    exact nomatch hs
  | silent l rest hsilent ih =>
    rw [ofLines_silent hsilent] at h
    exact (ih h hs).append [l]
  | refused l rest e hsilent hclause =>
    rw [ofLines_refused hsilent hclause] at h
    exact nomatch h
  | action l rest action span hsilent hclause ih =>
    rw [ofLines_action hsilent hclause] at h
    obtain ⟨more, hmore, rfl⟩ := exists_of_map_eq_ok h
    rcases List.mem_cons.1 hs with rfl | hs
    · refine StandsAt.stands ⟨hsilent, hclause, rfl, ?_, ?_⟩
      · exact fun hheader => nomatch hheader
      · exact fun hbody => nomatch hbody
    · exact (ih hmore hs).append [l]
  | alone l rest header span hsilent hclause hflush ih =>
    rw [ofLines_alone hsilent hclause hflush] at h
    obtain ⟨more, hmore, rfl⟩ := exists_of_map_eq_ok h
    rcases List.mem_cons.1 hs with rfl | hs
    · refine StandsAt.stands ⟨hsilent, hclause, rfl, ?_, fun hbody => nomatch hbody⟩
      intro _ next hnext hindented
      rw [hflush next hnext] at hindented
      contradiction
    · exact (ih hmore hs).append [l]
  | body l next others header span hsilent hclause hindented ih =>
    rw [ofLines_body hsilent hclause hindented] at h
    cases hbody : next.body marker with
    | error e =>
      rw [hbody] at h
      exact nomatch h
    | ok body =>
      rw [hbody] at h
      obtain ⟨more, hmore, rfl⟩ := exists_of_map_eq_ok h
      rcases List.mem_cons.1 hs with rfl | hs
      · refine StandsAt.stands ⟨hsilent, hclause, rfl, ?_, fun _ => ⟨rfl, next, rfl, hindented⟩⟩
        intro _ m hm _
        rwa [← Option.some.inj hm]
      · exact (ih hmore hs).append [l, next]

end Statement

/-! ## One statement for each line -/

/-- The line by itself tells the statement, at its number and offset. -/
def SourceLine.Tells (marker : Text) (l : SourceLine) (s : Statement) : Prop :=
  l.unfilled? marker = none ∧
    ∃ c, Clause.read l.text = .ok c ∧ s = (c.shift l.offset).toStatement l.number

theorem SourceLine.tells_of_clause {marker : Text} {l : SourceLine} {c : Clause}
    (h : l.clause marker = .ok c) : l.Tells marker (c.toStatement l.number) := by
  obtain ⟨hfilled, d, hread, rfl⟩ := exists_read_of_clause h
  exact ⟨hfilled, d, hread, rfl⟩

/-- The statement without its body, and then its body. -/
def Statement.parts (s : Statement) : List Statement :=
  s.clause.toStatement s.line :: s.body?.toList.map .simple

/-- All statements of the spell, with each body as a statement behind its header. -/
def Program.listing (p : Program) : List Statement := p.statements.flatMap Statement.parts

theorem Statement.tells_ofLines {marker : Text} {ls : List SourceLine}
    {statements : List Statement} (h : ofLines marker ls = .ok statements) :
    List.Forall₂ (SourceLine.Tells marker) (ls.filter fun l => !l.isSilent)
      (statements.flatMap parts) := by
  have hkeep {l : SourceLine} (rest : List SourceLine) (hsilent : ¬l.isSilent = true) :
      (l :: rest).filter (fun l => !l.isSilent) = l :: rest.filter fun l => !l.isSilent :=
    List.filter_cons_of_pos (by simpa using hsilent)
  have hdrop {l : SourceLine} (rest : List SourceLine) (hsilent : l.isSilent = true) :
      (l :: rest).filter (fun l => !l.isSilent) = rest.filter fun l => !l.isSilent :=
    List.filter_cons_of_neg (by simpa using hsilent)
  induction ls using ofLines_induction marker generalizing statements with
  | nil =>
    obtain rfl := Except.ok.inj h
    exact .nil
  | silent l rest hsilent ih =>
    rw [ofLines_silent hsilent] at h
    rw [hdrop rest hsilent]
    exact ih h
  | refused l rest e hsilent hclause =>
    rw [ofLines_refused hsilent hclause] at h
    exact nomatch h
  | action l rest action span hsilent hclause ih =>
    rw [ofLines_action hsilent hclause] at h
    obtain ⟨more, hmore, rfl⟩ := exists_of_map_eq_ok h
    rw [hkeep rest hsilent]
    exact .cons (SourceLine.tells_of_clause hclause) (ih hmore)
  | alone l rest header span hsilent hclause hflush ih =>
    rw [ofLines_alone hsilent hclause hflush] at h
    obtain ⟨more, hmore, rfl⟩ := exists_of_map_eq_ok h
    rw [hkeep rest hsilent]
    exact .cons (SourceLine.tells_of_clause hclause) (ih hmore)
  | body l next others header span hsilent hclause hindented ih =>
    rw [ofLines_body hsilent hclause hindented] at h
    cases hbody : next.body marker with
    | error e =>
      rw [hbody] at h
      exact nomatch h
    | ok body =>
      rw [hbody] at h
      obtain ⟨more, hmore, rfl⟩ := exists_of_map_eq_ok h
      have hnext := SourceLine.isSilent_iff_of_body hbody
      rw [hkeep _ hsilent]
      refine .cons (SourceLine.tells_of_clause hclause) ?_
      cases body with
      | none =>
        rw [hdrop others (hnext.2 rfl)]
        exact ih hmore
      | some s =>
        obtain ⟨hsaid, hline⟩ := SourceLine.clause_of_body hbody
        have htold := SourceLine.tells_of_clause hsaid
        rw [← hline] at htold
        rw [hkeep others fun hs => nomatch hnext.1 hs]
        exact .cons htold (ih hmore)

/-! ## Whole spells -/

/-- The line right behind a header of the spell is its body exactly if it is indented and not
silent. -/
theorem Statement.Stands.body_iff {marker source : Text} {s : Statement}
    (h : s.Stands marker (SourceLine.split source)) {l : SourceLine}
    (hl : l ∈ SourceLine.split source) (hspeaks : ¬l.isSilent = true) :
    (∃ body ∈ s.body?, body.line = l.number) ↔
      s.clause.isHeader = true ∧ l.isIndented = true ∧ l.number = s.line + 1 := by
  obtain ⟨front, header, rest, hsplit, hs⟩ := h
  constructor
  · rintro ⟨body, hbody, hline⟩
    obtain ⟨next, hnext, hindented, -, -, hnumber⟩ := hs.next_of_body hbody
    have hmem := SourceLine.mem_split_of_head? hsplit hnext
    have hsucc := (SourceLine.number_eq_succ_iff hsplit hmem).2 hnext
    have hlsucc : l.number = header.number + 1 := by omega
    have hlhead := (SourceLine.number_eq_succ_iff hsplit hl).1 hlsucc
    obtain rfl : next = l := Option.mem_unique hnext hlhead
    exact ⟨(hs.owns (Option.isSome_of_mem hbody)).1, hindented, by rw [hsucc, hs.line_eq]⟩
  · rintro ⟨hheader, hindented, hnumber⟩
    rw [hs.line_eq] at hnumber
    have hlhead := (SourceLine.number_eq_succ_iff hsplit hl).1 hnumber
    have htaken := hs.takes hheader l hlhead hindented
    cases hbody : s.body? with
    | none => exact absurd ((SourceLine.isSilent_iff_of_body htaken).2 hbody) hspeaks
    | some body =>
      rw [hbody] at htaken
      exact ⟨body, rfl, (SourceLine.clause_of_body htaken).2⟩

theorem SourceLine.Tells.number_eq {marker : Text} {l : SourceLine} {s : Statement}
    (h : l.Tells marker s) : s.line = l.number := by
  obtain ⟨-, c, -, rfl⟩ := h
  unfold Clause.toStatement
  split <;> rfl

/-- The statements of a spell with their bodies are those that the lines tell by themselves: one for
each line that is not silent, in the order of the lines.  The line behind a header is its body
exactly if it is indented, and no body is a header. -/
theorem Program.lines_told {marker source : Text} {p : Program}
    (h : Program.read marker source = .ok p) :
    List.Forall₂ (SourceLine.Tells marker)
      ((SourceLine.split source).filter fun l => !l.isSilent) p.listing ∧
    (p.listing.map Statement.line).Pairwise (· < ·) ∧
    (∀ s ∈ p.statements, ∀ l ∈ SourceLine.split source, ¬l.isSilent = true →
      ((∃ body ∈ s.body?, body.line = l.number) ↔
        s.clause.isHeader = true ∧ l.isIndented = true ∧ l.number = s.line + 1)) ∧
    (∀ s ∈ p.statements, ∀ body ∈ s.body?, ∃ l ∈ SourceLine.split source,
      l.number = body.line ∧ ∃ c, Clause.read l.text = .ok c ∧ c.isHeader = false) := by
  have hstatements := Program.statements_of_read h
  have htold := Statement.tells_ofLines hstatements
  have hnumbers : p.listing.map Statement.line =
      ((SourceLine.split source).filter fun l => !l.isSilent).map SourceLine.number := by
    rw [← List.forall₂_eq_eq_eq, List.forall₂_map_left_iff, List.forall₂_map_right_iff]
    exact htold.flip.imp fun _ _ hl => SourceLine.Tells.number_eq hl
  refine ⟨htold, ?_, ?_, ?_⟩
  · rw [hnumbers]
    have hall := SourceLine.pairwise_number_place 1 0 (Text.splitNewlines source)
    exact hall.sublist (List.filter_sublist.map SourceLine.number)
  · intro s hs l hl hspeaks
    exact (Statement.stands_of_mem hstatements hs).body_iff hl hspeaks
  · intro s hs body hbody
    obtain ⟨front, l, rest, hsplit, hl⟩ := Statement.stands_of_mem hstatements hs
    obtain ⟨next, hnext, -, -, hclause, hline⟩ := hl.next_of_body hbody
    obtain ⟨-, c, hread, hc⟩ := SourceLine.exists_read_of_clause hclause
    have hmem := SourceLine.mem_split_of_head? hsplit hnext
    refine ⟨next, hmem, hline.symm, c, hread, ?_⟩
    rw [← Clause.isHeader_shift next.offset, ← hc]
    rfl

/-- Headers with a body, with an empty line behind them, with an indented comment, and with a line
that is not indented; and an indented line that no header takes. -/
theorem Program.lines_told_blocks :
    let source : Text :=
      "# roll\nif True:\n  print(1)\nfor x in xs:\n\nfor x in xs:\n\t# none\n  x = 1\nif x:\ny = 2"
    ∃ p, Program.read "???" source = .ok p ∧
      p.listing.map Statement.line = [2, 3, 4, 6, 8, 9, 10] ∧
      (p.statements.map fun s => (s.line, s.body?.map Simple.line)) =
        [(2, some 3), (4, none), (6, none), (8, none), (9, none), (10, none)] ∧
      List.Forall₂ (SourceLine.Tells "???")
        ((SourceLine.split source).filter fun l => !l.isSilent) p.listing := by
  intro source
  let places (p : Program) :=
    (p.listing.map Statement.line, p.statements.map fun s => (s.line, s.body?.map Simple.line))
  have hplaces : (Program.read "???" source).map places =
      .ok ([2, 3, 4, 6, 8, 9, 10],
        [(2, some 3), (4, none), (6, none), (8, none), (9, none), (10, none)]) := by
    decide +kernel
  obtain ⟨p, hread, hp⟩ := exists_of_map_eq_ok hplaces
  obtain ⟨hlisting, hbodies⟩ := Prod.mk.inj hp
  exact ⟨p, hread, hlisting, hbodies, (lines_told hread).1⟩

end Spellbook
