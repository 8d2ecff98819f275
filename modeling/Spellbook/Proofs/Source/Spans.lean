import Spellbook.Proofs.Grammar.Spans
import Spellbook.Proofs.Source.Statements
import Spellbook.Proofs.Text.Slice

/-!
# Spans in a whole source

A line is read by itself, and its tree is shifted to where the line stands.  So every node of a
spell stands in the source as its span says, on the line of its statement, and a body stands on
the line behind its header (`Program.spans_faithful`).
-/

namespace Spellbook

/-! ## Where lines stand -/

namespace SourceLine

theorem exists_front_of_mem_place {number offset : Nat} {pieces : List Text} {l : SourceLine}
    (h : l ∈ place number offset pieces) : ∃ front back,
      Text.join "\n" pieces = front ++ l.text ++ back ∧
        l.offset = offset + Text.byteLength front := by
  induction pieces generalizing number offset with
  | nil => exact nomatch h
  | cons piece pieces ih =>
    rcases List.mem_cons.1 h with rfl | h
    · obtain ⟨carriage, hpiece⟩ := Text.dropCarriage_isPrefix piece
      obtain ⟨back, hback⟩ : piece <+: Text.join "\n" (piece :: pieces) := by
        have hfirst : [piece] <+: piece :: pieces := List.prefix_append [piece] pieces
        have hjoined := Text.join_isPrefix "\n" hfirst
        rwa [Text.join_singleton] at hjoined
      refine ⟨[], carriage ++ back, ?_, rfl⟩
      rw [List.nil_append, ← List.append_assoc, hpiece, hback]
    · have hpieces : pieces ≠ [] := by
        rintro rfl
        exact nomatch h
      obtain ⟨front, back, hjoin, hoffset⟩ := ih h
      refine ⟨piece ++ "\n" ++ front, back, ?_, ?_⟩
      · rw [Text.join_cons_of_ne_nil "\n" piece hpieces, hjoin]
        simp only [List.append_assoc]
      · have hnewline : Text.byteLength ("\n" : Text) = 1 := by decide
        rw [Text.byteLength_append, Text.byteLength_append, hnewline]
        omega

/-- The text of a line stands in the source at its offset. -/
theorem exists_front_of_mem_split {source : Text} {l : SourceLine} (h : l ∈ split source) :
    ∃ front back, source = front ++ l.text ++ back ∧ l.offset = Text.byteLength front := by
  obtain ⟨front, back, hjoin, hoffset⟩ := exists_front_of_mem_place h
  rw [Text.join_splitNewlines] at hjoin
  exact ⟨front, back, hjoin, by omega⟩

/-- The next line has the next number, and stands behind the whole line. -/
theorem next_of_isInfix_place {number offset : Nat} {pieces : List Text} {l next : SourceLine}
    (h : [l, next] <:+: place number offset pieces) :
    next.number = l.number + 1 ∧ l.offset + Text.byteLength l.text < next.offset := by
  induction pieces generalizing number offset with
  | nil =>
    have hlength := h.length_le
    exact absurd hlength (Nat.not_succ_le_zero _)
  | cons piece pieces ih =>
    rw [place, List.infix_cons_iff] at h
    rcases h with h | h
    · obtain ⟨rfl, hnext⟩ := List.cons_prefix_cons.1 h
      cases pieces with
      | nil =>
        have hlength := hnext.length_le
        exact absurd hlength (Nat.not_succ_le_zero _)
      | cons second pieces =>
        obtain ⟨rfl, -⟩ := List.cons_prefix_cons.1 hnext
        refine ⟨rfl, ?_⟩
        obtain ⟨carriage, hpiece⟩ := Text.dropCarriage_isPrefix piece
        have hsize := congrArg Text.byteLength hpiece
        rw [Text.byteLength_append] at hsize
        dsimp only
        omega
    · exact ih h

end SourceLine

/-! ## Nodes in the source -/

namespace Node

/-- The node is faithful, and stands on the line.  A condition reaches from the start of its first
term to the end of its last. -/
structure FaithfulOn (source : Text) (l : SourceLine) (n : Node) : Prop
    extends Faithful source n where
  offset_le_start : l.offset ≤ n.span.start
  stop_le_end : n.span.stop ≤ l.offset + Text.byteLength l.text
  condition_span : ∀ c, n = .condition c → ∀ last ∈ c.terms.getLast?,
    c.span = ⟨c.first.span.start, last.span.stop⟩

theorem isWrittenAs_mapSpan (f : Span → Span) (n : Node) (piece : Text) :
    (n.mapSpan f).IsWrittenAs piece ↔ n.IsWrittenAs piece := by
  cases n with
  | expression e => cases e <;> exact Iff.rfl
  | clause | condition | term | identifier => exact Iff.rfl

theorem Faithful.shift {t : Text} {n : Node} (h : n.Faithful t) (before after : Text) :
    (n.mapSpan (Span.shift (Text.byteLength before))).Faithful (before ++ t ++ after) := by
  obtain ⟨piece, hpiece⟩ :=
    Span.exists_covers h.isBoundary_start h.isBoundary_stop (Nat.le_of_lt h.start_lt_stop)
  have hshifted := hpiece.shift before after
  have hwritten := h.isWrittenAs
  have horder := h.inOrder.shift (Text.byteLength before)
  have hspans : Node.span ∘ mapSpan (Span.shift (Text.byteLength before)) =
      Span.shift (Text.byteLength before) ∘ Node.span :=
    funext (span_mapSpan_shift (Text.byteLength before))
  rw [hpiece.slice_eq] at hwritten
  rw [List.map_map, ← hspans, ← List.map_map, ← children_mapSpan] at horder
  refine ⟨?_, ?_, ?_, ?_, ?_⟩
  · rw [span_mapSpan_shift, Span.start_shift, Span.stop_shift]
    exact Nat.add_lt_add_right h.start_lt_stop _
  · rw [span_mapSpan_shift]
    exact hshifted.isBoundary_start
  · rw [span_mapSpan_shift]
    exact hshifted.isBoundary_stop
  · rw [span_mapSpan_shift, hshifted.slice_eq, isWrittenAs_mapSpan]
    exact hwritten
  · rw [span_mapSpan_shift]
    exact horder

/-- What a line says stands on it. -/
theorem faithfulOn_of_clause {marker source : Text} {l : SourceLine}
    (hl : l ∈ SourceLine.split source) {c : Clause} (h : l.clause marker = .ok c) {n : Node}
    (hn : n.Inside (.clause c)) : n.FaithfulOn source l := by
  obtain ⟨-, d, hread, rfl⟩ := SourceLine.exists_read_of_clause h
  obtain ⟨front, back, hsource, hoffset⟩ := SourceLine.exists_front_of_mem_split hl
  have hmoved :
      Node.clause (d.shift l.offset) = (Node.clause d).mapSpan (Span.shift l.offset) := rfl
  rw [hmoved] at hn
  obtain ⟨m, hm, rfl⟩ := hn.exists_of_mapSpan
  have hfaithful := Clause.allFaithful hread m hm
  have hstop := hfaithful.isBoundary_stop.le_byteLength
  have hshifted := hfaithful.shift front back
  rw [← hsource, ← hoffset] at hshifted
  refine ⟨hshifted, ?_, ?_, ?_⟩
  · rw [span_mapSpan_shift, Span.start_shift]
    omega
  · rw [span_mapSpan_shift, Span.stop_shift]
    omega
  · intro condition _ last hlast
    exact Condition.span_eq_through condition hlast

end Node

/-! ## Statements and their lines -/

/-- The statement says what its line says, and its body what the next line says. -/
structure Statement.ComesFrom (marker : Text) (ls : List SourceLine) (s : Statement)
    (l : SourceLine) : Prop where
  mem : l ∈ ls
  clause_eq : l.clause marker = .ok s.clause
  line_eq : s.line = l.number
  body_eq : ∀ body ∈ s.body?, ∃ next, [l, next] <:+: ls ∧
    next.clause marker = .ok body.clause ∧ body.line = next.number

namespace Statement

variable {marker : Text}

theorem exists_comesFrom {ls : List SourceLine} {statements : List Statement}
    (h : ofLines marker ls = .ok statements) {s : Statement} (hs : s ∈ statements) :
    ∃ l, s.ComesFrom marker ls l := by
  obtain ⟨front, l, rest, rfl, hl⟩ := stands_of_mem h hs
  have hmem : l ∈ front ++ l :: rest := List.mem_append_right _ List.mem_cons_self
  refine ⟨l, hmem, hl.clause_eq, hl.line_eq, ?_⟩
  intro body hbody
  obtain ⟨next, hnext, -, -, hclause, hline⟩ := hl.next_of_body hbody
  obtain ⟨others, rfl⟩ := List.head?_eq_some_iff.1 hnext
  exact ⟨next, ⟨front, others, by simp⟩, hclause, hline⟩

end Statement

/-! ## Whole spells -/

/-- The clause and all nodes inside it stand on the line with the number, as their spans say. -/
def Clause.StandsOn (source : Text) (number : Nat) (c : Clause) : Prop :=
  ∃ l ∈ SourceLine.split source, l.number = number ∧
    ∀ n : Node, n.Inside (.clause c) → n.FaithfulOn source l

/-- Every statement of a spell that was read stands on its line.  A body stands on the next one, and
so outside the span of its header. -/
theorem Program.spans_faithful {marker source : Text} {p : Program}
    (h : Program.read marker source = .ok p) {s : Statement} (hs : s ∈ p.statements) :
    s.clause.StandsOn source s.line ∧
      ∀ body ∈ s.body?, body.clause.StandsOn source body.line ∧ body.line = s.line + 1 ∧
        s.span.stop < body.span.start := by
  obtain ⟨l, hl⟩ := Statement.exists_comesFrom (Program.statements_of_read h) hs
  have hstands (n : Node) (hn : n.Inside (.clause s.clause)) : n.FaithfulOn source l :=
    Node.faithfulOn_of_clause hl.mem hl.clause_eq hn
  refine ⟨⟨l, hl.mem, hl.line_eq.symm, hstands⟩, ?_⟩
  intro body hbody
  obtain ⟨next, hinfix, hclause, hline⟩ := hl.body_eq body hbody
  have hmem : next ∈ SourceLine.split source := hinfix.subset (by simp)
  have hnext (n : Node) (hn : n.Inside (.clause body.clause)) : n.FaithfulOn source next :=
    Node.faithfulOn_of_clause hmem hclause hn
  obtain ⟨hnumber, hbehind⟩ := SourceLine.next_of_isInfix_place hinfix
  refine ⟨⟨next, hmem, hline.symm, hnext⟩, ?_, ?_⟩
  · rw [hline, hl.line_eq, hnumber]
  · have hheader := (hstands _ (.refl _)).stop_le_end
    have hstart := (hnext _ (.refl _)).offset_le_start
    have hspan : (Node.clause s.clause).span = s.span := by cases s <;> rfl
    have hbodyspan : (Node.clause body.clause).span = body.span := rfl
    rw [hspan] at hheader
    rw [hbodyspan] at hstart
    omega

/-- A header behind a character of two bytes and a line ending of two bytes, and its body. -/
theorem Program.spans_faithful_header :
    let source : Text := "s = 'é'\r\nif s == 'é' and True:\n\tprint(s)"
    ∃ p header body, Program.read "???" source = .ok p ∧ header ∈ p.statements ∧
      header.span = ⟨10, 32⟩ ∧ header.body? = some body ∧ body.span = ⟨34, 42⟩ ∧
      header.clause.StandsOn source 2 ∧ body.clause.StandsOn source 3 ∧
      header.span.stop < body.span.start := by
  intro source
  let place (s : Statement) := (s.line, s.span, s.body?.map fun body => (body.line, body.span))
  have hplaces : (Program.read "???" source).map (fun p => p.statements.map place) =
      .ok [(1, ⟨0, 8⟩, none), (2, ⟨10, 32⟩, some (3, ⟨34, 42⟩))] := by decide +kernel
  obtain ⟨p, hread, hmap⟩ := exists_of_map_eq_ok hplaces
  obtain ⟨first, rest, hstatements, -, hrest⟩ := List.map_eq_cons_iff.1 hmap
  obtain ⟨header, _, rfl, hheader, -⟩ := List.map_eq_cons_iff.1 hrest
  have hmem : header ∈ p.statements := by
    rw [hstatements]
    exact List.mem_cons_of_mem _ List.mem_cons_self
  obtain ⟨hline, hspan⟩ := Prod.mk.inj hheader
  obtain ⟨hspan, hbody⟩ := Prod.mk.inj hspan
  obtain ⟨body, hbody, hplace⟩ := Option.map_eq_some_iff.1 hbody
  obtain ⟨hbodyline, hbodyspan⟩ := Prod.mk.inj hplace
  obtain ⟨hstands, hunder⟩ := spans_faithful hread hmem
  obtain ⟨hbodystands, -, hbehind⟩ := hunder body hbody
  rw [hline] at hstands
  rw [hbodyline] at hbodystands
  exact ⟨p, header, body, hread, hmem, hspan, hbody, hbodyspan, hstands, hbodystands, hbehind⟩

end Spellbook
