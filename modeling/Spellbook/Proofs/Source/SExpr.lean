import Spellbook.Proofs.Source.Clipped
import Spellbook.Proofs.Source.Statements
import Spellbook.Proofs.Syntax.SExpr

/-!
# A spell in parentheses determines the spell

All that stands on the lines of a spell can be spelled, so the spell in parentheses writes its tree.
Spells that were read are therefore written the same exactly if they are the same once they are
plain: nothing but places and quotes is lost in parentheses.
-/

namespace Spellbook

/-- What is read from a line can be spelled. -/
theorem SourceLine.exists_spelled_of_clause {marker : Text} {l : SourceLine} {c : Clause}
    (h : l.clause marker = .ok c) : ∃ tokens, c.form.Spelled tokens := by
  obtain ⟨-, d, hread, rfl⟩ := exists_read_of_clause h
  obtain ⟨tokens, hspelled, -⟩ := Clause.isLayout_of_read hread
  exact ⟨tokens, (Form.spelled_mapSpan (Span.shift l.offset) d.form tokens).2 hspelled⟩

theorem Statement.StandsAt.spellable {marker : Text} {s : Statement} {l : SourceLine}
    {rest : List SourceLine} (h : s.StandsAt marker l rest) : s.Spellable := by
  cases s with
  | simple s => exact SourceLine.exists_spelled_of_clause h.clause_eq
  | block b =>
    refine ⟨SourceLine.exists_spelled_of_clause h.clause_eq, fun body hbody => ?_⟩
    obtain ⟨next, -, -, -, hclause, -⟩ := h.next_of_body hbody
    exact SourceLine.exists_spelled_of_clause hclause

theorem Program.writes_of_read {marker source : Text} {p : Program}
    (h : Program.read marker source = .ok p) : p.tree.Writes p.sexpr := by
  refine p.writes_tree fun s hs => ?_
  obtain ⟨front, l, rest, -, hstands⟩ :=
    Statement.stands_of_mem (Program.statements_of_read h) hs
  exact hstands.spellable

/-- Two spells that were read, from whatever sources and with whatever markers, are the same in
parentheses exactly if they are the same but for places and quotes. -/
theorem Program.sexpr_eq_iff {marker source marker' source' : Text} {p q : Program}
    (hp : Program.read marker source = .ok p) (hq : Program.read marker' source' = .ok q) :
    p.sexpr = q.sexpr ↔ p.plain = q.plain := by
  constructor
  · intro hsexpr
    have hwritten := Program.writes_of_read hq
    rw [← hsexpr] at hwritten
    exact p.plain_eq_of_tree_eq q (SExpr.eq_of_writes (Program.writes_of_read hp) hwritten)
  · intro hplain
    calc p.sexpr
        = p.plain.sexpr := p.sexpr_plain.symm
      _ = q.plain.sexpr := by rw [hplain]
      _ = q.sexpr := q.sexpr_plain

/-- Other blanks, lines, comments and quotes around a text with parentheses and a backslash. -/
theorem Program.sexpr_eq_iff_quotes :
    let source : Text := "x='(a) \\'\nif True:\n  print(x)"
    let source' : Text := "# again\nx = \"(a) \\\" # cast\n\nif True :\n\tprint( x )"
    ∃ p q, Program.read "???" source = .ok p ∧ Program.read "" source' = .ok q ∧
      p.sexpr = ("(program\n  (assign x (string \"(a) \\\\\"))\n  (if (boolean true)\n" ++
        "    (print (identifier x))))" : String) ∧
      p.plain = q.plain := by
  intro source source'
  let text : Text := ("(program\n  (assign x (string \"(a) \\\\\"))\n  (if (boolean true)\n" ++
    "    (print (identifier x))))" : String)
  have hp : (Program.read "???" source).map Program.sexpr = .ok text := by decide +kernel
  have hq : (Program.read "" source').map Program.sexpr = .ok text := by decide +kernel
  obtain ⟨p, hread, htext⟩ := exists_of_map_eq_ok hp
  obtain ⟨q, hread', htext'⟩ := exists_of_map_eq_ok hq
  exact ⟨p, q, hread, hread', htext, (sexpr_eq_iff hread hread').1 (htext.trans htext'.symm)⟩

end Spellbook
