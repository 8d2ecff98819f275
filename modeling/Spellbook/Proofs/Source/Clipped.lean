import Spellbook.Proofs.Grammar.Recognition
import Spellbook.Proofs.Source.Lines
import Spellbook.Proofs.Syntax.Places
import Spellbook.Proofs.Text.Marker
import Spellbook.Proofs.Text.Trim

/-!
# Lines without the blanks at their ends

No token begins or ends with a blank.  So a line that can be read can still be read, and says the
same, when blanks at its ends are dropped, of whatever kind they are.  What only differs in places
is compared without them.
-/

namespace Spellbook

/-! ## Layouts and blanks -/

namespace Token

open Text (isBlank)

theorem isBlank_eq_false_of_isWordChar {c : Char} (h : isWordChar c) : isBlank c = false := by
  have hrange : 48 ≤ c.toNat ∧ c.toNat ≤ 122 := by
    unfold isWordChar Char.isAlphanum Char.isAlpha Char.isUpper Char.isLower Char.isDigit at h
    simp only [Bool.or_eq_true, Bool.and_eq_true, decide_eq_true_eq, beq_iff_eq,
      UInt32.le_iff_toNat_le] at h
    rcases h with ((h | h) | h) | rfl
    · exact ⟨Nat.le_trans (by decide) h.1, Nat.le_trans h.2 (by decide)⟩
    · exact ⟨Nat.le_trans (by decide) h.1, Nat.le_trans h.2 (by decide)⟩
    · exact ⟨Nat.le_trans (by decide) h.1, Nat.le_trans h.2 (by decide)⟩
    · decide
  simp only [isBlank, Bool.or_eq_false_iff, Bool.and_eq_false_iff, decide_eq_false_iff_not,
    beq_eq_false_iff_ne]
  omega

/-- A token begins and ends with a visible character. -/
theorem IsToken.isBlank_eq_false {v : Text} (h : IsToken v) {c : Char}
    (hc : v.head? = some c ∨ v.getLast? = some c) : isBlank c = false := by
  cases h with
  | word hword =>
    have hmem : c ∈ v := hc.elim List.mem_of_head? List.mem_of_getLast?
    exact isBlank_eq_false_of_isWordChar (List.all_eq_true.1 hword.2 c hmem)
  | @quoted q contents _ =>
    have hmark : isBlank q.mark = false := by cases q <;> decide
    rcases hc with hc | hc
    · rwa [← Option.some.inj hc]
    · rw [Quote.enclose, List.getLast?_concat] at hc
      rwa [← Option.some.inj hc]
  | @sign d hd =>
    have hall : signs.all (fun d => !isBlank d) := by decide
    obtain rfl : d = c := hc.elim Option.some.inj Option.some.inj
    simpa using List.all_eq_true.1 hall d hd
  | assignment =>
    obtain rfl : '=' = c := hc.elim Option.some.inj Option.some.inj
    decide
  | comparison =>
    obtain rfl : '=' = c := hc.elim Option.some.inj Option.some.inj
    decide

/-- Of a gap with something visible behind it, blanks in front are a part of the gap. -/
theorem exists_gap_of_append_eq {gap body front t : Text} (h : gap ++ body = front ++ t)
    (hfront : front.all isBlank) (hbody : ∀ c ∈ body.head?, isBlank c = false) :
    ∃ gap', gap' <:+ gap ∧ t = gap' ++ body := by
  rcases List.append_eq_append_iff.1 h with ⟨more, rfl, rfl⟩ | ⟨gap', rfl, rfl⟩
  · cases more with
    | nil => exact ⟨[], List.nil_suffix, rfl⟩
    | cons c more =>
      rw [List.all_append, List.all_cons, hbody c rfl, Bool.false_and, Bool.and_false] at hfront
      contradiction
  · exact ⟨gap', List.suffix_append front gap', rfl⟩

theorem all_isGap_of_isSuffix {gap gap' : Text} (hgap : gap.all Cursor.isGap)
    (h : gap' <:+ gap) : gap'.all Cursor.isGap := by
  rw [List.all_eq_true] at hgap ⊢
  exact fun c hc => hgap c (h.subset hc)

theorem Laid.of_blank_append {tokens : List Text} {front t : Text} (h : Laid tokens (front ++ t))
    (hfront : front.all isBlank) : Laid tokens t := by
  generalize hu : front ++ t = u at h
  cases h with
  | @ending gap comment hgap hcomment =>
    have hvisible : ∀ c ∈ comment.head?, isBlank c = false := by
      intro c hc
      rcases hcomment with rfl | hhash
      · exact nomatch hc
      · obtain rfl : '#' = c := Option.some.inj (hhash.symm.trans hc)
        decide
    obtain ⟨gap', hsuffix, rfl⟩ := exists_gap_of_append_eq hu.symm hfront hvisible
    exact .ending (all_isGap_of_isSuffix hgap hsuffix) hcomment
  | @token gap v rest tokens hgap hv hapart hrest =>
    have hvisible : ∀ c ∈ (v ++ rest).head?, isBlank c = false := by
      intro c hc
      rw [List.head?_append_of_ne_nil _ hv.ne_nil] at hc
      exact hv.isBlank_eq_false (.inl hc)
    rw [List.append_assoc] at hu
    obtain ⟨gap', hsuffix, rfl⟩ := exists_gap_of_append_eq hu.symm hfront hvisible
    rw [← List.append_assoc]
    exact .token (all_isGap_of_isSuffix hgap hsuffix) hv hapart hrest

theorem Apart.of_append {v t back : Text} (h : Apart v (t ++ back)) : Apart v t := by
  intro hword
  cases t with
  | nil => rfl
  | cons c t => exact h hword

theorem Laid.of_append_blank {tokens : List Text} {t back : Text} (h : Laid tokens (t ++ back))
    (hback : back.all isBlank) : Laid tokens t := by
  generalize hu : t ++ back = u at h
  induction h generalizing t with
  | @ending gap comment hgap hcomment =>
    rcases List.append_eq_append_iff.1 hu with ⟨gap', rfl, -⟩ | ⟨comment', rfl, rfl⟩
    · rw [← List.append_nil t]
      rw [List.all_append, Bool.and_eq_true] at hgap
      exact .ending hgap.1 (.inl rfl)
    · refine .ending hgap ?_
      cases comment' with
      | nil => exact .inl rfl
      | cons c comment' => exact .inr (hcomment.resolve_left (List.cons_ne_nil _ _))
  | @token gap v rest tokens hgap hv hapart hrest ih =>
    rcases List.append_eq_append_iff.1 hu with ⟨more, hmore, hback'⟩ | ⟨rest', rfl, rfl⟩
    · -- what is dropped cannot reach into the token, which ends with a visible character
      obtain rfl : more = [] := by
        by_contra hne
        have hlast : v.getLast? = more.getLast? := by
          rw [← List.getLast?_append_of_ne_nil gap hv.ne_nil, hmore,
            List.getLast?_append_of_ne_nil t hne]
        have hvisible := hv.isBlank_eq_false
          (.inr (hlast.trans (List.getLast?_eq_some_getLast hne)))
        have hblank : isBlank (more.getLast hne) = true := by
          apply List.all_eq_true.1 hback
          rw [hback']
          exact List.mem_append_left _ (List.getLast_mem hne)
        rw [hvisible] at hblank
        contradiction
      rw [List.append_nil] at hmore
      have hrest : [] ++ back = rest := hback'
      rw [← hmore, ← List.append_nil (gap ++ v)]
      exact .token hgap hv (fun _ => rfl) (ih hrest)
    · exact .token hgap hv hapart.of_append (ih rfl)

theorem Laid.clips {tokens : List Text} {t u : Text} (h : Laid tokens t) (htu : t.Clips u) :
    Laid tokens u := by
  obtain ⟨front, back, rfl, hfront, hback⟩ := htu
  exact (h.of_append_blank hback).of_blank_append hfront

/-- A text with a token in it is neither empty nor a comment. -/
theorem Laid.speaks {v t : Text} {tokens : List Text} (h : Laid (v :: tokens) t) :
    ¬(t.isEmpty = true ∨ t.head? = some '#') := by
  cases h with
  | @token gap v rest tokens hgap hv hapart hrest =>
    obtain ⟨c, v, rfl⟩ := List.exists_cons_of_ne_nil hv.ne_nil
    cases gap with
    | nil =>
      rintro (hempty | hhash)
      · contradiction
      · exact hv.head_not_gap.2 (Option.some.inj hhash)
    | cons d gap =>
      rintro (hempty | hhash)
      · contradiction
      · obtain rfl := Option.some.inj hhash
        exact absurd (List.all_eq_true.1 hgap _ List.mem_cons_self) (by decide)

theorem Laid.head?_ne_slash {tokens : List Text} {t : Text} (h : Laid tokens t) :
    t.head? ≠ some '/' := by
  have hgap_ne {gap body : Text} (hgap : gap.all Cursor.isGap)
      (hbody : body.head? ≠ some '/') : (gap ++ body).head? ≠ some '/' := by
    cases gap with
    | nil => exact hbody
    | cons c gap =>
      intro hc
      obtain rfl := Option.some.inj hc
      exact absurd (List.all_eq_true.1 hgap _ List.mem_cons_self) (by decide)
  cases h with
  | ending hgap hcomment =>
    apply hgap_ne hgap
    rcases hcomment with rfl | hhash
    · decide
    · rw [hhash]
      decide
  | @token gap v rest tokens hgap hv _ _ =>
    rw [List.append_assoc]
    apply hgap_ne hgap
    obtain ⟨c, v, rfl⟩ := List.exists_cons_of_ne_nil hv.ne_nil
    intro hc
    obtain rfl := Option.some.inj hc
    rcases hv.cases_head with ⟨hword, -⟩ | ⟨q, _, hq, -⟩ | ⟨hsign, -⟩ | heq
    · exact absurd hword (by decide)
    · cases q <;> exact absurd hq (by decide)
    · exact absurd hsign (by decide)
    · exact absurd heq (by decide)

end Token

/-! ## Clauses -/

/-- Dropping blanks at the ends of a line moves what it says, but does not change it. -/
theorem Clause.exists_read_of_clips {t u : Text} (htu : t.Clips u) {c : Clause}
    (h : Clause.read t = .ok c) :
    ∃ d, Clause.read u = .ok d ∧ d.form.unplaced = c.form.unplaced := by
  obtain ⟨tokens, hspelled, hlaid⟩ := Clause.isLayout_of_read h
  exact Clause.exists_read_of_isLayout ⟨tokens, hspelled, hlaid.clips htu⟩

theorem Form.exists_action_of_unplaced_eq {f : Form} {a : Action}
    (h : f.unplaced = (Form.action a).unplaced) :
    ∃ a', f = .action a' ∧ a'.mapSpan nowhere = a.mapSpan nowhere := by
  cases f with
  | action a' => exact ⟨a', rfl, Form.action.inj h⟩
  | header _ => exact nomatch h

theorem Form.exists_header_of_unplaced_eq {f : Form} {header : Header}
    (h : f.unplaced = (Form.header header).unplaced) :
    ∃ header', f = .header header' ∧ header'.mapSpan nowhere = header.mapSpan nowhere := by
  cases f with
  | action _ => exact nomatch h
  | header header' => exact ⟨header', rfl, Form.header.inj h⟩

theorem Clause.isHeader_of_unplaced_eq {c d : Clause} (h : d.form.unplaced = c.form.unplaced) :
    d.isHeader = c.isHeader := by
  obtain ⟨a | header, span⟩ := c
  · obtain ⟨a', hform, -⟩ := Form.exists_action_of_unplaced_eq h
    unfold isHeader
    rw [hform]
  · obtain ⟨header', hform, -⟩ := Form.exists_header_of_unplaced_eq h
    unfold isHeader
    rw [hform]

/-! ## Lines -/

namespace SourceLine

variable {marker : Text} {l m : SourceLine}

theorem isSilent_of_clips (h : l.text.Clips m.text) : m.isSilent = l.isSilent := by
  unfold isSilent
  rw [h.trim_eq]

theorem unfilled?_eq_none_iff (hmarker : marker ≠ []) :
    l.unfilled? marker = none ↔ Text.contains marker l.text = false := by
  have hempty : ¬marker.isEmpty = true := by rwa [List.isEmpty_iff]
  unfold unfilled? Text.find? Text.contains
  rw [if_neg hempty, Option.map_map, Option.map_eq_none_iff, ← Option.not_isSome_iff_eq_none,
    Bool.not_eq_true]

theorem unfilled?_eq_none_of_clips (h : l.text.Clips m.text) (hfilled : l.unfilled? marker = none) :
    m.unfilled? marker = none := by
  by_cases hmarker : marker = []
  · subst hmarker
    rfl
  · rw [unfilled?_eq_none_iff hmarker] at hfilled ⊢
    exact Text.contains_eq_false_of_isInfix h.isInfix hfilled

theorem unplaced_shift (bytes : Nat) (d : Clause) :
    (d.shift bytes).form.unplaced = d.form.unplaced := by
  rw [Form.unplaced, Clause.shift, Form.mapSpan_mapSpan]
  rfl

theorem exists_clause_of_clips (h : l.text.Clips m.text) {c : Clause}
    (hclause : l.clause marker = .ok c) :
    ∃ d, m.clause marker = .ok d ∧ d.form.unplaced = c.form.unplaced := by
  obtain ⟨hfilled, c, hread, rfl⟩ := exists_read_of_clause hclause
  obtain ⟨d, hread', hsame⟩ := Clause.exists_read_of_clips h hread
  refine ⟨_, clause_of_read (unfilled?_eq_none_of_clips h hfilled) hread', ?_⟩
  rw [unplaced_shift, unplaced_shift, hsame]

end SourceLine

/-! ## Statements -/

/-- The statement without the places it was read from. -/
def Simple.unplaced (s : Simple) : Simple := s.mapPlace (fun _ => 0) nowhere

/-- The statement and its body without the places they were read from. -/
def Statement.unplaced (s : Statement) : Statement := s.mapPlace (fun _ => 0) nowhere

theorem SourceLine.exists_body_of_clips {marker : Text} {l m : SourceLine}
    (h : l.text.Clips m.text) {body : Option Simple} (hbody : l.body marker = .ok body) :
    ∃ body', m.body marker = .ok body' ∧
      body'.map Simple.unplaced = body.map Simple.unplaced := by
  unfold SourceLine.body at hbody ⊢
  rw [SourceLine.isSilent_of_clips h]
  split at hbody
  · next hsilent =>
    rw [if_pos hsilent, ← Except.ok.inj hbody]
    exact ⟨none, rfl, rfl⟩
  · next hsilent =>
    rw [if_neg hsilent]
    rcases hclause : l.clause marker with e | ⟨action | header, span⟩
    · rw [hclause] at hbody
      cases hbody
    · rw [hclause] at hbody
      obtain ⟨⟨form, span'⟩, hclause', hsame⟩ := SourceLine.exists_clause_of_clips h hclause
      obtain ⟨action', rfl, haction⟩ := Form.exists_action_of_unplaced_eq hsame
      rw [hclause', ← Except.ok.inj hbody]
      refine ⟨_, rfl, ?_⟩
      simp only [Option.map_some, Simple.unplaced, Simple.mapPlace, haction, nowhere]
    · rw [hclause] at hbody
      cases hbody

end Spellbook
