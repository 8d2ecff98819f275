import Spellbook.Proofs.Grammar.Entry
import Spellbook.Proofs.Grammar.Frontier
import Spellbook.Proofs.Grammar.Lexemes

/-!
# What a syntax error reports

The report names a place and the rules that were tried there.  Each of them fails at the place, and
the text in front of it is not hopeless: it can be completed to a text that the grammar takes
(`Entry.report_sound`).  The tokens that are missing are written behind what was read, each with a
blank in front, so that only the last token that was read can touch what follows.
-/

namespace Spellbook

open Token

/-! ## Completing a text -/

namespace Token

/-- The tokens, each behind a blank. -/
def spaced (tokens : List Text) : Text := tokens.flatMap (' ' :: ·)

theorem head?_spaced {tokens : List Text} {d : Char} (h : d ∈ (spaced tokens).head?) : d = ' ' := by
  cases tokens with
  | nil => contradiction
  | cons v tokens =>
    rw [spaced, List.flatMap_cons] at h
    exact (Option.some.inj h).symm

theorem laid_spaced {tokens : List Text} (h : ∀ v ∈ tokens, IsToken v) :
    Laid tokens (spaced tokens) := by
  induction tokens with
  | nil => exact laid_nil
  | cons v tokens ih =>
    rw [List.forall_mem_cons] at h
    have hapart : Apart v (spaced tokens) := by
      intro _
      cases hhead : (spaced tokens).head? with
      | none => rfl
      | some d =>
        rw [head?_spaced hhead]
        decide
    rw [spaced, List.flatMap_cons]
    exact @Laid.token [' '] v _ tokens rfl h.1 hapart (ih h.2)

end Token

namespace Cursor

/-- The text can stand in the place of what is behind the cursor without touching what is in
front. -/
def Admits (d : Cursor) (u : Text) : Prop :=
  ∀ x ∈ u.head?, x ∈ d.code.head? ∨ isWordChar x = false

/-- The tokens are those of a piece that stands between the cursors, whatever tokens follow. -/
def Extends (c : Cursor) (written : List Text) (d : Cursor) : Prop :=
  ∃ piece, c.Reaches piece d ∧
    ∀ ⦃more u⦄, d.Admits u → Laid more u → Laid (written ++ more) (piece ++ u)

theorem Admits.append {c d : Cursor} {piece u : Text} (hcode : c.code = piece ++ d.code)
    (h : d.Admits u) : c.Admits (piece ++ u) := by
  intro x hx
  cases piece with
  | nil =>
    rw [hcode]
    exact h x hx
  | cons y piece =>
    rw [hcode]
    exact .inl hx

theorem Admits.apart {d : Cursor} {v u : Text} (h : d.Admits u) (hapart : Apart v d.rest) :
    Apart v u := by
  intro hlast
  have hrest := hapart hlast
  cases hhead : u.head? with
  | none => rfl
  | some x =>
    rcases h x hhead with hx | hx
    · obtain ⟨comment, hcode, -⟩ := d.exists_comment
      have hne : d.code ≠ [] := List.ne_nil_of_mem (List.mem_of_mem_head? hx)
      rwa [hcode, List.head?_append_of_ne_nil _ hne, Option.mem_def.1 hx] at hrest
    · exact hx

end Cursor

/-- The account of tokens that what follows can be written behind. -/
def extensionAccount : TokenAccount where
  Between := Cursor.Extends
  nil c := ⟨[], .refl c, fun _ _ _ hlaid => hlaid⟩
  append := by
    rintro c middle d s t ⟨first, hfirst, hs⟩ ⟨second, hsecond, ht⟩
    refine ⟨first ++ second, hfirst.append hsecond, fun more u hadmits hlaid => ?_⟩
    rw [List.append_assoc, List.append_assoc]
    exact hs (hadmits.append hsecond.1) (ht hadmits hlaid)
  of_skipGap := by
    rintro c d s ⟨piece, hpiece, hs⟩
    obtain ⟨gap, hgap, hreaches⟩ := Cursor.Reaches.exists_gap c
    refine ⟨gap ++ piece, hreaches.append hpiece, fun more u hadmits hlaid => ?_⟩
    rw [List.append_assoc]
    exact (hs hadmits hlaid).gap_append hgap
  token := by
    intro c v rest hv hapart hrest
    refine ⟨v, .token hv hapart hrest, fun more u hadmits hlaid => ?_⟩
    exact .cons hv (hadmits.apart hapart) hlaid

/-! ## Reports -/

/-- The text without its comment. -/
def Text.code (t : Text) : Text := (Cursor.start t).code

namespace Rule

theorem listed_ne_nil {rules : List Rule} (h : rules ≠ []) : listed rules ≠ [] := by
  obtain ⟨r, rules, rfl⟩ := List.exists_cons_of_ne_nil h
  refine List.ne_nil_of_mem (a := r) (List.mem_filter.2 ⟨r.mem_all, ?_⟩)
  rw [List.contains_cons, beq_self_eq_true, Bool.true_or]

theorem mem_of_mem_listed {r : Rule} {rules : List Rule} (h : r ∈ listed rules) : r ∈ rules :=
  List.contains_iff_mem.1 (List.mem_filter.1 h).2

end Rule

namespace Entry

variable {e : Entry} {t : Text}

theorem pattern_sound (e : Entry) (account : TokenAccount) :
    e.pattern.Sound account e.Shaped := (e.inner_sound account).entire e.rule

theorem inner_confined (e : Entry) (t : Text) (bound : Nat) : e.inner.Confined t bound := by
  cases e with
  | line => exact Grammar.statement_confined t bound
  | expression => exact Grammar.expression_confined t bound
  | condition => exact Grammar.condition_confined t bound

theorem rule_fails {c : Cursor} (h : e.pattern.read c = none) : e.rule.Fails c := by
  cases e with
  | line => exact fun _ => h
  | expression => exact fun _ => h
  | condition => exact fun _ => h

/-- What is not an integer that is too large is reported by the pattern. -/
theorem parse_eq_of_read {rules : List Rule} {span : Span}
    (h : e.read t = .error ⟨.unexpected rules, span⟩) :
    e.pattern.parse t = .error ⟨.unexpected rules, span⟩ := by
  rw [read_eq, readWhole] at h
  cases hparse : e.pattern.parse t with
  | error blame =>
    rw [hparse] at h
    exact h
  | ok a =>
    rw [hparse] at h
    dsimp only at h
    split at h
    · next blame hsize =>
      obtain ⟨⟨value, place⟩, -, rfl⟩ := Option.map_eq_some_iff.1 hsize
      have hcause := (Blame.mk.inj (Except.error.inj h)).1
      contradiction
    · contradiction

/-- Where the pattern can go on, the text in front can be completed. -/
theorem exists_ending {position : Nat}
    (h : extensionAccount.CanGoOn e.Shaped (.start t) position) :
    ∃ front comment back ending, t = front ++ comment ++ back ∧
      position = Text.byteLength (front ++ comment) ∧
      (comment = [] ∨ comment.head? = some '#' ∧ back = [] ∧ front = t.code) ∧
      e.Accepts (front ++ ending) := by
  obtain ⟨d, written, missing, a, rfl, ⟨front, hreaches, hlaid⟩, hshaped, hmissing⟩ := h
  obtain ⟨hcode, comment, hrest, hposition, hcomment⟩ := hreaches
  refine ⟨front, comment, d.rest, spaced missing, hrest, ?_, ?_, ?_⟩
  · rw [hposition]
    exact Nat.zero_add _
  · refine hcomment.imp_right fun ⟨hhash, hnil⟩ => ⟨hhash, hnil, ?_⟩
    rw [Text.code, hcode, Cursor.code_of_rest_eq_nil hnil, List.append_nil]
  · have hadmits : d.Admits (spaced missing) := by
      intro x hx
      rw [head?_spaced hx]
      exact .inr (by decide)
    exact accepts_iff_isWellFormed.2 ⟨a, _, hshaped, hlaid hadmits (laid_spaced hmissing)⟩

/-- The report of a syntax error blames one place of the text and names rules that all fail there.
What is in front of the place, without the comment if there is one, can be completed to a text that
the grammar takes. -/
theorem report_sound {rules : List Rule} {span : Span}
    (h : e.read t = .error ⟨.unexpected rules, span⟩) :
    t.IsBoundary span.start ∧ span.stop = span.start + 1 ∧
    rules ≠ [] ∧ (∀ r ∈ rules, r.Fails ⟨span.start, Text.dropBytes span.start t⟩) ∧
    ∃ front comment back ending, t = front ++ comment ++ back ∧
      span.start = Text.byteLength (front ++ comment) ∧
      (comment = [] ∨ comment.head? = some '#' ∧ back = [] ∧ front = t.code) ∧
      e.Accepts (front ++ ending) := by
  obtain ⟨f, hf, hexpected, hnote, hblame⟩ := Pattern.exists_justified_of_parse
    (e.inner_confined t _) (fun _ => rule_fails) (parse_eq_of_read h)
  obtain ⟨hcause, rfl⟩ := Blame.mk.inj hblame
  obtain rfl := SyntaxCause.unexpected.inj hcause
  have hgo : extensionAccount.CanGoOn e.Shaped (.start t) f.position := by
    have hsound := e.pattern_sound extensionAccount
    rcases hsound.goesOn (.start t) .initial with hzero | hgo
    · rw [hnote]
      change _ = (Cursor.start t).position at hzero
      exact hzero ▸ .start hsound.inhabited (.start t)
    · rw [hnote]
      exact hgo
  exact ⟨hf.isBoundary, rfl, Rule.listed_ne_nil hexpected,
    fun r hr => hf.fails r (Rule.mem_of_mem_listed hr), exists_ending hgo⟩

/-- Behind a comment the report names all that the header could go on with in front of it. -/
theorem report_sound_behind_comment :
    line.read "if x # y" = .error ⟨.unexpected [.andWord, .inWord, .equalSign], ⟨8, 9⟩⟩ ∧
    (∀ r ∈ [Rule.andWord, .inWord, .equalSign], r.Fails ⟨8, []⟩) ∧
    ∃ front comment back ending, ("if x # y" : Text) = front ++ comment ++ back ∧
      8 = Text.byteLength (front ++ comment) ∧
      (comment = [] ∨ comment.head? = some '#' ∧ back = [] ∧ front = Text.code "if x # y") ∧
      line.Accepts (front ++ ending) := by
  have hrefused : line.pattern.read (.start "if x # y") = none := by rfl
  have hposition : (line.pattern.note (.start "if x # y") .initial).position = 8 := by
    decide +kernel
  have hexpected : Rule.listed (line.pattern.note (.start "if x # y") .initial).expected =
      [.andWord, .inWord, .equalSign] := by decide +kernel
  have hread : line.read "if x # y" =
      .error ⟨.unexpected [.andWord, .inWord, .equalSign], ⟨8, 9⟩⟩ := by
    rw [read_eq, readWhole, Pattern.parse]
    simp only [hrefused, hposition, hexpected]
  obtain ⟨-, -, -, hfails, hending⟩ := report_sound hread
  exact ⟨hread, hfails, hending⟩

end Entry

end Spellbook
