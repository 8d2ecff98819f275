import Spellbook.Proofs.Grammar.Depth
import Spellbook.Proofs.Grammar.Placement
import Spellbook.Source.Clause

/-!
# Where the furthest failure lies

A pattern that starts at a cursor of a text only comes to cursors of that text.  So the furthest
failure lies between two characters of the text or at one of its ends, and each of the rules that
stand for it fails at that place (`Pattern.exists_justified_of_parse`).  A rule that stands for its
parts takes their place only where it fails itself; in front of what is left of the text, the parts
that nest are read as if they were not nested.
-/

namespace Spellbook

open Token

/-! ## Rules that fail -/

/-- The rule reads nothing at the cursor.  The rules for whole texts only apply at the start of a
text. -/
def Rule.Fails (c : Cursor) : Rule → Prop
  | lineEnd => Pattern.atEnd.read c = none
  | ifWord => (Grammar.word .ifWord "if").read c = none
  | forWord => (Grammar.word .forWord "for").read c = none
  | printWord => (Grammar.word .printWord "print").read c = none
  | lenWord => (Grammar.word .lenWord "len").read c = none
  | andWord => (Grammar.word .andWord "and").read c = none
  | inWord => (Grammar.word .inWord "in").read c = none
  | equalSign => (Pattern.scan equalSign?).read c = none
  | assignSign => (Pattern.scan assignSign?).read c = none
  | identifier => Grammar.identifier.read c = none
  | boolean => Grammar.boolean.read c = none
  | trueWord => (Grammar.word .trueWord "True").read c = none
  | falseWord => (Grammar.word .falseWord "False").read c = none
  | integer => Grammar.integer.read c = none
  | string => Grammar.string.read c = none
  | singleQuoted => (Grammar.stringIn .singleQuoted .single '\'').read c = none
  | doubleQuoted => (Grammar.stringIn .doubleQuoted .double '"').read c = none
  | list => (Grammar.list Grammar.expression).read c = none
  | listElements => (Grammar.elements Grammar.expression).read c = none
  | lenCall => (Grammar.lenCall Grammar.expression).read c = none
  | expression => Grammar.expression.read c = none
  | condition => Grammar.condition.read c = none
  | membership => Grammar.membership.read c = none
  | equality => Grammar.equality.read c = none
  | bareCondition => Grammar.bareCondition.read c = none
  | methodCall => Grammar.methodCall.read c = none
  | printCall => Grammar.printCall.read c = none
  | assignment => Grammar.assignment.read c = none
  | ifHeader => Grammar.ifHeader.read c = none
  | forHeader => Grammar.forHeader.read c = none
  | statement => Grammar.statement.read c = none
  | line => c.position = 0 → Grammar.line.read c = none
  | loneExpression => c.position = 0 → Grammar.loneExpression.read c = none
  | loneCondition => c.position = 0 → Grammar.loneCondition.read c = none

theorem Cursor.In.eq {t : Text} {c : Cursor} (h : c.In t) :
    c = ⟨c.position, Text.dropBytes c.position t⟩ := by
  obtain ⟨position, rest⟩ := c
  obtain ⟨front, rfl, rfl⟩ := h
  rw [Text.dropBytes_append]

namespace Frontier

/-- The frontier stands between two characters of the text or at an end, and the rules that stand
for it fail there.  Only before anything has failed is there no such rule. -/
structure Justified (t : Text) (f : Frontier) : Prop where
  isBoundary : t.IsBoundary f.position
  fails : ∀ r ∈ f.expected, r.Fails ⟨f.position, Text.dropBytes f.position t⟩
  expected_ne_nil : f.position ≠ 0 → f.expected ≠ []

namespace Justified

variable {t : Text} {f : Frontier} {c : Cursor} {rule : Rule}

theorem initial (t : Text) : Justified t .initial :=
  ⟨⟨[], t, rfl, rfl⟩, fun _ h => absurd h List.not_mem_nil, fun h => absurd rfl h⟩

/-- A rule that fails itself may stand for the failure. -/
theorem fail (hf : f.Justified t) (hc : c.In t) (hrule : rule.Fails c) (before : Nat) :
    (f.fail rule c.position before).Justified t ∧
      (f.fail rule c.position before).expected ≠ [] := by
  have hhere : rule.Fails ⟨c.position, Text.dropBytes c.position t⟩ := by rwa [← hc.eq]
  unfold Frontier.fail
  split
  · next hcount =>
    refine ⟨hf, ?_⟩
    intro hnil
    rw [countAt, hnil, List.length_nil, ite_self] at hcount
    contradiction
  · split
    · next hposition =>
      refine ⟨⟨hc.isBoundary, ?_, fun _ => List.concat_ne_nil _ _⟩, List.concat_ne_nil _ _⟩
      intro r hr
      rcases List.mem_append.1 hr with hr | hr
      · have hfails := hf.fails r (List.mem_of_mem_take hr)
        rwa [← hposition] at hfails
      · rwa [List.mem_singleton.1 hr]
    · split
      · refine ⟨⟨hc.isBoundary, ?_, fun _ => List.cons_ne_nil _ _⟩, List.cons_ne_nil _ _⟩
        intro r hr
        rwa [List.mem_singleton.1 hr]
      · exact ⟨hf, hf.expected_ne_nil (by omega)⟩

end Justified

end Frontier

namespace Pattern

variable {α β γ : Type} {t : Text} {bound : Nat} {p : Pattern α} {q : Pattern β}

/-- From a cursor of the text the pattern comes to cursors of the text only, further back, and in
front of fewer characters than the bound it leaves the frontier justified. -/
structure Confined (t : Text) (bound : Nat) (p : Pattern α) : Prop where
  read_in : ∀ {c a behind}, c.In t → p.read c = some (a, behind) →
    behind.In t ∧ behind.rest.length ≤ c.rest.length
  note_justified : ∀ {c} {f : Frontier}, c.In t → c.rest.length < bound → f.Justified t →
    (p.note c f).Justified t

namespace Confined

/-! ## Combinations -/

theorem scan {scanner : Text → Option (Text × Text)} {kind : Text → Prop}
    (h : Yields scanner kind) : Confined t bound (.scan scanner) := by
  refine ⟨fun hc hread => ⟨(Places.covers_of_read h hc hread).1, ?_⟩, fun _ _ hf => hf⟩
  obtain ⟨⟨v, rest⟩, hscan, hpair⟩ := Option.map_eq_some_iff.1 hread
  obtain ⟨-, rfl⟩ := Prod.mk.inj hpair
  rw [(h hscan).2.2.2, List.length_append]
  exact Nat.le_add_left _ _

theorem done (a : α) : Confined t bound (.done a) := by
  refine ⟨?_, fun _ _ hf => hf⟩
  intro c b behind hc hread
  obtain ⟨-, rfl⟩ := Prod.mk.inj (Option.some.inj hread)
  exact ⟨hc, Nat.le_refl _⟩

theorem atEnd : Confined t bound .atEnd := by
  refine ⟨?_, fun _ _ hf => hf⟩
  intro c a behind hc hread
  obtain ⟨-, hread⟩ := Option.ite_none_right_eq_some.1 hread
  obtain ⟨-, rfl⟩ := Prod.mk.inj (Option.some.inj hread)
  exact ⟨hc, Nat.le_refl _⟩

/-- Where a named rule fails, some rule stands for the failure. -/
theorem note_named_of_read_eq_none (rule : Rule) (h : Confined t bound p) {c : Cursor}
    {f : Frontier} (hc : c.In t) (hlength : c.rest.length < bound) (hf : f.Justified t)
    (hread : p.read c = none) (hrule : rule.Fails c) :
    ((Pattern.named rule p).note c f).Justified t ∧
      ((Pattern.named rule p).note c f).expected ≠ [] := by
  simp only [Pattern.named, hread, Option.isSome_none, Bool.false_eq_true, if_false]
  exact (h.note_justified hc hlength hf).fail hc hrule _

theorem named {rule : Rule} (h : Confined t bound p)
    (hrule : ∀ c : Cursor, c.rest.length < bound → p.read c = none → rule.Fails c) :
    Confined t bound (.named rule p) := by
  refine ⟨h.read_in, ?_⟩
  intro c f hc hlength hf
  cases hread : p.read c with
  | none => exact (h.note_named_of_read_eq_none rule hc hlength hf hread (hrule c hlength hread)).1
  | some result =>
    simp only [Pattern.named, hread, Option.isSome_some, if_true]
    exact h.note_justified hc hlength hf

theorem map (h : Confined t bound p) (g : α → β) : Confined t bound (g <$> p) := by
  refine ⟨?_, h.note_justified⟩
  intro c b behind hc hread
  obtain ⟨⟨a, behind'⟩, hreadp, hpair⟩ := Option.map_eq_some_iff.1 hread
  obtain ⟨-, rfl⟩ := Prod.mk.inj hpair
  exact h.read_in hc hreadp

theorem spanned (h : Confined t bound p) : Confined t bound (.spanned p) := by
  refine ⟨?_, h.note_justified⟩
  intro c x behind hc hread
  obtain ⟨⟨a, behind'⟩, hreadp, hpair⟩ := Option.map_eq_some_iff.1 hread
  obtain ⟨-, rfl⟩ := Prod.mk.inj hpair
  exact h.read_in hc hreadp

/-- Behind a pattern that takes some characters, there are fewer of them left. -/
theorem seqWith_of_takes {k : Nat} (hp : Confined t (bound + k) p)
    (htakes : ∀ c a behind, c.In t → p.read c = some (a, behind) →
      k + behind.rest.length ≤ c.rest.length)
    (hq : Confined t bound q) (g : α → β → γ) :
    Confined t (bound + k) (.seqWith g p q) := by
  constructor
  · intro c d behind hc hread
    simp only [Pattern.seqWith] at hread
    split at hread
    · contradiction
    · next a middle hreadp =>
      obtain ⟨⟨b, behind'⟩, hreadq, hpair⟩ := Option.map_eq_some_iff.1 hread
      obtain ⟨-, rfl⟩ := Prod.mk.inj hpair
      obtain ⟨hmiddle, hle⟩ := hp.read_in hc hreadp
      obtain ⟨hbehind, hle'⟩ := hq.read_in hmiddle.skipGap.1 hreadq
      exact ⟨hbehind, hle'.trans (middle.length_rest_skipGap_le.trans hle)⟩
  · intro c f hc hlength hf
    have hnoted := hp.note_justified hc hlength hf
    simp only [Pattern.seqWith]
    split
    · exact hnoted
    · next a middle hreadp =>
      have htaken := htakes c a middle hc hreadp
      have hskip := middle.length_rest_skipGap_le
      exact hq.note_justified (hp.read_in hc hreadp).1.skipGap.1 (by omega) hnoted

theorem seqWith (hp : Confined t bound p) (hq : Confined t bound q) (g : α → β → γ) :
    Confined t bound (.seqWith g p q) := by
  refine seqWith_of_takes (k := 0) hp ?_ hq g
  intro c a behind hc hread
  rw [Nat.zero_add]
  exact (hp.read_in hc hread).2

theorem seq {p : Pattern (β → γ)} (hp : Confined t bound p) (hq : Confined t bound q) :
    Confined t bound (p <*> q) := hp.seqWith hq _

theorem seqLeft (hp : Confined t bound p) (hq : Confined t bound q) :
    Confined t bound (p <* q) := hp.seqWith hq _

theorem seqRight (hp : Confined t bound p) (hq : Confined t bound q) :
    Confined t bound (p *> q) := hp.seqWith hq _

theorem orElse {q : Pattern α} (hp : Confined t bound p) (hq : Confined t bound q) :
    Confined t bound (p <|> q) := by
  change Confined t bound (Pattern.orElse p q)
  unfold Pattern.orElse
  constructor
  · intro c a behind hc hread
    dsimp only at hread
    split at hread
    · next result hreadp => exact hp.read_in hc (hreadp.trans hread)
    · exact hq.read_in hc hread
  · intro c f hc hlength hf
    have hnoted := hp.note_justified hc hlength hf
    dsimp only
    split
    · exact hnoted
    · exact hq.note_justified hc hlength hnoted

theorem optional (h : Confined t bound p) : Confined t bound (.optional p) := by
  refine ⟨?_, h.note_justified⟩
  intro c o behind hc hread
  simp only [Pattern.optional] at hread
  split at hread
  · next a behind' hreadp =>
    obtain ⟨-, rfl⟩ := Prod.mk.inj (Option.some.inj hread)
    exact h.read_in hc hreadp
  · obtain ⟨-, rfl⟩ := Prod.mk.inj (Option.some.inj hread)
    exact ⟨hc, Nat.le_refl _⟩

theorem readRounds_in (h : Confined t bound p) (rounds : Nat) {c : Cursor} (hc : c.In t) :
    (p.readRounds rounds c).2.In t ∧ (p.readRounds rounds c).2.rest.length ≤ c.rest.length := by
  induction rounds generalizing c with
  | zero => exact ⟨hc, Nat.le_refl _⟩
  | succ rounds ih =>
    simp only [Pattern.readRounds]
    split
    · exact ⟨hc, Nat.le_refl _⟩
    · next a behind hread =>
      obtain ⟨hbehind, hle⟩ := h.read_in hc.skipGap.1 hread
      obtain ⟨hlast, hle'⟩ := ih hbehind
      exact ⟨hlast, hle'.trans (hle.trans c.length_rest_skipGap_le)⟩

theorem noteRounds_justified (h : Confined t bound p) (rounds : Nat) {c : Cursor} {f : Frontier}
    (hc : c.In t) (hlength : c.rest.length < bound) (hf : f.Justified t) :
    (p.noteRounds rounds c f).Justified t := by
  induction rounds generalizing c f with
  | zero => exact hf
  | succ rounds ih =>
    have hskip := c.length_rest_skipGap_le
    have hnoted := h.note_justified hc.skipGap.1 (by omega) hf
    simp only [Pattern.noteRounds]
    split
    · exact hnoted
    · next a behind hread =>
      obtain ⟨hbehind, hle⟩ := h.read_in hc.skipGap.1 hread
      exact ih hbehind (by omega) hnoted

theorem many (h : Confined t bound p) : Confined t bound (.many p) := by
  constructor
  · intro c as behind hc hread
    have hlast := h.readRounds_in (c.rest.length + 1) hc
    rwa [Option.some.inj hread] at hlast
  · intro c f hc hlength hf
    exact h.noteRounds_justified (c.rest.length + 1) hc hlength hf

theorem delayed {f : Unit → Pattern α} (h : Confined t bound (f ())) :
    Confined t bound (.delayed f) := ⟨h.read_in, h.note_justified⟩

/-- What an entire text is read by, without the rule for the text. -/
theorem entire (h : Confined t bound p) : Confined t bound
    (.seqWith (fun a _ => a) (.seqWith (fun _ a => a) (.done ()) p) (.named .lineEnd .atEnd)) := by
  have hend : Confined t bound (.named .lineEnd .atEnd) := atEnd.named fun _ _ hread => hread
  exact ((done ()).seqWith h _).seqWith hend _

end Confined

theorem exists_read_of_parse {a : α} (h : p.parse t = .ok a) :
    ∃ behind, p.read (.start t) = some (a, behind) := by
  unfold parse at h
  dsimp only at h
  split at h
  · next b behind hread =>
    obtain rfl := Except.ok.inj h
    exact ⟨behind, hread⟩
  · contradiction

/-- What cannot be read is blamed at one place, between two characters or at an end, and the rules
that the blame names fail there. -/
theorem exists_justified_of_parse {rule : Rule} (h : Confined t (t.length + 1) p)
    (hrule : ∀ c, (Pattern.entire rule p).read c = none → rule.Fails c) {blame : Blame SyntaxCause}
    (hparse : (Pattern.entire rule p).parse t = .error blame) :
    ∃ f, f.Justified t ∧ f.expected ≠ [] ∧ f = (Pattern.entire rule p).note (.start t) .initial ∧
      blame = ⟨.unexpected (Rule.listed f.expected), ⟨f.position, f.position + 1⟩⟩ := by
  unfold parse at hparse
  dsimp only at hparse
  split at hparse
  · contradiction
  · next hread =>
    obtain rfl := Except.error.inj hparse
    have hnoted := h.entire.note_named_of_read_eq_none rule (.start t)
      (Nat.lt_succ_self _) (.initial t) hread (hrule _ hread)
    exact ⟨_, hnoted.1, hnoted.2, rfl, rfl⟩

end Pattern

/-! ## The rules of the grammar -/

namespace Grammar

variable (t : Text) (bound : Nat)

theorem word_confined (rule : Rule) (text : Text) (h : IsWord text)
    (hrule : ∀ c, (word rule text).read c = none → rule.Fails c) :
    (word rule text).Confined t bound :=
  (Pattern.Confined.scan (cuts_word h).yields).named fun c _ => hrule c

theorem symbol_confined (d : Char) (hd : d ∈ signs) : (Pattern.symbol d).Confined t bound :=
  .scan (cuts_symbol hd).yields

theorem identifier_confined : identifier.Confined t bound :=
  ((Pattern.Confined.scan cuts_name.yields).named fun _ _ => Option.map_eq_none_iff.2).map _

theorem boolean_confined : boolean.Confined t bound := by
  have htrue := word_confined t bound .trueWord "True" (by decide) fun _ h => h
  have hfalse :=
    word_confined t bound .falseWord "False" (by decide) fun _ h => h
  exact ((htrue.map _).orElse (hfalse.map _)).named fun _ _ h => h

theorem integer_confined : integer.Confined t bound :=
  ((Pattern.Confined.scan cuts_digits.yields).named fun _ _ => Option.map_eq_none_iff.2).map _

theorem stringIn_confined (rule : Rule) (q : Quote)
    (hrule : ∀ c, (stringIn rule q q.mark).read c = none → rule.Fails c) :
    (stringIn rule q q.mark).Confined t bound :=
  ((Pattern.Confined.scan (cuts_enclosed q).yields).named fun c _ hread =>
    hrule c (Option.map_eq_none_iff.2 hread)).map _

theorem string_confined : string.Confined t bound := by
  have hsingle := stringIn_confined t bound .singleQuoted .single fun _ h => h
  have hdouble := stringIn_confined t bound .doubleQuoted .double fun _ h => h
  exact (hsingle.orElse hdouble).named fun _ _ h => h

section Nested

variable {inner : Pattern Expression} (h : inner.Confined t bound)
  (hagrees : inner.AgreesBelow bound expression)

include h hagrees

theorem lenCall_confined : (lenCall inner).Confined t (bound + 1) := by
  have hlen := word_confined t (bound + 1) .lenWord "len" (by decide)
    fun _ h => h
  have hopen := symbol_confined t (bound + 1) '(' (by decide)
  have hclose := symbol_confined t (bound + 1) ')' (by decide)
  have hargument := (hlen.seqRight hopen).seqWith_of_takes (k := 1)
    (fun _ _ _ _ hread => takes_lenOpen hread) h fun _ b => b
  refine ((hargument.seqLeft hclose).spanned.map _).named fun c hc hread => ?_
  exact (lenCall_agrees hagrees c hc).symm.trans hread

theorem elements_confined : (elements inner).Confined t bound := by
  have hcomma := symbol_confined t bound ',' (by decide)
  have hothers := (hcomma.seqRight h).many
  refine (((h.map _).seq hothers).seqLeft hcomma.optional).named fun c hc hread => ?_
  exact (elements_agrees hagrees (expression_sound _) c hc).symm.trans hread

theorem list_confined : (list inner).Confined t (bound + 1) := by
  have hopen := symbol_confined t (bound + 1) '[' (by decide)
  have hclose := symbol_confined t (bound + 1) ']' (by decide)
  have helements := hopen.seqWith_of_takes (k := 1)
    (fun _ _ _ _ hread => takes_listOpen hread) (elements_confined t bound h hagrees).optional
    fun _ b => b
  refine ((helements.seqLeft hclose).spanned.map _).named fun c hc hread => ?_
  exact (list_agrees hagrees (expression_sound _) c hc).symm.trans hread

theorem expressionAround_confined : (expressionAround inner).Confined t (bound + 1) := by
  have hboolean := boolean_confined t (bound + 1)
  have hidentifier := identifier_confined t (bound + 1)
  refine ((lenCall_confined t bound h hagrees).orElse ((list_confined t bound h hagrees).orElse
    ((string_confined t (bound + 1)).orElse ((integer_confined t (bound + 1)).orElse
      ((hboolean.map _).orElse (hidentifier.map _)))))).named fun c hc hread => ?_
  exact (expressionAround_agrees_expression hagrees c hc).symm.trans hread

end Nested

theorem expressionWithin_confined (depth : Nat) : (expressionWithin depth).Confined t depth := by
  induction depth with
  | zero =>
    refine ⟨?_, fun _ hlength _ => absurd hlength (Nat.not_lt_zero _)⟩
    intro c e behind _ hread
    contradiction
  | succ depth ih =>
    exact expressionAround_confined t depth ih.delayed (expressionWithin_agrees_expression depth)

theorem expression_confined : expression.Confined t bound := by
  constructor
  · intro c e behind hc hread
    exact (expressionWithin_confined t (c.rest.length + 1)).read_in hc hread
  · intro c f hc _ hf
    exact (expressionWithin_confined t (c.rest.length + 1)).note_justified hc
      (Nat.lt_succ_self _) hf

theorem operation_confined {α : Type} {p : Pattern α} (hp : p.Confined t bound)
    (make : Expression → Expression → Term) :
    (make <$> expression <* p <*> expression).Confined t bound :=
  (((expression_confined t bound).map make).seqLeft hp).seq (expression_confined t bound)

theorem membership_confined : membership.Confined t bound := by
  have hin := word_confined t bound .inWord "in" (by decide) fun _ h => h
  exact (operation_confined t bound hin _).named fun _ _ h => h

theorem equality_confined : equality.Confined t bound := by
  have hequal : (Pattern.named .equalSign (.scan equalSign?)).Confined t bound :=
    (Pattern.Confined.scan yields_equalSign).named fun _ _ h => h
  exact (operation_confined t bound hequal _).named fun _ _ h => h

theorem bareCondition_confined : bareCondition.Confined t bound :=
  (((boolean_confined t bound).map _).orElse ((identifier_confined t bound).map _)).named
    fun _ _ h => h

theorem term_confined : term.Confined t bound :=
  (membership_confined t bound).orElse
    ((equality_confined t bound).orElse (bareCondition_confined t bound))

theorem condition_confined : condition.Confined t bound := by
  have hand := word_confined t bound .andWord "and" (by decide) fun _ h => h
  have hothers := (hand.seqRight (term_confined t bound)).many
  exact (((term_confined t bound).map _).seq hothers).named fun _ _ h => h

theorem methodCall_confined : methodCall.Confined t bound := by
  have hdot := symbol_confined t bound '.' (by decide)
  have hopen := symbol_confined t bound '(' (by decide)
  have hclose := symbol_confined t bound ')' (by decide)
  have hname := identifier_confined t bound
  have hfront := (((hname.map Action.methodCall).seqLeft hdot).seq hname).seqLeft hopen
  exact ((hfront.seq (expression_confined t bound)).seqLeft hclose).named fun _ _ h => h

theorem printCall_confined : printCall.Confined t bound := by
  have hprint := word_confined t bound .printWord "print" (by decide)
    fun _ h => h
  have hopen := symbol_confined t bound '(' (by decide)
  have hclose := symbol_confined t bound ')' (by decide)
  have hargument := (hprint.seqRight hopen).seqRight (expression_confined t bound).optional
  exact ((hargument.seqLeft hclose).map _).named fun _ _ h => h

theorem assignment_confined : assignment.Confined t bound := by
  have hassign : (Pattern.named .assignSign (.scan assignSign?)).Confined t bound :=
    (Pattern.Confined.scan yields_assignSign).named fun _ _ h => h
  exact ((((identifier_confined t bound).map _).seqLeft hassign).seq
    (expression_confined t bound)).named fun _ _ h => h

theorem ifHeader_confined : ifHeader.Confined t bound := by
  have hif := word_confined t bound .ifWord "if" (by decide) fun _ h => h
  have hcolon := symbol_confined t bound ':' (by decide)
  exact (((hif.seqRight (condition_confined t bound)).seqLeft hcolon).map _).named fun _ _ h => h

theorem forHeader_confined : forHeader.Confined t bound := by
  have hfor := word_confined t bound .forWord "for" (by decide) fun _ h => h
  have hin := word_confined t bound .inWord "in" (by decide) fun _ h => h
  have hcolon := symbol_confined t bound ':' (by decide)
  have hname := identifier_confined t bound
  have hfront := ((hfor.seqRight hname).map Header.loop).seqLeft hin
  exact ((hfront.seq hname).seqLeft hcolon).named fun _ _ h => h

theorem statement_confined : statement.Confined t bound := by
  have hforms := ((methodCall_confined t bound).map Form.action).orElse
    (((printCall_confined t bound).map Form.action).orElse
      (((assignment_confined t bound).map Form.action).orElse
        (((ifHeader_confined t bound).map Form.header).orElse
          ((forHeader_confined t bound).map Form.header))))
  exact (hforms.spanned.map _).named fun _ _ h => h

end Grammar

end Spellbook
