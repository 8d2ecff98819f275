import Spellbook.Proofs.Grammar.Progress
import Spellbook.Proofs.Grammar.Shape

/-!
# Soundness of the grammar

Every rule of the grammar reads only what has the shape of its value, and notes a failure only where
the tokens in front of it can be completed to such a shape.  Both hold for any account of tokens.
-/

namespace Spellbook

namespace Grammar

open Token

variable (account : TokenAccount)

/-! ## Single tokens -/

theorem word_sound (rule : Rule) (text : Text) (h : IsWord text) :
    (word rule text).Sound account (fun _ tokens => tokens = [text]) := by
  have hsample : word? text text = some (text, []) := by
    have hread : word? text (text ++ []) = some (text, []) :=
      (cuts_word h).reads rfl fun _ => rfl
    rwa [List.append_nil] at hread
  refine (Pattern.Sound.scan (cuts_word h).yields text hsample).named.mono ?_
  rintro lexeme _ ⟨hlexeme, rfl⟩
  rw [hlexeme]

theorem symbol_sound (d : Char) (hd : d ∈ signs) :
    (Pattern.symbol d).Sound account (fun _ tokens => tokens = [sign d]) := by
  have hsample := (cuts_symbol hd).reads rfl (fun _ => rfl : Apart (sign d) [])
  refine (Pattern.Sound.scan (cuts_symbol hd).yields (sign d) hsample).mono ?_
  rintro lexeme _ ⟨hlexeme, rfl⟩
  rw [hlexeme]

theorem identifier_sound :
    identifier.Sound account (fun i tokens => IsName i.name ∧ tokens = [i.name]) := by
  refine ((Pattern.Sound.scan cuts_name.yields "x" rfl).named.map _).mono ?_
  rintro _ _ ⟨lexeme, ⟨hname, rfl⟩, rfl⟩
  exact ⟨hname, rfl⟩

theorem boolean_sound : boolean.Sound account (fun b tokens => tokens = [booleanWord b.1]) := by
  refine (Pattern.Sound.orElse ?_ ?_).named
  · refine ((word_sound account .trueWord "True" (by decide)).map _).mono ?_
    rintro _ _ ⟨lexeme, rfl, rfl⟩
    rfl
  · refine ((word_sound account .falseWord "False" (by decide)).map _).mono ?_
    rintro _ _ ⟨lexeme, rfl, rfl⟩
    rfl

theorem integer_sound : integer.Sound account Expression.Shaped := by
  refine ((Pattern.Sound.scan cuts_digits.yields "0" rfl).named.map _).mono ?_
  rintro _ _ ⟨lexeme, ⟨hdigits, rfl⟩, rfl⟩
  exact ⟨lexeme.text, hdigits, rfl, rfl⟩

theorem stringIn_sound (rule : Rule) (q : Quote) :
    (stringIn rule q q.mark).Sound account Expression.Shaped := by
  have hsample : enclosed? q.mark (q.enclose []) = some (q.enclose [], []) :=
    enclosed?_eq_some_iff.2 ⟨⟨[], List.not_mem_nil, rfl⟩, (List.append_nil _).symm⟩
  refine ((Pattern.Sound.scan (cuts_enclosed q).yields (q.enclose []) hsample).named.map _).mono ?_
  rintro _ _ ⟨lexeme, ⟨⟨contents, hmark, hlexeme⟩, rfl⟩, rfl⟩
  rw [hlexeme, contents_enclose]
  exact ⟨hmark, rfl⟩

theorem string_sound : string.Sound account Expression.Shaped :=
  ((stringIn_sound account .singleQuoted .single).orElse
    (stringIn_sound account .doubleQuoted .double)).named

/-! ## Expressions -/

section Nested

variable {inner : Pattern Expression} (h : inner.Sound account Expression.Shaped)

include h

theorem lenCall_sound : (lenCall inner).Sound account Expression.Shaped := by
  have hopen := (word_sound account .lenWord "len" (by decide)).fixed
    (symbol_sound account '(' (by decide))
  have hclose := symbol_sound account ')' (by decide)
  refine (((hopen.behind h).before hclose).spanned.map _).named.mono ?_
  rintro _ _ ⟨⟨argument, span⟩, ⟨_, ⟨tokens, hargument, rfl⟩, rfl⟩, rfl⟩
  exact ⟨tokens, hargument, rfl⟩

theorem elements_sound :
    (elements inner).Sound account (fun es tokens => ∃ pieces comma,
      List.Forall₂ Expression.Shaped es pieces ∧ (comma = [] ∨ es ≠ [] ∧ comma = [sign ',']) ∧
      tokens = [sign ','].intercalate pieces ++ comma) := by
  have hcomma := symbol_sound account ',' (by decide)
  refine (((h.map _).seq (hcomma.separated h)).seqLeft hcomma.optional).named.mono ?_
  rintro _ _ ⟨last, _, comma, ⟨_, es, first, _, ⟨e, he, rfl⟩, ⟨pieces, hpieces, rfl⟩, rfl, rfl⟩,
    hlast, rfl⟩
  refine ⟨first :: pieces, comma, .cons he hpieces, ?_, ?_⟩
  · rcases hlast with ⟨-, rfl⟩ | ⟨_, -, rfl⟩
    · exact .inl rfl
    · exact .inr ⟨List.cons_ne_nil _ _, rfl⟩
  · rw [intercalate_singleton_cons]

theorem list_sound : (list inner).Sound account Expression.Shaped := by
  have hopen := symbol_sound account '[' (by decide)
  have hclose := symbol_sound account ']' (by decide)
  have helements := (elements_sound account h).optional
  refine (((hopen.behind helements).before hclose).spanned.map _).named.mono ?_
  rintro _ _ ⟨⟨found, span⟩, ⟨_, ⟨tokens, hfound, rfl⟩, rfl⟩, rfl⟩
  rcases hfound with ⟨hnone, rfl⟩ | ⟨es, hsome, pieces, comma, hpieces, hcomma, rfl⟩
  · obtain rfl : found = none := hnone
    exact ⟨[], [], rfl, .inl rfl, rfl⟩
  · obtain rfl : found = some es := hsome
    refine ⟨pieces, comma, Expression.shapedAll_iff.2 hpieces, hcomma, ?_⟩
    simp only [List.append_assoc, List.cons_append, List.nil_append]

theorem expressionAround_sound : (expressionAround inner).Sound account Expression.Shaped := by
  have hboolean {make : Bool × Span → Expression}
      (hmake : ∀ value span, make (value, span) = .boolean value span) :
      (make <$> boolean).Sound account Expression.Shaped := by
    refine ((boolean_sound account).map make).mono ?_
    rintro _ _ ⟨⟨value, span⟩, rfl, rfl⟩
    rw [hmake]
    rfl
  have hidentifier : (Expression.identifier <$> identifier).Sound account Expression.Shaped := by
    refine ((identifier_sound account).map _).mono ?_
    rintro _ _ ⟨i, hi, rfl⟩
    exact hi
  exact ((lenCall_sound account h).orElse ((list_sound account h).orElse
    ((string_sound account).orElse ((integer_sound account).orElse
      ((hboolean fun _ _ => rfl).orElse hidentifier))))).named

end Nested

theorem expressionWithin_sound (depth : Nat) :
    (expressionWithin depth).Sound account Expression.Shaped := by
  induction depth with
  | zero =>
    refine ⟨fun c e behind hread => ?_, (integer_sound account).inhabited,
      fun _ _ => .inl rfl⟩
    contradiction
  | succ depth ih => exact expressionAround_sound account ih.delayed

theorem expression_sound : expression.Sound account Expression.Shaped where
  tells c _ _ hread := (expressionWithin_sound account (c.rest.length + 1)).tells hread
  inhabited := (integer_sound account).inhabited
  goesOn c f := (expressionWithin_sound account (c.rest.length + 1)).goesOn c f

/-! ## Conditions -/

/-- Two expressions around a fixed token. -/
theorem operation_sound {α : Type} {p : Pattern α} {token : Text}
    (hp : p.Sound account fun _ tokens => tokens = [token])
    (make : Expression → Expression → Term)
    (hshaped : ∀ left right s t, left.Shaped s → right.Shaped t →
      (make left right).Shaped (s ++ token :: t)) :
    (make <$> expression <* p <*> expression).Sound account Term.Shaped := by
  have he := expression_sound account
  refine (((he.map make).before hp).seq he).mono ?_
  rintro _ _ ⟨_, right, _, t, ⟨s, ⟨left, hleft, rfl⟩, rfl⟩, hright, rfl, rfl⟩
  rw [List.append_assoc, List.singleton_append]
  exact hshaped left right s t hleft hright

theorem membership_sound : membership.Sound account Term.Shaped :=
  (operation_sound account (word_sound account .inWord "in" (by decide)) Term.membership
    fun _ _ s t hs ht => ⟨s, t, hs, ht, rfl⟩).named

theorem equality_sound : equality.Sound account Term.Shaped := by
  have hequal : (Pattern.named .equalSign (.scan equalSign?)).Sound account
      (fun _ tokens => tokens = [("==" : Text)]) := by
    refine (Pattern.Sound.scan yields_equalSign "==" rfl).named.mono ?_
    rintro lexeme _ ⟨hlexeme, rfl⟩
    rw [hlexeme]
  exact (operation_sound account hequal Term.equality
    fun _ _ s t hs ht => ⟨s, t, hs, ht, rfl⟩).named

theorem bareCondition_sound : bareCondition.Sound account Term.Shaped := by
  refine (Pattern.Sound.orElse ?_ ?_).named
  · refine ((boolean_sound account).map _).mono ?_
    rintro _ _ ⟨⟨value, span⟩, rfl, rfl⟩
    rfl
  · refine ((identifier_sound account).map _).mono ?_
    rintro _ _ ⟨i, hi, rfl⟩
    exact hi

theorem term_sound : term.Sound account Term.Shaped :=
  (membership_sound account).orElse ((equality_sound account).orElse (bareCondition_sound account))

theorem condition_sound : condition.Sound account Condition.Shaped := by
  have hand := word_sound account .andWord "and" (by decide)
  have hterm := term_sound account
  refine ((hterm.map _).seq (hand.separated hterm)).named.mono ?_
  rintro _ _ ⟨_, others, first, _, ⟨t, ht, rfl⟩, ⟨pieces, hpieces, rfl⟩, rfl, rfl⟩
  exact ⟨first, pieces, ht, hpieces, rfl⟩

/-! ## Statements -/

theorem methodCall_sound : methodCall.Sound account Action.Shaped := by
  have hdot := symbol_sound account '.' (by decide)
  have hopen := symbol_sound account '(' (by decide)
  have hclose := symbol_sound account ')' (by decide)
  have hfront := ((identifier_sound account).map Action.methodCall).before hdot
  have hname := (hfront.seq (identifier_sound account)).before hopen
  refine ((hname.seq (expression_sound account)).before hclose).named.mono ?_
  rintro _ _ ⟨_, ⟨_, argument, _, tokens, ⟨_, hname, rfl⟩, hargument, rfl, rfl⟩, rfl⟩
  obtain ⟨_, method, _, _, ⟨_, hfront, rfl⟩, ⟨hmethod, rfl⟩, rfl, rfl⟩ := hname
  obtain ⟨receiver, ⟨hreceiver, rfl⟩, rfl⟩ := hfront
  exact ⟨hreceiver, hmethod, tokens, hargument, rfl⟩

theorem printCall_sound : printCall.Sound account Action.Shaped := by
  have hopen := (word_sound account .printWord "print" (by decide)).fixed
    (symbol_sound account '(' (by decide))
  have hclose := symbol_sound account ')' (by decide)
  refine (((hopen.behind (expression_sound account).optional).before hclose).map _).named.mono ?_
  rintro _ _ ⟨argument, ⟨_, ⟨tokens, hargument, rfl⟩, rfl⟩, rfl⟩
  rcases hargument with ⟨rfl, rfl⟩ | ⟨e, rfl, he⟩
  · rfl
  · exact ⟨tokens, he, rfl⟩

theorem assignment_sound : assignment.Sound account Action.Shaped := by
  have hassign : (Pattern.named .assignSign (.scan assignSign?)).Sound account
      (fun _ tokens => tokens = [sign '=']) := by
    refine (Pattern.Sound.scan yields_assignSign (sign '=') rfl).named.mono ?_
    rintro lexeme _ ⟨hlexeme, rfl⟩
    rw [hlexeme]
  have hfront := ((identifier_sound account).map Action.assignment).before hassign
  refine (hfront.seq (expression_sound account)).named.mono ?_
  rintro _ _ ⟨_, value, _, tokens, ⟨_, ⟨target, ⟨htarget, rfl⟩, rfl⟩, rfl⟩, hvalue, rfl, rfl⟩
  exact ⟨htarget, tokens, hvalue, rfl⟩

theorem ifHeader_sound : ifHeader.Sound account Header.Shaped := by
  have hif := word_sound account .ifWord "if" (by decide)
  have hcolon := symbol_sound account ':' (by decide)
  refine (((hif.behind (condition_sound account)).before hcolon).map _).named.mono ?_
  rintro _ _ ⟨c, ⟨_, ⟨tokens, hc, rfl⟩, rfl⟩, rfl⟩
  exact ⟨tokens, hc, rfl⟩

theorem forHeader_sound : forHeader.Sound account Header.Shaped := by
  have hfor := word_sound account .forWord "for" (by decide)
  have hin := word_sound account .inWord "in" (by decide)
  have hcolon := symbol_sound account ':' (by decide)
  have hfront := ((hfor.behind (identifier_sound account)).map Header.loop).before hin
  refine ((hfront.seq (identifier_sound account)).before hcolon).named.mono ?_
  rintro _ _ ⟨_, ⟨_, iterable, _, _, ⟨_, hfront, rfl⟩, ⟨hiterable, rfl⟩, rfl, rfl⟩, rfl⟩
  obtain ⟨variableName, ⟨_, ⟨hvariable, rfl⟩, rfl⟩, rfl⟩ := hfront
  exact ⟨hvariable, hiterable, rfl⟩

theorem statement_sound : statement.Sound account fun c tokens => c.form.Shaped tokens := by
  have haction {p : Pattern Action} (hp : p.Sound account Action.Shaped) :
      (Form.action <$> p).Sound account Form.Shaped := by
    refine (hp.map _).mono ?_
    rintro _ tokens ⟨a, ha, rfl⟩
    exact ha
  have hheader {p : Pattern Header} (hp : p.Sound account Header.Shaped) :
      (Form.header <$> p).Sound account Form.Shaped := by
    refine (hp.map _).mono ?_
    rintro _ tokens ⟨h, hh, rfl⟩
    exact hh
  have hforms := (haction (methodCall_sound account)).orElse
    ((haction (printCall_sound account)).orElse ((haction (assignment_sound account)).orElse
      ((hheader (ifHeader_sound account)).orElse (hheader (forHeader_sound account)))))
  refine (hforms.spanned.map _).named.mono ?_
  rintro _ _ ⟨⟨form, span⟩, hform, rfl⟩
  exact hform

end Grammar

end Spellbook
