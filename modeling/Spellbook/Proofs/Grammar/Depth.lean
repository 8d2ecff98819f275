import Spellbook.Proofs.Grammar.Soundness

/-!
# Nesting and the length of a text

The pattern for expressions is built for as many levels of nesting as the text is long.  In front of
a shorter text more levels make no difference, since every level takes a character of its own
(`Grammar.expressionWithin_agrees`).  So what is read inside an expression is read by the same
pattern as the expression.
-/

namespace Spellbook

open Token

/-- Every token is at least one character long. -/
def lengthAccount : TokenAccount where
  Between c tokens behind := tokens.length + behind.rest.length ≤ c.rest.length
  nil c := Nat.le_of_eq (Nat.zero_add _)
  append hs ht := by
    rw [List.length_append]
    omega
  of_skipGap {c behind s} hs := by
    have hskip : c.skipGap.rest.length ≤ c.rest.length := c.length_rest_skipGap_le
    omega
  token {c v rest} hv _ hrest := by
    have hpos := List.length_pos_of_ne_nil hv.ne_nil
    have hlength : (c.advance v rest).rest.length = rest.length := rfl
    rw [hrest, List.length_append, hlength, List.length_singleton]
    omega

namespace Pattern

variable {α β γ : Type} {p p' : Pattern α} {q q' : Pattern β} {n : Nat}

/-- In front of texts that are shorter than the bound both patterns read the same. -/
def AgreesBelow (n : Nat) (p p' : Pattern α) : Prop :=
  ∀ c : Cursor, c.rest.length < n → p.read c = p'.read c

/-- What the pattern reads takes at least as many characters. -/
def Takes (p : Pattern α) (k : Nat) : Prop :=
  ∀ ⦃c a behind⦄, p.read c = some (a, behind) → k + behind.rest.length ≤ c.rest.length

theorem Sound.takes {A : α → List Text → Prop} (h : Sound lengthAccount p A) {k : Nat}
    (hA : ∀ a tokens, A a tokens → k ≤ tokens.length) : p.Takes k := by
  intro c a behind hread
  obtain ⟨tokens, ha, hle⟩ := h.tells hread
  have hk := hA a tokens ha
  have hlength : tokens.length + behind.rest.length ≤ c.rest.length := hle
  omega

theorem Sound.takes_zero {A : α → List Text → Prop} (h : Sound lengthAccount p A) : p.Takes 0 :=
  h.takes fun _ _ _ => Nat.zero_le _

namespace AgreesBelow

theorem refl (n : Nat) (p : Pattern α) : AgreesBelow n p p := fun _ _ => rfl

theorem trans {p'' : Pattern α} (h : AgreesBelow n p p') (h' : AgreesBelow n p' p'') :
    AgreesBelow n p p'' := fun c hc => (h c hc).trans (h' c hc)

theorem named {rule : Rule} (h : AgreesBelow n p p') :
    AgreesBelow n (.named rule p) (.named rule p') := h

theorem delayed {f f' : Unit → Pattern α} (h : AgreesBelow n (f ()) (f' ())) :
    AgreesBelow n (.delayed f) (.delayed f') := h

theorem map (h : AgreesBelow n p p') (g : α → β) : AgreesBelow n (g <$> p) (g <$> p') :=
  fun c hc => congrArg (Option.map _) (h c hc)

theorem spanned (h : AgreesBelow n p p') : AgreesBelow n (.spanned p) (.spanned p') := by
  intro c hc
  simp only [Pattern.spanned, h c hc]

theorem optional (h : AgreesBelow n p p') : AgreesBelow n (.optional p) (.optional p') := by
  intro c hc
  simp only [Pattern.optional, h c hc]

theorem orElse {p₂ p₂' : Pattern α} (h : AgreesBelow n p p') (h₂ : AgreesBelow n p₂ p₂') :
    AgreesBelow n (p <|> p₂) (p' <|> p₂') := by
  intro c hc
  change (Pattern.orElse p p₂).read c = (Pattern.orElse p' p₂').read c
  simp only [Pattern.orElse, h c hc, h₂ c hc]

theorem seqWith_left (h : AgreesBelow n p p') (g : α → β → γ) (q : Pattern β) :
    AgreesBelow n (.seqWith g p q) (.seqWith g p' q) := by
  intro c hc
  simp only [Pattern.seqWith, h c hc]

/-- What stands behind a piece of text stands in front of a text that is shorter by the piece. -/
theorem seqWith_right {k : Nat} (hp : p.Takes k) (h : AgreesBelow n q q') (g : α → β → γ) :
    AgreesBelow (n + k) (.seqWith g p q) (.seqWith g p q') := by
  intro c hc
  simp only [Pattern.seqWith]
  cases hread : p.read c with
  | none => rfl
  | some result =>
    have htaken := hp hread
    have hskip := result.2.length_rest_skipGap_le
    dsimp only
    rw [h result.2.skipGap (by omega)]

theorem readRounds (hp : p'.Takes 0) (h : AgreesBelow n p p') (rounds : Nat) {c : Cursor}
    (hc : c.rest.length < n) : p.readRounds rounds c = p'.readRounds rounds c := by
  induction rounds generalizing c with
  | zero => rfl
  | succ rounds ih =>
    have hskip := c.length_rest_skipGap_le
    simp only [Pattern.readRounds, h c.skipGap (by omega)]
    cases hread : p'.read c.skipGap with
    | none => rfl
    | some result =>
      have htaken := hp hread
      dsimp only
      rw [ih (by omega)]

theorem many (hp : p'.Takes 0) (h : AgreesBelow n p p') :
    AgreesBelow n (.many p) (.many p') :=
  fun c hc => congrArg some (readRounds hp h (c.rest.length + 1) hc)

end AgreesBelow

end Pattern

/-! ## Expressions -/

namespace Grammar

open Pattern

/-- The word and the bracket in front of an argument take more than one character. -/
theorem takes_lenOpen : (word .lenWord "len" *> Pattern.symbol '(').Takes 1 := by
  have hopen := (word_sound lengthAccount .lenWord "len" (by decide)).fixed
    (symbol_sound lengthAccount '(' (by decide))
  refine hopen.takes fun _ _ htokens => ?_
  rw [htokens]
  decide

theorem takes_listOpen : (Pattern.symbol '[').Takes 1 := by
  refine (symbol_sound lengthAccount '[' (by decide)).takes fun _ _ htokens => ?_
  rw [htokens]
  decide

section Nested

variable {n : Nat} {inner other : Pattern Expression} (h : inner.AgreesBelow n other)
  (hother : other.Sound lengthAccount Expression.Shaped)

include h

theorem lenCall_agrees : (lenCall inner).AgreesBelow (n + 1) (lenCall other) :=
  (((AgreesBelow.seqWith_right takes_lenOpen h _).seqWith_left _ _).spanned.map _).named

include hother

theorem elements_agrees : (elements inner).AgreesBelow n (elements other) := by
  have hcomma := symbol_sound lengthAccount ',' (by decide)
  have hothers := AgreesBelow.many (hcomma.behind hother).takes_zero
    (AgreesBelow.seqWith_right hcomma.takes_zero h _)
  have hfirst := (h.map List.cons).seqWith_left (fun g es => g es) (.many (.symbol ',' *> inner))
  exact ((hfirst.trans (AgreesBelow.seqWith_right (hother.map _).takes_zero hothers _)).seqWith_left
    _ _).named

theorem list_agrees : (list inner).AgreesBelow (n + 1) (list other) := by
  have helements := (elements_agrees h hother).optional
  exact (((AgreesBelow.seqWith_right takes_listOpen helements _).seqWith_left _ _).spanned.map
    _).named

theorem expressionAround_agrees :
    (expressionAround inner).AgreesBelow (n + 1) (expressionAround other) :=
  ((lenCall_agrees h).orElse ((list_agrees h hother).orElse (.refl _ _))).named

end Nested

theorem expressionWithin_agrees {depth more : Nat} (h : depth ≤ more) :
    (expressionWithin depth).AgreesBelow depth (expressionWithin more) := by
  induction depth generalizing more with
  | zero => exact fun c hc => absurd hc (Nat.not_lt_zero _)
  | succ depth ih =>
    obtain ⟨more, rfl⟩ : ∃ m, more = m + 1 := ⟨more - 1, by omega⟩
    exact expressionAround_agrees (ih (Nat.le_of_succ_le_succ h)).delayed
      (expressionWithin_sound lengthAccount more).delayed

/-- With as many levels as the text is long, the pattern reads as the one for all expressions. -/
theorem expressionWithin_agrees_expression (depth : Nat) :
    (expressionWithin depth).AgreesBelow depth expression :=
  fun c hc => (expressionWithin_agrees (Nat.succ_le_of_lt hc) c (Nat.lt_succ_self _)).symm

/-- Around any expressions stands an expression. -/
theorem expressionAround_agrees_expression {n : Nat} {inner : Pattern Expression}
    (h : inner.AgreesBelow n expression) :
    (expressionAround inner).AgreesBelow (n + 1) expression := by
  intro c hc
  have hsound := expression_sound lengthAccount
  have hdepth : (Pattern.delayed fun _ => expressionWithin c.rest.length).AgreesBelow
      c.rest.length expression := expressionWithin_agrees_expression c.rest.length
  rw [expressionAround_agrees h hsound c hc]
  exact (expressionAround_agrees hdepth hsound c (Nat.lt_succ_self _)).symm

end Grammar

end Spellbook
