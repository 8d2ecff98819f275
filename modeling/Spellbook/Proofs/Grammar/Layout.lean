import Mathlib.Data.List.Forall2
import Spellbook.Source.Clause

/-!
# Layouts

The ways to write a line of a spell, told without the patterns that read it.  A form is spelled
by a row of tokens, and a text lays a row of tokens out.  The only freedom in the spelling is
that an integer may have zeros in front, and that a comma may follow the last element of a list;
the only freedom in laying out is where the blanks and tabs stand, and the comment at the end.
-/

namespace Spellbook

/-! ## Tokens -/

/-- The character on both sides of a string. -/
def Quote.mark : Quote → Char
  | single => '\''
  | double => '"'

/-- The text between two quote characters. -/
def Quote.enclose (q : Quote) (contents : Text) : Text := q.mark :: contents ++ [q.mark]

namespace Token

/-- A letter or underscore with word characters behind it, other than the reserved words. -/
def IsName (w : Text) : Prop := w.head?.any isNameStart ∧ w.all isWordChar ∧ w ∉ reserved

/-- At least one word character, and nothing else. -/
def IsWord (w : Text) : Prop := w ≠ [] ∧ w.all isWordChar

instance (w : Text) : Decidable (IsWord w) := inferInstanceAs (Decidable (_ ∧ _))

/-- At least one digit, and nothing else. -/
def IsDigits (w : Text) : Prop := w ≠ [] ∧ w.all Char.isDigit

instance (w : Text) : Decidable (IsDigits w) := inferInstanceAs (Decidable (_ ∧ _))

/-- The characters that are tokens of their own, wherever they stand outside a string. -/
def signs : List Char := ['(', ')', '[', ']', ',', '.', ':']

/-- The token of a single character. -/
abbrev sign (c : Char) : Text := [c]

/-- Names, numbers and fixed words are all made of word characters. -/
inductive IsToken : Text → Prop
  | word {w : Text} : IsWord w → IsToken w
  | quoted {q : Quote} {contents : Text} : q.mark ∉ contents → IsToken (q.enclose contents)
  | sign {c : Char} : c ∈ signs → IsToken (sign c)
  | assignment : IsToken (sign '=')
  | comparison : IsToken "=="

/-- No word character follows the token, if it ends in one itself. -/
def Apart (token rest : Text) : Prop :=
  token.getLast?.any isWordChar → rest.head?.any isWordChar = false

/-- The text writes the tokens in order, with blanks and tabs before, between and behind them,
and possibly a comment behind them all. -/
inductive Laid : List Text → Text → Prop
  | ending {gap comment : Text} : gap.all Cursor.isGap →
      (comment = [] ∨ comment.head? = some '#') → Laid [] (gap ++ comment)
  | token {gap token rest : Text} {tokens : List Text} : gap.all Cursor.isGap → IsToken token →
      Apart token rest → Laid tokens rest → Laid (token :: tokens) (gap ++ token ++ rest)

end Token

open Token

/-! ## Spelling

`Spelled` says that a row of tokens writes a piece of syntax, whatever spans the piece carries. -/

/-- The word for a truth value. -/
def booleanWord : Bool → Text
  | true => "True"
  | false => "False"

mutual

def Expression.Spelled : Expression → List Text → Prop
  | .identifier i, tokens => IsName i.name ∧ tokens = [i.name]
  | .boolean value _, tokens => tokens = [booleanWord value]
  | .integer value _, tokens => value ≤ maxInteger ∧
      ∃ digits, IsDigits digits ∧ Text.natOfDigits digits = value ∧ tokens = [digits]
  | .string contents quote _, tokens =>
      quote.mark ∉ contents ∧ tokens = [quote.enclose contents]
  | .list elements _, tokens => ∃ pieces comma, Expression.SpelledAll elements pieces ∧
      (comma = [] ∨ elements ≠ [] ∧ comma = [sign ',']) ∧
      tokens = sign '[' :: [sign ','].intercalate pieces ++ comma ++ [sign ']']
  | .len argument _, tokens =>
      ∃ inner, argument.Spelled inner ∧ tokens = ("len" : Text) :: sign '(' :: inner ++ [sign ')']

/-- Each row of tokens spells the expression at its place. -/
def Expression.SpelledAll : List Expression → List (List Text) → Prop
  | [], pieces => pieces = []
  | e :: es, pieces => ∃ first others,
      e.Spelled first ∧ Expression.SpelledAll es others ∧ pieces = first :: others

end

def Term.Spelled : Term → List Text → Prop
  | .membership element collection, tokens => ∃ left right, element.Spelled left ∧
      collection.Spelled right ∧ tokens = left ++ ("in" : Text) :: right
  | .equality first second, tokens => ∃ left right, first.Spelled left ∧
      second.Spelled right ∧ tokens = left ++ ("==" : Text) :: right
  | .name i, tokens => IsName i.name ∧ tokens = [i.name]
  | .constant value _, tokens => tokens = [booleanWord value]

def Condition.Spelled (c : Condition) (tokens : List Text) : Prop :=
  ∃ first others, c.first.Spelled first ∧ List.Forall₂ Term.Spelled c.others others ∧
    tokens = first ++ others.flatMap (("and" : Text) :: ·)

def Action.Spelled : Action → List Text → Prop
  | .assignment target value, tokens => IsName target.name ∧
      ∃ inner, value.Spelled inner ∧ tokens = target.name :: sign '=' :: inner
  | .print none, tokens => tokens = [("print" : Text), sign '(', sign ')']
  | .print (some argument), tokens =>
      ∃ inner, argument.Spelled inner ∧ tokens = ("print" : Text) :: sign '(' :: inner ++ [sign ')']
  | .methodCall receiver method argument, tokens => IsName receiver.name ∧ IsName method.name ∧
      ∃ inner, argument.Spelled inner ∧
        tokens = receiver.name :: sign '.' :: method.name :: sign '(' :: inner ++ [sign ')']

def Header.Spelled : Header → List Text → Prop
  | .branch condition, tokens =>
      ∃ inner, condition.Spelled inner ∧ tokens = ("if" : Text) :: inner ++ [sign ':']
  | .loop variableName iterable, tokens => IsName variableName.name ∧ IsName iterable.name ∧
      tokens = [("for" : Text), variableName.name, "in", iterable.name, sign ':']

def Form.Spelled : Form → List Text → Prop
  | .action a, tokens => a.Spelled tokens
  | .header h, tokens => h.Spelled tokens

/-- The text is a way to write the form. -/
def Form.IsLayout (f : Form) (t : Text) : Prop := ∃ tokens, f.Spelled tokens ∧ Laid tokens t

/-- The same span for whatever is read, so that places are not compared. -/
def nowhere : Span → Span := fun _ => ⟨0, 0⟩

/-- The form without the places it was read from. -/
def Form.unplaced (f : Form) : Form := f.mapSpan nowhere

/-- Between the pieces stands the separator, so each but the first has one in front. -/
theorem intercalate_singleton_cons (separator : Text) (first : List Text)
    (others : List (List Text)) :
    [separator].intercalate (first :: others) = first ++ others.flatMap (separator :: ·) := by
  induction others generalizing first with
  | nil =>
    rw [List.intercalate_singleton, List.flatMap_nil, List.append_nil]
  | cons second others ih =>
    rw [List.intercalate_cons_of_ne_nil (List.cons_ne_nil _ _), ih, List.flatMap_cons,
      List.append_assoc, List.singleton_append, List.cons_append]

/-! ## Tokens in a text -/

namespace Token

theorem IsToken.ne_nil {v : Text} (h : IsToken v) : v ≠ [] := by
  cases h with
  | word hw => exact hw.1
  | quoted _ => exact List.cons_ne_nil _ _
  | sign _ => exact List.cons_ne_nil _ _
  | assignment => decide
  | comparison => decide

theorem isWordChar_of_isNameStart {c : Char} (h : isNameStart c) : isWordChar c := by
  simp only [isNameStart, isWordChar, Char.isAlphanum, Bool.or_eq_true] at h ⊢
  tauto

theorem isWordChar_of_isDigit {c : Char} (h : c.isDigit) : isWordChar c := by
  simp [isWordChar, Char.isAlphanum, h]

theorem isWordChar_eq_false_of_isGap {c : Char} (h : Cursor.isGap c) : isWordChar c = false := by
  simp only [Cursor.isGap, Bool.or_eq_true, beq_iff_eq] at h
  rcases h with rfl | rfl <;> decide

/-- No token begins with what a gap or a comment begins with. -/
theorem IsToken.head_not_gap {c : Char} {v : Text} (h : IsToken (c :: v)) :
    Cursor.isGap c = false ∧ c ≠ '#' := by
  have hword : isWordChar c → Cursor.isGap c = false ∧ c ≠ '#' := by
    intro hc
    constructor
    · by_contra hgap
      rw [isWordChar_eq_false_of_isGap (by simpa using hgap)] at hc
      contradiction
    · rintro rfl
      exact absurd hc (by decide)
  generalize hv : c :: v = w at h
  cases h with
  | word hw =>
    subst hv
    exact hword (List.all_eq_true.1 hw.2 c (List.mem_cons_self ..))
  | @quoted q _ _ =>
    obtain ⟨rfl, -⟩ := List.cons.inj hv
    cases q <;> decide
  | sign hs =>
    obtain ⟨rfl, -⟩ := List.cons.inj hv
    have hall : signs.all (fun d => !Cursor.isGap d && d != '#') := by decide
    simpa using List.all_eq_true.1 hall c hs
  | assignment =>
    obtain ⟨rfl, -⟩ := List.cons.inj hv
    decide
  | comparison =>
    obtain ⟨rfl, -⟩ := List.cons.inj hv
    decide

/-- A laid out row of tokens is not longer than the text. -/
theorem Laid.length_le {tokens : List Text} {t : Text} (h : Laid tokens t) :
    tokens.length ≤ t.length := by
  induction h with
  | ending => exact Nat.zero_le _
  | token _ htoken _ _ ih =>
    have := List.length_pos_of_ne_nil htoken.ne_nil
    simp only [List.length_cons, List.length_append]
    omega

theorem laid_nil : Laid [] [] := @Laid.ending [] [] rfl (.inl rfl)

theorem eq_nil_of_laid_nil {tokens : List Text} (h : Laid tokens []) : tokens = [] :=
  List.length_eq_zero_iff.1 (Nat.le_zero.1 h.length_le)

end Token

/-! ## Skipping the gap -/

namespace Cursor

theorem rest_skipGap (c : Cursor) :
    c.skipGap.rest =
      if (c.rest.dropWhile isGap).head? = some '#' then [] else c.rest.dropWhile isGap := by
  unfold skipGap advance
  dsimp only
  split <;> rfl

theorem length_rest_skipGap_le (c : Cursor) : c.skipGap.rest.length ≤ c.rest.length := by
  rw [rest_skipGap]
  split
  · exact Nat.zero_le _
  · exact (List.dropWhile_suffix _).length_le

theorem rest_skipGap_append {c : Cursor} {gap t : Text} (h : c.rest = gap ++ t)
    (hgap : gap.all isGap) (ht : ∀ d ∈ t.head?, isGap d = false ∧ d ≠ '#') :
    c.skipGap.rest = t := by
  have hdrop : c.rest.dropWhile isGap = t := by
    rw [h, List.dropWhile_append_of_pos (List.all_eq_true.1 hgap)]
    cases t with
    | nil => rfl
    | cons d t => exact List.dropWhile_cons_of_neg (by simp [(ht d rfl).1])
  rw [rest_skipGap, hdrop, if_neg]
  intro hhash
  exact (ht '#' hhash).2 rfl

theorem rest_skipGap_comment {c : Cursor} {gap comment : Text} (h : c.rest = gap ++ comment)
    (hgap : gap.all isGap) (hcomment : comment.head? = some '#') : c.skipGap.rest = [] := by
  obtain ⟨t, rfl⟩ : ∃ t, comment = '#' :: t := by
    cases comment with
    | nil => contradiction
    | cons d t => exact ⟨t, by rw [Option.some.inj hcomment]⟩
  have hdrop : c.rest.dropWhile isGap = '#' :: t := by
    rw [h, List.dropWhile_append_of_pos (List.all_eq_true.1 hgap)]
    exact List.dropWhile_cons_of_neg (by decide)
  rw [rest_skipGap, hdrop]
  rfl

end Cursor

namespace Token

variable {tokens : List Text} {c : Cursor} {v : Text}

theorem Laid.gap_append {gap t : Text} (hgap : gap.all Cursor.isGap) (h : Laid tokens t) :
    Laid tokens (gap ++ t) := by
  cases h with
  | ending hgap' hcomment =>
    rw [← List.append_assoc]
    refine .ending ?_ hcomment
    rw [List.all_append, hgap, hgap', Bool.and_self]
  | token hgap' htoken hapart hrest =>
    rw [List.append_assoc, ← List.append_assoc, ← List.append_assoc]
    refine .token ?_ htoken hapart hrest
    rw [List.all_append, hgap, hgap', Bool.and_self]

/-- What is laid out behind the gap is laid out with the gap. -/
theorem Laid.of_skipGap (h : Laid tokens c.skipGap.rest) : Laid tokens c.rest := by
  have hgap : (c.rest.takeWhile Cursor.isGap).all Cursor.isGap := List.all_takeWhile
  rw [← List.takeWhile_append_dropWhile (p := Cursor.isGap) (l := c.rest)]
  rw [Cursor.rest_skipGap] at h
  split at h
  · next hhash =>
    -- a comment takes all that is left, so no token stands in it
    rw [eq_nil_of_laid_nil h]
    exact .ending hgap (.inr hhash)
  · exact h.gap_append hgap

theorem Laid.rest_skipGap_eq_nil (h : Laid [] c.rest) : c.skipGap.rest = [] := by
  generalize ht : c.rest = t at h
  cases h with
  | ending hgap hcomment =>
    rcases hcomment with rfl | hhash
    · exact Cursor.rest_skipGap_append ht hgap (by simp)
    · exact Cursor.rest_skipGap_comment ht hgap hhash

/-- Behind the gap stands the first of the tokens. -/
theorem Laid.rest_skipGap_eq (h : Laid (v :: tokens) c.rest) :
    ∃ rest, c.skipGap.rest = v ++ rest ∧ IsToken v ∧ Apart v rest ∧ Laid tokens rest := by
  generalize ht : c.rest = t at h
  cases h with
  | @token gap _ rest _ hgap hv hapart hrest =>
    refine ⟨rest, ?_, hv, hapart, hrest⟩
    refine Cursor.rest_skipGap_append (by rw [ht, List.append_assoc]) hgap ?_
    cases v with
    | nil => exact absurd rfl hv.ne_nil
    | cons d v =>
      intro _ hd
      obtain rfl := Option.some.inj hd
      exact hv.head_not_gap

theorem Laid.cons {rest : Text} (hv : IsToken v) (hapart : Apart v rest) (h : Laid tokens rest) :
    Laid (v :: tokens) (v ++ rest) := @Laid.token [] v rest tokens rfl hv hapart h

theorem Laid.skipGap (h : Laid tokens c.rest) : Laid tokens c.skipGap.rest := by
  cases tokens with
  | nil =>
    rw [h.rest_skipGap_eq_nil]
    exact laid_nil
  | cons v tokens =>
    obtain ⟨rest, hrest, hv, hapart, hlaid⟩ := h.rest_skipGap_eq
    rw [hrest]
    exact .cons hv hapart hlaid

end Token

end Spellbook
