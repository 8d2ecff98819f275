import Spellbook.Proofs.Grammar.Entry
import Spellbook.Proofs.Grammar.Lexemes

/-!
# Integers that are too large

The integer literals of what the grammar reads are the numbers of the text, in the order they are
written and each where it stands.  So a well-formed text is refused for the size of its integers
exactly if one of its numbers is too large, and then for the first of them
(`Entry.read_by_numbers`).
-/

namespace Spellbook

open Token

/-! ## Counting numbers -/

/-- The numbers that stand between two cursors. -/
def numberAccount : Account Lexeme where
  Between c row behind := c.numbers = row ++ behind.numbers
  nil _ := rfl
  append hs ht := by rw [hs, ht, List.append_assoc]
  of_skipGap hs := by rwa [Cursor.numbers_skipGap] at hs

namespace Pattern

variable {α β : Type} {p : Pattern α} {q : Pattern β}

/-- The integers of what the pattern reads are the numbers that it is read from. -/
abbrev Counts (p : Pattern α) (integers : α → List (Nat × Span)) : Prop :=
  Tells numberAccount p fun a row => integers a = row.map Lexeme.literal

/-- The pattern reads no numbers. -/
abbrev Silent (p : Pattern α) : Prop := Tells numberAccount p fun _ row => row = []

theorem tells_numbers_scan {scanner : Text → Option (Text × Text)} {kind : Text → Prop}
    (h : Yields scanner kind) :
    Tells numberAccount (.scan scanner) fun lexeme row => kind lexeme.text ∧
      IsToken lexeme.text ∧ row = if lexeme.text.all Char.isDigit then [lexeme] else [] := by
  intro c lexeme behind hread
  obtain ⟨⟨v, rest⟩, hscan, hpair⟩ := Option.map_eq_some_iff.1 hread
  obtain ⟨rfl, rfl⟩ := Prod.mk.inj hpair
  obtain ⟨hkind, htoken, hapart, happend⟩ := h hscan
  exact ⟨_, ⟨hkind, htoken, rfl⟩, Cursor.numbers_token htoken hapart happend⟩

theorem silent_scan {scanner : Text → Option (Text × Text)} {kind : Text → Prop}
    (h : Yields scanner kind) (hkind : ∀ v, kind v → ¬ IsDigits v) : Silent (.scan scanner) := by
  refine (tells_numbers_scan h).mono ?_
  rintro lexeme _ ⟨hlexeme, htoken, rfl⟩
  exact if_neg fun hdigits => hkind lexeme.text hlexeme ⟨htoken.ne_nil, hdigits⟩

theorem counts_of_silent (h : Silent p) : Counts p fun _ => [] := by
  refine h.mono ?_
  rintro _ _ rfl
  rfl

namespace Counts

variable {integers : α → List (Nat × Span)} {others : β → List (Nat × Span)}

theorem map {make : α → β} (h : Counts p integers) (hmake : ∀ a, others (make a) = integers a) :
    Counts (make <$> p) others := by
  refine (Tells.map h make).mono ?_
  rintro _ row ⟨a, ha, rfl⟩
  rw [hmake, ha]

theorem behind (hq : Silent q) (h : Counts p integers) : Counts (q *> p) integers := by
  refine (Tells.behind hq h).mono ?_
  rintro a _ ⟨row, ha, rfl⟩
  exact ha

theorem before (h : Counts p integers) (hq : Silent q) : Counts (p <* q) integers := by
  refine (Tells.before h hq).mono ?_
  rintro a _ ⟨row, ha, rfl⟩
  rw [ha, List.append_nil]

theorem optional (h : Counts p integers) :
    Counts (.optional p) fun o => (o.map integers).getD [] := by
  refine (Tells.optional h).mono ?_
  rintro _ _ (⟨rfl, rfl⟩ | ⟨a, rfl, ha⟩)
  · rfl
  · exact ha

theorem many (h : Counts p integers) : Counts (.many p) fun as => as.flatMap integers := by
  refine (Tells.many h).mono ?_
  rintro as _ ⟨pieces, hpieces, rfl⟩
  induction hpieces with
  | nil => rfl
  | cons ha _ ih =>
    dsimp only at ih ⊢
    rw [List.flatMap_cons, List.flatten_cons, List.map_append, ha, ih]

end Counts

end Pattern

/-! ## The rules of the grammar -/

/-- The integer literals of the form, wherever it stands. -/
def Form.integers (f : Form) : List (Nat × Span) := Clause.integers ⟨f, ⟨0, 0⟩⟩

/-- The integer literals of the action. -/
def Action.integers (a : Action) : List (Nat × Span) := (Form.action a).integers

/-- The integer literals of the header. -/
def Header.integers (h : Header) : List (Nat × Span) := (Form.header h).integers

theorem Expression.integersAll_eq_flatMap (elements : List Expression) :
    Expression.integersAll elements = elements.flatMap Expression.integers := by
  induction elements with
  | nil => rfl
  | cons e es ih => rw [Expression.integersAll, ih, List.flatMap_cons]

namespace Grammar

open Pattern

theorem word_silent (rule : Rule) (text : Text) (h : IsWord text) (hdigits : ¬ IsDigits text) :
    (word rule text).Silent := by
  refine Tells.named (silent_scan (cuts_word h).yields ?_)
  rintro _ rfl
  exact hdigits

theorem symbol_silent (d : Char) (hd : d ∈ signs) : (Pattern.symbol d).Silent := by
  refine silent_scan (cuts_symbol hd).yields ?_
  rintro _ rfl
  exact not_isDigits_sign (isWordChar_of_mem_signs hd)

theorem name_silent : (Pattern.named .identifier (.scan name?)).Silent :=
  Tells.named (silent_scan cuts_name.yields fun _ => not_isDigits_of_isName)

theorem identifier_silent : identifier.Silent := by
  refine (name_silent.map _).mono ?_
  rintro _ _ ⟨_, rfl, -⟩
  rfl

theorem boolean_silent : boolean.Silent := by
  refine Tells.named (Tells.orElse ?_ ?_)
  · refine ((word_silent .trueWord "True" (by decide) (by decide)).map _).mono ?_
    rintro _ _ ⟨_, rfl, -⟩
    rfl
  · refine ((word_silent .falseWord "False" (by decide) (by decide)).map _).mono ?_
    rintro _ _ ⟨_, rfl, -⟩
    rfl

theorem integer_counts : integer.Counts Expression.integers := by
  refine ((tells_numbers_scan cuts_digits.yields).named.map _).mono ?_
  rintro _ _ ⟨lexeme, ⟨hdigits, -, rfl⟩, rfl⟩
  rw [if_pos hdigits.2]
  rfl

theorem stringIn_counts (rule : Rule) (q : Quote) :
    (stringIn rule q q.mark).Counts Expression.integers := by
  have hstring : (Pattern.scan (enclosed? q.mark)).Silent := by
    refine silent_scan (cuts_enclosed q).yields fun v hv hdigits => ?_
    exact not_isEnclosed_of_isWord hdigits.isWord hv
  exact (counts_of_silent hstring.named).map fun _ => rfl

theorem string_counts : string.Counts Expression.integers :=
  ((stringIn_counts .singleQuoted .single).orElse (stringIn_counts .doubleQuoted .double)).named

section Nested

variable {inner : Pattern Expression} (h : inner.Counts Expression.integers)

include h

theorem lenCall_counts : (lenCall inner).Counts Expression.integers := by
  have hopen := (word_silent .lenWord "len" (by decide) (by decide)).fixed
    (symbol_silent '(' (by decide))
  have hcall := (Counts.behind hopen h).before (symbol_silent ')' (by decide))
  exact Tells.named (Counts.map hcall.spanned fun _ => rfl)

theorem elements_counts :
    (elements inner).Counts fun es => es.flatMap Expression.integers := by
  have hcomma := symbol_silent ',' (by decide)
  have hothers := (Counts.behind hcomma h).many
  refine (((Tells.map h _).seq hothers).seqLeft hcomma.optional).named.mono ?_
  rintro _ _ ⟨last, _, comma, ⟨_, es, first, others, ⟨e, he, rfl⟩, hes, rfl, rfl⟩, hlast, rfl⟩
  have hcommas : comma = [] := by
    rcases hlast with ⟨-, rfl⟩ | ⟨-, -, rfl⟩ <;> rfl
  rw [hcommas, List.append_nil, List.map_append, ← he]
  exact congrArg (e.integers ++ ·) hes

theorem list_counts : (list inner).Counts Expression.integers := by
  have hopen := symbol_silent '[' (by decide)
  have hclose := symbol_silent ']' (by decide)
  have hbrackets := (Counts.behind hopen (Counts.optional (elements_counts h))).before hclose
  refine Tells.named (Counts.map hbrackets.spanned ?_)
  rintro ⟨elements, span⟩
  rw [Expression.integers, Expression.integersAll_eq_flatMap]
  cases elements <;> rfl

theorem expressionAround_counts : (expressionAround inner).Counts Expression.integers := by
  have hboolean := counts_of_silent boolean_silent
  have hidentifier := counts_of_silent identifier_silent
  exact ((lenCall_counts h).orElse ((list_counts h).orElse (string_counts.orElse
    (integer_counts.orElse ((Counts.map hboolean fun _ => rfl).orElse
      (Counts.map hidentifier fun _ => rfl)))))).named

end Nested

theorem expressionWithin_counts (depth : Nat) :
    (expressionWithin depth).Counts Expression.integers := by
  induction depth with
  | zero =>
    intro c e behind hread
    contradiction
  | succ depth ih => exact expressionAround_counts ih.delayed

theorem expression_counts : expression.Counts Expression.integers :=
  fun c _ _ hread => expressionWithin_counts (c.rest.length + 1) hread

/-! ### Conditions -/

theorem operation_counts {α : Type} {p : Pattern α} (hp : p.Silent)
    (make : Expression → Expression → Term)
    (hmake : ∀ left right, (make left right).integers = left.integers ++ right.integers) :
    (make <$> expression <* p <*> expression).Counts Term.integers := by
  refine (((Tells.map expression_counts make).before hp).seq expression_counts).mono ?_
  rintro _ _ ⟨_, right, _, t, ⟨s, ⟨left, hleft, rfl⟩, rfl⟩, hright, rfl, rfl⟩
  rw [hmake, hleft, hright, List.append_nil, List.map_append]

theorem membership_counts : membership.Counts Term.integers :=
  (operation_counts (word_silent .inWord "in" (by decide) (by decide)) _ fun _ _ => rfl).named

theorem equality_counts : equality.Counts Term.integers := by
  have hequal : (Pattern.named .equalSign (.scan equalSign?)).Silent := by
    refine Tells.named (silent_scan yields_equalSign ?_)
    rintro _ rfl
    decide
  exact (operation_counts hequal _ fun _ _ => rfl).named

theorem bareCondition_counts : bareCondition.Counts Term.integers := by
  have hboolean := counts_of_silent boolean_silent
  have hidentifier := counts_of_silent identifier_silent
  exact Tells.named (Tells.orElse (Counts.map hboolean fun _ => rfl)
    (Counts.map hidentifier fun _ => rfl))

theorem term_counts : term.Counts Term.integers :=
  membership_counts.orElse (equality_counts.orElse bareCondition_counts)

theorem condition_counts : condition.Counts Condition.integers := by
  have hand := word_silent .andWord "and" (by decide) (by decide)
  have hothers := (Counts.behind hand term_counts).many
  refine ((Tells.map term_counts _).seq hothers).named.mono ?_
  rintro _ _ ⟨_, others, first, _, ⟨t, ht, rfl⟩, hothers, rfl, rfl⟩
  rw [Condition.integers, Condition.terms, List.flatMap_cons, List.map_append, ht]
  exact congrArg (_ ++ ·) hothers

/-! ### Statements -/

theorem methodCall_counts : methodCall.Counts Action.integers := by
  have hdot := symbol_silent '.' (by decide)
  have hopen := symbol_silent '(' (by decide)
  have hclose := symbol_silent ')' (by decide)
  have hfront := (identifier_silent.map Action.methodCall).before hdot
  have hname := (hfront.seq identifier_silent).before hopen
  refine ((hname.seq expression_counts).before hclose).named.mono ?_
  rintro _ _ ⟨_, ⟨_, argument, _, row, ⟨_, hname, rfl⟩, hargument, rfl, rfl⟩, rfl⟩
  obtain ⟨_, method, _, _, ⟨_, ⟨receiver, rfl, rfl⟩, rfl⟩, rfl, rfl, rfl⟩ := hname
  rw [List.append_nil]
  exact hargument

theorem printCall_counts : printCall.Counts Action.integers := by
  have hopen := (word_silent .printWord "print" (by decide) (by decide)).fixed
    (symbol_silent '(' (by decide))
  have hargument := Counts.behind hopen (Counts.optional expression_counts)
  exact Tells.named (Counts.map (hargument.before (symbol_silent ')' (by decide))) fun _ => rfl)

theorem assignment_counts : assignment.Counts Action.integers := by
  have hassign : (Pattern.named .assignSign (.scan assignSign?)).Silent := by
    refine Tells.named (silent_scan yields_assignSign ?_)
    rintro _ rfl
    decide
  have hfront := (identifier_silent.map Action.assignment).before hassign
  refine (hfront.seq expression_counts).named.mono ?_
  rintro _ _ ⟨_, value, _, row, ⟨_, ⟨target, rfl, rfl⟩, rfl⟩, hvalue, rfl, rfl⟩
  exact hvalue

theorem ifHeader_counts : ifHeader.Counts Header.integers := by
  have hif := word_silent .ifWord "if" (by decide) (by decide)
  have hcondition := Counts.behind hif condition_counts
  exact Tells.named (Counts.map (hcondition.before (symbol_silent ':' (by decide))) fun _ => rfl)

theorem forHeader_counts : forHeader.Counts Header.integers := by
  have hfor := word_silent .forWord "for" (by decide) (by decide)
  have hin := word_silent .inWord "in" (by decide) (by decide)
  have hfront := ((Tells.behind hfor identifier_silent).map Header.loop).before hin
  refine ((hfront.seq identifier_silent).before (symbol_silent ':' (by decide))).named.mono ?_
  rintro _ _ ⟨_, ⟨_, iterable, _, _, ⟨_, hfront, rfl⟩, rfl, rfl, rfl⟩, rfl⟩
  obtain ⟨variableName, ⟨_, rfl, rfl⟩, rfl⟩ := hfront
  rfl

theorem statement_counts : statement.Counts Clause.integers := by
  have haction {p : Pattern Action} (hp : p.Counts Action.integers) :
      (Form.action <$> p).Counts Form.integers := Counts.map hp fun _ => rfl
  have hheader {p : Pattern Header} (hp : p.Counts Header.integers) :
      (Form.header <$> p).Counts Form.integers := Counts.map hp fun _ => rfl
  have hforms := (haction methodCall_counts).orElse ((haction printCall_counts).orElse
    ((haction assignment_counts).orElse ((hheader ifHeader_counts).orElse
      (hheader forHeader_counts))))
  exact Tells.named (Counts.map hforms.spanned fun _ => rfl)

end Grammar

/-! ## The size of integers -/

/-- The number is larger than any integer may be. -/
def Lexeme.isOversized (l : Lexeme) : Bool := maxInteger < Text.natOfDigits l.text

/-- The numbers of the text: its pieces that are made of digits only, in order. -/
def Text.numbers (t : Text) : List Lexeme := (Cursor.start t).numbers

theorem oversized?_map_literal (t : Text) :
    oversized? t (t.numbers.map Lexeme.literal) =
      (t.numbers.find? Lexeme.isOversized).map fun l => ⟨.oversizedInteger l.text, l.span⟩ := by
  unfold oversized?
  rw [List.find?_map, Option.map_map]
  refine Option.map_congr fun l hl => ?_
  have hcovers := Cursor.covers_of_mem_numbers (List.mem_of_find?_eq_some hl)
  change Blame.mk (SyntaxCause.oversizedInteger (Text.slice l.span.start l.span.stop t)) _ = _
  rw [hcovers.slice_eq]

namespace Entry

variable {e : Entry} {t : Text}

theorem inner_counts (e : Entry) : e.inner.Counts e.integers := by
  cases e with
  | line => exact Grammar.statement_counts
  | expression => exact Grammar.expression_counts
  | condition => exact Grammar.condition_counts

/-- The integers of what the whole text writes are the numbers of the text. -/
theorem integers_eq_numbers {a : e.Value} {behind : Cursor}
    (h : e.pattern.read (.start t) = some (a, behind)) :
    e.integers a = t.numbers.map Lexeme.literal := by
  obtain ⟨row, ha, hrow, hrest⟩ := Pattern.Tells.entire e.inner_counts h
  rw [ha, Text.numbers, hrow, Cursor.numbers_of_rest_eq_nil hrest, List.append_nil]

/-- A well-formed text is read, or refused for the first of its numbers that is too large. -/
theorem read_cases (e : Entry) (t : Text) :
    (e.IsWellFormed t ∧ t.numbers.find? Lexeme.isOversized = none ∧ ∃ a, e.read t = .ok a) ∨
    (∃ digits span, e.IsWellFormed t ∧
      t.numbers.find? Lexeme.isOversized = some ⟨digits, span⟩ ∧
      e.read t = .error ⟨.oversizedInteger digits, span⟩) ∨
    (¬ e.IsWellFormed t ∧ ∃ rules span, e.read t = .error ⟨.unexpected rules, span⟩) := by
  rw [← accepts_iff_isWellFormed, read_eq, readWhole, Pattern.parse]
  cases hread : e.pattern.read (.start t) with
  | none =>
    refine .inr (.inr ⟨?_, _, _, rfl⟩)
    rintro ⟨a, behind, hsome⟩
    rw [hread] at hsome
    contradiction
  | some result =>
    obtain ⟨a, behind⟩ := result
    have haccepts : e.Accepts t := ⟨a, behind, hread⟩
    have hsize := oversized?_map_literal t
    rw [← integers_eq_numbers hread] at hsize
    dsimp only
    rw [hsize]
    cases hfind : t.numbers.find? Lexeme.isOversized with
    | none => exact .inl ⟨haccepts, rfl, a, rfl⟩
    | some l => exact .inr (.inl ⟨l.text, l.span, haccepts, rfl, rfl⟩)

/-- Reading answers with a value exactly if the text is well formed and none of its numbers is too
large, and it blames the first number that is, where it stands and as it is written, exactly if the
text is well formed otherwise.  The numbers are the tokens of digits, whichever way the text is cut
into tokens. -/
theorem read_by_numbers (e : Entry) (t : Text) :
    ((∃ a, e.read t = .ok a) ↔
      e.IsWellFormed t ∧ ∀ l ∈ t.numbers, Text.natOfDigits l.text ≤ maxInteger) ∧
    (∀ digits span, e.read t = .error ⟨.oversizedInteger digits, span⟩ ↔
      e.IsWellFormed t ∧ t.numbers.find? Lexeme.isOversized = some ⟨digits, span⟩) ∧
    ((∃ rules span, e.read t = .error ⟨.unexpected rules, span⟩) ↔ ¬ e.IsWellFormed t) ∧
    (∀ tokens, Laid tokens t →
      t.numbers.map Lexeme.text = tokens.filter fun v => v.all Char.isDigit) ∧
    ∀ l ∈ t.numbers, l.span.Covers l.text t := by
  have hfits : (∀ l ∈ t.numbers, Text.natOfDigits l.text ≤ maxInteger) ↔
      t.numbers.find? Lexeme.isOversized = none := by
    simp only [List.find?_eq_none, Lexeme.isOversized, decide_eq_true_eq, Nat.not_lt]
  rw [hfits]
  refine ⟨?_, fun digits span => ?_, ?_, fun tokens hlaid => ?_, fun l hl => ?_⟩
  · rcases e.read_cases t with ⟨h, hfind, a, hread⟩ | ⟨_, _, h, hfind, hread⟩ | ⟨h, _, _, hread⟩
    · simp [h, hfind, hread]
    · simp [h, hfind, hread]
    · simp [h, hread]
  · rcases e.read_cases t with ⟨h, hfind, a, hread⟩ | ⟨_, _, h, hfind, hread⟩ | ⟨h, _, _, hread⟩
    · simp [h, hfind, hread]
    · simp [h, hfind, hread]
    · simp [h, hread]
  · rcases e.read_cases t with ⟨h, -, a, hread⟩ | ⟨_, _, h, -, hread⟩ | ⟨h, _, _, hread⟩
    · simp [h, hread]
    · simp [h, hread]
    · simp [h, hread]
  · exact Cursor.map_text_numbers (c := .start t) hlaid
  · exact Cursor.covers_of_mem_numbers hl

/-- Zeros in front do not count, and the first of two numbers is blamed however deep it stands. -/
example :
    Clause.read "x = [009223372036854775807, len([9223372036854775808]), 10000000000000000000]" =
      .error ⟨.oversizedInteger "9223372036854775808", ⟨33, 52⟩⟩ := by rfl

end Entry

end Spellbook
