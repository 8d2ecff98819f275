import Spellbook.Proofs.Grammar.Reading
import Spellbook.Proofs.Grammar.Shape
import Spellbook.Proofs.Syntax.Places

/-!
# Completeness of the grammar

Every rule of the grammar reads what has the shape of one of its values, and stops behind it.  What
may follow an expression is anything but an opening parenthesis, which would turn the name `len`
into a call.  The alternatives of a rule are told apart by their first tokens, or else by the first
token that they cannot go on with, so an earlier alternative fails where a later one is meant.
-/

namespace Spellbook

theorem map_eq_of_forall₂ {α β : Type} {f : α → β} {as bs : List α}
    (h : List.Forall₂ (fun a b => f b = f a) as bs) : bs.map f = as.map f := by
  induction h with
  | nil => rfl
  | cons hab _ ih => rw [List.map_cons, List.map_cons, hab, ih]

theorem Token.IsName.ne_booleanWord {v : Text} (h : IsName v) (value : Bool) :
    v ≠ booleanWord value := by
  rintro rfl
  apply h.2.2
  cases value <;> decide

namespace Grammar

open Token

variable {tokens more : List Text} {v : Text}

/-! ## Telling tokens apart -/

theorem isNameStart_eq_false_of_isDigit {c : Char} (h : c.isDigit) : isNameStart c = false := by
  have hne : c ≠ '_' := by
    rintro rfl
    exact absurd h (by decide)
  unfold Char.isDigit at h
  unfold isNameStart Char.isAlpha Char.isUpper Char.isLower
  simp only [Bool.and_eq_true, decide_eq_true_eq] at h ⊢
  grind

theorem not_isDigits_of_isName (h : IsName v) : ¬ IsDigits v := by
  rintro ⟨hne, hall⟩
  obtain ⟨d, v, rfl⟩ := List.exists_cons_of_ne_nil hne
  have hdigit : d.isDigit := List.all_eq_true.1 hall d (List.mem_cons_self ..)
  have hstart : isNameStart d := by simpa using h.1
  rw [isNameStart_eq_false_of_isDigit hdigit] at hstart
  contradiction

theorem not_isEnclosed_of_isWord {q : Quote} (h : IsWord v) : ¬ IsEnclosed q v := by
  rintro ⟨contents, -, rfl⟩
  have hmark := List.all_eq_true.1 h.2 q.mark (List.mem_cons_self ..)
  rw [isWordChar_mark] at hmark
  contradiction

theorem ne_sign_of_isWord {d : Char} (h : IsWord v) (hd : isWordChar d = false) :
    v ≠ sign d := by
  rintro rfl
  have hd' := List.all_eq_true.1 h.2 d (List.mem_cons_self ..)
  rw [hd] at hd'
  contradiction

theorem not_isEnclosed_sign {q : Quote} {d : Char} : ¬ IsEnclosed q (sign d) := by
  rintro ⟨contents, -, h⟩
  have hlength := congrArg List.length h
  simp [Quote.enclose] at hlength

theorem not_isName_sign {d : Char} (hd : isWordChar d = false) : ¬ IsName (sign d) :=
  fun h => ne_sign_of_isWord h.isWord hd rfl

theorem not_isDigits_sign {d : Char} (hd : isWordChar d = false) : ¬ IsDigits (sign d) :=
  fun h => ne_sign_of_isWord h.isWord hd rfl

theorem head?_cons_ne {w : Text} (h : v ≠ w) : (v :: more).head? ≠ some w :=
  fun hv => h (Option.some.inj hv)

/-! ## Single tokens -/

theorem word_reads (rule : Rule) (text : Text) (h : IsWord text) (more : List Text) :
    (word rule text).Reads (text :: more) (fun _ => True) more :=
  (Pattern.Reads.cuts (cuts_word h) rfl).named.mono fun _ _ => trivial

theorem word_rejects (rule : Rule) (text : Text) (hword : IsWord text)
    (h : tokens.head? ≠ some text) : (word rule text).Rejects tokens := by
  refine (Pattern.Rejects.cuts (cuts_word hword) ?_).named
  rintro v hv rfl
  exact h hv

theorem symbol_reads (d : Char) (hd : d ∈ signs) (more : List Text) :
    (Pattern.symbol d).Reads (sign d :: more) (fun _ => True) more :=
  (Pattern.Reads.cuts (cuts_symbol hd) rfl).mono fun _ _ => trivial

theorem symbol_rejects (d : Char) (hd : d ∈ signs)
    (h : tokens.head? ≠ some (sign d)) : (Pattern.symbol d).Rejects tokens := by
  apply Pattern.Rejects.cuts (cuts_symbol hd)
  rintro v hv rfl
  exact h hv

theorem identifier_reads {name : Text} (h : IsName name) (more : List Text) :
    identifier.Reads (name :: more) (fun i => i.name = name) more := by
  refine ((Pattern.Reads.cuts cuts_name h).named.map _).mono ?_
  rintro _ ⟨lexeme, rfl, rfl⟩
  rfl

theorem identifier_rejects (h : ¬ IsName v) : identifier.Rejects (v :: more) := by
  refine (Pattern.Rejects.cuts cuts_name ?_).named.map _
  rintro _ ⟨⟩
  exact h

theorem boolean_reads (value : Bool) (more : List Text) :
    boolean.Reads (booleanWord value :: more) (fun b => b.1 = value) more := by
  have htrue := word_reads .trueWord "True" (by decide) more
  have hfalse := word_reads .falseWord "False" (by decide) more
  cases value with
  | true =>
    refine ((htrue.map _).orElse.mono ?_).named
    rintro _ ⟨lexeme, -, rfl⟩
    rfl
  | false =>
    refine (Pattern.Rejects.orElse_reads ?_ (hfalse.map _)).named.mono ?_
    · exact (word_rejects .trueWord "True" (by decide)
        (head?_cons_ne (by decide))).map _
    · rintro _ ⟨lexeme, -, rfl⟩
      rfl

theorem boolean_rejects (h : ∀ value, v ≠ booleanWord value) : boolean.Rejects (v :: more) := by
  refine (Pattern.Rejects.orElse ?_ ?_).named
  · exact (word_rejects .trueWord "True" (by decide) (head?_cons_ne (h true))).map _
  · exact (word_rejects .falseWord "False" (by decide) (head?_cons_ne (h false))).map _

theorem integer_rejects (h : ¬ IsDigits v) : integer.Rejects (v :: more) := by
  refine (Pattern.Rejects.cuts cuts_digits ?_).named.map _
  rintro _ ⟨⟩
  exact h

theorem stringIn_rejects (rule : Rule) (q : Quote) (h : ¬ IsEnclosed q v) :
    (stringIn rule q q.mark).Rejects (v :: more) := by
  refine (Pattern.Rejects.cuts (cuts_enclosed q) ?_).named.map _
  rintro _ ⟨⟩
  exact h

theorem string_rejects (h : ∀ q, ¬ IsEnclosed q v) : string.Rejects (v :: more) :=
  ((stringIn_rejects .singleQuoted .single (h .single)).orElse
    (stringIn_rejects .doubleQuoted .double (h .double))).named

/-! ## Expressions -/

/-- The expressions differ in their spans at most. -/
def Same (e : Expression) (read : Expression) : Prop := read.mapSpan nowhere = e.mapSpan nowhere

theorem integer_reads {n : Nat} {span : Span} (h : IsDigits v) (hv : Text.natOfDigits v = n) :
    integer.Reads (v :: more) (Same (.integer n span)) more := by
  refine ((Pattern.Reads.cuts cuts_digits h).named.map _).mono ?_
  rintro _ ⟨lexeme, rfl, rfl⟩
  simp only [Same, Expression.mapSpan, hv, nowhere]

theorem stringIn_reads {contents : Text} {span : Span} (rule : Rule) (q : Quote)
    (h : q.mark ∉ contents) :
    (stringIn rule q q.mark).Reads (q.enclose contents :: more) (Same (.string contents q span))
      more := by
  refine ((Pattern.Reads.cuts (cuts_enclosed q) ⟨contents, h, rfl⟩).named.map _).mono ?_
  rintro _ ⟨lexeme, hlexeme, rfl⟩
  simp only [Same, Expression.mapSpan, hlexeme, contents_enclose, nowhere]

theorem string_reads {contents : Text} {span : Span} {q : Quote} (h : q.mark ∉ contents) :
    string.Reads (q.enclose contents :: more) (Same (.string contents q span)) more := by
  cases q with
  | single => exact (stringIn_reads .singleQuoted .single h).orElse.named
  | double =>
    refine (Pattern.Rejects.orElse_reads ?_ (stringIn_reads .doubleQuoted .double h)).named
    apply stringIn_rejects .singleQuoted .single
    rintro ⟨contents', -, hmark⟩
    exact absurd (List.cons.inj hmark).1 (by decide)

section Nested

variable {inner : Pattern Expression}

theorem lenCall_rejects (h : v ≠ "len" ∨ more.head? ≠ some (sign '(')) :
    (lenCall inner).Rejects (v :: more) := by
  refine ((Pattern.Rejects.spanned ?_).map _).named
  refine (Pattern.Rejects.seqRight ?_).seqLeft
  by_cases hv : v = "len"
  · subst hv
    exact (word_reads .lenWord "len" (by decide) more).seqRight_rejects
      (symbol_rejects '(' (by decide) (h.resolve_left fun h => h rfl))
  · exact (word_rejects .lenWord "len" (by decide) (head?_cons_ne hv)).seqRight

theorem list_rejects (h : v ≠ sign '[') : (list inner).Rejects (v :: more) := by
  have hopen : (Pattern.symbol '[').Rejects (v :: more) :=
    symbol_rejects '[' (by decide) (head?_cons_ne h)
  exact (hopen.seqRight.seqLeft.spanned.map _).named

/-- What is no expression by its first token. -/
theorem expressionAround_rejects {d : Char} (hd : d ∈ signs) (hne : d ≠ '[') :
    (expressionAround inner).Rejects (sign d :: more) := by
  have hword : isWordChar d = false := isWordChar_of_mem_signs hd
  have hlen : sign d ≠ "len" := fun h => ne_sign_of_isWord (by decide) hword h.symm
  have hopen : sign d ≠ sign '[' := fun h => hne (List.cons.inj h).1
  have hboolean : ∀ value, sign d ≠ booleanWord value :=
    fun value h => ne_sign_of_isWord (by cases value <;> decide) hword h.symm
  exact ((lenCall_rejects (.inl hlen)).orElse ((list_rejects hopen).orElse
    ((string_rejects fun _ => not_isEnclosed_sign).orElse
      ((integer_rejects (not_isDigits_sign hword)).orElse
        (((boolean_rejects hboolean).map _).orElse
          ((identifier_rejects (not_isName_sign hword)).map _)))))).named

theorem lenCall_reads {e : Expression} (span : Span)
    (h : inner.Reads (tokens ++ sign ')' :: more) (Same e) (sign ')' :: more)) :
    (lenCall inner).Reads (("len" : Text) :: sign '(' :: (tokens ++ sign ')' :: more))
      (Same (.len e span)) more := by
  have hword := word_reads .lenWord "len" (by decide)
    (sign '(' :: (tokens ++ sign ')' :: more))
  have hopen := symbol_reads '(' (by decide) (tokens ++ sign ')' :: more)
  have hclose := symbol_reads ')' (by decide) more
  have hcall := ((hword.seqRight hopen).seqRight h).seqLeft hclose
  refine (hcall.spanned.map _).named.mono ?_
  rintro _ ⟨⟨e', span'⟩, he, rfl⟩
  simp only [Same, Expression.mapSpan, nowhere] at he ⊢
  rw [he]

variable {S : Expression → List Text → Prop}
  (hreads : ∀ e s t, S e s → t.head? ≠ some (sign '(') → inner.Reads (s ++ t) (Same e) t)
  (hrejects : ∀ t, inner.Rejects (sign ']' :: t))

include hreads hrejects

theorem elements_reads {e : Expression} {es : List Expression} {first comma : List Text}
    {pieces : List (List Text)} (hfirst : S e first) (hpieces : List.Forall₂ S es pieces)
    (hcomma : comma = [] ∨ comma = [sign ',']) :
    (elements inner).Reads
      (first ++ (pieces.flatMap (sign ',' :: ·) ++ (comma ++ sign ']' :: more)))
      (List.Forall₂ Same (e :: es)) (sign ']' :: more) := by
  have hsymbol := symbol_reads ',' (by decide)
  have hclosing : (Pattern.symbol ',').Rejects (sign ']' :: more) :=
    symbol_rejects ',' (by decide) (head?_cons_ne (by decide))
  -- the comma behind the last element opens no round, as no element follows it
  have hstop : (Pattern.symbol ',' *> inner).Rejects (comma ++ sign ']' :: more) := by
    rcases hcomma with rfl | rfl
    · exact hclosing.seqRight
    · exact (hsymbol _).seqRight_rejects (hrejects more)
  have hlast : ∃ P, (Pattern.optional (.symbol ',')).Reads (comma ++ sign ']' :: more) P
      (sign ']' :: more) := by
    rcases hcomma with rfl | rfl
    · exact ⟨_, hclosing.optional⟩
    · exact ⟨_, (hsymbol _).optional⟩
  have hmore : (comma ++ sign ']' :: more).head? ≠ some (sign '(') := by
    rcases hcomma with rfl | rfl
    · exact head?_cons_ne (by decide)
    · exact head?_cons_ne (by decide)
  have hothers := Pattern.Reads.separated hsymbol hreads
    (fun _ => head?_cons_ne (by decide)) hstop hmore hpieces
  have hnext : (pieces.flatMap (sign ',' :: ·) ++ (comma ++ sign ']' :: more)).head? ≠
      some (sign '(') := by
    cases pieces with
    | nil => exact hmore
    | cons piece pieces => exact head?_cons_ne (by decide)
  obtain ⟨P, hlast⟩ := hlast
  refine ((((hreads e first _ hfirst hnext).map _).seq hothers).seqLeft hlast).named.mono ?_
  rintro _ ⟨_, others, ⟨e', he, rfl⟩, hothers, rfl⟩
  exact .cons he hothers

theorem list_reads {es : List Expression} {comma : List Text} {pieces : List (List Text)}
    (span : Span) (more : List Text) (hpieces : List.Forall₂ S es pieces)
    (hcomma : comma = [] ∨ es ≠ [] ∧ comma = [sign ',']) :
    (list inner).Reads
      (sign '[' :: ([sign ','].intercalate pieces ++ (comma ++ sign ']' :: more)))
      (Same (.list es span)) more := by
  have hopen := symbol_reads '[' (by decide)
    ([sign ','].intercalate pieces ++ (comma ++ sign ']' :: more))
  have hclose := symbol_reads ']' (by decide) more
  have hfound : (Pattern.optional (elements inner)).Reads
      ([sign ','].intercalate pieces ++ (comma ++ sign ']' :: more))
      (fun found => List.Forall₂ Same es (found.getD [])) (sign ']' :: more) := by
    cases hpieces with
    | nil =>
      obtain rfl : comma = [] := hcomma.resolve_right fun h => h.1 rfl
      have hnone : (elements inner).Rejects (sign ']' :: more) :=
        ((hrejects more).map _).seq.seqLeft.named
      refine hnone.optional.mono ?_
      rintro _ rfl
      exact .nil
    | cons hfirst hpieces =>
      rw [intercalate_singleton_cons, List.append_assoc]
      refine (elements_reads hreads hrejects hfirst hpieces
        (hcomma.imp_right And.right)).optional.mono ?_
      rintro _ ⟨es', rfl, hes⟩
      exact hes
  have hbrackets := (hopen.seqRight hfound).seqLeft hclose
  refine (hbrackets.spanned.map _).named.mono ?_
  rintro _ ⟨⟨found, span'⟩, hes, rfl⟩
  have hmap := map_eq_of_forall₂ hes
  simp only [Same, Expression.mapSpan, Expression.mapSpanAll_eq_map, nowhere] at hmap ⊢
  rw [hmap]

end Nested

theorem length_le_intercalate (separator : Text) {pieces : List (List Text)} {piece : List Text}
    (h : piece ∈ pieces) : piece.length ≤ ([separator].intercalate pieces).length := by
  induction pieces with
  | nil => contradiction
  | cons first others ih =>
    cases others with
    | nil =>
      obtain rfl := List.mem_singleton.1 h
      exact Nat.le_of_eq (congrArg _ (List.intercalate_singleton ..).symm)
    | cons second others =>
      rw [List.intercalate_cons_of_ne_nil (List.cons_ne_nil _ _), List.length_append,
        List.length_append]
      rcases List.mem_cons.1 h with rfl | h
      · omega
      · have := ih h
        omega

section Leaves

variable {inner : Pattern Expression} {P : Expression → Prop}

/-- A word is no call, list or string, so the other alternatives decide on it. -/
theorem expressionAround_reads_of_word (hword : IsWord v)
    (hlen : v ≠ "len" ∨ more.head? ≠ some (sign '('))
    (h : ∀ make : Bool × Span → Expression,
      (∀ value span, make (value, span) = .boolean value span) →
      (integer <|> make <$> boolean <|> Expression.identifier <$> identifier).Reads (v :: more) P
        more) :
    (expressionAround inner).Reads (v :: more) P more := by
  have hlist : (list inner).Rejects (v :: more) :=
    list_rejects (ne_sign_of_isWord hword (by decide))
  have hstring : string.Rejects (v :: more) :=
    string_rejects fun _ => not_isEnclosed_of_isWord hword
  exact ((lenCall_rejects hlen).orElse_reads (hlist.orElse_reads (hstring.orElse_reads
    (h _ fun _ _ => rfl)))).named

theorem expressionAround_reads_identifier {i : Identifier} (hname : IsName i.name)
    (hmore : more.head? ≠ some (sign '(')) :
    (expressionAround inner).Reads (i.name :: more) (Same (.identifier i)) more := by
  apply expressionAround_reads_of_word hname.isWord (.inr hmore)
  have hinteger : integer.Rejects (i.name :: more) :=
    integer_rejects (not_isDigits_of_isName hname)
  have hboolean : boolean.Rejects (i.name :: more) := boolean_rejects hname.ne_booleanWord
  have hread : (Expression.identifier <$> identifier).Reads (i.name :: more)
      (Same (.identifier i)) more := by
    refine ((identifier_reads hname more).map _).mono ?_
    rintro _ ⟨j, hj, rfl⟩
    simp only [Same, Expression.mapSpan, Identifier.mapSpan, hj, nowhere]
  exact fun _ _ => hinteger.orElse_reads ((hboolean.map _).orElse_reads hread)

theorem expressionAround_reads_boolean (value : Bool) (span : Span) (more : List Text) :
    (expressionAround inner).Reads (booleanWord value :: more) (Same (.boolean value span))
      more := by
  have hlen : booleanWord value ≠ "len" := by cases value <;> decide
  apply expressionAround_reads_of_word (by cases value <;> decide) (.inl hlen)
  have hinteger : integer.Rejects (booleanWord value :: more) :=
    integer_rejects fun h => absurd h.2 (by cases value <;> decide)
  intro make hmake
  have hread : (make <$> boolean).Reads (booleanWord value :: more) (Same (.boolean value span))
      more := by
    refine ((boolean_reads value more).map make).mono ?_
    rintro _ ⟨⟨_, _⟩, rfl, rfl⟩
    rw [hmake]
    rfl
  exact hinteger.orElse_reads hread.orElse

theorem expressionAround_reads_integer {n : Nat} {span : Span} (hdigits : IsDigits v)
    (hvalue : Text.natOfDigits v = n) :
    (expressionAround inner).Reads (v :: more) (Same (.integer n span)) more := by
  have hlen : v ≠ "len" := by
    rintro rfl
    exact absurd hdigits.2 (by decide)
  apply expressionAround_reads_of_word hdigits.isWord (.inl hlen)
  exact fun _ _ => (integer_reads hdigits hvalue).orElse

theorem expressionAround_reads_string {contents : Text} {quote : Quote} {span : Span}
    (hmark : quote.mark ∉ contents) :
    (expressionAround inner).Reads (quote.enclose contents :: more)
      (Same (.string contents quote span)) more := by
  have henclosed : IsEnclosed quote (quote.enclose contents) := ⟨contents, hmark, rfl⟩
  have hlen : quote.enclose contents ≠ "len" :=
    fun h => not_isEnclosed_of_isWord (by decide) (h ▸ henclosed)
  have hopen : quote.enclose contents ≠ sign '[' :=
    fun h => not_isEnclosed_sign (h ▸ henclosed)
  exact ((lenCall_rejects (.inl hlen)).orElse_reads
    ((list_rejects hopen).orElse_reads (string_reads hmark).orElse)).named

end Leaves

/-- An expression is read if the expressions inside it are, which have fewer tokens. -/
theorem expressionAround_reads {inner : Pattern Expression} {bound : Nat}
    (hreads : ∀ e s t, s.length < bound ∧ Expression.Shaped e s → t.head? ≠ some (sign '(') →
      inner.Reads (s ++ t) (Same e) t)
    (hrejects : ∀ t, inner.Rejects (sign ']' :: t))
    {e : Expression} (he : e.Shaped tokens) (hbound : tokens.length ≤ bound)
    (hmore : more.head? ≠ some (sign '(')) :
    (expressionAround inner).Reads (tokens ++ more) (Same e) more := by
  cases e with
  | identifier i =>
    obtain ⟨hname, rfl⟩ := he
    exact expressionAround_reads_identifier hname hmore
  | boolean value span =>
    obtain rfl := he
    exact expressionAround_reads_boolean value span more
  | integer value span =>
    obtain ⟨digits, hdigits, hvalue, rfl⟩ := he
    exact expressionAround_reads_integer hdigits hvalue
  | string contents quote span =>
    obtain ⟨hmark, rfl⟩ := he
    exact expressionAround_reads_string hmark
  | list elements span =>
    obtain ⟨pieces, comma, hpieces, hcomma, rfl⟩ := he
    rw [Expression.shapedAll_iff] at hpieces
    have hlt : ∀ piece ∈ pieces, piece.length < bound := by
      intro piece hpiece
      have hle := length_le_intercalate (sign ',') hpiece
      simp only [List.length_append, List.length_cons] at hbound
      omega
    have hall := ((List.forall₂_and_left pieces elements).2 ⟨hlt, hpieces.flip⟩).flip
    have hread := list_reads hreads hrejects span more hall hcomma
    simp only [List.append_assoc, List.cons_append, List.nil_append] at hread ⊢
    exact ((lenCall_rejects (.inl (by decide))).orElse_reads hread.orElse).named
  | len argument span =>
    obtain ⟨tokens, hargument, rfl⟩ := he
    have hlt : tokens.length < bound := by
      simp only [List.length_append, List.length_cons] at hbound
      omega
    have hread := lenCall_reads span (hreads argument tokens (sign ')' :: more)
      ⟨hlt, hargument⟩ (head?_cons_ne (by decide)))
    simp only [List.append_assoc, List.cons_append, List.nil_append]
    exact hread.orElse.named

theorem expressionWithin_rejects (depth : Nat) {d : Char} (hd : d ∈ signs) (hne : d ≠ '[')
    (more : List Text) : (expressionWithin depth).Rejects (sign d :: more) := by
  cases depth with
  | zero => exact fun _ _ => rfl
  | succ depth => exact expressionAround_rejects hd hne

theorem expressionWithin_reads {depth : Nat} {e : Expression} (he : e.Shaped tokens)
    (hdepth : tokens.length < depth) (hmore : more.head? ≠ some (sign '(')) :
    (expressionWithin depth).Reads (tokens ++ more) (Same e) more := by
  induction depth generalizing e tokens more with
  | zero => exact absurd hdepth (Nat.not_lt_zero _)
  | succ depth ih =>
    -- a level of nesting has tokens of its own, so the depth that is left is enough inside
    refine expressionAround_reads ?_ ?_ he (Nat.le_of_lt_succ hdepth) hmore
    · rintro e s t ⟨hlt, he⟩ ht
      exact (ih he hlt ht).delayed
    · intro t
      exact (expressionWithin_rejects depth (by decide) (by decide) t).delayed

theorem expression_rejects {d : Char} (hd : d ∈ signs) (hne : d ≠ '[') (more : List Text) :
    expression.Rejects (sign d :: more) :=
  fun c hlaid => expressionWithin_rejects (c.skipGap.rest.length + 1) hd hne more hlaid

theorem expression_reads {e : Expression} (he : e.Shaped tokens)
    (hmore : more.head? ≠ some (sign '(')) : expression.Reads (tokens ++ more) (Same e) more := by
  intro c hlaid
  have hdepth : tokens.length < c.skipGap.rest.length + 1 := by
    have hle := hlaid.skipGap.length_le
    rw [List.length_append] at hle
    omega
  exact expressionWithin_reads he hdepth hmore hlaid

/-! ## Conditions -/

/-- What stands behind a condition: nothing, or the sign that ends its header. -/
def EndsCondition (more : List Text) : Prop := ∀ v ∈ more.head?, v = sign ':'

/-- What stands behind a term: the word before the next one, or what stands behind the condition. -/
def EndsTerm (more : List Text) : Prop := ∀ v ∈ more.head?, v = ("and" : Text) ∨ v = sign ':'

theorem EndsCondition.endsTerm (h : EndsCondition more) : EndsTerm more :=
  fun v hv => .inr (h v hv)

theorem endsTerm_cons (more : List Text) : EndsTerm (("and" : Text) :: more) :=
  fun _ hv => .inl (Option.some.inj hv).symm

theorem EndsTerm.head?_ne (h : EndsTerm more) (hand : ("and" : Text) ≠ v) (hcolon : sign ':' ≠ v) :
    more.head? ≠ some v := by
  intro hv
  rcases h v hv with rfl | rfl
  · exact hand rfl
  · exact hcolon rfl

theorem equalSign_reads (more : List Text) :
    (Pattern.named .equalSign (.scan equalSign?)).Reads (("==" : Text) :: more) (fun _ => True)
      more :=
  (Pattern.Reads.scan fun rest _ _ => equalSign?_append rest).named.mono fun _ _ => trivial

theorem equalSign_rejects (h : EndsTerm more) :
    (Pattern.named .equalSign (.scan equalSign?)).Rejects more := by
  refine (Pattern.Rejects.scan yields_equalSign ?_ (.inl ?_)).named
  · rintro v hv rfl
    exact h.head?_ne (by decide) (by decide) hv
  · intro v hv
    rcases h v hv with rfl | rfl
    · decide
    · decide

/-- The term with the same operands, wherever they stand. -/
theorem operation_reads {α : Type} {p : Pattern α} {token : Text}
    {make : Expression → Expression → Term} {left right : Expression} {s t : List Text}
    (hp : ∀ more, p.Reads (token :: more) (fun _ => True) more) (htoken : token ≠ sign '(')
    (hmake : ∀ left right, (make left right).mapSpan nowhere =
      make (left.mapSpan nowhere) (right.mapSpan nowhere))
    (hleft : left.Shaped s) (hright : right.Shaped t) (hmore : more.head? ≠ some (sign '(')) :
    (make <$> expression <* p <*> expression).Reads (s ++ token :: (t ++ more))
      (fun read => read.mapSpan nowhere = (make left right).mapSpan nowhere) more := by
  have hfirst : expression.Reads (s ++ token :: (t ++ more)) (Same left) (token :: (t ++ more)) :=
    expression_reads hleft (head?_cons_ne htoken)
  have hfront := (hfirst.map make).seqLeft (hp (t ++ more))
  refine (hfront.seq (expression_reads hright hmore)).mono ?_
  rintro _ ⟨_, right', ⟨left', hl, rfl⟩, hr, rfl⟩
  rw [hmake, hmake, hl, hr]

theorem operation_rejects {α : Type} {p : Pattern α} {make : Expression → Expression → Term}
    {e : Expression} (he : e.Shaped tokens) (hmore : more.head? ≠ some (sign '('))
    (hp : p.Rejects more) :
    (make <$> expression <* p <*> expression).Rejects (tokens ++ more) :=
  (((expression_reads he hmore).map make).seqLeft_rejects hp).seq

theorem membership_rejects {e : Expression} (he : e.Shaped tokens)
    (hopen : more.head? ≠ some (sign '(')) (hin : more.head? ≠ some ("in" : Text)) :
    membership.Rejects (tokens ++ more) :=
  (operation_rejects he hopen (word_rejects .inWord "in" (by decide) hin)).named

theorem equality_rejects {e : Expression} (he : e.Shaped tokens) (hmore : EndsTerm more) :
    equality.Rejects (tokens ++ more) :=
  (operation_rejects he (hmore.head?_ne (by decide) (by decide)) (equalSign_rejects hmore)).named

theorem term_reads {t : Term} (ht : t.Shaped tokens) (hmore : EndsTerm more) :
    term.Reads (tokens ++ more) (fun read => read.mapSpan nowhere = t.mapSpan nowhere) more := by
  have hopen : more.head? ≠ some (sign '(') := hmore.head?_ne (by decide) (by decide)
  have hin : more.head? ≠ some ("in" : Text) := hmore.head?_ne (by decide) (by decide)
  cases t with
  | membership element collection =>
    obtain ⟨left, right, hleft, hright, rfl⟩ := ht
    rw [List.append_assoc]
    exact (operation_reads (word_reads .inWord "in" (by decide)) (by decide)
      (fun _ _ => rfl) hleft hright hopen).named.orElse
  | equality first second =>
    obtain ⟨left, right, hleft, hright, rfl⟩ := ht
    rw [List.append_assoc]
    refine (membership_rejects hleft ?_ ?_).orElse_reads
      (operation_reads equalSign_reads (by decide) (fun _ _ => rfl) hleft hright
        hopen).named.orElse
    · exact head?_cons_ne (by decide)
    · exact head?_cons_ne (by decide)
  | name i =>
    have he : (Expression.identifier i).Shaped tokens := ht
    refine (membership_rejects he hopen hin).orElse_reads
      ((equality_rejects he hmore).orElse_reads (Pattern.Rejects.orElse_reads ?_ ?_).named)
    · obtain ⟨hname, rfl⟩ := ht
      exact (boolean_rejects hname.ne_booleanWord).map _
    · obtain ⟨hname, rfl⟩ := ht
      refine ((identifier_reads hname more).map _).mono ?_
      rintro _ ⟨j, hj, rfl⟩
      simp only [Term.mapSpan, Identifier.mapSpan, hj, nowhere]
  | constant value span =>
    have he : (Expression.boolean value span).Shaped tokens := ht
    refine (membership_rejects he hopen hin).orElse_reads
      ((equality_rejects he hmore).orElse_reads (Pattern.Reads.orElse ?_).named)
    obtain rfl := ht
    refine ((boolean_reads value more).map _).mono ?_
    rintro _ ⟨⟨_, _⟩, rfl, rfl⟩
    rfl

theorem condition_reads {c : Condition} (hc : c.Shaped tokens) (hmore : EndsCondition more) :
    condition.Reads (tokens ++ more)
      (fun read => read.mapSpan nowhere = c.mapSpan nowhere) more := by
  obtain ⟨first, pieces, hfirst, hpieces, rfl⟩ := hc
  rw [List.append_assoc]
  have hand : more.head? ≠ some ("and" : Text) := by
    intro hv
    exact absurd (hmore _ hv) (by decide)
  have hstop : (word .andWord "and" *> term).Rejects more :=
    (word_rejects .andWord "and" (by decide) hand).seqRight
  have hothers := Pattern.Reads.separated (word_reads .andWord "and" (by decide))
    (fun t s u (ht : t.Shaped s) (hu : EndsTerm u) => term_reads ht hu) endsTerm_cons
    hstop hmore.endsTerm hpieces
  have hnext : EndsTerm (pieces.flatMap (("and" : Text) :: ·) ++ more) := by
    cases pieces with
    | nil => exact hmore.endsTerm
    | cons piece pieces => exact endsTerm_cons _
  refine (((term_reads hfirst hnext).map _).seq hothers).named.mono ?_
  rintro _ ⟨_, others, ⟨t, ht, rfl⟩, hothers, rfl⟩
  have hmap := map_eq_of_forall₂ hothers
  simp only [Condition.mapSpan, ht, hmap]

/-! ## Statements -/

/-- The text begins like its first token, or with a gap. -/
theorem head?_ne_equalSign_of_laid {rest : Text} (h : Laid tokens rest)
    (hv : ∀ v ∈ tokens.head?, v.head? ≠ some '=') : rest.head? ≠ some '=' := by
  have hgapped {gap t : Text} (hgap : gap.all Cursor.isGap) (ht : t.head? ≠ some '=') :
      (gap ++ t).head? ≠ some '=' := by
    cases gap with
    | nil => exact ht
    | cons d gap =>
      rw [List.all_cons, Bool.and_eq_true] at hgap
      intro hd
      obtain rfl := Option.some.inj hd
      exact absurd hgap.1 (by decide)
  cases h with
  | ending hgap hcomment =>
    apply hgapped hgap
    rcases hcomment with rfl | hhash
    · exact fun h => nomatch h
    · rw [hhash]
      decide
  | token hgap htoken _ _ =>
    rw [List.append_assoc]
    apply hgapped hgap
    rw [List.head?_append_of_ne_nil _ htoken.ne_nil]
    exact hv _ rfl

/-- No expression begins like the second half of a comparison. -/
theorem head?_ne_equalSign_of_shaped {e : Expression} (he : e.Shaped tokens) :
    ∀ v ∈ tokens.head?, v.head? ≠ some '=' := by
  intro v hv
  cases e with
  | identifier i =>
    obtain ⟨hname, rfl⟩ := he
    obtain rfl := Option.some.inj hv
    exact cuts_name.head_ne hname
  | boolean value span =>
    obtain rfl := he
    obtain rfl := Option.some.inj hv
    cases value <;> decide
  | integer value span =>
    obtain ⟨digits, hdigits, -, rfl⟩ := he
    obtain rfl := Option.some.inj hv
    exact cuts_digits.head_ne hdigits
  | string contents quote span =>
    obtain ⟨hmark, rfl⟩ := he
    obtain rfl := Option.some.inj hv
    exact (cuts_enclosed quote).head_ne ⟨contents, hmark, rfl⟩
  | list elements span =>
    obtain ⟨pieces, comma, -, -, rfl⟩ := he
    obtain rfl := Option.some.inj hv
    decide
  | len argument span =>
    obtain ⟨inner, -, rfl⟩ := he
    obtain rfl := Option.some.inj hv
    decide

theorem assignSign_reads {e : Expression} (he : e.Shaped tokens) :
    (Pattern.named .assignSign (.scan assignSign?)).Reads (sign '=' :: tokens) (fun _ => True)
      tokens := by
  refine (Pattern.Reads.scan ?_).named.mono fun _ _ => trivial
  intro rest _ hlaid
  exact assignSign?_append (head?_ne_equalSign_of_laid hlaid (head?_ne_equalSign_of_shaped he))

/-- A text that begins with a name, but with no dot behind it, calls no method. -/
theorem methodCall_rejects (h : IsName v → more.head? ≠ some (sign '.')) :
    methodCall.Rejects (v :: more) := by
  have hfirst : (Action.methodCall <$> identifier <* Pattern.symbol '.').Rejects (v :: more) := by
    by_cases hv : IsName v
    · exact ((identifier_reads hv more).map _).seqLeft_rejects
        (symbol_rejects '.' (by decide) (h hv))
    · exact ((identifier_rejects hv).map _).seqLeft
  exact hfirst.seq.seqLeft.seq.seqLeft.named

theorem printCall_rejects (h : v = "print" → more.head? ≠ some (sign '(')) :
    printCall.Rejects (v :: more) := by
  have hfirst : (word .printWord "print" *> Pattern.symbol '(').Rejects (v :: more) := by
    by_cases hv : v = "print"
    · subst hv
      exact (word_reads .printWord "print" (by decide) more).seqRight_rejects
        (symbol_rejects '(' (by decide) (h rfl))
    · exact (word_rejects .printWord "print" (by decide) (head?_cons_ne hv)).seqRight
  exact (hfirst.seqRight.seqLeft.map _).named

theorem assignment_rejects (h : ¬ IsName v) : assignment.Rejects (v :: more) :=
  ((identifier_rejects h).map _).seqLeft.seq.named

theorem ifHeader_rejects (h : v ≠ "if") : ifHeader.Rejects (v :: more) := by
  have hword : (word .ifWord "if").Rejects (v :: more) :=
    word_rejects .ifWord "if" (by decide) (head?_cons_ne h)
  exact (hword.seqRight.seqLeft.map _).named

theorem methodCall_reads {receiver method : Identifier} {argument : Expression}
    (h : (Action.methodCall receiver method argument).Shaped tokens) :
    methodCall.Reads tokens (fun read =>
      read.mapSpan nowhere = (Action.methodCall receiver method argument).mapSpan nowhere) [] := by
  obtain ⟨hreceiver, hmethod, inner, hargument, rfl⟩ := h
  have hdot := symbol_reads '.' (by decide)
  have hopen := symbol_reads '(' (by decide)
  have hclose := symbol_reads ')' (by decide) []
  have hread : expression.Reads (inner ++ [sign ')']) (Same argument) [sign ')'] :=
    expression_reads hargument (head?_cons_ne (by decide))
  have hfront more := ((identifier_reads hreceiver _).map Action.methodCall).seqLeft (hdot more)
  have hname more := ((hfront _).seq (identifier_reads hmethod _)).seqLeft (hopen more)
  refine (((hname _).seq hread).seqLeft hclose).named.mono ?_
  rintro _ ⟨_, e, ⟨_, m, ⟨r, hr, rfl⟩, hm, rfl⟩, he, rfl⟩
  simp only [Same, Action.mapSpan, Identifier.mapSpan, nowhere] at he ⊢
  rw [hr, hm, he]

theorem printCall_reads {argument : Option Expression}
    (h : (Action.print argument).Shaped tokens) :
    printCall.Reads tokens
      (fun read => read.mapSpan nowhere = (Action.print argument).mapSpan nowhere) [] := by
  have hword := word_reads .printWord "print" (by decide)
  have hopen := symbol_reads '(' (by decide)
  have hclose := symbol_reads ')' (by decide) []
  cases argument with
  | none =>
    obtain rfl := h
    have hnone := (expression_rejects (d := ')') (by decide) (by decide) []).optional
    have hcall := (((hword _).seqRight (hopen _)).seqRight hnone).seqLeft hclose
    refine (hcall.map _).named.mono ?_
    rintro _ ⟨_, rfl, rfl⟩
    rfl
  | some e =>
    obtain ⟨inner, he, rfl⟩ := h
    have hread : expression.Reads (inner ++ [sign ')']) (Same e) [sign ')'] :=
      expression_reads he (head?_cons_ne (by decide))
    have hcall := (((hword _).seqRight (hopen _)).seqRight hread.optional).seqLeft hclose
    refine (hcall.map _).named.mono ?_
    rintro _ ⟨_, ⟨e', rfl, he'⟩, rfl⟩
    exact congrArg (fun e => Action.print (some e)) he'

theorem assignment_reads {target : Identifier} {value : Expression}
    (h : (Action.assignment target value).Shaped tokens) :
    assignment.Reads tokens
      (fun read => read.mapSpan nowhere = (Action.assignment target value).mapSpan nowhere)
      [] := by
  obtain ⟨htarget, inner, hvalue, rfl⟩ := h
  have hread : expression.Reads (inner ++ []) (Same value) [] :=
    expression_reads hvalue (by decide)
  rw [List.append_nil] at hread
  have hfront :=
    ((identifier_reads htarget _).map Action.assignment).seqLeft (assignSign_reads hvalue)
  refine (hfront.seq hread).named.mono ?_
  rintro _ ⟨_, e, ⟨i, hi, rfl⟩, he, rfl⟩
  simp only [Same, Action.mapSpan, Identifier.mapSpan, nowhere] at he ⊢
  rw [hi, he]

theorem ifHeader_reads {c : Condition} (h : (Header.branch c).Shaped tokens) :
    ifHeader.Reads tokens
      (fun read => read.mapSpan nowhere = (Header.branch c).mapSpan nowhere) [] := by
  obtain ⟨inner, hc, rfl⟩ := h
  have hword := word_reads .ifWord "if" (by decide) (inner ++ [sign ':'])
  have hcolon := symbol_reads ':' (by decide) []
  have hend : EndsCondition [sign ':'] := fun _ hv => (Option.some.inj hv).symm
  refine (((hword.seqRight (condition_reads hc hend)).seqLeft hcolon).map _).named.mono ?_
  rintro _ ⟨c', hc', rfl⟩
  exact congrArg Header.branch hc'

theorem forHeader_reads {variableName iterable : Identifier}
    (h : (Header.loop variableName iterable).Shaped tokens) :
    forHeader.Reads tokens
      (fun read => read.mapSpan nowhere = (Header.loop variableName iterable).mapSpan nowhere)
      [] := by
  obtain ⟨hvariable, hiterable, rfl⟩ := h
  have hfor := word_reads .forWord "for" (by decide)
  have hin := word_reads .inWord "in" (by decide)
  have hcolon := symbol_reads ':' (by decide) []
  have hname more := (hfor _).seqRight (identifier_reads hvariable more)
  have hfront more := ((hname _).map Header.loop).seqLeft (hin more)
  refine (((hfront _).seq (identifier_reads hiterable _)).seqLeft hcolon).named.mono ?_
  rintro _ ⟨_, j, ⟨i, hi, rfl⟩, hj, rfl⟩
  simp only [Header.mapSpan, Identifier.mapSpan, hi, hj, nowhere]

theorem action_reads {p : Pattern Action} {a : Action}
    (h : p.Reads tokens (fun read => read.mapSpan nowhere = a.mapSpan nowhere) []) :
    (Form.action <$> p).Reads tokens
      (fun read => read.mapSpan nowhere = (Form.action a).mapSpan nowhere) [] := by
  refine (h.map _).mono ?_
  rintro _ ⟨read, hread, rfl⟩
  exact congrArg Form.action hread

theorem header_reads {p : Pattern Header} {h : Header}
    (hp : p.Reads tokens (fun read => read.mapSpan nowhere = h.mapSpan nowhere) []) :
    (Form.header <$> p).Reads tokens
      (fun read => read.mapSpan nowhere = (Form.header h).mapSpan nowhere) [] := by
  refine (hp.map _).mono ?_
  rintro _ ⟨read, hread, rfl⟩
  exact congrArg Form.header hread

/-- In front of a word that opens a header, no action can be read. -/
theorem actions_reject (h : v ∈ reserved) (more : List Text) :
    methodCall.Rejects (v :: more) ∧ printCall.Rejects (v :: more) ∧
      assignment.Rejects (v :: more) := by
  have hname : ¬ IsName v := fun hname => hname.2.2 h
  refine ⟨methodCall_rejects fun hv => absurd hv hname, printCall_rejects ?_,
    assignment_rejects hname⟩
  rintro rfl
  exact absurd h (by decide)

/-- The alternatives of a statement, without their spans. -/
abbrev forms : Pattern Form :=
  .action <$> methodCall <|> .action <$> printCall <|> .action <$> assignment <|>
    .header <$> ifHeader <|> .header <$> forHeader

/-- Calls are told from assignments by the token behind the name. -/
theorem forms_read_action {a : Action} (ha : a.Shaped tokens) :
    forms.Reads tokens
      (fun read => read.mapSpan nowhere = (Form.action a).mapSpan nowhere) [] := by
  cases a with
  | methodCall receiver method argument => exact (action_reads (methodCall_reads ha)).orElse
  | print argument =>
    have hread := action_reads (printCall_reads ha)
    have hmethod : methodCall.Rejects tokens := by
      cases argument with
      | none =>
        obtain rfl := ha
        exact methodCall_rejects fun _ => head?_cons_ne (by decide)
      | some e =>
        obtain ⟨inner, -, rfl⟩ := ha
        exact methodCall_rejects fun _ => head?_cons_ne (by decide)
    exact (hmethod.map _).orElse_reads hread.orElse
  | assignment target value =>
    have hread := action_reads (assignment_reads ha)
    obtain ⟨-, inner, -, rfl⟩ := ha
    have hmethod : methodCall.Rejects (target.name :: sign '=' :: inner) :=
      methodCall_rejects fun _ => head?_cons_ne (by decide)
    have hprint : printCall.Rejects (target.name :: sign '=' :: inner) :=
      printCall_rejects fun _ => head?_cons_ne (by decide)
    exact (hmethod.map _).orElse_reads ((hprint.map _).orElse_reads hread.orElse)

/-- Headers are told from actions, and from each other, by their first word. -/
theorem forms_read_header {h : Header} (hh : h.Shaped tokens) :
    forms.Reads tokens
      (fun read => read.mapSpan nowhere = (Form.header h).mapSpan nowhere) [] := by
  cases h with
  | branch condition =>
    have hread := header_reads (ifHeader_reads hh)
    obtain ⟨inner, -, rfl⟩ := hh
    obtain ⟨hmethod, hprint, hassignment⟩ :=
      actions_reject (v := "if") (by decide) (inner ++ [sign ':'])
    exact (hmethod.map _).orElse_reads ((hprint.map _).orElse_reads
      ((hassignment.map _).orElse_reads hread.orElse))
  | loop variableName iterable =>
    have hread := header_reads (forHeader_reads hh)
    obtain ⟨-, -, rfl⟩ := hh
    obtain ⟨hmethod, hprint, hassignment⟩ := actions_reject (v := "for") (by decide)
      [variableName.name, "in", iterable.name, sign ':']
    have hif : ifHeader.Rejects
        [("for" : Text), variableName.name, "in", iterable.name, sign ':'] :=
      ifHeader_rejects (by decide)
    exact (hmethod.map _).orElse_reads ((hprint.map _).orElse_reads
      ((hassignment.map _).orElse_reads ((hif.map _).orElse_reads hread)))

theorem statement_reads {f : Form} (hf : f.Shaped tokens) :
    statement.Reads tokens (fun read => read.form.mapSpan nowhere = f.mapSpan nowhere) [] := by
  have hforms : forms.Reads tokens (fun read => read.mapSpan nowhere = f.mapSpan nowhere) [] := by
    cases f with
    | action a => exact forms_read_action hf
    | header h => exact forms_read_header hf
  refine (hforms.spanned.map _).named.mono ?_
  rintro _ ⟨⟨read, span⟩, hread, rfl⟩
  exact hread

end Grammar

end Spellbook
