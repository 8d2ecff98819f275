import Spellbook.Proofs.Grammar.Layout
import Spellbook.Proofs.Text.Cut

/-!
# Scanners

What each scanner cuts off is a token that is set apart from the rest.  Tokens that are set apart
are told from the text alone, except that `=` begins `==` (`eq_of_append_eq`).  So a scanner that
yields tokens of one kind only finds nothing where a token of another kind stands.
-/

namespace Spellbook.Token

/-! ## The first token of a text -/

/-- The first character tells what sort of token begins. -/
theorem IsToken.cases_head {d : Char} {v : Text} (h : IsToken (d :: v)) :
    (isWordChar d ∧ IsWord (d :: v)) ∨
      (∃ (q : Quote) (contents : Text), d = q.mark ∧ d ∉ contents ∧ v = contents ++ [d]) ∨
      (d ∈ signs ∧ v = []) ∨ d = '=' := by
  generalize hw : d :: v = w at h
  cases h with
  | word hword =>
    subst hw
    exact .inl ⟨List.all_eq_true.1 hword.2 d (List.mem_cons_self ..), hword⟩
  | @quoted q contents hmark =>
    obtain ⟨rfl, rfl⟩ := List.cons.inj hw
    exact .inr (.inl ⟨q, contents, rfl, hmark, rfl⟩)
  | sign hs =>
    obtain ⟨rfl, rfl⟩ := List.cons.inj hw
    exact .inr (.inr (.inl ⟨hs, rfl⟩))
  | assignment =>
    obtain ⟨rfl, -⟩ := List.cons.inj hw
    exact .inr (.inr (.inr rfl))
  | comparison =>
    obtain ⟨rfl, -⟩ := List.cons.inj hw
    exact .inr (.inr (.inr rfl))

theorem isWordChar_mark (q : Quote) : isWordChar q.mark = false := by cases q <;> decide

theorem mark_notMem_signs (q : Quote) : q.mark ∉ signs := by cases q <;> decide

theorem mark_ne_equalSign (q : Quote) : q.mark ≠ '=' := by cases q <;> decide

theorem isWordChar_of_mem_signs {d : Char} (h : d ∈ signs) : isWordChar d = false := by
  have hall : signs.all (fun d => !isWordChar d) := by decide
  simpa using List.all_eq_true.1 hall d h

/-- A word ends where it is set apart from the rest. -/
theorem IsWord.head_eq_false {v rest : Text} (hv : IsWord v) (h : Apart v rest) :
    rest.head?.any isWordChar = false := by
  apply h
  rw [List.getLast?_eq_some_getLast hv.1]
  exact List.all_eq_true.1 hv.2 _ (List.getLast_mem hv.1)

theorem IsWord.takeWhile_append {v rest : Text} (hv : IsWord v) (h : Apart v rest) :
    (v ++ rest).takeWhile isWordChar = v :=
  Text.takeWhile_append_of_head hv.2 (hv.head_eq_false h)

theorem IsToken.isWord_of_head {d : Char} {v : Text} (h : IsToken (d :: v))
    (hd : isWordChar d) : IsWord (d :: v) := by
  rcases h.cases_head with ⟨_, hv⟩ | ⟨q, _, rfl, _⟩ | ⟨hsign, _⟩ | rfl
  · exact hv
  · rw [isWordChar_mark] at hd
    contradiction
  · rw [isWordChar_of_mem_signs hsign] at hd
    contradiction
  · exact absurd hd (by decide)

/-- Two tokens that are both set apart in the same text are the same, unless they begin with the
sign of an assignment. -/
theorem eq_of_append_eq {v w s t : Text} (hv : IsToken v) (hw : IsToken w) (hvs : Apart v s)
    (hwt : Apart w t) (heq : v.head? ≠ some '=' ∨ w.head? ≠ some '=') (h : v ++ s = w ++ t) :
    v = w := by
  obtain ⟨d, v, rfl⟩ := List.exists_cons_of_ne_nil hv.ne_nil
  obtain ⟨e, w, rfl⟩ := List.exists_cons_of_ne_nil hw.ne_nil
  obtain rfl : d = e := (List.cons.inj h).1
  have hsign : d ≠ '=' := by
    rintro rfl
    simp at heq
  -- the first character is the same, so both are words, or strings in the same quotes, or signs
  rcases hv.cases_head with ⟨hd, -⟩ | ⟨q, contents, hq, hcontents, rfl⟩ | ⟨hd, rfl⟩ | rfl
  · rw [← (hv.isWord_of_head hd).takeWhile_append hvs, h]
    exact (hw.isWord_of_head hd).takeWhile_append hwt
  · rcases hw.cases_head with ⟨hd, -⟩ | ⟨_, contents', -, hcontents', rfl⟩ | ⟨hd, -⟩ | hd
    · rw [hq, isWordChar_mark] at hd
      contradiction
    · rw [List.cons_append, List.cons_append, List.append_assoc, List.append_assoc] at h
      have htail : contents ++ d :: s = contents' ++ d :: t := (List.cons.inj h).2
      rw [(Text.append_cons_inj_of_notMem hcontents hcontents' htail).1]
    · exact absurd (hq ▸ hd) (mark_notMem_signs q)
    · exact absurd hd hsign
  · rcases hw.cases_head with ⟨hd', -⟩ | ⟨q, _, hq, -⟩ | ⟨-, rfl⟩ | hd'
    · rw [isWordChar_of_mem_signs hd] at hd'
      contradiction
    · exact absurd (hq ▸ hd) (mark_notMem_signs q)
    · rfl
    · exact absurd hd' hsign
  · exact absurd rfl hsign

/-! ## What scanners yield -/

/-- Whatever the scanner cuts off is a token of the kind, set apart from what it leaves. -/
def Yields (scanner : Text → Option (Text × Text)) (kind : Text → Prop) : Prop :=
  ∀ {t v rest : Text}, scanner t = some (v, rest) →
    kind v ∧ IsToken v ∧ Apart v rest ∧ t = v ++ rest

variable {scanner : Text → Option (Text × Text)} {kind : Text → Prop}

theorem Yields.eq_none (h : Yields scanner kind) {v rest : Text} (hv : IsToken v)
    (hapart : Apart v rest) (hkind : ¬ kind v)
    (heq : v.head? ≠ some '=' ∨ ∀ w, kind w → w.head? ≠ some '=') :
    scanner (v ++ rest) = none := by
  rw [Option.eq_none_iff_forall_ne_some]
  rintro ⟨w, t⟩ hsome
  obtain ⟨hw, htoken, hapart', happend⟩ := h hsome
  have hvw := eq_of_append_eq hv htoken hapart hapart' (heq.imp_right fun h => h w hw) happend
  exact hkind (hvw ▸ hw)

theorem Yields.nil_eq_none (h : Yields scanner kind) : scanner [] = none := by
  rw [Option.eq_none_iff_forall_ne_some]
  rintro ⟨w, t⟩ hsome
  obtain ⟨-, htoken, -, happend⟩ := h hsome
  exact htoken.ne_nil (List.append_eq_nil_iff.1 happend.symm).1

/-- The scanner cuts off exactly the tokens of the kind. -/
structure Cuts (scanner : Text → Option (Text × Text)) (kind : Text → Prop) : Prop where
  yields : Yields scanner kind
  reads : ∀ {v rest : Text}, kind v → Apart v rest → scanner (v ++ rest) = some (v, rest)
  head_ne : ∀ {v : Text}, kind v → v.head? ≠ some '='

/-! ## Words, names and numbers -/

theorem endsWord_iff {rest : Text} : endsWord rest ↔ rest.head?.any isWordChar = false := by
  simp [endsWord]

theorem apart_of_endsWord {v rest : Text} (h : endsWord rest) : Apart v rest :=
  fun _ => endsWord_iff.1 h

theorem IsWord.head_ne_equalSign {v : Text} (h : IsWord v) : v.head? ≠ some '=' := by
  intro hhead
  have hmem := List.mem_of_mem_head? (Option.mem_def.2 hhead)
  exact absurd (List.all_eq_true.1 h.2 _ hmem) (by decide)

theorem word?_eq_some_iff {word t v rest : Text} :
    word? word t = some (v, rest) ↔ v = word ∧ t = word ++ rest ∧ endsWord rest := by
  unfold word?
  split
  · next rest' hdrop =>
    rw [Text.dropFront?_eq_some_iff] at hdrop
    subst hdrop
    rw [List.append_cancel_left_eq]
    split
    · next hend =>
      rw [Option.some.injEq, Prod.mk.injEq]
      constructor
      · rintro ⟨rfl, rfl⟩
        exact ⟨rfl, rfl, hend⟩
      · rintro ⟨rfl, rfl, -⟩
        exact ⟨rfl, rfl⟩
    · next hend =>
      constructor
      · intro h
        contradiction
      · rintro ⟨-, rfl, h⟩
        contradiction
  · next hdrop =>
    constructor
    · intro h
      contradiction
    · rintro ⟨-, happend, -⟩
      rw [Text.dropFront?_eq_some_iff.2 happend] at hdrop
      contradiction

theorem cuts_word {word : Text} (hword : IsWord word) : Cuts (word? word) (· = word) where
  yields := by
    intro t v rest h
    obtain ⟨rfl, rfl, hend⟩ := word?_eq_some_iff.1 h
    exact ⟨rfl, .word hword, apart_of_endsWord hend, rfl⟩
  reads := by
    rintro v rest rfl hapart
    exact word?_eq_some_iff.2 ⟨rfl, rfl, endsWord_iff.2 (hword.head_eq_false hapart)⟩
  head_ne := by
    rintro v rfl
    exact hword.head_ne_equalSign

theorem IsName.isWord {v : Text} (h : IsName v) : IsWord v := by
  refine ⟨?_, h.2.1⟩
  rintro rfl
  exact absurd h.1 (by simp)

theorem cuts_name : Cuts name? IsName where
  yields := by
    intro t v rest h
    unfold name? at h
    simp only [Option.ite_none_right_eq_some, Bool.and_eq_true, Option.some.injEq,
      Prod.mk.injEq] at h
    obtain ⟨⟨hstart, hreserved⟩, rfl, rfl⟩ := h
    have hhead : (t.takeWhile isWordChar).head? = t.head? := by
      cases t with
      | nil => rfl
      | cons d t =>
        rw [List.takeWhile_cons_of_pos (isWordChar_of_isNameStart (by simpa using hstart))]
        rfl
    have hname : IsName (t.takeWhile isWordChar) :=
      ⟨by rwa [hhead], List.all_takeWhile, by simpa using hreserved⟩
    refine ⟨hname, .word hname.isWord, fun _ => ?_, ?_⟩
    · have hnot := List.head?_dropWhile_not isWordChar t
      cases hdrop : (t.dropWhile isWordChar).head? with
      | none => rfl
      | some d =>
        rw [hdrop] at hnot
        simpa using hnot
    · exact List.takeWhile_append_dropWhile.symm
  reads := by
    intro v rest h hapart
    have hend := h.isWord.head_eq_false hapart
    have hhead : (v ++ rest).head? = v.head? := List.head?_append_of_ne_nil _ h.isWord.1
    unfold name?
    dsimp only
    rw [Text.takeWhile_append_of_head h.2.1 hend, Text.dropWhile_append_of_head h.2.1 hend,
      hhead, if_pos]
    simpa using ⟨h.1, h.2.2⟩
  head_ne := fun h => h.isWord.head_ne_equalSign

theorem IsDigits.isWord {v : Text} (h : IsDigits v) : IsWord v := by
  refine ⟨h.1, ?_⟩
  rw [List.all_eq_true]
  exact fun d hd => isWordChar_of_isDigit (List.all_eq_true.1 h.2 d hd)

theorem head_any_isDigit {rest : Text} (h : rest.head?.any isWordChar = false) :
    rest.head?.any Char.isDigit = false := by
  cases rest with
  | nil => rfl
  | cons d t =>
    by_contra hd
    have hword := isWordChar_of_isDigit (c := d) (by simpa using hd)
    simp [hword] at h

theorem cuts_digits : Cuts digits? IsDigits where
  yields := by
    intro t v rest h
    unfold digits? at h
    simp only [Option.ite_none_right_eq_some, Bool.and_eq_true, Option.some.injEq,
      Prod.mk.injEq] at h
    obtain ⟨⟨hne, hend⟩, rfl, rfl⟩ := h
    have hdigits : IsDigits (t.takeWhile Char.isDigit) :=
      ⟨by simpa using hne, List.all_takeWhile⟩
    exact ⟨hdigits, .word hdigits.isWord, apart_of_endsWord hend,
      List.takeWhile_append_dropWhile.symm⟩
  reads := by
    intro v rest h hapart
    have hend := h.isWord.head_eq_false hapart
    have hdigit := head_any_isDigit hend
    unfold digits?
    dsimp only
    rw [Text.takeWhile_append_of_head h.2 hdigit, Text.dropWhile_append_of_head h.2 hdigit,
      if_pos]
    simpa [h.1] using endsWord_iff.2 hend
  head_ne := fun h => h.isWord.head_ne_equalSign

/-! ## Strings and signs -/

theorem apart_of_last {v rest : Text} {d : Char} (h : v.getLast? = some d)
    (hd : isWordChar d = false) : Apart v rest := by
  intro hlast
  rw [h, Option.any_some, hd] at hlast
  contradiction

/-- The kind of the strings in one kind of quotes. -/
def IsEnclosed (q : Quote) (v : Text) : Prop :=
  ∃ contents : Text, q.mark ∉ contents ∧ v = q.enclose contents

theorem enclosed?_eq_some_iff {q : Quote} {t v rest : Text} :
    enclosed? q.mark t = some (v, rest) ↔ IsEnclosed q v ∧ t = v ++ rest := by
  constructor
  · intro h
    cases t with
    | nil => contradiction
    | cons c t =>
      simp only [enclosed?, Option.ite_none_right_eq_some] at h
      obtain ⟨rfl, h⟩ := h
      have happend := List.takeWhile_append_dropWhile (p := fun d => d != q.mark) (l := t)
      have hnot := List.head?_dropWhile_not (fun d => d != q.mark) t
      split at h
      · contradiction
      · next d rest' hdrop =>
        rw [hdrop] at happend hnot
        obtain rfl : d = q.mark := by simpa using hnot
        obtain ⟨rfl, rfl⟩ := Prod.mk.inj (Option.some.inj h)
        refine ⟨⟨_, ?_, rfl⟩, ?_⟩
        · intro hmem
          have hne := List.all_eq_true.1 (List.all_takeWhile (l := t)) _ hmem
          simp at hne
        · rw [List.cons_append, List.cons_append, List.append_assoc]
          exact congrArg _ happend.symm
  · rintro ⟨⟨contents, hmark, rfl⟩, rfl⟩
    have htail : contents ++ [q.mark] ++ rest = contents ++ q.mark :: rest := by simp
    unfold Quote.enclose
    rw [List.cons_append, List.cons_append, htail]
    simp only [enclosed?, if_true, Text.dropWhile_ne hmark, Text.takeWhile_ne hmark]
    rfl

theorem contents_enclose (q : Quote) (t : Text) : contents (q.enclose t) = t := by
  simp [contents, Quote.enclose]

theorem cuts_enclosed (q : Quote) : Cuts (enclosed? q.mark) (IsEnclosed q) where
  yields := by
    intro t v rest h
    obtain ⟨⟨contents, hmark, rfl⟩, rfl⟩ := enclosed?_eq_some_iff.1 h
    refine ⟨⟨contents, hmark, rfl⟩, .quoted hmark, ?_, rfl⟩
    exact apart_of_last List.getLast?_concat (isWordChar_mark q)
  reads := fun h _ => enclosed?_eq_some_iff.2 ⟨h, rfl⟩
  head_ne := by
    rintro v ⟨contents, -, rfl⟩ hhead
    exact mark_ne_equalSign q (Option.some.inj hhead)

theorem cuts_symbol {d : Char} (hd : d ∈ signs) :
    Cuts (fun t => (Text.dropFront? [d] t).map fun rest => ([d], rest)) (· = sign d) where
  yields := by
    intro t v rest h
    obtain ⟨rest', hdrop, hpair⟩ := Option.map_eq_some_iff.1 h
    obtain ⟨rfl, rfl⟩ := Prod.mk.inj hpair
    rw [Text.dropFront?_eq_some_iff] at hdrop
    exact ⟨rfl, .sign hd, apart_of_last rfl (isWordChar_of_mem_signs hd), hdrop⟩
  reads := by
    rintro v rest rfl -
    rw [Text.dropFront?_eq_some_iff.2 rfl]
    rfl
  head_ne := by
    rintro v rfl hhead
    obtain rfl := Option.some.inj hhead
    exact absurd hd (by decide)

theorem yields_equalSign : Yields equalSign? (· = "==") := by
  intro t v rest h
  obtain ⟨rest', hdrop, hpair⟩ := Option.map_eq_some_iff.1 h
  obtain ⟨rfl, rfl⟩ := Prod.mk.inj hpair
  rw [Text.dropFront?_eq_some_iff] at hdrop
  exact ⟨rfl, .comparison, apart_of_last (d := '=') rfl (by decide), hdrop⟩

theorem equalSign?_append (rest : Text) :
    equalSign? (("==" : Text) ++ rest) = some (("==" : Text), rest) := by
  unfold equalSign?
  rw [Text.dropFront?_eq_some_iff.2 rfl]
  rfl

theorem yields_assignSign : Yields assignSign? (· = sign '=') := by
  intro t v rest h
  unfold assignSign? at h
  split at h
  · next rest' hdrop =>
    rw [Text.dropFront?_eq_some_iff] at hdrop
    simp only [Option.ite_none_left_eq_some, Option.some.injEq, Prod.mk.injEq] at h
    obtain ⟨-, rfl, rfl⟩ := h
    exact ⟨rfl, .assignment, apart_of_last (d := '=') rfl (by decide), hdrop⟩
  · contradiction

theorem assignSign?_append {rest : Text} (h : rest.head? ≠ some '=') :
    assignSign? (sign '=' ++ rest) = some (sign '=', rest) := by
  have hdrop : Text.dropFront? ("=" : Text) (sign '=' ++ rest) = some rest :=
    Text.dropFront?_eq_some_iff.2 rfl
  unfold assignSign?
  rw [hdrop]
  dsimp only
  rw [if_neg h]
  rfl

end Spellbook.Token
