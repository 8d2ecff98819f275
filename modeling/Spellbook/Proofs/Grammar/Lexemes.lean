import Spellbook.Proofs.Grammar.Placement

/-!
# The pieces of a text

Without any grammar a text is cut into pieces from left to right: runs of word characters, strings,
and single characters, up to the comment.  The numbers among them are what the integer literals of
the text are, and all pieces together are the text without its comment.  A token that is set apart
from the rest is made of whole pieces, so that the pieces of a text are those that a pattern reads.
-/

namespace Spellbook

open Token

/-! ## Cutting a text into pieces -/

namespace Token

/-- The piece at the front of a text that begins with the character: a run of word characters, a
string, or the character alone.  A string that is not closed takes all that is left. -/
def firstPiece (c : Char) (t : Text) : Text :=
  if isWordChar c then c :: t.takeWhile isWordChar
  else if c = Quote.single.mark ∨ c = Quote.double.mark then
    ((enclosed? c (c :: t)).map Prod.fst).getD (c :: t)
  else [c]

/-- The pieces of the text behind its first `skip` characters, up to the comment.  The text starts
at the position. -/
def lexemesAfter : Nat → Nat → Text → List Lexeme
  | _, _, [] => []
  | skip + 1, position, c :: t => lexemesAfter skip (position + c.utf8Size) t
  | 0, position, c :: t =>
    if c = '#' then []
    else
      let piece := firstPiece c t
      ⟨piece, ⟨position, position + Text.byteLength piece⟩⟩ ::
        lexemesAfter (piece.length - 1) (position + c.utf8Size) t

theorem exists_firstPiece (c : Char) (t : Text) :
    ∃ s rest, firstPiece c t = c :: s ∧ t = s ++ rest := by
  unfold firstPiece
  split
  · exact ⟨_, _, rfl, List.takeWhile_append_dropWhile.symm⟩
  · split
    · next hmark =>
      obtain ⟨q, rfl⟩ : ∃ q : Quote, c = q.mark := by
        rcases hmark with rfl | rfl
        · exact ⟨.single, rfl⟩
        · exact ⟨.double, rfl⟩
      cases henclosed : enclosed? q.mark (q.mark :: t) with
      | none => exact ⟨t, [], rfl, (List.append_nil t).symm⟩
      | some result =>
        obtain ⟨piece, rest⟩ := result
        obtain ⟨⟨contents, -, rfl⟩, happend⟩ := enclosed?_eq_some_iff.1 henclosed
        exact ⟨contents ++ [q.mark], rest, rfl, (List.cons.inj happend).2⟩
    · exact ⟨[], t, rfl, rfl⟩

theorem firstPiece_word {d : Char} {s rest : Text} (hword : IsWord (d :: s))
    (hapart : Apart (d :: s) rest) : firstPiece d (s ++ rest) = d :: s := by
  have hd : isWordChar d := List.all_eq_true.1 hword.2 d (List.mem_cons_self ..)
  rw [firstPiece, if_pos hd, ← List.takeWhile_cons_of_pos hd]
  exact hword.takeWhile_append hapart

theorem firstPiece_mark {q : Quote} {contents : Text} (hmark : q.mark ∉ contents) (rest : Text) :
    firstPiece q.mark (contents ++ [q.mark] ++ rest) = q.enclose contents := by
  have henclosed := enclosed?_eq_some_iff.2
    ⟨⟨contents, hmark, rfl⟩, (rfl : q.enclose contents ++ rest = q.enclose contents ++ rest)⟩
  have hquote : q.mark = Quote.single.mark ∨ q.mark = Quote.double.mark := by
    cases q
    · exact .inl rfl
    · exact .inr rfl
  rw [firstPiece, if_neg (Bool.eq_false_iff.1 (isWordChar_mark q)), if_pos hquote]
  change Option.getD (Option.map Prod.fst (enclosed? q.mark (q.enclose contents ++ rest))) _ = _
  rw [henclosed]
  rfl

theorem firstPiece_sign {d : Char} (hd : d ∈ signs) (t : Text) : firstPiece d t = [d] := by
  have hmark : ¬(d = Quote.single.mark ∨ d = Quote.double.mark) := by
    rintro (rfl | rfl)
    · exact mark_notMem_signs .single hd
    · exact mark_notMem_signs .double hd
  rw [firstPiece, if_neg (Bool.eq_false_iff.1 (isWordChar_of_mem_signs hd)), if_neg hmark]

theorem lexemesAfter_length (position : Nat) (s t : Text) :
    lexemesAfter s.length position (s ++ t) =
      lexemesAfter 0 (position + Text.byteLength s) t := by
  induction s generalizing position with
  | nil => rfl
  | cons c s ih =>
    rw [List.length_cons, List.cons_append, lexemesAfter, ih, Text.byteLength_cons, Nat.add_assoc]

end Token

namespace Lexeme

/-- The piece is an integer literal. -/
def isNumber (l : Lexeme) : Bool := l.text.all Char.isDigit

/-- The value that the piece denotes if it is a number, and where it stands. -/
def literal (l : Lexeme) : Nat × Span := (Text.natOfDigits l.text, l.span)

end Lexeme

/-! ## The pieces behind a cursor -/

namespace Cursor

/-- The pieces behind the cursor, up to the comment. -/
def lexemes (c : Cursor) : List Lexeme := lexemesAfter 0 c.position c.rest

/-- The integer literals behind the cursor. -/
def numbers (c : Cursor) : List Lexeme := c.lexemes.filter Lexeme.isNumber

/-- The text behind the cursor without its comment. -/
def code (c : Cursor) : Text := c.lexemes.flatMap Lexeme.text

variable {c : Cursor} {piece rest : Text} {d : Char}

theorem lexemes_of_rest_eq_nil (h : c.rest = []) : c.lexemes = [] := by
  rw [lexemes, h, lexemesAfter]

theorem lexemes_of_comment (h : c.rest.head? = some '#') : c.lexemes = [] := by
  rw [lexemes]
  cases hrest : c.rest with
  | nil => rw [lexemesAfter]
  | cons e t =>
    rw [hrest] at h
    rw [lexemesAfter, if_pos (Option.some.inj h)]

/-- The first piece comes first, and the others are those behind it. -/
theorem lexemes_cons {s : Text} (hd : d ≠ '#') (hpiece : firstPiece d (s ++ rest) = d :: s)
    (hrest : c.rest = d :: (s ++ rest)) :
    c.lexemes = ⟨d :: s, ⟨c.position, (c.advance (d :: s) rest).position⟩⟩ ::
      (c.advance (d :: s) rest).lexemes := by
  unfold lexemes
  rw [hrest, lexemesAfter, if_neg hd, hpiece]
  dsimp only
  rw [List.length_cons, Nat.add_sub_cancel, lexemesAfter_length, Nat.add_assoc,
    ← Text.byteLength_cons]
  rfl

theorem lexemes_singleton (hword : isWordChar d = false)
    (hmark : ¬(d = Quote.single.mark ∨ d = Quote.double.mark)) (hd : d ≠ '#')
    (hrest : c.rest = d :: rest) :
    c.lexemes = ⟨[d], ⟨c.position, (c.advance [d] rest).position⟩⟩ ::
      (c.advance [d] rest).lexemes := by
  refine lexemes_cons (s := []) hd ?_ hrest
  rw [firstPiece, if_neg (Bool.eq_false_iff.1 hword), if_neg hmark]

theorem advance_advance (c : Cursor) (first second middle rest : Text) :
    (c.advance first middle).advance second rest = c.advance (first ++ second) rest := by
  unfold advance
  dsimp only
  rw [Text.byteLength_append, Nat.add_assoc]

/-! ## Tokens and gaps -/

/-- A token that is set apart is made of whole pieces, and one of digits is a number. -/
theorem exists_lexemes_token {v : Text} (hv : IsToken v) (hapart : Apart v rest)
    (hrest : c.rest = v ++ rest) :
    ∃ pieces, c.lexemes = pieces ++ (c.advance v rest).lexemes ∧
      pieces.flatMap Lexeme.text = v ∧
      pieces.filter Lexeme.isNumber =
        if v.all Char.isDigit then [⟨v, ⟨c.position, (c.advance v rest).position⟩⟩] else [] := by
  have hsingle {d : Char} {s : Text} (hd : d ≠ '#') (hpiece : firstPiece d (s ++ rest) = d :: s)
      (hrest : c.rest = d :: (s ++ rest)) :
      ∃ pieces, c.lexemes = pieces ++ (c.advance (d :: s) rest).lexemes ∧
        pieces.flatMap Lexeme.text = d :: s ∧
        pieces.filter Lexeme.isNumber =
          if (d :: s).all Char.isDigit then
            [⟨d :: s, ⟨c.position, (c.advance (d :: s) rest).position⟩⟩]
          else [] := by
    refine ⟨[_], lexemes_cons hd hpiece hrest, List.flatMap_singleton _ _, ?_⟩
    rw [List.filter_cons]
    rfl
  cases hv with
  | word hword =>
    obtain ⟨d, s, rfl⟩ := List.exists_cons_of_ne_nil hword.1
    exact hsingle (IsToken.word hword).head_not_gap.2 (firstPiece_word hword hapart) hrest
  | @quoted q contents hmark =>
    exact hsingle (IsToken.quoted hmark).head_not_gap.2 (firstPiece_mark hmark rest) hrest
  | @sign d hd =>
    exact hsingle (s := []) (IsToken.sign hd).head_not_gap.2 (firstPiece_sign hd rest) hrest
  | assignment => exact hsingle (s := []) (by decide) rfl hrest
  | comparison =>
    -- the comparison is two pieces
    let middle := c.advance ['='] ('=' :: rest)
    have hfirst : c.lexemes = ⟨['='], ⟨c.position, middle.position⟩⟩ :: middle.lexemes :=
      lexemes_singleton (by decide) (by decide) (by decide) hrest
    have hsecond : middle.lexemes =
        ⟨['='], ⟨middle.position, (middle.advance ['='] rest).position⟩⟩ ::
          (middle.advance ['='] rest).lexemes :=
      lexemes_singleton (by decide) (by decide) (by decide) rfl
    rw [hsecond, advance_advance] at hfirst
    exact ⟨[_, _], hfirst, rfl, rfl⟩

theorem exists_lexemes_gap {gap : Text} (hgap : gap.all isGap) (hrest : c.rest = gap ++ rest) :
    ∃ pieces, c.lexemes = pieces ++ (c.advance gap rest).lexemes ∧
      pieces.flatMap Lexeme.text = gap ∧ pieces.filter Lexeme.isNumber = [] := by
  induction gap generalizing c with
  | nil =>
    obtain ⟨position, t⟩ := c
    obtain rfl : t = rest := hrest
    exact ⟨[], rfl, rfl, rfl⟩
  | cons d gap ih =>
    rw [List.all_cons, Bool.and_eq_true] at hgap
    have hd : d = ' ' ∨ d = '\t' := by simpa [isGap] using hgap.1
    obtain ⟨pieces, hpieces, htext, hnumbers⟩ := ih (c := c.advance [d] (gap ++ rest)) hgap.2 rfl
    have hfirst : c.lexemes = ⟨[d], ⟨c.position, (c.advance [d] (gap ++ rest)).position⟩⟩ ::
        (c.advance [d] (gap ++ rest)).lexemes := by
      rcases hd with rfl | rfl <;>
        exact lexemes_singleton (by decide) (by decide) (by decide) hrest
    rw [hpieces, advance_advance] at hfirst
    refine ⟨_ :: pieces, hfirst, ?_, ?_⟩
    · rw [List.flatMap_cons, htext, List.singleton_append]
    · have hdigit : ¬ (([d] : Text).all Char.isDigit) := by
        rcases hd with rfl | rfl <;> decide
      rw [← hnumbers]
      exact List.filter_cons_of_neg hdigit

/-- The gap ends in front of what is left, or a comment takes all that is left. -/
theorem skipGap_cases (c : Cursor) :
    ∃ gap rest, gap.all isGap ∧ c.rest = gap ++ rest ∧
      (c.skipGap = c.advance gap rest ∨
        rest.head? = some '#' ∧ c.skipGap = (c.advance gap rest).advance rest []) := by
  refine ⟨c.rest.takeWhile isGap, c.rest.dropWhile isGap, List.all_takeWhile,
    List.takeWhile_append_dropWhile.symm, ?_⟩
  unfold skipGap
  dsimp only
  split
  · next hhash => exact .inr ⟨hhash, rfl⟩
  · exact .inl rfl

/-! ## Numbers -/

theorem numbers_of_rest_eq_nil (h : c.rest = []) : c.numbers = [] := by
  rw [numbers, lexemes_of_rest_eq_nil h, List.filter_nil]

theorem numbers_token {v : Text} (hv : IsToken v) (hapart : Apart v rest)
    (hrest : c.rest = v ++ rest) :
    c.numbers = (if v.all Char.isDigit then
        [⟨v, ⟨c.position, (c.advance v rest).position⟩⟩] else []) ++
      (c.advance v rest).numbers := by
  obtain ⟨pieces, hpieces, -, hnumbers⟩ := exists_lexemes_token hv hapart hrest
  rw [numbers, hpieces, List.filter_append, hnumbers]
  rfl

theorem numbers_skipGap (c : Cursor) : c.skipGap.numbers = c.numbers := by
  obtain ⟨gap, rest, hgap, hrest, hskip⟩ := c.skipGap_cases
  obtain ⟨pieces, hpieces, -, hnumbers⟩ := exists_lexemes_gap hgap hrest
  have hbehind : c.numbers = (c.advance gap rest).numbers := by
    rw [numbers, hpieces, List.filter_append, hnumbers]
    rfl
  rw [hbehind]
  rcases hskip with hskip | ⟨hhash, hskip⟩
  · rw [hskip]
  · rw [hskip, numbers_of_rest_eq_nil rfl, numbers, lexemes_of_comment hhash, List.filter_nil]

/-- The numbers of a text that lays tokens out are the tokens that are numbers. -/
theorem map_text_numbers {tokens : List Text} (h : Laid tokens c.rest) :
    c.numbers.map Lexeme.text = tokens.filter fun v => v.all Char.isDigit := by
  induction tokens generalizing c with
  | nil =>
    rw [← numbers_skipGap, numbers_of_rest_eq_nil h.rest_skipGap_eq_nil]
    rfl
  | cons v tokens ih =>
    obtain ⟨rest, hrest, hv, hapart, hlaid⟩ := h.rest_skipGap_eq
    rw [← numbers_skipGap, numbers_token hv hapart hrest, List.map_append, ih hlaid,
      List.filter_cons]
    split <;> rfl

/-! ## The text without its comment -/

theorem code_of_rest_eq_nil (h : c.rest = []) : c.code = [] := by
  rw [code, lexemes_of_rest_eq_nil h, List.flatMap_nil]

theorem code_token {v : Text} (hv : IsToken v) (hapart : Apart v rest)
    (hrest : c.rest = v ++ rest) : c.code = v ++ (c.advance v rest).code := by
  obtain ⟨pieces, hpieces, htext, -⟩ := exists_lexemes_token hv hapart hrest
  rw [code, hpieces, List.flatMap_append, htext]
  rfl

end Cursor

namespace Token

/-- The pieces make up the text as far as its comment. -/
theorem exists_comment (skip position : Nat) (t : Text) :
    ∃ comment, t.drop skip = (lexemesAfter skip position t).flatMap Lexeme.text ++ comment ∧
      (comment = [] ∨ comment.head? = some '#') := by
  induction t generalizing skip position with
  | nil =>
    rw [lexemesAfter, List.drop_nil]
    exact ⟨[], rfl, .inl rfl⟩
  | cons d t ih =>
    cases skip with
    | succ skip =>
      rw [lexemesAfter, List.drop_succ_cons]
      exact ih skip _
    | zero =>
      rw [lexemesAfter, List.drop_zero]
      split
      · next hhash => exact ⟨d :: t, rfl, .inr (congrArg some hhash)⟩
      · obtain ⟨s, rest, hpiece, ht⟩ := exists_firstPiece d t
        obtain ⟨comment, hrest, hcomment⟩ := ih s.length (position + d.utf8Size)
        refine ⟨comment, ?_, hcomment⟩
        dsimp only
        rw [hpiece, List.length_cons, Nat.add_sub_cancel, List.flatMap_cons, List.append_assoc,
          ← hrest, List.cons_append, ht, List.drop_left]

/-- Every piece stands where its span says. -/
theorem covers_of_mem_lexemesAfter {skip position : Nat} (front : Text) {rest : Text} {l : Lexeme}
    (hposition : position = Text.byteLength front) (h : l ∈ lexemesAfter skip position rest) :
    l.span.Covers l.text (front ++ rest) := by
  induction rest generalizing skip position front with
  | nil =>
    rw [lexemesAfter] at h
    exact absurd h List.not_mem_nil
  | cons d rest ih =>
    have hbehind : position + d.utf8Size = Text.byteLength (front ++ [d]) := by
      rw [Text.byteLength_append, hposition]
      rfl
    rw [List.append_cons]
    cases skip with
    | succ skip =>
      rw [lexemesAfter] at h
      exact ih _ hbehind h
    | zero =>
      rw [lexemesAfter] at h
      split at h
      · exact absurd h List.not_mem_nil
      · rcases List.mem_cons.1 h with rfl | hmem
        · obtain ⟨s, back, hpiece, hrest⟩ := exists_firstPiece d rest
          refine ⟨front, back, ?_, hposition, by rw [← hposition]⟩
          dsimp only
          rw [hpiece, hrest]
          simp only [List.append_assoc, List.cons_append, List.nil_append]
        · exact ih _ hbehind hmem

end Token

namespace Cursor

theorem exists_comment (c : Cursor) :
    ∃ comment, c.rest = c.code ++ comment ∧ (comment = [] ∨ comment.head? = some '#') :=
  Token.exists_comment 0 c.position c.rest

/-- Every number stands where its span says. -/
theorem covers_of_mem_numbers {t : Text} {l : Lexeme} (h : l ∈ (start t).numbers) :
    l.span.Covers l.text t :=
  Token.covers_of_mem_lexemesAfter [] rfl (List.mem_of_mem_filter h)

/-! ### What stands between two cursors -/

/-- The piece stands between the cursors, and behind it nothing but a comment, which takes all that
is left. -/
def Reaches (c : Cursor) (piece : Text) (d : Cursor) : Prop :=
  c.code = piece ++ d.code ∧ ∃ comment, c.rest = piece ++ comment ++ d.rest ∧
    d.position = c.position + Text.byteLength (piece ++ comment) ∧
    (comment = [] ∨ comment.head? = some '#' ∧ d.rest = [])

namespace Reaches

variable {c middle d : Cursor} {first second : Text}

theorem refl (c : Cursor) : c.Reaches [] c := ⟨rfl, [], rfl, rfl, .inl rfl⟩

theorem append (h : c.Reaches first middle) (h' : middle.Reaches second d) :
    c.Reaches (first ++ second) d := by
  obtain ⟨hcode, comment, hrest, hposition, hcomment⟩ := h
  obtain ⟨hcode', comment', hrest', hposition', hcomment'⟩ := h'
  refine ⟨by rw [hcode, hcode', List.append_assoc], ?_⟩
  rcases hcomment with rfl | ⟨hhash, hnil⟩
  · rw [List.append_nil] at hrest hposition
    refine ⟨comment', by rw [hrest, hrest']; simp only [List.append_assoc], ?_, hcomment'⟩
    rw [hposition', hposition, List.append_assoc, Text.byteLength_append first, Nat.add_assoc]
  · -- the comment leaves nothing for the second piece
    rw [hnil] at hrest' hrest
    obtain ⟨hfront, hd⟩ := List.append_eq_nil_iff.1 hrest'.symm
    obtain ⟨rfl, rfl⟩ := List.append_eq_nil_iff.1 hfront
    refine ⟨comment, by rw [hrest, hd, List.append_nil first], ?_, .inr ⟨hhash, hd⟩⟩
    rw [hposition', hposition, List.append_nil first]
    rfl

theorem token {v rest : Text} (hv : IsToken v) (hapart : Apart v rest)
    (hrest : c.rest = v ++ rest) : c.Reaches v (c.advance v rest) := by
  refine ⟨code_token hv hapart hrest, [], ?_, ?_, .inl rfl⟩
  · rw [hrest, List.append_nil]
    rfl
  · rw [List.append_nil]
    rfl

theorem exists_gap (c : Cursor) : ∃ gap, gap.all isGap ∧ c.Reaches gap c.skipGap := by
  obtain ⟨gap, rest, hgap, hrest, hskip⟩ := c.skipGap_cases
  obtain ⟨pieces, hpieces, htext, -⟩ := exists_lexemes_gap hgap hrest
  have hcode : c.code = gap ++ (c.advance gap rest).code := by
    rw [code, hpieces, List.flatMap_append, htext]
    rfl
  refine ⟨gap, hgap, ?_⟩
  rcases hskip with hskip | ⟨hhash, hskip⟩
  · rw [hskip]
    refine ⟨hcode, [], ?_, ?_, .inl rfl⟩
    · rw [hrest, List.append_nil]
      rfl
    · rw [List.append_nil]
      rfl
  · rw [hskip]
    have hend : ((c.advance gap rest).advance rest []).code = [] := code_of_rest_eq_nil rfl
    refine ⟨?_, rest, ?_, ?_, .inr ⟨hhash, rfl⟩⟩
    · rw [hcode, hend, code, lexemes_of_comment hhash, List.flatMap_nil]
    · rw [hrest]
      exact (List.append_nil _).symm
    · rw [advance_advance]
      rfl

end Reaches

end Cursor

end Spellbook
