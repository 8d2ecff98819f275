import Spellbook.Proofs.Source.Statements
import Spellbook.Proofs.Text.Trim

/-!
# A spell under another

Lines that stand further down are read as before, and their statements stand further down too.  A
header takes the line behind it only if that is indented.  So if a spell that stands under another
one does not begin with an indented line, the statements of both together are those of the first
and then those of the second, at their new places (`Program.read_append`).
-/

namespace Spellbook

section Move

variable {κ : Type} (marker : Text) (lines bytes : Nat)

/-- The fault in a source with more lines and more bytes in front. -/
def Fault.move (e : Fault κ) : Fault κ := e.mapPlace (· + lines) (Span.shift bytes)

/-- The statement in a source with more lines and more bytes in front. -/
def Statement.move (s : Statement) : Statement := s.mapPlace (· + lines) (Span.shift bytes)

theorem Statement.line_move (s : Statement) : (s.move lines bytes).line = s.line + lines := by
  cases s <;> rfl

/-! ## One line -/

theorem Blame.onLine_shift_add (b : Blame κ) (offset number : Nat) :
    (b.shift (offset + bytes)).onLine (number + lines) =
      ((b.shift offset).onLine number).move lines bytes := by
  simp only [Fault.move, Fault.mapPlace, Blame.mapSpan, Blame.shift, Blame.onLine,
    Span.shift_shift]

theorem SourceLine.clause_move (l : SourceLine) :
    (l.move lines bytes).clause marker =
      ((l.clause marker).map (Clause.shift bytes)).mapError (Fault.move lines bytes) := by
  have hunfilled : (l.move lines bytes).unfilled? marker = l.unfilled? marker := rfl
  unfold SourceLine.clause
  rw [hunfilled]
  cases l.unfilled? marker with
  | some blame =>
    exact congrArg Except.error (Blame.onLine_shift_add lines bytes blame l.offset l.number)
  | none =>
    simp only [SourceLine.move]
    cases Clause.read l.text with
    | error blame =>
      exact congrArg Except.error (Blame.onLine_shift_add lines bytes blame l.offset l.number)
    | ok clause => exact congrArg Except.ok (Clause.shift_shift l.offset bytes clause).symm

theorem SourceLine.clause_move_of_ok {l : SourceLine} {c : Clause}
    (h : l.clause marker = .ok c) :
    (l.move lines bytes).clause marker = .ok (c.shift bytes) := by
  rw [SourceLine.clause_move, h]
  rfl

/-- The fault of a line goes where the line goes. -/
theorem SourceLine.clause_move_of_error (bytes : Nat → Nat) {l : SourceLine} {e : SyntaxError}
    (h : l.clause marker = .error e) :
    (l.move lines (bytes l.number)).clause marker =
      .error (e.relocate (· + lines) fun n => Span.shift (bytes n)) := by
  rw [SourceLine.clause_move, h, Fault.relocate, SourceLine.line_of_clause h]
  rfl

theorem SourceLine.body_relocate (bytes : Nat → Nat) (l : SourceLine) :
    let shift := fun n => Span.shift (bytes n)
    (l.move lines (bytes l.number)).body marker =
      ((l.body marker).map (Option.map (Simple.relocate (· + lines) shift))).mapError
        (Fault.relocate (· + lines) shift) := by
  intro shift
  unfold SourceLine.body
  rw [SourceLine.isSilent_move]
  by_cases hsilent : l.isSilent
  · rw [if_pos hsilent, if_pos hsilent]
    rfl
  · rw [if_neg hsilent, if_neg hsilent]
    rcases hclause : l.clause marker with e | ⟨action | header, span⟩
    · rw [SourceLine.clause_move_of_error marker lines bytes hclause]
      rfl
    · rw [SourceLine.clause_move_of_ok marker lines _ hclause]
      rfl
    · rw [SourceLine.clause_move_of_ok marker lines _ hclause]
      rfl

/-! ## All lines -/

/-- Whatever each line is moved by, the first one is indented as before. -/
theorem SourceLine.head?_map_move_flush (lines bytes : SourceLine → Nat) {ls : List SourceLine}
    (h : ∀ l ∈ ls.head?, l.isIndented = false) :
    ∀ l ∈ (ls.map fun l => l.move (lines l) (bytes l)).head?, l.isIndented = false := by
  intro _ hmem
  rw [List.head?_map] at hmem
  obtain ⟨l, hl, rfl⟩ := Option.map_eq_some_iff.1 hmem
  exact h l hl

namespace Statement

/-- Lines that are moved down by the same number of lines, but each by a number of bytes of its own,
are read as before, and each statement or fault is where its line has gone. -/
theorem ofLines_relocate (bytes : Nat → Nat) (ls : List SourceLine) :
    let shift := fun n => Span.shift (bytes n)
    ofLines marker (ls.map fun l => l.move lines (bytes l.number)) =
      ((ofLines marker ls).map (List.map (Statement.relocate (· + lines) shift))).mapError
        (Fault.relocate (· + lines) shift) := by
  intro shift
  induction ls using ofLines_induction marker with
  | nil => rfl
  | silent l rest hsilent ih =>
    have hmoved : (l.move lines (bytes l.number)).isSilent = true := hsilent
    rw [List.map_cons, ofLines_silent hmoved, ih, ofLines_silent hsilent]
  | refused l rest e hsilent hclause =>
    have hmoved : ¬(l.move lines (bytes l.number)).isSilent = true := hsilent
    have hrefused := SourceLine.clause_move_of_error marker lines bytes hclause
    rw [List.map_cons, ofLines_refused hmoved hrefused, ofLines_refused hsilent hclause]
    rfl
  | action l rest action span hsilent hclause ih =>
    have hmoved : ¬(l.move lines (bytes l.number)).isSilent = true := hsilent
    rw [List.map_cons, ofLines_action hmoved (SourceLine.clause_move_of_ok marker _ _ hclause),
      ih, ofLines_action hsilent hclause]
    cases ofLines marker rest <;> rfl
  | alone l rest header span hsilent hclause hrest ih =>
    have hmoved : ¬(l.move lines (bytes l.number)).isSilent = true := hsilent
    rw [List.map_cons, ofLines_alone hmoved (SourceLine.clause_move_of_ok marker _ _ hclause)
      (SourceLine.head?_map_move_flush _ _ hrest), ih, ofLines_alone hsilent hclause hrest]
    cases ofLines marker rest <;> rfl
  | body l next others header span hsilent hclause hnext ih =>
    have hmoved : ¬(l.move lines (bytes l.number)).isSilent = true := hsilent
    have hindented : (next.move lines (bytes next.number)).isIndented = true := hnext
    rw [List.map_cons, List.map_cons,
      ofLines_body hmoved (SourceLine.clause_move_of_ok marker _ _ hclause) hindented,
      SourceLine.body_relocate, ih, ofLines_body hsilent hclause hnext]
    cases next.body marker with
    | error e => rfl
    | ok body => cases ofLines marker others <;> rfl

/-- The lines are read as before, and each statement or fault is where its line has gone. -/
theorem ofLines_move (bytes : Nat) (ls : List SourceLine) :
    ofLines marker (ls.map (SourceLine.move lines bytes)) =
      ((ofLines marker ls).map (List.map (Statement.move lines bytes))).mapError
        (Fault.move lines bytes) := by
  have hmove : Statement.relocate (· + lines) (fun _ => Span.shift bytes) =
      Statement.move lines bytes := relocate_const _ _
  rw [← hmove]
  exact ofLines_relocate marker lines (fun _ => bytes) ls

/-- The last of the lines is a header that is no body itself, so that it takes the line behind it if
that is indented. -/
def EndsOpen (ls : List SourceLine) : Prop :=
  ∃ statements, ofLines marker ls = .ok statements ∧ ∃ s ∈ statements,
    s.clause.isHeader = true ∧ ∃ last ∈ ls.getLast?, s.line = last.number

variable {marker}

/-- Lines in front that only add statements do not close the last line. -/
theorem EndsOpen.behind {front ls : List SourceLine} {added : List Statement}
    (hread : ofLines marker (front ++ ls) = (ofLines marker ls).map (added ++ ·))
    (h : EndsOpen marker ls) : EndsOpen marker (front ++ ls) := by
  obtain ⟨statements, hstatements, s, hs, hheader, last, hlast, hline⟩ := h
  rw [hstatements] at hread
  refine ⟨_, hread, s, List.mem_append_right _ hs, hheader, last, ?_, hline⟩
  rw [List.getLast?_append, Option.mem_def.1 hlast]
  rfl

theorem endsOpen_singleton {l : SourceLine} {header : Header} {span : Span}
    (hsilent : ¬l.isSilent = true) (hclause : l.clause marker = .ok ⟨.header header, span⟩) :
    EndsOpen marker [l] := by
  have hread : ofLines marker [l] = .ok [.block ⟨header, l.number, span, none⟩] :=
    ofLines_alone hsilent hclause fun _ h => nomatch h
  exact ⟨_, hread, _, List.mem_cons_self, rfl, l, rfl, rfl⟩

/-- Lines are read on their own, whatever stands above, unless the first of them is taken. -/
theorem ofLines_append {ls ms : List SourceLine}
    (h : (∀ m ∈ ms.head?, m.isIndented = false) ∨ ¬EndsOpen marker ls) :
    ofLines marker (ls ++ ms) =
      (ofLines marker ls).bind fun statements =>
        (ofLines marker ms).map (statements ++ ·) := by
  have hcons (s : Statement) (rest : List SourceLine)
      (ih : ofLines marker (rest ++ ms) = (ofLines marker rest).bind fun statements =>
        (ofLines marker ms).map (statements ++ ·)) :
      (ofLines marker (rest ++ ms)).map (s :: ·) =
        ((ofLines marker rest).map (s :: ·)).bind fun statements =>
          (ofLines marker ms).map (statements ++ ·) := by
    rw [ih]
    cases ofLines marker rest with
    | error e => rfl
    | ok statements => cases ofLines marker ms <;> rfl
  induction ls using ofLines_induction marker with
  | nil =>
    rw [List.nil_append]
    cases ofLines marker ms <;> rfl
  | silent l rest hsilent ih =>
    have hread : ofLines marker ([l] ++ rest) = (ofLines marker rest).map ([] ++ ·) := by
      rw [List.singleton_append, ofLines_silent hsilent]
      cases ofLines marker rest <;> rfl
    rw [List.cons_append, ofLines_silent hsilent, ih (h.imp_right (mt (.behind hread))),
      ofLines_silent hsilent]
  | refused l rest e hsilent hclause =>
    rw [List.cons_append, ofLines_refused hsilent hclause, ofLines_refused hsilent hclause]
    rfl
  | action l rest action span hsilent hclause ih =>
    have hread : ofLines marker ([l] ++ rest) =
        (ofLines marker rest).map ([.simple ⟨action, l.number, span⟩] ++ ·) :=
      ofLines_action hsilent hclause
    rw [List.cons_append, ofLines_action hsilent hclause,
      hcons _ rest (ih (h.imp_right (mt (.behind hread)))), ofLines_action hsilent hclause]
  | alone l rest header span hsilent hclause hrest ih =>
    have hread : ofLines marker ([l] ++ rest) =
        (ofLines marker rest).map ([.block ⟨header, l.number, span, none⟩] ++ ·) :=
      ofLines_alone hsilent hclause hrest
    have hflush : ∀ next ∈ (rest ++ ms).head?, next.isIndented = false := by
      cases rest with
      | nil => exact h.resolve_right fun hclosed => hclosed (endsOpen_singleton hsilent hclause)
      | cons next others => exact hrest
    rw [List.cons_append, ofLines_alone hsilent hclause hflush,
      hcons _ rest (ih (h.imp_right (mt (.behind hread)))), ofLines_alone hsilent hclause hrest]
  | body l next others header span hsilent hclause hnext ih =>
    rw [List.cons_append, List.cons_append, ofLines_body hsilent hclause hnext,
      ofLines_body hsilent hclause hnext]
    cases hbody : next.body marker with
    | error e => rfl
    | ok body =>
      have hread : ofLines marker ([l, next] ++ others) =
          (ofLines marker others).map ([.block ⟨header, l.number, span, body⟩] ++ ·) := by
        change ofLines marker (l :: next :: others) = _
        rw [ofLines_body hsilent hclause hnext, hbody]
        rfl
      exact hcons _ others (ih (h.imp_right (mt (.behind hread))))

end Statement

end Move

/-! ## Whole sources -/

/-- The first line of the source is not indented. -/
def BeginsFlush (source : Text) : Prop :=
  ∀ l ∈ (SourceLine.split source).head?, l.isIndented = false

instance (source : Text) : Decidable (BeginsFlush source) :=
  inferInstanceAs (Decidable (∀ l ∈ (SourceLine.split source).head?, l.isIndented = false))

theorem Text.BeginsVisible.beginsFlush {t : Text} (h : BeginsVisible t) : BeginsFlush t := by
  obtain ⟨c, rest, rfl, hc⟩ := h
  have hne : ∀ d, isBlank d = true → c ≠ d := by
    rintro d hd rfl
    rw [hd] at hc
    exact nomatch hc
  -- The first piece keeps its first character: that is neither a newline nor the carriage return
  -- that its line drops.
  have hpiece : ∃ piece pieces, splitNewlines (c :: rest) = (c :: piece) :: pieces := by
    rw [splitNewlines, if_neg (hne '\n' (by decide))]
    split
    · exact ⟨[], [], rfl⟩
    · next piece pieces _ => exact ⟨piece, pieces, rfl⟩
  obtain ⟨piece, pieces, hsplit⟩ := hpiece
  have hhead := head?_dropCarriage (hne '\r' (by decide)) piece
  intro l hl
  rw [SourceLine.split, hsplit, SourceLine.place] at hl
  obtain rfl := Option.some.inj hl
  have hblank : (c == ' ') = false ∧ (c == '\t') = false :=
    ⟨beq_false_of_ne (hne ' ' (by decide)), beq_false_of_ne (hne '\t' (by decide))⟩
  unfold SourceLine.isIndented
  rw [hhead, Option.some_beq_some, Option.some_beq_some, hblank.1, hblank.2]
  rfl

/-- Of two spells one under the other, the second is read on its own and moved down, unless the
first already decides the error. -/
theorem Statement.ofLines_split_append (marker a : Text) {b : Text}
    (hseam : BeginsFlush b ∨ ¬EndsOpen marker (SourceLine.split a)) :
    ofLines marker (SourceLine.split (a ++ "\n" ++ b)) =
      (ofLines marker (SourceLine.split a)).bind fun statements =>
        (((ofLines marker (SourceLine.split b)).map
          (List.map (Statement.move (SourceLine.split a).length (Text.byteLength a + 1)))).mapError
            (Fault.move (SourceLine.split a).length (Text.byteLength a + 1))).map
              (statements ++ ·) := by
  rw [SourceLine.split_append,
    ofLines_append (hseam.imp_left (SourceLine.head?_map_move_flush (fun _ => _) (fun _ => _))),
    ofLines_move]

theorem Program.read_append {marker a b : Text} {p q : Program} (ha : Program.read marker a = .ok p)
    (hb : Program.read marker b = .ok q) (hflush : BeginsFlush b) :
    ∃ r, Program.read marker (a ++ "\n" ++ b) = .ok r ∧ r.statements = p.statements ++
      q.statements.map (Statement.move (SourceLine.split a).length (Text.byteLength a + 1)) := by
  have hsplit := Statement.ofLines_split_append marker a (.inl hflush)
  rw [Program.statements_of_read ha, Program.statements_of_read hb] at hsplit
  exact ⟨_, Program.read_of_statements hsplit, rfl⟩

/-- If both spells together can be read, so can each of them. -/
theorem Program.exists_both_of_read_append {marker a b : Text} {r : Program}
    (h : Program.read marker (a ++ "\n" ++ b) = .ok r) (hflush : BeginsFlush b) :
    ∃ p q, Program.read marker a = .ok p ∧ Program.read marker b = .ok q ∧
      r.statements = p.statements ++
        q.statements.map (Statement.move (SourceLine.split a).length (Text.byteLength a + 1)) := by
  have hsplit := Program.statements_of_read h
  rw [Statement.ofLines_split_append marker a (.inl hflush)] at hsplit
  cases ha : Statement.ofLines marker (SourceLine.split a) with
  | error e =>
    rw [ha] at hsplit
    exact nomatch hsplit
  | ok statements =>
    rw [ha] at hsplit
    cases hb : Statement.ofLines marker (SourceLine.split b) with
    | error e =>
      rw [hb] at hsplit
      exact nomatch hsplit
    | ok more =>
      rw [hb] at hsplit
      exact ⟨_, _, Program.read_of_statements ha, Program.read_of_statements hb,
        (Except.ok.inj hsplit).symm⟩

/-! ## The first lines and the others -/

/-- A statement stands on one of the lines of its source. -/
theorem Program.line_bounds {marker source : Text} {p : Program}
    (h : Program.read marker source = .ok p) {s : Statement} (hs : s ∈ p.statements) :
    0 < s.line ∧ s.line ≤ (SourceLine.split source).length := by
  obtain ⟨front, l, rest, hsplit, hl⟩ := Statement.stands_of_mem (Program.statements_of_read h) hs
  have hnumber := SourceLine.number_eq_of_split hsplit
  have hlength := congrArg List.length hsplit
  rw [List.length_append, List.length_cons] at hlength
  have hline := hl.line_eq
  omega

/-- The statements that stand on the first lines. -/
def Program.upTo (p : Program) (count : Nat) : List Statement :=
  p.statements.filter fun s => s.line ≤ count

/-- The statements that stand behind the first lines. -/
def Program.beyond (p : Program) (count : Nat) : List Statement :=
  p.statements.filter fun s => count < s.line

theorem Program.upTo_zero {marker source : Text} {p : Program}
    (h : Program.read marker source = .ok p) : p.upTo 0 = [] := by
  apply List.filter_eq_nil_iff.2
  intro s hs
  have hpos := (Program.line_bounds h hs).1
  simp only [decide_eq_true_eq]
  omega

theorem Program.beyond_zero {marker source : Text} {p : Program}
    (h : Program.read marker source = .ok p) : p.beyond 0 = p.statements := by
  apply List.filter_eq_self.2
  intro s hs
  exact decide_eq_true (Program.line_bounds h hs).1

/-- Of two spells one under the other, the first is what stands on its lines, and the second is what
stands behind them. -/
theorem Program.exists_upTo_of_read_append {marker a b : Text} {r : Program}
    (h : Program.read marker (a ++ "\n" ++ b) = .ok r) (hflush : BeginsFlush b) :
    ∃ p, Program.read marker a = .ok p ∧ r.upTo (SourceLine.split a).length = p.statements ∧
      r.statements = p.statements ++ r.beyond (SourceLine.split a).length := by
  obtain ⟨p, q, hp, hq, hstatements⟩ := Program.exists_both_of_read_append h hflush
  have hfirst (s : Statement) (hs : s ∈ p.statements) : s.line ≤ (SourceLine.split a).length :=
    (Program.line_bounds hp hs).2
  have hsecond (s : Statement) (hs : s ∈ q.statements.map
      (Statement.move (SourceLine.split a).length (Text.byteLength a + 1))) :
      (SourceLine.split a).length < s.line := by
    obtain ⟨t, ht, rfl⟩ := List.mem_map.1 hs
    have hpos := (Program.line_bounds hq ht).1
    rw [Statement.line_move]
    omega
  refine ⟨p, hp, ?_, ?_⟩
  · unfold Program.upTo
    rw [hstatements, List.filter_append, List.filter_eq_self.2, List.filter_eq_nil_iff.2,
      List.append_nil]
    · intro s hs
      have hlt := hsecond s hs
      simp only [decide_eq_true_eq]
      omega
    · exact fun s hs => decide_eq_true (hfirst s hs)
  · unfold Program.beyond
    rw [hstatements, List.filter_append, List.filter_eq_nil_iff.2, List.filter_eq_self.2,
      List.nil_append]
    · exact fun s hs => decide_eq_true (hsecond s hs)
    · intro s hs
      have hle := hfirst s hs
      simp only [decide_eq_true_eq]
      omega

/-- The last line of the source is taken as a header, and not as the body of one. -/
def EndsWithHeader (marker source : Text) : Prop :=
  ∃ p ∈ (Program.read marker source).toOption, ∃ s ∈ p.statements,
    s.clause.isHeader = true ∧ s.line = (SourceLine.split source).length

instance (marker source : Text) : Decidable (EndsWithHeader marker source) :=
  inferInstanceAs (Decidable (∃ p ∈ (Program.read marker source).toOption, ∃ s ∈ p.statements,
    s.clause.isHeader = true ∧ s.line = (SourceLine.split source).length))

theorem EndsWithHeader.of_endsOpen {marker source : Text}
    (h : Statement.EndsOpen marker (SourceLine.split source)) : EndsWithHeader marker source := by
  obtain ⟨statements, hstatements, s, hs, hheader, last, hlast, hline⟩ := h
  have hread := Program.read_of_statements hstatements
  refine ⟨_, by rw [hread]; rfl, s, hs, hheader, ?_⟩
  rw [Option.mem_def, List.getLast?_eq_getElem?] at hlast
  have hnumber := SourceLine.number_of_getElem?_split hlast
  have hlength := List.length_pos_of_mem (List.mem_of_getElem? hlast)
  omega

/-- A spell under another is read on its own, and stands further down, unless its first line is
indented and the last line of the other one takes it.  If either cannot be read, neither can both
together: the first that fails decides the error. -/
theorem Program.read_joined {marker a b : Text}
    (hseam : BeginsFlush b ∨ ¬EndsWithHeader marker a) :
    let lines := (SourceLine.split a).length
    let bytes := Text.byteLength a + 1
    Program.read marker (a ++ "\n" ++ b) =
      (Program.read marker a).bind fun p =>
        ((Program.read marker b).mapError (Fault.move lines bytes)).map fun q =>
          ⟨p.statements ++ q.statements.map (Statement.move lines bytes),
            ⟨0, Text.byteLength (a ++ "\n" ++ b)⟩⟩ := by
  intro lines bytes
  have hopen := hseam.imp_right (mt EndsWithHeader.of_endsOpen)
  unfold Program.read
  rw [Statement.ofLines_split_append marker a hopen]
  cases Statement.ofLines marker (SourceLine.split a) with
  | error e => rfl
  | ok statements => cases Statement.ofLines marker (SourceLine.split b) <;> rfl

/-- An indented line behind a body stays a statement of its own. -/
theorem Program.read_joined_indented :
    let a : Text := "xs = ['é']\r\nfor x in xs:\n\tprint(x)\r"
    let b : Text := "  print(x)\nif True:\n print(1)"
    ¬BeginsFlush b ∧ ¬EndsWithHeader "???" a ∧
      (Program.read "???" (a ++ "\n" ++ b)).map (fun r => r.statements.map Statement.line) =
        .ok [1, 2, 4, 5] ∧
      Program.read "???" (a ++ "\n" ++ b) =
        (Program.read "???" a).bind fun p =>
          ((Program.read "???" b).mapError (Fault.move 3 37)).map fun q =>
            ⟨p.statements ++ q.statements.map (Statement.move 3 37), ⟨0, 66⟩⟩ := by
  intro a b
  have hclosed : ¬EndsWithHeader "???" a := by decide +kernel
  have hlines : (SourceLine.split a).length = 3 := by decide +kernel
  have hbytes : Text.byteLength a + 1 = 37 := by decide +kernel
  have hsize : Text.byteLength (a ++ "\n" ++ b) = 66 := by decide +kernel
  have hjoined := read_joined (b := b) (.inr hclosed)
  simp only [hlines, hbytes, hsize] at hjoined
  exact ⟨by decide +kernel, hclosed, by decide +kernel, hjoined⟩

end Spellbook
