import Spellbook.Proofs.Text.Join
import Spellbook.Proofs.Text.Lines
import Spellbook.Source.Program

/-!
# The lines of a spell and its statements

Where the lines of a source stand, and what a line does to the statements: it is silent, it cannot
be read, it is an action, or it is a header, which takes the next line if that is indented and is
alone otherwise.  `Statement.ofLines_induction` is the induction with these cases.
-/

namespace Spellbook

/-! ## Lines in their source -/

namespace SourceLine

/-- The line in a source with more lines and more bytes in front. -/
def move (lines bytes : Nat) (l : SourceLine) : SourceLine :=
  ⟨l.number + lines, l.offset + bytes, l.text⟩

@[simp] theorem isSilent_move (lines bytes : Nat) (l : SourceLine) :
    (l.move lines bytes).isSilent = l.isSilent := rfl

@[simp] theorem length_place (number offset : Nat) (pieces : List Text) :
    (place number offset pieces).length = pieces.length := by
  induction pieces generalizing number offset with
  | nil => rfl
  | cons piece pieces ih => rw [place, List.length_cons, ih, List.length_cons]

theorem place_move (number offset lines bytes : Nat) (pieces : List Text) :
    place (number + lines) (offset + bytes) pieces =
      (place number offset pieces).map (move lines bytes) := by
  induction pieces generalizing number offset with
  | nil => rfl
  | cons piece pieces ih =>
    have hnumber : number + lines + 1 = number + 1 + lines := by omega
    have hoffset : offset + bytes + Text.byteLength piece + 1 =
        offset + Text.byteLength piece + 1 + bytes := by omega
    rw [place, place, List.map_cons, hnumber, hoffset, ih]
    rfl

theorem place_append (number offset : Nat) {pieces more : List Text} (h : pieces ≠ []) :
    place number offset (pieces ++ more) = place number offset pieces ++
      place (number + pieces.length) (offset + Text.byteLength (Text.join "\n" pieces) + 1)
        more := by
  induction pieces generalizing number offset with
  | nil => exact absurd rfl h
  | cons piece pieces ih =>
    by_cases hpieces : pieces = []
    · subst hpieces
      rw [Text.join_singleton]
      rfl
    · have hnumber : number + (piece :: pieces).length = number + 1 + pieces.length := by
        rw [List.length_cons]
        omega
      have hoffset : offset + Text.byteLength (Text.join "\n" (piece :: pieces)) + 1 =
          offset + Text.byteLength piece + 1 + Text.byteLength (Text.join "\n" pieces) + 1 := by
        have hnewline : Text.byteLength ("\n" : Text) = 1 := by decide
        rw [Text.join_cons_of_ne_nil "\n" piece hpieces, Text.byteLength_append,
          Text.byteLength_append, hnewline]
        omega
      rw [List.cons_append, place, ih _ _ hpieces, hnumber, hoffset, place, List.cons_append]

theorem split_append (a b : Text) :
    split (a ++ "\n" ++ b) =
      split a ++ (split b).map (move (split a).length (Text.byteLength a + 1)) := by
  unfold split
  rw [Text.splitNewlines_append, place_append 1 0 (Text.splitNewlines_ne_nil a),
    Text.join_splitNewlines, length_place, ← place_move, Nat.zero_add, Nat.zero_add]

theorem number_of_getElem?_place {number offset : Nat} {pieces : List Text} {i : Nat}
    {l : SourceLine} (h : (place number offset pieces)[i]? = some l) : l.number = number + i := by
  induction pieces generalizing number offset i with
  | nil => exact nomatch h
  | cons piece pieces ih =>
    cases i with
    | zero =>
      obtain rfl := Option.some.inj h
      rfl
    | succ i =>
      have hnumber := ih h
      omega

theorem number_of_getElem?_split {source : Text} {i : Nat} {l : SourceLine}
    (h : (split source)[i]? = some l) : l.number = i + 1 := by
  have hnumber := number_of_getElem?_place h
  omega

theorem number_eq_of_split {source : Text} {front rest : List SourceLine} {l : SourceLine}
    (h : split source = front ++ l :: rest) : l.number = front.length + 1 := by
  have hat : (split source)[front.length]? = some l := by
    rw [h, List.getElem?_append_right (Nat.le_refl _), Nat.sub_self]
    rfl
  exact number_of_getElem?_split hat

theorem mem_split_of_head? {source : Text} {front rest : List SourceLine} {l next : SourceLine}
    (hsplit : split source = front ++ l :: rest) (hnext : next ∈ rest.head?) :
    next ∈ split source := by
  rw [hsplit]
  exact List.mem_append_right front (List.mem_cons_of_mem l (List.mem_of_head? hnext))

/-- The line with the next number is the one right behind. -/
theorem number_eq_succ_iff {source : Text} {front rest : List SourceLine} {l m : SourceLine}
    (hsplit : split source = front ++ l :: rest) (hm : m ∈ split source) :
    m.number = l.number + 1 ↔ m ∈ rest.head? := by
  have hnext : (split source)[front.length + 1]? = rest.head? := by
    rw [hsplit, List.getElem?_append_right (Nat.le_add_right _ 1), Nat.add_sub_cancel_left,
      List.getElem?_cons_succ, List.head?_eq_getElem?]
  have hlnumber := number_eq_of_split hsplit
  constructor
  · intro hnumber
    obtain ⟨i, hi⟩ := List.mem_iff_getElem?.1 hm
    have hmnumber := number_of_getElem?_split hi
    have hindex : i = front.length + 1 := by omega
    rwa [hindex, hnext] at hi
  · intro hhead
    have hmnumber := number_of_getElem?_split (hnext.trans hhead)
    omega

theorem pairwise_number_place (number offset : Nat) (pieces : List Text) :
    ((place number offset pieces).map SourceLine.number).Pairwise (· < ·) := by
  apply List.pairwise_map.2
  rw [List.pairwise_iff_getElem]
  intro i j hi hj hlt
  have hfirst := number_of_getElem?_place (List.getElem?_eq_getElem hi)
  have hsecond := number_of_getElem?_place (List.getElem?_eq_getElem hj)
  omega

theorem exists_piece_of_mem_place {number offset : Nat} {pieces : List Text} {l : SourceLine}
    (h : l ∈ place number offset pieces) : ∃ piece ∈ pieces, l.text = Text.dropCarriage piece := by
  induction pieces generalizing number offset with
  | nil => exact nomatch h
  | cons piece pieces ih =>
    rcases List.mem_cons.1 h with rfl | h
    · exact ⟨piece, List.mem_cons_self, rfl⟩
    · obtain ⟨piece', hpiece, htext⟩ := ih h
      exact ⟨piece', List.mem_cons_of_mem _ hpiece, htext⟩

theorem isIndented_dropCarriage {l : SourceLine} (h : l.isIndented = true) (number offset : Nat) :
    isIndented ⟨number, offset, Text.dropCarriage l.text⟩ = true := by
  unfold isIndented at h ⊢
  cases htext : l.text with
  | nil =>
    rw [htext] at h
    exact nomatch h
  | cons c t =>
    have hc : c ≠ '\r' := by
      rintro rfl
      rw [htext] at h
      exact nomatch h
    rw [htext] at h
    rwa [Text.head?_dropCarriage hc]

theorem newline_notMem_of_mem_split {source : Text} {l : SourceLine} (h : l ∈ split source) :
    '\n' ∉ l.text := by
  obtain ⟨piece, hpiece, htext⟩ := exists_piece_of_mem_place h
  rw [htext]
  exact Text.newline_notMem_dropCarriage (Text.newline_notMem_of_mem hpiece)

theorem split_of_notMem {t : Text} (h : '\n' ∉ t) : split t = [⟨1, 0, Text.dropCarriage t⟩] := by
  rw [split, Text.splitNewlines_of_notMem h]
  rfl

end SourceLine

/-! ## Clauses on lines -/

namespace SourceLine

variable {marker : Text} {l : SourceLine}

/-- A clause on a line is what is read from the text of the line. -/
theorem exists_read_of_clause {c : Clause} (h : l.clause marker = .ok c) :
    l.unfilled? marker = none ∧ ∃ d, Clause.read l.text = .ok d ∧ c = d.shift l.offset := by
  unfold clause at h
  cases hfilled : l.unfilled? marker with
  | some blame =>
    rw [hfilled] at h
    exact nomatch h
  | none =>
    rw [hfilled] at h
    cases hread : Clause.read l.text with
    | error blame =>
      rw [hread] at h
      exact nomatch h
    | ok d =>
      rw [hread] at h
      exact ⟨rfl, d, rfl, (Except.ok.inj h).symm⟩

theorem clause_of_read {d : Clause} (hfilled : l.unfilled? marker = none)
    (h : Clause.read l.text = .ok d) : l.clause marker = .ok (d.shift l.offset) := by
  rw [clause, hfilled, h]

/-! ### Errors on lines -/

variable {e : SyntaxError}

theorem line_of_clause (h : l.clause marker = .error e) : e.line = l.number := by
  unfold clause at h
  split at h
  · rw [← Except.error.inj h]
    rfl
  · split at h
    · rw [← Except.error.inj h]
      rfl
    · contradiction

theorem body_of_clause (hsilent : ¬l.isSilent = true) (h : l.clause marker = .error e) :
    l.body marker = .error e := by
  rw [body, if_neg hsilent, h]

theorem line_of_body (h : l.body marker = .error e) : e.line = l.number := by
  unfold body at h
  split at h
  · contradiction
  · rcases hclause : l.clause marker with e' | ⟨action | header, span⟩
    · rw [hclause] at h
      rw [← Except.error.inj h]
      exact line_of_clause hclause
    · rw [hclause] at h
      contradiction
    · rw [hclause] at h
      rw [← Except.error.inj h]

end SourceLine

/-! ## From lines to statements -/

theorem exists_of_map_eq_ok {ε α β : Type} {x : Except ε α} {g : α → β} {b : β}
    (h : x.map g = .ok b) : ∃ a, x = .ok a ∧ g a = b := by
  cases x with
  | error e => exact nomatch h
  | ok a => exact ⟨a, rfl, Except.ok.inj h⟩

theorem error_of_map_eq_error {ε α β : Type} {x : Except ε α} {g : α → β} {e : ε}
    (h : x.map g = .error e) : x = .error e := by
  cases x with
  | error e' => exact congrArg Except.error (Except.error.inj h)
  | ok a => exact nomatch h

namespace Statement

variable {marker : Text} {l next : SourceLine} {rest others : List SourceLine} {span : Span}

theorem ofLines_silent (h : l.isSilent = true) :
    ofLines marker (l :: rest) = ofLines marker rest := by
  rw [ofLines, if_pos h]

theorem ofLines_refused {e : SyntaxError} (h : ¬l.isSilent = true)
    (hclause : l.clause marker = .error e) : ofLines marker (l :: rest) = .error e := by
  rw [ofLines, if_neg h, hclause]

theorem ofLines_action {action : Action} (h : ¬l.isSilent = true)
    (hclause : l.clause marker = .ok ⟨.action action, span⟩) :
    ofLines marker (l :: rest) =
      (ofLines marker rest).map (.simple ⟨action, l.number, span⟩ :: ·) := by
  rw [ofLines, if_neg h, hclause]

theorem ofLines_alone {header : Header} (h : ¬l.isSilent = true)
    (hclause : l.clause marker = .ok ⟨.header header, span⟩)
    (hrest : ∀ next ∈ rest.head?, next.isIndented = false) :
    ofLines marker (l :: rest) =
      (ofLines marker rest).map (.block ⟨header, l.number, span, none⟩ :: ·) := by
  rw [ofLines, if_neg h, hclause]
  cases rest with
  | nil => rfl
  | cons next others =>
    dsimp only
    rw [if_neg (Bool.eq_false_iff.1 (hrest next rfl))]

theorem ofLines_body {header : Header} (h : ¬l.isSilent = true)
    (hclause : l.clause marker = .ok ⟨.header header, span⟩) (hnext : next.isIndented = true) :
    ofLines marker (l :: next :: others) =
      (next.body marker).bind fun body =>
        (ofLines marker others).map (.block ⟨header, l.number, span, body⟩ :: ·) := by
  rw [ofLines, if_neg h, hclause]
  dsimp only
  rw [if_pos hnext]
  cases next.body marker <;> rfl

/-- Lines are read one at a time, but for a header that takes the next line. -/
theorem ofLines_induction (marker : Text) {motive : List SourceLine → Prop}
    (nil : motive [])
    (silent : ∀ l rest, l.isSilent = true → motive rest → motive (l :: rest))
    (refused : ∀ l rest e, ¬l.isSilent = true → l.clause marker = .error e → motive (l :: rest))
    (action : ∀ l rest action span, ¬l.isSilent = true →
      l.clause marker = .ok ⟨.action action, span⟩ → motive rest → motive (l :: rest))
    (alone : ∀ l rest header span, ¬l.isSilent = true →
      l.clause marker = .ok ⟨.header header, span⟩ →
      (∀ next ∈ rest.head?, next.isIndented = false) → motive rest → motive (l :: rest))
    (body : ∀ l next others header span, ¬l.isSilent = true →
      l.clause marker = .ok ⟨.header header, span⟩ → next.isIndented = true →
      motive others → motive (l :: next :: others))
    (ls : List SourceLine) : motive ls := by
  induction hlength : ls.length using Nat.strongRecOn generalizing ls with
  | ind length ih =>
    subst hlength
    cases ls with
    | nil => exact nil
    | cons l rest =>
      have hrest : motive rest := ih rest.length (by simp) rest rfl
      by_cases h : l.isSilent = true
      · exact silent l rest h hrest
      rcases hclause : l.clause marker with e | ⟨a | header, span⟩
      · exact refused l rest e h hclause
      · exact action l rest a span h hclause hrest
      · cases rest with
        | nil => exact alone l [] header span h hclause (by simp) hrest
        | cons next others =>
          cases hnext : next.isIndented with
          | false => exact alone l _ header span h hclause (by simpa using hnext) hrest
          | true =>
            have hshorter : others.length < (l :: next :: others).length := by
              rw [List.length_cons, List.length_cons]
              omega
            have hothers : motive others := ih others.length hshorter others rfl
            exact body l next others header span h hclause hnext hothers

end Statement

/-! ## Whole sources -/

theorem Program.read_nil (marker : Text) : Program.read marker [] = .ok ⟨[], ⟨0, 0⟩⟩ := by
  have hsilent : SourceLine.isSilent ⟨1, 0, []⟩ = true := rfl
  unfold Program.read SourceLine.split
  simp only [Text.splitNewlines, SourceLine.place, Text.dropCarriage, List.getLast?_nil,
    reduceCtorEq, if_false, Statement.ofLines, hsilent, if_true]
  rfl

theorem Program.statements_of_read {marker source : Text} {p : Program}
    (h : Program.read marker source = .ok p) :
    Statement.ofLines marker (SourceLine.split source) = .ok p.statements := by
  unfold Program.read at h
  cases hstatements : Statement.ofLines marker (SourceLine.split source) with
  | error e =>
    rw [hstatements] at h
    exact nomatch h
  | ok statements =>
    rw [hstatements] at h
    rw [← Except.ok.inj h]

theorem Program.read_of_statements {marker source : Text} {statements : List Statement}
    (h : Statement.ofLines marker (SourceLine.split source) = .ok statements) :
    Program.read marker source = .ok ⟨statements, ⟨0, Text.byteLength source⟩⟩ := by
  rw [Program.read, h]
  rfl

end Spellbook
