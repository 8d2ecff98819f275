import Spellbook.Proofs.Source.Clipped
import Spellbook.Proofs.Source.FirstBlame

/-!
# The guard against blanks

A marker is looked for in every line that says something.  Lines without it are read as if nothing
were looked for, so reading with a marker and without one is the same up to the first line that
holds the marker.  There the reading stops, whatever else may be wrong with the line
(`Program.read_guarded`).
-/

namespace Spellbook

namespace SourceLine

variable {marker : Text} {l : SourceLine}

/-- The line says something and holds the marker. -/
def isMarked (marker : Text) (l : SourceLine) : Bool :=
  !l.isSilent && Text.contains marker l.text

/-- The marker stands in the line behind `before`, and nowhere further in front. -/
def FirstMark (marker before : Text) (l : SourceLine) : Prop :=
  (∃ after, l.text = before ++ marker ++ after) ∧
    ∀ before' after', l.text = before' ++ marker ++ after' → before <+: before'

/-- The error of a line that holds the marker behind `before`. -/
def unfilledAt (marker before : Text) (l : SourceLine) : SyntaxError :=
  let start := l.offset + Text.byteLength before
  ⟨⟨.unfilledBlank marker, ⟨start, start + Text.byteLength marker⟩⟩, l.number⟩

theorem clause_of_not_isMarked (hmarker : marker ≠ []) (hsilent : ¬l.isSilent = true)
    (h : l.isMarked marker = false) : l.clause marker = l.clause [] := by
  have hmissing : Text.contains marker l.text = false := by
    rw [isMarked, Bool.eq_false_iff.2 hsilent] at h
    exact h
  have hfree : l.unfilled? [] = none := rfl
  unfold clause
  rw [(unfilled?_eq_none_iff hmarker).2 hmissing, hfree]

theorem exists_clause_of_isMarked (hmarker : marker ≠ []) (h : l.isMarked marker = true) :
    ¬l.isSilent = true ∧ ∃ before, l.FirstMark marker before ∧
      l.clause marker = .error (l.unfilledAt marker before) := by
  rw [isMarked, Bool.and_eq_true, Bool.not_eq_true', ← Bool.not_eq_true] at h
  obtain ⟨hsilent, hcontains⟩ := h
  obtain ⟨⟨before, after⟩, hcut⟩ := Option.isSome_iff_exists.1 hcontains
  refine ⟨hsilent, before, ⟨⟨after, Text.eq_append_of_cut? hcut⟩, ?_⟩, ?_⟩
  · intro before' after' htext
    exact Text.isPrefix_of_cut? hcut htext
  · have hempty : ¬marker.isEmpty = true := by rwa [List.isEmpty_iff]
    unfold clause unfilled? Text.find?
    rw [if_neg hempty, hcut]
    simp only [Option.map_some, unfilledAt, Blame.shift, Blame.onLine, Span.shift, Nat.add_comm,
      Nat.add_left_comm]

end SourceLine

namespace Statement

variable {marker marker' : Text} {ls : List SourceLine}

/-- Lines that say the same with either marker make the same statements. -/
theorem ofLines_congr
    (h : ∀ l ∈ ls, ¬l.isSilent = true → l.clause marker = l.clause marker') :
    ofLines marker ls = ofLines marker' ls := by
  induction ls using ofLines_induction marker with
  | nil => rfl
  | silent l rest hsilent ih =>
    rw [ofLines_silent hsilent, ofLines_silent hsilent]
    exact ih fun m hm => h m (List.mem_cons_of_mem l hm)
  | refused l rest e hsilent hclause =>
    have hclause' := (h l List.mem_cons_self hsilent).symm.trans hclause
    rw [ofLines_refused hsilent hclause, ofLines_refused hsilent hclause']
  | action l rest action span hsilent hclause ih =>
    have hclause' := (h l List.mem_cons_self hsilent).symm.trans hclause
    rw [ofLines_action hsilent hclause, ofLines_action hsilent hclause',
      ih fun m hm => h m (List.mem_cons_of_mem l hm)]
  | alone l rest header span hsilent hclause hflush ih =>
    have hclause' := (h l List.mem_cons_self hsilent).symm.trans hclause
    rw [ofLines_alone hsilent hclause hflush, ofLines_alone hsilent hclause' hflush,
      ih fun m hm => h m (List.mem_cons_of_mem l hm)]
  | body l next others header span hsilent hclause hindented ih =>
    have hclause' := (h l List.mem_cons_self hsilent).symm.trans hclause
    have hbody : next.body marker = next.body marker' := by
      unfold SourceLine.body
      split
      · rfl
      · next hspeaks => rw [h next (List.mem_cons_of_mem l List.mem_cons_self) hspeaks]
    rw [ofLines_body hsilent hclause hindented, ofLines_body hsilent hclause' hindented, hbody,
      ih fun m hm => h m (List.mem_cons_of_mem l (List.mem_cons_of_mem next hm))]

theorem ofLines_of_not_isMarked (hmarker : marker ≠ [])
    (h : ∀ l ∈ ls, l.isMarked marker = false) : ofLines marker ls = ofLines [] ls :=
  ofLines_congr fun l hl hsilent => SourceLine.clause_of_not_isMarked hmarker hsilent (h l hl)

end Statement

/-! ## Whole sources -/

section Whole

variable {marker source : Text} {front rest : List SourceLine} {k : SourceLine} {e : SyntaxError}

theorem Program.read_eq_error_iff :
    Program.read marker source = .error e ↔
      Statement.ofLines marker (SourceLine.split source) = .error e := by
  constructor
  · exact error_of_map_eq_error
  · intro h
    rw [Program.read, h]
    rfl

variable (hmarker : marker ≠ []) (hsplit : SourceLine.split source = front ++ k :: rest)
  (hfront : ∀ l ∈ front, l.isMarked marker = false)

include hmarker hsplit hfront

/-- An error in front of the first marked line is reported. -/
theorem Program.read_of_error_in_front (h : Program.read [] source = .error e)
    (hline : e.line < k.number) : Program.read marker source = .error e := by
  rw [Program.read_eq_error_iff] at h ⊢
  rw [SourceLine.number_eq_of_split hsplit] at hline
  have herror := (Statement.ofLines_front_eq_error_iff hsplit).2 ⟨h, Nat.le_of_lt_succ hline⟩
  rw [← Statement.ofLines_of_not_isMarked hmarker hfront] at herror
  exact ((Statement.ofLines_front_eq_error_iff hsplit).1 herror).1

/-- Where nothing is wrong in front of it, the first marked line is reported. -/
theorem Program.read_of_first_isMarked (hk : k.isMarked marker = true)
    (h : ∀ e, Program.read [] source = .error e → k.number ≤ e.line) :
    ∃ before, k.FirstMark marker before ∧
      Program.read marker source = .error (k.unfilledAt marker before) := by
  obtain ⟨hsilent, before, hfirst, hclause⟩ := SourceLine.exists_clause_of_isMarked hmarker hk
  refine ⟨before, hfirst, ?_⟩
  rw [Program.read_eq_error_iff, hsplit]
  cases hread : Statement.ofLines [] front with
  | error e =>
    obtain ⟨herror, hline⟩ := (Statement.ofLines_front_eq_error_iff hsplit).1 hread
    have hlate := h e (Program.read_eq_error_iff.2 herror)
    rw [SourceLine.number_eq_of_split hsplit] at hlate
    omega
  | ok statements =>
    rw [← Statement.ofLines_of_not_isMarked hmarker hfront] at hread
    exact (Statement.stopsAt_of_clause hread hsilent hclause).refused rest

end Whole

/-- Reading with a marker goes as reading without one up to the first line that says something and
holds the marker.  Only an error on a line in front of that one is reported before it; anything else
that may be wrong is not.  So nothing that holds the marker is ever read. -/
theorem Program.read_guarded {marker : Text} (hmarker : marker ≠ []) (source : Text) :
    ((SourceLine.split source).find? (SourceLine.isMarked marker) = none →
      Program.read marker source = Program.read [] source) ∧
    (∀ k, (SourceLine.split source).find? (SourceLine.isMarked marker) = some k →
      (∀ e, Program.read [] source = .error e → e.line < k.number →
        Program.read marker source = .error e) ∧
      ((∀ e, Program.read [] source = .error e → k.number ≤ e.line) →
        ∃ before, k.FirstMark marker before ∧
          Program.read marker source = .error (k.unfilledAt marker before))) ∧
    (∀ p, Program.read marker source = .ok p →
      ∀ l ∈ SourceLine.split source, l.isMarked marker = false) := by
  have hnone (h : (SourceLine.split source).find? (SourceLine.isMarked marker) = none) :
      ∀ l ∈ SourceLine.split source, l.isMarked marker = false := by
    simpa using h
  have hsome {k : SourceLine}
      (h : (SourceLine.split source).find? (SourceLine.isMarked marker) = some k) :
      k.isMarked marker = true ∧ ∃ front rest, SourceLine.split source = front ++ k :: rest ∧
        ∀ l ∈ front, l.isMarked marker = false := by
    simpa using List.find?_eq_some_iff_append.1 h
  refine ⟨?_, ?_, ?_⟩
  · intro h
    unfold Program.read
    rw [Statement.ofLines_of_not_isMarked hmarker (hnone h)]
  · intro k h
    obtain ⟨hk, front, rest, hsplit, hfront⟩ := hsome h
    exact ⟨fun e => read_of_error_in_front hmarker hsplit hfront,
      read_of_first_isMarked hmarker hsplit hfront hk⟩
  · intro p hp
    cases h : (SourceLine.split source).find? (SourceLine.isMarked marker) with
    | none => exact hnone h
    | some k =>
      -- A marked line gives an error, whichever it is.
      obtain ⟨hk, front, rest, hsplit, hfront⟩ := hsome h
      by_cases hlate : ∀ e, Program.read [] source = .error e → k.number ≤ e.line
      · obtain ⟨before, -, herror⟩ := read_of_first_isMarked hmarker hsplit hfront hk hlate
        rw [herror] at hp
        contradiction
      · simp only [not_forall, not_le, exists_prop] at hlate
        obtain ⟨e, he, hline⟩ := hlate
        rw [read_of_error_in_front hmarker hsplit hfront he hline] at hp
        contradiction

/-- Only the comment behind a body holds the marker, and the comment on a line of its own does not
count: without a marker the spell can be read, and with it the body is refused. -/
theorem Program.read_guarded_body :
    let source : Text := "xs = ['é']\r\n# ???\nfor x in xs:\n\tprint(x) # a ??? b ???"
    let k : SourceLine := ⟨4, 32, "\tprint(x) # a ??? b ???"⟩
    (∃ p, Program.read [] source = .ok p) ∧
      (SourceLine.split source).find? (SourceLine.isMarked "???") = some k ∧
      ∃ before, k.FirstMark "???" before ∧
        Program.read "???" source = .error (k.unfilledAt "???" before) := by
  intro source k
  have hmap : (Program.read [] source).map (fun _ => ()) = .ok () := by decide +kernel
  obtain ⟨p, hread, -⟩ := exists_of_map_eq_ok hmap
  have hfind : (SourceLine.split source).find? (SourceLine.isMarked "???") = some k := by
    decide +kernel
  obtain ⟨-, hmarked, -⟩ := read_guarded (by decide : ("???" : Text) ≠ []) source
  refine ⟨⟨p, hread⟩, hfind, (hmarked k hfind).2 fun e he => ?_⟩
  rw [hread] at he
  cases he

end Spellbook
