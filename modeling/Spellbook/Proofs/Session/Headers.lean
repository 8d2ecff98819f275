import Spellbook.Proofs.Session.Seam
import Spellbook.Proofs.Source.Clipped

/-!
# Headers in a session

A header waits for the line behind it.  That line is set in and stands right below the header
in the same entry, so the statements of the spell become one more: a block, whose body the
line is (`Session.header_waits`).  A session without a marker takes every line to hold the
marker.  So it tries a header at once, without a body, and what is meant to be the body
becomes a statement of its own.
-/

namespace Spellbook

/-! ## Lines that can be read -/

theorem Header.exists_cons_of_spelled {header : Header} {tokens : List Text}
    (h : header.Spelled tokens) : ∃ v others, tokens = v :: others := by
  cases header with
  | branch condition =>
    obtain ⟨inner, -, rfl⟩ := h
    exact ⟨_, _, rfl⟩
  | loop variableName iterable =>
    obtain ⟨-, -, rfl⟩ := h
    exact ⟨_, _, rfl⟩

theorem SourceLine.isIndented_eq_false {l : SourceLine} (h : l.text.BeginsVisible) :
    l.isIndented = false := by
  obtain ⟨c, rest, htext, hc⟩ := h
  have hne (d : Char) (hd : Text.isBlank d = true) : (some c == some d) = false := by
    apply beq_false_of_ne
    rintro ⟨⟩
    rw [hd] at hc
    contradiction
  rw [isIndented, htext, List.head?_cons, hne ' ' (by decide), hne '\t' (by decide)]
  rfl

/-- A header on a line of its own is followed by the line behind it, which makes one block. -/
theorem Statement.ofLines_header {marker : Text} {l next : SourceLine} {header : Header}
    {span : Span} (hsilent : ¬l.isSilent = true)
    (hclause : l.clause marker = .ok ⟨.header header, span⟩)
    (hnext : next.isIndented = true) :
    ofLines marker [l, next] =
      (next.body marker).map fun body => [.block ⟨header, l.number, span, body⟩] := by
  rw [ofLines_body hsilent hclause hnext]
  cases next.body marker <;> rfl

namespace Session

variable {config : SessionConfig} {s : Session} {line next : Text}

/-! ## The line that is a header -/

/-- The trimmed line is a header that can be read. -/
theorem exists_header_of_opensBlock {t : Text} (h : opensBlock t = true) :
    ∃ header span, Clause.read t = .ok ⟨.header header, span⟩ := by
  unfold opensBlock at h
  rcases hread : Clause.read t with e | ⟨action | header, span⟩
  · rw [hread] at h
    contradiction
  · rw [hread] at h
    contradiction
  · exact ⟨header, span, rfl⟩

theorem speaks_of_opensBlock {t : Text} (h : opensBlock t = true) :
    ¬(t.isEmpty = true ∨ t.head? = some '#') ∧ t.head? ≠ some '/' := by
  obtain ⟨header, span, hread⟩ := exists_header_of_opensBlock h
  obtain ⟨tokens, hspelled, hlaid⟩ := Clause.isLayout_of_read hread
  obtain ⟨v, others, rfl⟩ := Header.exists_cons_of_spelled hspelled
  exact ⟨hlaid.speaks, hlaid.head?_ne_slash⟩

/-- A header waits, unless the marker is found in it. -/
theorem demand_of_opensBlock (hpending : s.pending = none)
    (hheader : opensBlock (Text.trim line) = true) :
    s.demand line =
      if Text.contains s.config.settings.marker (Text.trim line) then .trial (Text.trim line)
      else .wait (Text.trim line) := by
  obtain ⟨hspeaks, hslash⟩ := speaks_of_opensBlock hheader
  rw [demand_of_none hpending, Demand.ofEntry, if_neg hspeaks, if_neg hslash, hheader,
    Bool.true_and]
  cases Text.contains s.config.settings.marker (Text.trim line) <;> rfl

theorem trim_ne_nil_of_opensBlock (hheader : opensBlock (Text.trim line) = true) :
    Text.trim line ≠ [] := by
  intro hnil
  exact (speaks_of_opensBlock hheader).1 (.inl (List.isEmpty_iff.2 hnil))

/-! ## The line behind it -/

theorem newline_notMem_indentBody (h : '\n' ∉ next) : '\n' ∉ indentBody next := by
  unfold indentBody
  split
  · exact h
  · rw [List.mem_append, not_or]
    exact ⟨by decide, h⟩

theorem isIndented_of_text_eq {m : SourceLine} (h : m.text = Text.dropCarriage (indentBody next)) :
    m.isIndented = true := by
  have hbody : SourceLine.isIndented ⟨m.number, m.offset, indentBody next⟩ = true := by
    unfold indentBody SourceLine.isIndented
    split
    · next hindented =>
      rw [Bool.or_eq_true, beq_iff_eq, beq_iff_eq]
      exact hindented
    · rfl
  have hkept := SourceLine.isIndented_dropCarriage hbody m.number m.offset
  unfold SourceLine.isIndented at hkept ⊢
  rw [h]
  exact hkept

/-- Whether it is kept or not, the entry was tried at the end of the buffer. -/
theorem IsClean.lastSource_accept (hs : s.IsClean) (entry : Text) :
    (s.accept entry).2.lastSource = spell (s.entries ++ [entry]) := by
  cases hrun : (evaluate s.config.settings (spell (s.entries ++ [entry]))).failure with
  | some failure => rw [hs.accept_of_fails hrun]
  | none => rw [hs.accept_of_runs hrun]

/-- The lines of a spell with one more entry of two lines. -/
theorem exists_split_spell (s : Session) {first second : Text} (hfirst : '\n' ∉ first)
    (hsecond : '\n' ∉ second) :
    ∃ l m, l.text = Text.dropCarriage first ∧ m.text = Text.dropCarriage second ∧
      SourceLine.split (spell (s.entries ++ [first ++ "\n" ++ second])) =
        (SourceLine.split s.buffer).take s.lineCount ++ [l, m] := by
  have hentry : SourceLine.split (first ++ "\n" ++ second) =
      [⟨1, 0, Text.dropCarriage first⟩,
        SourceLine.move 1 (Text.byteLength first + 1) ⟨1, 0, Text.dropCarriage second⟩] := by
    rw [SourceLine.split_append, SourceLine.split_of_notMem hfirst,
      SourceLine.split_of_notMem hsecond]
    rfl
  unfold lineCount
  by_cases hentries : s.entries = []
  · rw [if_pos (List.isEmpty_iff.2 hentries), spell_of_entries_eq_nil hentries, hentry]
    exact ⟨_, _, rfl, rfl, rfl⟩
  · rw [if_neg (mt List.isEmpty_iff.1 hentries), spell_of_entries_ne_nil hentries,
      SourceLine.split_append, hentry, List.take_length]
    exact ⟨_, _, rfl, rfl, rfl⟩

/-- The buffer can be read, and its statements stand on its lines. -/
theorem IsClean.exists_statements (hs : s.IsClean) :
    ∃ p, Program.read s.config.settings.marker s.buffer = .ok p ∧
      Statement.ofLines s.config.settings.marker ((SourceLine.split s.buffer).take s.lineCount) =
        .ok p.statements := by
  obtain ⟨p, hread, -⟩ := exists_of_evaluate_runs (hs.runs s.entries List.prefix_rfl)
  refine ⟨p, hread, ?_⟩
  unfold lineCount
  by_cases hentries : s.entries = []
  · have hbuffer : Program.read s.config.settings.marker [] = .ok p := by
      rw [← buffer_of_entries_eq_nil hentries]
      exact hread
    rw [Program.read_nil] at hbuffer
    rw [if_pos (List.isEmpty_iff.2 hentries), ← Except.ok.inj hbuffer]
    rfl
  · rw [if_neg (mt List.isEmpty_iff.1 hentries), List.take_length]
    exact Program.statements_of_read hread

/-- The source is the buffer with two more lines, and the second of them is indented.  The first
is a header, so the statements are those of the buffer and one block more, with the second line
for its body.  If that cannot be a body, the source cannot be read. -/
structure EndsWithBlock (s : Session) (source : Text) (l next : SourceLine) : Prop where
  lines : SourceLine.split source = (SourceLine.split s.buffer).take s.lineCount ++ [l, next]
  isIndented : next.isIndented = true
  reads : ∃ p header span, Program.read s.config.settings.marker s.buffer = .ok p ∧
    l.clause s.config.settings.marker = .ok ⟨.header header, span⟩ ∧
    (Program.read s.config.settings.marker source).map Program.statements =
      (next.body s.config.settings.marker).map fun body =>
        p.statements ++ [.block ⟨header, l.number, span, body⟩]

theorem IsClean.endsWithBlock (hs : s.IsClean) (hnewline : '\n' ∉ line) (hnext : '\n' ∉ next)
    (hheader : opensBlock (Text.trim line) = true) (hmarker : s.config.settings.marker ≠ [])
    (hfree : Text.contains s.config.settings.marker (Text.trim line) = false) :
    ∃ l m, l.text = Text.trim line ∧ m.text = Text.dropCarriage (indentBody next) ∧
      s.EndsWithBlock (spell (s.entries ++ [Text.trim line ++ "\n" ++ indentBody next])) l m := by
  have htrim : '\n' ∉ Text.trim line := fun hmem =>
    hnewline ((Text.clips_trim line).isInfix.subset hmem)
  obtain ⟨l, m, hl, hm, hsplit⟩ :=
    exists_split_spell s htrim (newline_notMem_indentBody hnext)
  rw [Text.dropCarriage_trim] at hl
  have hflush : l.isIndented = false := by
    apply SourceLine.isIndented_eq_false
    rw [hl]
    exact Text.beginsVisible_trim (trim_ne_nil_of_opensBlock hheader)
  have hsilent : ¬l.isSilent = true := by
    unfold SourceLine.isSilent
    rw [hl, ← (Text.clips_trim line).trim_eq, Bool.or_eq_true, beq_iff_eq]
    exact (speaks_of_opensBlock hheader).1
  have hindented : m.isIndented = true := isIndented_of_text_eq hm
  obtain ⟨header, span, hread⟩ := exists_header_of_opensBlock hheader
  have hfilled : l.unfilled? s.config.settings.marker = none := by
    rw [SourceLine.unfilled?_eq_none_iff hmarker, hl]
    exact hfree
  rw [← hl] at hread
  have hclause := SourceLine.clause_of_read hfilled hread
  obtain ⟨p, hbuffer, hstatements⟩ := hs.exists_statements
  refine ⟨l, m, hl, hm, hsplit, hindented, p, _, _, hbuffer, hclause, ?_⟩
  -- The header is not indented, so it is not the body of a header at the end of the buffer.
  have hseam : ∀ first ∈ [l, m].head?, first.isIndented = false := fun first hfirst =>
    Option.some.inj hfirst ▸ hflush
  unfold Program.read
  rw [hsplit, Statement.ofLines_append (.inl hseam), hstatements,
    Statement.ofLines_header hsilent hclause hindented]
  cases m.body s.config.settings.marker <;> rfl

/-! ## The main result -/

/-- Without a pending header, a line that is a header without the marker waits: nothing changes but
that it is pending.  The next line is then tried in one entry with it, and is the body of its block.
If the marker is empty, the header is tried at once, and nothing is pending. -/
theorem header_waits (h : Reachable config s) (hpending : s.pending = none)
    (hnewline : '\n' ∉ line) (hheader : opensBlock (Text.trim line) = true)
    (hfree : config.settings.marker ≠ [] →
      Text.contains config.settings.marker (Text.trim line) = false) :
    (config.settings.marker ≠ [] →
      s.feed line = (.ok .awaitingBody, { s with pending := some (Text.trim line) }) ∧
      ∀ next, '\n' ∉ next →
        let answered := (s.feed line).2.feed next
        answered = s.accept (Text.trim line ++ "\n" ++ indentBody next) ∧
        ∃ l m, l.text = Text.trim line ∧ m.text = Text.dropCarriage (indentBody next) ∧
          s.EndsWithBlock answered.2.lastSource l m) ∧
    (config.settings.marker = [] →
      s.feed line = s.accept (Text.trim line) ∧ (s.feed line).2.pending = none) := by
  obtain rfl := h.config_eq
  have hdemand := demand_of_opensBlock hpending hheader
  have hcancel := cancel_of_pending hpending
  constructor
  · intro hmarker
    have hfeed :
        s.feed line = (.ok .awaitingBody, { s with pending := some (Text.trim line) }) := by
      rw [feed_eq_meet, hdemand, hfree hmarker]
      rfl
    refine ⟨hfeed, ?_⟩
    intro next hnext answered
    have hanswered : answered = s.accept (Text.trim line ++ "\n" ++ indentBody next) := by
      calc answered
          = feed { s with pending := some (Text.trim line) } next :=
            congrArg (fun step => step.2.feed next) hfeed
        _ = s.cancel.accept (Text.trim line ++ "\n" ++ indentBody next) := rfl
        _ = s.accept (Text.trim line ++ "\n" ++ indentBody next) := by rw [hcancel]
    refine ⟨hanswered, ?_⟩
    rw [hanswered, h.isClean.lastSource_accept]
    exact h.isClean.endsWithBlock hnewline hnext hheader hmarker (hfree hmarker)
  · intro hmarker
    have hfeed : s.feed line = s.accept (Text.trim line) := by
      rw [feed_eq_meet, hdemand, hmarker, Text.contains_nil, if_pos rfl, meet, hcancel]
    rw [hfeed, pending_accept]
    exact ⟨rfl, hpending⟩

/-- A header with a comment, and a body that is typed without blanks in front, behind an
entry that was undone. -/
theorem header_waits_loop :
    let s := (((start {}).feed "xs = ['a', 'b']").2.feed "print(xs)").2.feed "/undo" |>.2
    let line : Text := "  for x in xs:  # all of them"
    let header : Text := "for x in xs:  # all of them"
    Reachable {} s ∧ s.pending = none ∧ '\n' ∉ line ∧ opensBlock (Text.trim line) = true ∧
      Text.contains "???" (Text.trim line) = false ∧
      s.feed line = (.ok .awaitingBody, { s with pending := some header }) ∧
      ((s.feed line).2.feed "print(x)").1 = .ok (.output "a\nb") ∧
      ∃ l m, l.text = header ∧ m.text = "    print(x)".toList ∧
        s.EndsWithBlock ((s.feed line).2.feed "print(x)").2.lastSource l m := by
  intro s line header
  have hstart : Reachable {} (start {}) := .start
  have hs : Reachable {} s := ((hstart.feed "xs = ['a', 'b']").feed "print(xs)").feed "/undo"
  have hpending : s.pending = none := by decide +kernel
  have hnewline : '\n' ∉ line := by decide
  have hheader : opensBlock (Text.trim line) = true := by decide +kernel
  have hfree : Text.contains "???" (Text.trim line) = false := by decide
  obtain ⟨hfeed, hnext⟩ := (header_waits hs hpending hnewline hheader fun _ => hfree).1 (by decide)
  obtain ⟨-, l, m, hl, hm, hblock⟩ := hnext "print(x)" (by decide)
  have htrim : Text.trim line = header := by decide
  have hbody : Text.dropCarriage (indentBody "print(x)") = "    print(x)".toList := by decide
  rw [htrim] at hfeed hl
  rw [hbody] at hm
  exact ⟨hs, hpending, hnewline, hheader, hfree, hfeed, by decide +kernel, l, m, hl, hm, hblock⟩

/-- With the empty marker a header does not wait, and what is meant to be its body is carried out
though the condition does not hold. -/
theorem header_does_not_wait :
    let config : SessionConfig := { settings := { marker := [] } }
    let s := start config
    Reachable config s ∧ s.pending = none ∧ opensBlock (Text.trim "if False:") = true ∧
      (s.feed "if False:").1 = .ok (.output []) ∧ (s.feed "if False:").2.entries = ["if False:"] ∧
      ((s.feed "if False:").2.feed "print('a')").1 = .ok (.output "a") := by
  intro config s
  exact ⟨.start, rfl, by decide +kernel, by decide +kernel, by decide +kernel, by decide +kernel⟩

end Session

end Spellbook
