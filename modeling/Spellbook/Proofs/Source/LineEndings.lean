import Spellbook.Proofs.Run.Places
import Spellbook.Proofs.Source.Joined

/-!
# Line endings

A line may end with a newline or with a carriage return and a newline.  The carriage returns are
bytes in front of the lines behind them, so that each line stands further on by as many bytes as
there are lines in front of it, and nothing else changes: neither the statements that are read
(`Program.read_withCarriages`) nor what becomes of them (`evaluate_withCarriages`).
-/

namespace Spellbook

/-! ## Carriage returns in a text -/

namespace Text

/-- The text with a carriage return in front of each newline. -/
def withCarriages (t : Text) : Text :=
  t.flatMap fun c => if c = '\n' then ['\r', '\n'] else [c]

@[simp] theorem withCarriages_append (s t : Text) :
    withCarriages (s ++ t) = withCarriages s ++ withCarriages t := List.flatMap_append

theorem withCarriages_of_notMem {t : Text} (h : '\n' ∉ t) : withCarriages t = t := by
  induction t with
  | nil => rfl
  | cons c t ih =>
    obtain ⟨hc, ht⟩ := not_or.1 (mt List.mem_cons.2 h)
    rw [withCarriages, List.flatMap_cons, if_neg (Ne.symm hc)]
    exact congrArg (c :: ·) (ih ht)

theorem dropCarriage_append_carriage (t : Text) : dropCarriage (t ++ ['\r']) = t := by
  rw [dropCarriage, if_pos List.getLast?_concat, List.dropLast_concat]

theorem dropCarriage_of_notMem {t : Text} (h : '\r' ∉ t) : dropCarriage t = t :=
  if_neg fun hlast => h (List.mem_of_getLast? hlast)

end Text

/-! ## The lines of the source -/

theorem SourceLine.number_pos {source : Text} {l : SourceLine} (h : l ∈ split source) :
    0 < l.number := by
  obtain ⟨i, hi⟩ := List.mem_iff_getElem?.1 h
  have hnumber := number_of_getElem?_split hi
  omega

/-- In front of a line there is one carriage return for each line in front of it. -/
theorem SourceLine.split_withCarriages {source : Text} (h : '\r' ∉ source) :
    split source.withCarriages = (split source).map fun l => l.move 0 (l.number - 1) := by
  induction source using Text.lines_induction with
  | last t hnewline =>
    rw [Text.withCarriages_of_notMem hnewline, split_of_notMem hnewline]
    rfl
  | line a b hnewline ih =>
    rw [List.append_assoc, List.mem_append, List.mem_append, not_or, not_or] at h
    have hcarriage : '\n' ∉ a ++ ['\r'] := by
      rw [List.mem_append, not_or]
      exact ⟨hnewline, by decide⟩
    have hsource : (a ++ "\n" ++ b).withCarriages = a ++ ['\r'] ++ "\n" ++ b.withCarriages := by
      have hbreak : Text.withCarriages ("\n" : Text) = ['\r'] ++ "\n" := by decide
      rw [Text.withCarriages_append, Text.withCarriages_append,
        Text.withCarriages_of_notMem hnewline, hbreak]
      simp only [List.append_assoc]
    have hbytes : Text.byteLength ['\r'] = 1 := by decide
    rw [hsource, split_append, split_append, split_of_notMem hcarriage, split_of_notMem hnewline,
      Text.dropCarriage_append_carriage, Text.dropCarriage_of_notMem h.1, ih h.2.2, List.map_append,
      List.map_map, List.map_map, Text.byteLength_append, hbytes]
    refine congrArg₂ _ rfl (List.map_congr_left fun l hl => ?_)
    have hpos := number_pos hl
    have hoffset : l.offset + (l.number - 1) + (Text.byteLength a + 1 + 1) =
        l.offset + (Text.byteLength a + 1) + (l.number + 1 - 1) := by omega
    simp only [Function.comp_apply, move, List.length_singleton, hoffset, Nat.add_zero]

/-! ## What is read and what becomes of it -/

/-- The place behind the carriage returns of the lines in front. -/
def Span.behindCarriages (line : Nat) : Span → Span := Span.shift (line - 1)

/-- The failure behind the carriage returns of the lines in front of its line. -/
def Failure.behindCarriages : Failure → Failure
  | .reading e => .reading (e.relocate id Span.behindCarriages)
  | .running e => .running (e.relocate id Span.behindCarriages)

theorem Failure.report_behindCarriages (f : Failure) : f.behindCarriages.report = f.report := by
  cases f <;> rfl

theorem Failure.span_behindCarriages (f : Failure) :
    f.behindCarriages.span = f.span.shift (f.line - 1) := by
  cases f <;> rfl

/-- The statements of a spell are the same with either line ending, each as far on as its line. -/
theorem Program.read_withCarriages (marker : Text) {source : Text} (h : '\r' ∉ source) :
    Program.read marker source.withCarriages =
      ((Program.read marker source).map fun p =>
        ⟨p.statements.map (Statement.relocate id Span.behindCarriages),
          ⟨0, Text.byteLength source.withCarriages⟩⟩).mapError
        (Fault.relocate id Span.behindCarriages) := by
  have hlines := Statement.ofLines_relocate marker 0 (· - 1) (SourceLine.split source)
  unfold Program.read
  rw [SourceLine.split_withCarriages h]
  refine (congrArg (Except.map _) hlines).trans ?_
  cases Statement.ofLines marker (SourceLine.split source) <;> rfl

theorem Program.run_behindCarriages (limit : Nat) (p : Program) (span : Span) :
    Program.run limit ⟨p.statements.map (Statement.relocate id Span.behindCarriages), span⟩ =
      (p.run limit).relocate id Span.behindCarriages :=
  Statement.runAll_relocate id Span.behindCarriages limit p.statements .initial

theorem evaluate_withCarriages_eq (settings : Settings) {source : Text} (h : '\r' ∉ source) :
    evaluate settings source.withCarriages =
      { evaluate settings source with
        failure := (evaluate settings source).failure.map Failure.behindCarriages } := by
  unfold evaluate
  rw [Program.read_withCarriages settings.marker h]
  cases Program.read settings.marker source with
  | error e => rfl
  | ok p =>
    simp only [Except.map, Except.mapError, Program.evaluate, Program.run_behindCarriages,
      Evaluation.ofOutcome, Outcome.relocate, Option.map_map]
    rfl

/-- Line endings do not matter.  With a carriage return in front of each newline a spell prints the
same, takes as many steps and comes to the same end.  What is reported about a failure stays the
same too, and the bytes to blame are as far on as there are lines in front.  The statements are
those of the spell, each as far on as its line. -/
theorem evaluate_withCarriages (settings : Settings) {source : Text} (h : '\r' ∉ source) :
    let e := evaluate settings source
    let e' := evaluate settings source.withCarriages
    (e'.output = e.output ∧ e'.steps = e.steps ∧ e'.succeeded = e.succeeded ∧
      e'.failure = e.failure.map Failure.behindCarriages ∧
      e'.failure.map Failure.report = e.failure.map Failure.report ∧
      e'.failure.map Failure.span = e.failure.map fun f => f.span.shift (f.line - 1)) ∧
    Program.read settings.marker source.withCarriages =
      ((Program.read settings.marker source).map fun p =>
        ⟨p.statements.map (Statement.relocate id fun line => Span.shift (line - 1)),
          ⟨0, Text.byteLength source.withCarriages⟩⟩).mapError
        (Fault.relocate id fun line => Span.shift (line - 1)) := by
  intro e e'
  have hevaluation : e' = { e with failure := e.failure.map Failure.behindCarriages } :=
    evaluate_withCarriages_eq settings h
  refine ⟨?_, Program.read_withCarriages settings.marker h⟩
  rw [hevaluation]
  refine ⟨rfl, rfl, Option.isNone_map, rfl, ?_, ?_⟩
  · rw [Option.map_map]
    exact congrArg (Option.map · e.failure) (funext Failure.report_behindCarriages)
  · rw [Option.map_map]
    exact congrArg (Option.map · e.failure) (funext Failure.span_behindCarriages)

/-- The body of the loop is to blame in its first round: two lines stand in front of it. -/
theorem evaluate_withCarriages_body :
    let source : Text := "xs = ['é']\nfor x in xs:\n    y = missing\nprint(xs)"
    '\r' ∉ source ∧
      evaluate {} source =
        ⟨[], 3, some (.running ⟨⟨.undefinedName "missing", ⟨33, 40⟩⟩, 3⟩)⟩ ∧
      (evaluate {} source.withCarriages).steps = 3 ∧
      (evaluate {} source.withCarriages).failure =
        some (.running ⟨⟨.undefinedName "missing", ⟨35, 42⟩⟩, 3⟩) := by
  intro source
  have hsource : '\r' ∉ source := by decide
  have hevaluation : evaluate {} source =
      ⟨[], 3, some (.running ⟨⟨.undefinedName "missing", ⟨33, 40⟩⟩, 3⟩)⟩ := by decide +kernel
  obtain ⟨⟨-, hsteps, -, hfailure, -, -⟩, -⟩ := evaluate_withCarriages {} hsource
  rw [hevaluation] at hsteps hfailure
  exact ⟨hsource, hevaluation, hsteps, hfailure⟩

end Spellbook
