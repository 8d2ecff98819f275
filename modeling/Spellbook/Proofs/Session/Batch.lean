import Spellbook.Proofs.Run.Places
import Spellbook.Proofs.Session.Continuation
import Spellbook.Proofs.Session.Display
import Spellbook.Proofs.Source.Clipped

/-!
# A session and a run at once

A spell that runs to its end can be entered line by line.  The session keeps its statements one
after another: lines that say nothing are passed over, the blanks at the ends of the others are
dropped, and a header is kept together with the line behind it.

The session invariant is that the buffer holds the statements entered so far, at places of its
own.  Every front part of a spell that runs to its end does so too, so no entry is refused.
-/

namespace Spellbook

/-! ## Runs of the same statements at other places -/

theorem Statement.unplaced_move (lines bytes : Nat) (s : Statement) :
    (s.move lines bytes).unplaced = s.unplaced := by
  rw [Statement.unplaced, Statement.move, Statement.mapPlace_mapPlace]
  rfl

theorem Outcome.error_mapPlace_eq_none_iff (f : Span → Span) (line : Nat → Nat) (o : Outcome) :
    (o.mapPlace f line).error = none ↔ o.error = none := Option.map_eq_none_iff

/-- Statements that differ in places only run to the same state, or none of them runs to its end. -/
theorem Statement.runAll_of_unplaced_eq (limit : Nat) {a b : List Statement}
    (h : a.map Statement.unplaced = b.map Statement.unplaced) (st : State) :
    (runAll limit a st).state = (runAll limit b st).state ∧
      ((runAll limit a st).error = none ↔ (runAll limit b st).error = none) := by
  let moved (o : Outcome) : Outcome := o.mapPlace nowhere fun _ => 0
  have hsame : moved (runAll limit a st) = moved (runAll limit b st) := by
    calc moved (runAll limit a st)
        = runAll limit (a.map Statement.unplaced) st := (runAll_mapPlace nowhere _ limit a st).symm
      _ = runAll limit (b.map Statement.unplaced) st := by rw [h]
      _ = moved (runAll limit b st) := runAll_mapPlace nowhere _ limit b st
  have hstate : (moved (runAll limit a st)).state = (moved (runAll limit b st)).state := by
    rw [hsame]
  refine ⟨hstate, ?_⟩
  rw [← Outcome.error_mapPlace_eq_none_iff nowhere fun _ => 0,
    ← Outcome.error_mapPlace_eq_none_iff nowhere (fun _ => 0) (runAll limit b st)]
  change (moved (runAll limit a st)).error = none ↔ (moved (runAll limit b st)).error = none
  rw [hsame]

theorem Statement.error_of_runAll_append {limit : Nat} {first more : List Statement} {st : State}
    (h : (runAll limit (first ++ more) st).error = none) :
    (runAll limit first st).error = none := by
  rw [runAll_append] at h
  exact Outcome.error_of_andThen h

/-! ## Entries as spells -/

/-- A line that can be read is read as the same once it is trimmed and stands alone. -/
theorem SourceLine.exists_split_trim {marker : Text} {l : SourceLine} {c : Clause}
    (hnewline : '\n' ∉ l.text) (hsilent : ¬l.isSilent = true)
    (hclause : l.clause marker = .ok c) :
    ∃ m d, split (Text.trim l.text) = [m] ∧ ¬m.isSilent = true ∧ m.clause marker = .ok d ∧
      d.form.unplaced = c.form.unplaced := by
  have htrim : l.text.Clips (Text.trim l.text) := Text.clips_trim l.text
  have hsplit := split_of_notMem fun h => hnewline (htrim.isInfix.subset h)
  let m : SourceLine := ⟨1, 0, Text.dropCarriage (Text.trim l.text)⟩
  have hclips : l.text.Clips m.text := htrim.trans (Text.clips_dropCarriage _)
  have hspoken : ¬m.isSilent = true := by rwa [isSilent_of_clips hclips]
  obtain ⟨d, hread, hsame⟩ := exists_clause_of_clips hclips hclause
  exact ⟨m, d, hsplit, hspoken, hread, hsame⟩

/-- A line with an action is a spell of its own once it is trimmed. -/
theorem Program.exists_read_trim {marker : Text} {l : SourceLine} {action : Action} {span : Span}
    (hnewline : '\n' ∉ l.text) (hsilent : ¬l.isSilent = true)
    (hclause : l.clause marker = .ok ⟨.action action, span⟩) :
    ∃ p, Program.read marker (Text.trim l.text) = .ok p ∧ p.statements.map Statement.unplaced =
      [Statement.unplaced (.simple ⟨action, l.number, span⟩)] := by
  obtain ⟨m, ⟨form, span'⟩, hsplit, hspoken, hread, hsame⟩ :=
    SourceLine.exists_split_trim hnewline hsilent hclause
  obtain ⟨action', rfl, haction⟩ := Form.exists_action_of_unplaced_eq hsame
  have hlines : Statement.ofLines marker (SourceLine.split (Text.trim l.text)) =
      .ok [.simple ⟨action', m.number, span'⟩] := by
    rw [hsplit, Statement.ofLines_action hspoken hread]
    rfl
  refine ⟨_, Program.read_of_statements hlines, ?_⟩
  simp only [List.map_cons, List.map_nil, Statement.unplaced, Statement.mapPlace, Simple.mapPlace,
    haction, nowhere]

/-- So is a header that is trimmed with the line behind it. -/
theorem Program.exists_read_trim_append {marker : Text} {l next : SourceLine} {header : Header}
    {span : Span} {body : Option Simple} (hnewline : '\n' ∉ l.text) (hnext : '\n' ∉ next.text)
    (hsilent : ¬l.isSilent = true) (hclause : l.clause marker = .ok ⟨.header header, span⟩)
    (hindented : next.isIndented = true) (hbody : next.body marker = .ok body) :
    ∃ p, Program.read marker (Text.trim l.text ++ "\n" ++ next.text) = .ok p ∧
      p.statements.map Statement.unplaced =
        [Statement.unplaced (.block ⟨header, l.number, span, body⟩)] := by
  obtain ⟨m, ⟨form, span'⟩, hsplit, hspoken, hread, hsame⟩ :=
    SourceLine.exists_split_trim hnewline hsilent hclause
  obtain ⟨header', rfl, hheader⟩ := Form.exists_header_of_unplaced_eq hsame
  let n : SourceLine :=
    ⟨2, 0 + (Text.byteLength (Text.trim l.text) + 1), Text.dropCarriage next.text⟩
  have hclips : next.text.Clips n.text := Text.clips_dropCarriage next.text
  obtain ⟨body', hbody', hsamebody⟩ := SourceLine.exists_body_of_clips hclips hbody
  have hnindented : n.isIndented = true := SourceLine.isIndented_dropCarriage hindented _ _
  have hlines :
      Statement.ofLines marker (SourceLine.split (Text.trim l.text ++ "\n" ++ next.text)) =
        .ok [.block ⟨header', m.number, span', body'⟩] := by
    rw [SourceLine.split_append, hsplit, SourceLine.split_of_notMem hnext]
    change Statement.ofLines marker [m, n] = _
    rw [Statement.ofLines_body hspoken hread hnindented, hbody']
    rfl
  refine ⟨_, Program.read_of_statements hlines, ?_⟩
  have hbodies : body'.map (Simple.mapPlace (fun _ => 0) nowhere) =
      body.map (Simple.mapPlace (fun _ => 0) nowhere) := hsamebody
  simp only [List.map_cons, List.map_nil, Statement.unplaced, Statement.mapPlace, Block.mapPlace,
    hheader, hbodies, nowhere]

namespace Session

variable {config : SessionConfig}

/-! ## What a session holds -/

/-- Nothing waits, and the buffer reads as the statements, at places of its own. -/
structure Holds (config : SessionConfig) (done : List Statement) (s : Session) : Prop where
  clean : s.IsClean
  config_eq : s.config = config
  pending_eq : s.pending = none
  reads : ∃ p, Program.read config.settings.marker s.buffer = .ok p ∧
    p.statements.map Statement.unplaced = done.map Statement.unplaced

theorem holds_start : Holds config [] (start config) := by
  refine ⟨isClean_of_entries_eq_nil rfl rfl rfl, rfl, rfl, ⟨[], ⟨0, 0⟩⟩, ?_, rfl⟩
  exact Program.read_nil config.settings.marker

/-- What the session shows, and the steps it took, are those of the statements. -/
theorem Holds.run_eq {done : List Statement} {s : Session} (hs : Holds config done s)
    {source : Text} {p : Program} (hread : Program.read config.settings.marker source = .ok p)
    (hdone : p.statements = done) :
    s.shown = (evaluate config.settings source).output ∧
      s.tally.steps = (evaluate config.settings source).steps := by
  obtain ⟨q, hbuffer, hsame⟩ := hs.reads
  rw [← hdone] at hsame
  have hstate := (Statement.runAll_of_unplaced_eq config.settings.maxSteps hsame .initial).1
  rw [hs.clean.shown_eq, hs.clean.steps_eq, hs.config_eq, evaluate_of_read hbuffer,
    evaluate_of_read hread]
  unfold Evaluation.ofOutcome Program.run
  rw [hstate]
  exact ⟨rfl, rfl⟩

/-- An entry that is one more statement is kept if the statements run to their end with it. -/
theorem Holds.accept {done : List Statement} {s : Session} (hs : Holds config done s)
    {entry : Text} (hvisible : entry.BeginsVisible) {statement : Statement} {q : Program}
    (hread : Program.read config.settings.marker entry = .ok q)
    (hq : q.statements.map Statement.unplaced = [statement.unplaced])
    (hruns : (Statement.runAll config.settings.maxSteps (done ++ [statement]) .initial).error =
      none) :
    (∃ added, (s.accept entry).1 = .ok (.output added)) ∧
      Holds config (done ++ [statement]) (s.accept entry).2 := by
  obtain ⟨p, hbuffer, hp⟩ := hs.reads
  have hspell : ∃ r, Program.read config.settings.marker (spell (s.entries ++ [entry])) = .ok r ∧
      r.statements.map Statement.unplaced = (done ++ [statement]).map Statement.unplaced := by
    rw [List.map_append, ← hp, List.map_singleton, ← hq]
    by_cases hentries : s.entries = []
    · rw [buffer_of_entries_eq_nil hentries, Program.read_nil] at hbuffer
      refine ⟨q, ?_, ?_⟩
      · rw [spell_of_entries_eq_nil hentries, hread]
      · rw [← Except.ok.inj hbuffer, List.map_nil, List.nil_append]
    · obtain ⟨r, hr, hstatements⟩ := Program.read_append hbuffer hread hvisible.beginsFlush
      refine ⟨r, ?_, ?_⟩
      · rw [spell_of_entries_ne_nil hentries, hr]
      · have hmoved (lines bytes : Nat) :
            Statement.unplaced ∘ Statement.move lines bytes = Statement.unplaced :=
          funext (Statement.unplaced_move lines bytes)
        rw [hstatements, List.map_append, List.map_map, hmoved]
  obtain ⟨r, hr, hstatements⟩ := hspell
  have hsucceeds :
      (evaluate s.config.settings (spell (s.entries ++ [entry]))).failure = none := by
    rw [hs.config_eq, evaluate_of_read hr]
    have hsame := Statement.runAll_of_unplaced_eq config.settings.maxSteps hstatements .initial
    exact Option.map_eq_none_iff.2 (hsame.2.2 hruns)
  have hclean := hs.clean.accept hvisible.ne_nil
  rw [hs.clean.accept_of_runs hsucceeds] at hclean ⊢
  refine ⟨⟨_, rfl⟩, hclean, hs.config_eq, hs.pending_eq, r, ?_, hstatements⟩
  unfold spell at hr
  unfold buffer
  dsimp only
  exact hr

/-! ## One line -/

variable {marker : Text} {l next : SourceLine} {s : Session} {span : Span}

theorem opensBlock_of_read {t : Text} {c : Clause} (h : Clause.read t = .ok c) :
    opensBlock t = c.isHeader := by
  unfold opensBlock
  rw [h]

theorem feed_silent (hpending : s.pending = none) (hsilent : l.isSilent = true) :
    s.feed l.text = (.ok .empty, s) := by
  unfold SourceLine.isSilent at hsilent
  rw [Bool.or_eq_true, beq_iff_eq] at hsilent
  rw [feed_eq_meet, demand_of_none hpending, Demand.ofEntry, if_pos hsilent, meet]

/-- A line that can be read is no command, and waits exactly if it is a header. -/
theorem demand_of_clause {c : Clause} (hmarker : s.config.settings.marker ≠ [])
    (hpending : s.pending = none) (hsilent : ¬l.isSilent = true)
    (hclause : l.clause s.config.settings.marker = .ok c) :
    s.demand l.text =
      if c.isHeader then .wait (Text.trim l.text) else .trial (Text.trim l.text) := by
  have htrim : l.text.Clips (Text.trim l.text) := Text.clips_trim l.text
  obtain ⟨hfilled, d, hread, rfl⟩ := SourceLine.exists_read_of_clause hclause
  obtain ⟨c', hread', hsame⟩ := Clause.exists_read_of_clips htrim hread
  obtain ⟨tokens, -, hlaid⟩ := Clause.isLayout_of_read hread'
  have hspoken : ¬((Text.trim l.text).isEmpty = true ∨ (Text.trim l.text).head? = some '#') := by
    unfold SourceLine.isSilent at hsilent
    rwa [Bool.or_eq_true, beq_iff_eq] at hsilent
  have hfree : Text.contains s.config.settings.marker (Text.trim l.text) = false := by
    rw [SourceLine.unfilled?_eq_none_iff hmarker] at hfilled
    exact Text.contains_eq_false_of_isInfix htrim.isInfix hfilled
  have hopens : opensBlock (Text.trim l.text) = d.isHeader := by
    rw [opensBlock_of_read hread', Clause.isHeader_of_unplaced_eq hsame]
  rw [demand_of_none hpending, Demand.ofEntry, if_neg hspoken, if_neg hlaid.head?_ne_slash, hopens,
    hfree, Bool.not_false, Bool.and_true, Clause.isHeader_shift]

theorem beginsVisible_trim_of_not_isSilent (hsilent : ¬l.isSilent = true) :
    (Text.trim l.text).BeginsVisible := by
  apply Text.beginsVisible_trim
  intro htrim
  unfold SourceLine.isSilent at hsilent
  rw [htrim] at hsilent
  exact hsilent rfl

/-- A line with an action adds its statement. -/
theorem Holds.feed_action {done : List Statement} (hs : Holds config done s)
    (hmarker : config.settings.marker ≠ []) {action : Action} (hnewline : '\n' ∉ l.text)
    (hsilent : ¬l.isSilent = true)
    (hclause : l.clause config.settings.marker = .ok ⟨.action action, span⟩)
    (hruns : (Statement.runAll config.settings.maxSteps
      (done ++ [.simple ⟨action, l.number, span⟩]) .initial).error = none) :
    (∃ reply, (s.feed l.text).1 = .ok reply) ∧
      Holds config (done ++ [.simple ⟨action, l.number, span⟩]) (s.feed l.text).2 := by
  have hfeed : s.feed l.text = s.accept (Text.trim l.text) := by
    rw [← hs.config_eq] at hmarker hclause
    rw [feed_eq_meet, demand_of_clause hmarker hs.pending_eq hsilent hclause]
    change s.cancel.accept _ = _
    rw [cancel_of_pending hs.pending_eq]
  obtain ⟨q, hread, hq⟩ := Program.exists_read_trim hnewline hsilent hclause
  obtain ⟨⟨added, hanswer⟩, hholds⟩ :=
    hs.accept (beginsVisible_trim_of_not_isSilent hsilent) hread hq hruns
  rw [hfeed]
  exact ⟨⟨.output added, hanswer⟩, hholds⟩

/-- A header and the indented line behind it add a block. -/
theorem Holds.feed_block {done : List Statement} (hs : Holds config done s)
    (hmarker : config.settings.marker ≠ []) {header : Header} {body : Option Simple}
    (hnewline : '\n' ∉ l.text) (hnext : '\n' ∉ next.text) (hsilent : ¬l.isSilent = true)
    (hclause : l.clause config.settings.marker = .ok ⟨.header header, span⟩)
    (hindented : next.isIndented = true) (hbody : next.body config.settings.marker = .ok body)
    (hruns : (Statement.runAll config.settings.maxSteps
      (done ++ [.block ⟨header, l.number, span, body⟩]) .initial).error = none) :
    (s.feed l.text).1 = .ok .awaitingBody ∧
      (∃ reply, ((s.feed l.text).2.feed next.text).1 = .ok reply) ∧
      Holds config (done ++ [.block ⟨header, l.number, span, body⟩])
        ((s.feed l.text).2.feed next.text).2 := by
  have hfeed : s.feed l.text =
      (.ok .awaitingBody, { s with pending := some (Text.trim l.text) }) := by
    rw [← hs.config_eq] at hmarker hclause
    rw [feed_eq_meet, demand_of_clause hmarker hs.pending_eq hsilent hclause]
    rfl
  have htaken : feed { s with pending := some (Text.trim l.text) } next.text =
      s.accept (Text.trim l.text ++ "\n" ++ next.text) := by
    have hkept : indentBody next.text = next.text := by
      unfold SourceLine.isIndented at hindented
      rw [Bool.or_eq_true, beq_iff_eq, beq_iff_eq] at hindented
      rw [indentBody, if_pos hindented]
    have hcancel : cancel { s with pending := some (Text.trim l.text) } = s :=
      cancel_of_pending hs.pending_eq
    unfold feed
    dsimp only
    rw [hkept, hcancel]
  have hvisible := beginsVisible_trim_of_not_isSilent hsilent
  obtain ⟨q, hread, hq⟩ :=
    Program.exists_read_trim_append hnewline hnext hsilent hclause hindented hbody
  obtain ⟨⟨added, hanswer⟩, hholds⟩ := hs.accept ((hvisible.append _).append _) hread hq hruns
  rw [hfeed, htaken]
  exact ⟨rfl, ⟨.output added, hanswer⟩, hholds⟩

/-! ## All lines -/

/-- The answers to the lines, given one after another. -/
def answers : Session → List Text → List (Except Refusal Reply)
  | _, [] => []
  | s, line :: lines => (s.feed line).1 :: answers (s.feed line).2 lines

/-- The session after the lines. -/
def afterLines (s : Session) (lines : List Text) : Session := s.after (lines.map .line)

/-- If the statement is a block, an indented line stands right behind its header. -/
def IsFollowed (source : Text) : Statement → Prop
  | .simple _ => True
  | .block b => ∃ l ∈ SourceLine.split source, l.number = b.line + 1 ∧ l.isIndented = true

instance (source : Text) : DecidablePred (IsFollowed source)
  | .simple _ => inferInstanceAs (Decidable True)
  | .block b => inferInstanceAs
      (Decidable (∃ l ∈ SourceLine.split source, l.number = b.line + 1 ∧ l.isIndented = true))

/-- Every header in the source that is no body itself has an indented line right behind it. -/
def HeadersAreFollowed (marker source : Text) : Prop :=
  ∀ p ∈ (Program.read marker source).toOption, ∀ statement ∈ p.statements,
    IsFollowed source statement

instance (marker source : Text) : Decidable (HeadersAreFollowed marker source) :=
  inferInstanceAs (Decidable (∀ p ∈ (Program.read marker source).toOption,
    ∀ statement ∈ p.statements, IsFollowed source statement))

/-- The line that follows a header is the next one. -/
theorem exists_indented_of_isFollowed {source : Text} {front rest : List SourceLine}
    (hsplit : SourceLine.split source = front ++ l :: rest) {header : Header}
    {body : Option Simple} (h : IsFollowed source (.block ⟨header, l.number, span, body⟩)) :
    ∃ next ∈ rest.head?, next.isIndented = true := by
  obtain ⟨next, hmem, hnumber, hindented⟩ := h
  exact ⟨next, (SourceLine.number_eq_succ_iff hsplit hmem).1 hnumber, hindented⟩

/-- No answer is a refusal, and the session holds the statements. -/
def Takes (config : SessionConfig) (done : List Statement) (s : Session) (lines : List Text) :
    Prop :=
  (∀ answer ∈ s.answers lines, ∃ reply, answer = .ok reply) ∧
    Holds config done (s.afterLines lines)

theorem Takes.cons {done : List Statement} {line : Text} {lines : List Text}
    (hfeed : ∃ reply, (s.feed line).1 = .ok reply) (h : Takes config done (s.feed line).2 lines) :
    Takes config done s (line :: lines) := by
  obtain ⟨hanswers, hholds⟩ := h
  refine ⟨?_, hholds⟩
  intro answer hanswer
  rcases List.mem_cons.1 hanswer with rfl | hanswer
  · exact hfeed
  · exact hanswers answer hanswer

/-- The induction is on the lines that are left: `front` are those that were given already, and
`done` their statements. -/
theorem takes_lines (hmarker : config.settings.marker ≠ []) {source : Text}
    {front ls : List SourceLine} (hsplit : SourceLine.split source = front ++ ls)
    {done statements : List Statement}
    (hlines : Statement.ofLines config.settings.marker ls = .ok statements)
    (hfollowed : ∀ statement ∈ statements, IsFollowed source statement)
    (hruns : (Statement.runAll config.settings.maxSteps (done ++ statements) .initial).error = none)
    {s : Session} (hs : Holds config done s) :
    Takes config (done ++ statements) s (ls.map SourceLine.text) := by
  have hnewline (l : SourceLine) (h : l ∈ front ++ ls) : '\n' ∉ l.text :=
    SourceLine.newline_notMem_of_mem_split (hsplit ▸ h)
  induction ls using Statement.ofLines_induction config.settings.marker
    generalizing front done statements s with
  | nil =>
    obtain rfl := Except.ok.inj hlines
    rw [List.append_nil]
    exact ⟨fun _ h => absurd h List.not_mem_nil, hs⟩
  | silent l rest hsilent ih =>
    rw [Statement.ofLines_silent hsilent] at hlines
    rw [List.append_cons] at hsplit hnewline
    have hfeed := feed_silent hs.pending_eq hsilent
    refine .cons ⟨.empty, by rw [hfeed]⟩ ?_
    rw [hfeed]
    exact ih hsplit hlines hfollowed hruns hs hnewline
  | refused l rest e hsilent hclause =>
    rw [Statement.ofLines_refused hsilent hclause] at hlines
    exact nomatch hlines
  | action l rest action span hsilent hclause ih =>
    rw [Statement.ofLines_action hsilent hclause] at hlines
    obtain ⟨more, hmore, rfl⟩ := exists_of_map_eq_ok hlines
    rw [List.append_cons] at hsplit hnewline hruns ⊢
    have hl : '\n' ∉ l.text := hnewline l (by simp)
    have hothers := List.forall_mem_of_forall_mem_cons hfollowed
    have hfront := Statement.error_of_runAll_append hruns
    obtain ⟨hanswer, hholds⟩ := hs.feed_action hmarker hl hsilent hclause hfront
    exact .cons hanswer (ih hsplit hmore hothers hruns hholds hnewline)
  | alone l rest header span hsilent hclause hflush ih =>
    rw [Statement.ofLines_alone hsilent hclause hflush] at hlines
    obtain ⟨more, hmore, rfl⟩ := exists_of_map_eq_ok hlines
    obtain ⟨next, hnext, hindented⟩ :=
      exists_indented_of_isFollowed hsplit (hfollowed _ List.mem_cons_self)
    rw [hflush next hnext] at hindented
    contradiction
  | body l next others header span hsilent hclause hindented ih =>
    rw [Statement.ofLines_body hsilent hclause hindented] at hlines
    cases hbody : next.body config.settings.marker with
    | error e =>
      rw [hbody] at hlines
      exact nomatch hlines
    | ok body =>
      rw [hbody] at hlines
      obtain ⟨more, hmore, rfl⟩ := exists_of_map_eq_ok hlines
      have hgiven : front ++ l :: next :: others = (front ++ [l, next]) ++ others := by simp
      rw [hgiven] at hsplit hnewline
      rw [List.append_cons] at hruns ⊢
      have hl : '\n' ∉ l.text := hnewline l (by simp)
      have hn : '\n' ∉ next.text := hnewline next (by simp)
      have hothers := List.forall_mem_of_forall_mem_cons hfollowed
      have hfront := Statement.error_of_runAll_append hruns
      obtain ⟨hanswer, hanswer', hholds⟩ :=
        hs.feed_block hmarker hl hn hsilent hclause hindented hbody hfront
      exact .cons ⟨_, hanswer⟩
        (.cons hanswer' (ih hsplit hmore hothers hruns hholds hnewline))

/-- The lines of a spell that runs to its end, given one after another to a fresh session, are all
taken, and what the session shows in the end is what the spell prints.  No header may be left
without a body, because the session would wait for it. -/
theorem lines_agree_with_run {config : SessionConfig} {source : Text}
    (hmarker : config.settings.marker ≠ [])
    (hruns : (evaluate config.settings source).succeeded = true)
    (hfollowed : HeadersAreFollowed config.settings.marker source) :
    let lines := (SourceLine.split source).map SourceLine.text
    (∀ answer ∈ (start config).answers lines, ∃ reply, answer = .ok reply) ∧
      ((start config).afterLines lines).isAwaiting = false ∧
      ((start config).afterLines lines).shown = (evaluate config.settings source).output ∧
      ((start config).afterLines lines).tally.steps =
        (evaluate config.settings source).steps := by
  intro lines
  unfold Evaluation.succeeded at hruns
  rw [Option.isNone_iff_eq_none] at hruns
  obtain ⟨p, hread, herror⟩ := exists_of_evaluate_runs hruns
  have hsplit : SourceLine.split source = [] ++ SourceLine.split source := rfl
  have hall : (Statement.runAll config.settings.maxSteps ([] ++ p.statements) .initial).error =
    none := herror
  have hstatements : ∀ statement ∈ p.statements, IsFollowed source statement := by
    apply hfollowed
    rw [hread]
    rfl
  obtain ⟨hanswers, hholds⟩ := takes_lines hmarker hsplit (Program.statements_of_read hread)
    hstatements hall holds_start
  obtain ⟨hshown, hsteps⟩ := hholds.run_eq hread rfl
  refine ⟨hanswers, ?_, hshown, hsteps⟩
  unfold isAwaiting
  rw [hholds.pending_eq]
  rfl

/-- A comment, a blank in front of a statement, a loop, and a body that is only a comment. -/
theorem lines_agree_with_run_loop :
    let source : Text :=
      "# roll call\n  souls = ['Ada', 'Bo']\r\nfor soul in souls:\n  print(soul)\n" ++
        "if True:\n # nobody else"
    let lines := (SourceLine.split source).map SourceLine.text
    ((evaluate {} source).output = "Ada\nBo" ∧ (evaluate {} source).steps = 5) ∧
    (∀ answer ∈ (start {}).answers lines, ∃ reply, answer = .ok reply) ∧
      ((start {}).afterLines lines).isAwaiting = false ∧
      ((start {}).afterLines lines).shown = (evaluate {} source).output ∧
      ((start {}).afterLines lines).tally.steps = (evaluate {} source).steps := by
  refine ⟨?_, lines_agree_with_run ?_ ?_ ?_⟩ <;> decide +kernel

end Session

end Spellbook
