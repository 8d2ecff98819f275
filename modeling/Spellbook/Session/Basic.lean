import Spellbook.Run.Evaluation

/-!
# Interactive sessions

A session collects a spell entry by entry.  Each entry is tried by running the whole spell with
the entry at its end: if that succeeds, the entry is kept and what it added to the output is
shown; if not, it is dropped.  A header waits for the line that is to be its body.
-/

namespace Spellbook

/-- How a session is set up. -/
structure SessionConfig where
  prompt : Text := "pymancer> "
  /-- The prompt while a header waits for its body. -/
  continuationPrompt : Text := "... "
  persistHistory : Bool := true
  historyFile : Option Text := some ".pymancer_history"
  settings : Settings := {}

/-- What a session counts. -/
structure Tally where
  accepted : Nat := 0
  errors : Nat := 0
  commands : Nat := 0
  /-- The steps that the spell took when it last ran to its end. -/
  steps : Nat := 0
deriving DecidableEq

/-- The state of a session. -/
structure Session where
  config : SessionConfig
  /-- The entries that were kept, in order. -/
  entries : List Text
  /-- The header that waits for its body. -/
  pending : Option Text
  /-- The output of the spell so far. -/
  shown : Text
  /-- The spell that was tried last, whether it was kept or not. -/
  lastSource : Text
  tally : Tally

/-- What a session answers to a line that it could deal with. -/
inductive Reply where
  /-- The entry was kept, and added this output. -/
  | output (added : Text)
  /-- The header was taken, and the next line is its body. -/
  | awaitingBody
  /-- A command was carried out. -/
  | command (message : Text)
  /-- There was nothing to do. -/
  | empty
  /-- The session is to end. -/
  | exit
deriving DecidableEq

/-- Why a session could not deal with a line. -/
inductive Refusal where
  /-- The spell failed with the entry at its end. -/
  | failure (failure : Failure)
  /-- There is no such command. -/
  | unknownCommand (name : Text)
deriving DecidableEq

/-- The sentence that reports the refusal. -/
def Refusal.message : Refusal → Text
  | failure f => f.message
  | unknownCommand name =>
    "REPL command error: Unknown command: " ++ name ++
      ". Type /help for available commands."

namespace Session

/-- The session before the first entry. -/
def start (config : SessionConfig) : Session :=
  ⟨config, [], none, [], [], {}⟩

/-- The spell that was kept: the entries as lines. -/
def buffer (s : Session) : Text := Text.join "\n" s.entries

/-- Whether a header waits for its body. -/
def isAwaiting (s : Session) : Bool := s.pending.isSome

/-- The session without the header that waits for its body. -/
def cancel (s : Session) : Session := { s with pending := none }

/-! ## Entries -/

/-- A body line, set in by four blanks unless it is already indented. -/
def indentBody (line : Text) : Text :=
  if line.head? = some ' ' ∨ line.head? = some '\t' then line else "    " ++ line

/-- The part of an output that was not shown before.  A newline that only divides the old part
from the new is left out, and an output that does not go on from the old one is all new. -/
def newOutput (shown current : Text) : Text :=
  if shown.isEmpty then current
  else
    match Text.dropFront? shown current with
    | some ('\n' :: rest) => rest
    | some rest => rest
    | none => current

/-- Whether the text is a single line that opens a block. -/
def opensBlock (t : Text) : Bool :=
  match Clause.read t with
  | .ok clause => clause.isHeader
  | .error _ => false

/-- The session after an entry has been tried at the end of the spell. -/
def accept (s : Session) (entry : Text) : Except Refusal Reply × Session :=
  let buffer := s.buffer
  let source := if buffer.isEmpty then entry else buffer ++ "\n" ++ entry
  let evaluation := evaluate s.config.settings source
  match evaluation.failure with
  | some failure =>
    (.error (.failure failure),
      { s with lastSource := source, tally := { s.tally with errors := s.tally.errors + 1 } })
  | none =>
    (.ok (.output (newOutput s.shown evaluation.output)),
      { s with
        entries := s.entries ++ [entry]
        shown := evaluation.output
        lastSource := source
        tally := { s.tally with accepted := s.tally.accepted + 1, steps := evaluation.steps } })

/-! ## Commands -/

/-- What a line that starts with a slash asks for. -/
inductive Command where
  | help
  | list
  | clear
  | undo
  | tally
  | config
  | exit
  | unknown (name : Text)
deriving DecidableEq

/-- The command with the name. -/
def Command.ofName (name : Text) : Command :=
  if name = "/help".toList ∨ name = "/h".toList then help
  else if name = "/show".toList then list
  else if name = "/clear".toList then clear
  else if name = "/undo".toList then undo
  else if name = "/stats".toList then tally
  else if name = "/config".toList then config
  else if name = "/quit".toList ∨ name = "/q".toList ∨ name = "/exit".toList then exit
  else unknown name

/-- The text that explains the commands. -/
def helpText : Text :=
  Text.join "\n" [
    "PyMancer REPL Commands:",
    "  /help, /h           Show this help message",
    "  /show               Show the spell entered so far",
    "  /clear              Forget the whole spell",
    "  /undo               Remove the last statement",
    "  /stats              Show session statistics",
    "  /config             Show current configuration",
    "  /quit, /q, /exit    Exit the REPL",
    "",
    "Examples:",
    "  souls = ['Merlin', 'Arthur']",
    "  souls.append('Gwen')",
    "  print(len(souls))",
    "  for soul in souls:  # the body is asked for on the next line",
    "  ...     print(soul)",
    "",
    "Every statement re-runs the whole spell; a statement that fails is discarded.",
    "Use Ctrl+C to cancel a pending body, Ctrl+D to exit."]

/-- Lines with their numbers in front, from a given number on. -/
def numbered (first : Nat) : List Text → List Text
  | [] => []
  | row :: rows =>
    (Text.padLeft 3 (Text.ofNat first) ++ " | " ++ row) :: numbered (first + 1) rows

/-- The spell with numbered lines. -/
def listing (s : Session) : Text :=
  if s.entries.isEmpty then "The spell is empty"
  else Text.join "\n" (numbered 1 (Text.rows s.buffer))

/-- The counts of the session as a text. -/
def tallyText (s : Session) : Text :=
  Text.join "\n" [
    "Session Statistics:",
    "  Statements accepted: " ++ Text.ofNat s.tally.accepted,
    "  Errors encountered: " ++ Text.ofNat s.tally.errors,
    "  Commands executed: " ++ Text.ofNat s.tally.commands,
    "  Steps on last run: " ++ Text.ofNat s.tally.steps]

/-- The setup of the session as a text. -/
def configText (s : Session) : Text :=
  Text.join "\n" [
    "REPL Configuration:",
    "  Prompt: \"" ++ s.config.prompt ++ "\"",
    "  Continuation prompt: \"" ++ s.config.continuationPrompt ++ "\"",
    "  Persist history: " ++ Text.ofBool s.config.persistHistory,
    "  History file: " ++ s.config.historyFile.getD "<none>",
    "  Placeholder: " ++ s.config.settings.marker,
    "  Max steps: " ++ Text.ofNat s.config.settings.maxSteps]

/-- The session without its last entry, and the entry. -/
def undo (s : Session) : Option (Text × Session) :=
  match s.entries.getLast? with
  | none => none
  | some entry =>
    let shorter := { s with entries := s.entries.dropLast }
    let evaluation := evaluate s.config.settings shorter.buffer
    some (entry,
      { shorter with
        shown := evaluation.output
        tally := { s.tally with steps := evaluation.steps } })

/-- An entry on a single line. -/
def flatten (entry : Text) : Text :=
  entry.flatMap fun c => if c = '\n' then " / " else [c]

/-- The session after a command that has been counted. -/
def obey (s : Session) : Command → Except Refusal Reply × Session
  | .help => (.ok (.command helpText), s)
  | .list => (.ok (.command s.listing), s)
  | .clear =>
    (.ok (.command "Spell buffer cleared"),
      { s with entries := [], pending := none, shown := [], tally := { s.tally with steps := 0 } })
  | .undo =>
    match s.undo with
    | some (entry, shorter) => (.ok (.command ("Removed: " ++ flatten entry)), shorter)
    | none => (.ok (.command "Nothing to undo"), s)
  | .tally => (.ok (.command s.tallyText), s)
  | .config => (.ok (.command s.configText), s)
  | .exit => (.ok .exit, s)
  | .unknown name => (.error (.unknownCommand name), s)

/-! ## Lines -/

/-- The session after a line.  A line is the body of the header that waits for one, whatever it
holds.  Otherwise it is trimmed, and is nothing, a command, a header that has to wait, or an
entry.  A header that holds the marker is tried at once, so that its blank is reported before
its body is asked for. -/
def feed (s : Session) (line : Text) : Except Refusal Reply × Session :=
  match s.pending with
  | some header => s.cancel.accept (header ++ "\n" ++ indentBody line)
  | none =>
    let entry := Text.trim line
    if entry.isEmpty ∨ entry.head? = some '#' then (.ok .empty, s)
    else if entry.head? = some '/' then
      let counted := { s with tally := { s.tally with commands := s.tally.commands + 1 } }
      counted.obey (.ofName (Text.firstWord entry))
    else if opensBlock entry && !Text.contains s.config.settings.marker entry then
      (.ok .awaitingBody, { s with pending := some entry })
    else s.accept entry

end Session

end Spellbook
