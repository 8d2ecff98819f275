import Spellbook.Session.Basic
import Spellbook.Text.Grapheme
import Spellbook.Text.Lines

/-!
# A session without a terminal

The lines of a session come from a text, and no prompts are shown.  A backspace in a line takes
back the grapheme before it.  The size of a grapheme is kept in one byte, so that of a grapheme
of 256 bytes or more only a part is taken back; a part that does not begin with a whole character
breaks the session off.
-/

namespace Spellbook

namespace Session

/-! ## Corrections in a line -/

/-- The number of bytes that a backspace takes back for a grapheme. -/
def keptSize (grapheme : Text) : Nat := Text.byteLength grapheme % 256

/-- What is left of a line, given from its end, after the corrections in the graphemes that come
next are made.  The sizes of the graphemes that can still be taken back are given from the last.
There is nothing left if a correction would cut a character in two. -/
def correctFrom : Text → List Nat → List Text → Option Text
  | before, _, [] => some before
  | before, sizes, g :: rest =>
    if g = ['\x08'] then
      match sizes with
      | [] => correctFrom before [] rest
      | size :: sizes =>
        (before.dropBytes? size).bind fun before => correctFrom before sizes rest
    else correctFrom (g.reverse ++ before) (keptSize g :: sizes) rest

/-- The line with the corrections in it made, if they can be made. -/
def correct (line : Text) : Option Text :=
  (correctFrom [] [] line.graphemes).map List.reverse

theorem correctFrom_of_notMem {pieces : List Text} (h : ['\x08'] ∉ pieces) (before : Text)
    (sizes : List Nat) :
    correctFrom before sizes pieces = some (pieces.flatten.reverse ++ before) := by
  induction pieces generalizing before sizes with
  | nil => rfl
  | cons g rest ih =>
    rw [List.mem_cons, not_or] at h
    simp [correctFrom, Ne.symm h.1, ih h.2]

/-- A line without a backspace stays as it is. -/
theorem correct_of_notMem {line : Text} (h : '\x08' ∉ line) : correct line = some line := by
  have hpieces : ['\x08'] ∉ line.graphemes := fun hmem =>
    h (Text.flatten_graphemes line ▸ List.mem_flatten.2 ⟨_, hmem, List.mem_singleton_self _⟩)
  simp [correct, correctFrom_of_notMem hpieces]

/-! ## The transcript -/

/-- What is printed for an answer. -/
def answerText : Except Refusal Reply → Text
  | .ok (.output added) => if added.isEmpty then [] else added ++ "\n"
  | .ok (.command message) => message ++ "\n"
  | .ok .awaitingBody => []
  | .ok .empty => []
  | .ok .exit => []
  | .error _ => []

/-- What a session prints, and whether it comes to its end. -/
structure Transcript where
  text : Text
  ended : Bool
deriving DecidableEq

/-- The transcript with a text in front. -/
def Transcript.after (front : Text) (transcript : Transcript) : Transcript :=
  { transcript with text := front ++ transcript.text }

/-- The line that closes a session. -/
def farewell : Text := "Farewell, spellcaster! 👋\n"

/-- What is printed for lines, up to the one that ends the session or breaks it off. -/
def converse (s : Session) : List Text → Transcript
  | [] => ⟨farewell, true⟩
  | line :: lines =>
    match correct line with
    | none => ⟨[], false⟩
    | some line =>
      let (answer, next) := s.feed line
      match answer with
      | .ok .exit => ⟨farewell, true⟩
      | answer => (next.converse lines).after (answerText answer)

/-- The lines that open a session. -/
def welcome : Text :=
  "🔮 PyMancer REPL v0.1.0 🪄\nType /help for commands, /quit to exit\n\n"

/-- All that a session prints whose lines are those of the input. -/
def transcript (config : SessionConfig) (input : Text) : Transcript :=
  ((start config).converse (Text.rows input)).after welcome

end Session

end Spellbook
