import Spellbook.Run.Execute
import Spellbook.Run.Failure
import Spellbook.Source.Program
import Spellbook.Text.Blank

/-!
# Evaluating a spell

A spell is read and then run under settings.  What it printed before it failed is kept.
-/

namespace Spellbook

/-- The marker of blanks that are to be filled, unless the settings name another. -/
def defaultMarker : Text := "???"

/-- What a spell is read and run with. -/
structure Settings where
  /-- A line that holds the marker cannot be read; the empty marker allows every line. -/
  marker : Text := defaultMarker
  /-- The number of statements that may be carried out. -/
  maxSteps : Nat := 10000
deriving DecidableEq

/-- What has become of a spell. -/
structure Evaluation where
  output : Text
  steps : Nat
  failure : Option Failure
deriving DecidableEq

namespace Evaluation

/-- Whether the spell was read and carried out to its end. -/
def succeeded (e : Evaluation) : Bool := e.failure.isNone

/-- The evaluation of a spell that could not be read. -/
def ofSyntaxError (e : SyntaxError) : Evaluation := ⟨[], 0, some (.reading e)⟩

/-- The evaluation of a spell that has been run.  The printed texts become lines, and the blanks
and empty lines at the end are dropped. -/
def ofOutcome (o : Outcome) : Evaluation :=
  ⟨Text.trimEnd (Text.join "\n" o.state.printed.toList), o.state.steps,
    o.error.map Failure.running⟩

end Evaluation

/-- The evaluation of a spell that has been read. -/
def Program.evaluate (settings : Settings) (p : Program) : Evaluation :=
  .ofOutcome (p.run settings.maxSteps)

/-- The evaluation of a source. -/
def evaluate (settings : Settings) (source : Text) : Evaluation :=
  match Program.read settings.marker source with
  | .error e => .ofSyntaxError e
  | .ok p => p.evaluate settings

end Spellbook
