import Spellbook.Run.Evaluation
import Spellbook.Text.Quoted

/-!
# Expectations

Checks of what a spell does: that it succeeds with a given output, or that it fails in a given
way.  A check that is not met says what happened instead.
-/

namespace Spellbook

/-- How an evaluation differs from what was expected of it. -/
inductive Mismatch where
  /-- The output is another one. -/
  | output (expected actual : Text)
  /-- The spell should have succeeded. -/
  | failed (report : Report)
  /-- The spell should have failed. -/
  | succeeded (expected : FailureKind) (output : Text)
  /-- The spell should have failed in another way. -/
  | kind (expected : FailureKind) (actual : Report)
deriving DecidableEq

namespace Mismatch

/-- The sentence that reports the mismatch. -/
def message : Mismatch → Text
  | output expected actual =>
    "Assertion failed: expected output " ++ Text.quoted expected ++ ", but got " ++
      Text.quoted actual
  | failed report => "Expected the spell to succeed, but it failed with " ++ report.display
  | succeeded expected shown =>
    "Expected a " ++ expected.name ++ " failure, but the spell succeeded with output " ++
      Text.quoted shown
  | kind expected actual =>
    "Expected a " ++ expected.name ++ " failure, but got " ++ actual.display

end Mismatch

namespace Evaluation

/-- The report of the failure, if the spell failed. -/
def report? (e : Evaluation) : Option Report := e.failure.map Failure.report

/-- Checks that the spell succeeded with the output. -/
def expectOutput (expected : Text) (e : Evaluation) : Except Mismatch Unit :=
  match e.report? with
  | some report => .error (.failed report)
  | none => if e.output = expected then .ok () else .error (.output expected e.output)

/-- Checks that the spell failed with an error of the kind, and reports that error. -/
def expectFailure (kind : FailureKind) (e : Evaluation) : Except Mismatch Report :=
  match e.report? with
  | none => .error (.succeeded kind e.output)
  | some report => if report.kind = kind then .ok report else .error (.kind kind report)

/-- Checks that the spell printed the output and then failed with an error of the kind, and
reports that error. -/
def expectPartialOutput (expected : Text) (kind : FailureKind) (e : Evaluation) :
    Except Mismatch Report :=
  match e.expectFailure kind with
  | .error mismatch => .error mismatch
  | .ok report =>
    if e.output = expected then .ok report else .error (.output expected e.output)

end Evaluation

end Spellbook
