import Spellbook.Run.Evaluation

/-!
# Chapters

A chapter is a spell with blanks and a rule for the output of the finished spell.  A student
names one token for each blank, in order; the chapter is passed when the filled spell runs to
its end and its output follows the rule.
-/

namespace Spellbook

/-- How hard a chapter is. -/
inductive Difficulty where
  | beginner
  | intermediate
  | advanced
deriving DecidableEq

/-- The name of the difficulty. -/
def Difficulty.name : Difficulty → Text
  | beginner => "Beginner"
  | intermediate => "Intermediate"
  | advanced => "Advanced"

/-- The rule for the output of a chapter. -/
inductive Acceptance where
  /-- The needle occurs. -/
  | contains (needle : Text)
  /-- The needle occurs at least so often, no two occurrences sharing a character. -/
  | repeats (needle : Text) (times : Nat)
deriving DecidableEq

/-- Whether the output follows the rule. -/
def Acceptance.accepts (output : Text) : Acceptance → Bool
  | contains needle => Text.contains needle output
  | repeats needle times => times ≤ Text.occurrences needle output

/-- A chapter of the book. -/
structure Chapter where
  id : Nat
  title : Text
  difficulty : Difficulty
  story : Text
  task : Text
  hint : Text
  starterCode : Text
  /-- The tokens on offer for the blanks, right and wrong ones. -/
  tokens : List Text
  acceptance : Acceptance

/-- Why a chapter cannot be attempted. -/
inductive ChapterError where
  | unknown (id : Nat)
  | unfilled (remaining : Nat)
  | tooManyTokens (blanks given : Nat)
deriving DecidableEq

/-- The sentence that reports the error. -/
def ChapterError.message : ChapterError → Text
  | unknown id =>
    "No chapter with id " ++ Text.ofNat id ++ "; run `pymancer chapters` to list them"
  | unfilled remaining =>
    Text.ofNat remaining ++ " blank(s) still unfilled; pass one --token per blank"
  | tooManyTokens blanks given =>
    "The spell has " ++ Text.ofNat blanks ++ " blank(s) but " ++ Text.ofNat given ++
      " tokens were given"

/-- A chapter that was run with its blanks filled. -/
structure Attempt where
  code : Text
  evaluation : Evaluation
  passed : Bool

/-- The code in which each token in turn replaces the first marker that is there by then. -/
def fill (marker : Text) (tokens : List Text) (code : Text) : Text :=
  tokens.foldl (fun filled token => Text.replaceFirst marker token filled) code

namespace Chapter

/-- The marker of a blank in starter code, whatever marker the settings name. -/
def blank : Text := defaultMarker

/-- The number of blanks in the starter code. -/
def blanks (c : Chapter) : Nat := Text.occurrences blank c.starterCode

/-- The starter code with its blanks filled and run under the settings.  It is run only if there
is one token for each blank. -/
def attempt (settings : Settings) (tokens : List Text) (c : Chapter) :
    Except ChapterError Attempt :=
  if c.blanks < tokens.length then .error (.tooManyTokens c.blanks tokens.length)
  else if tokens.length < c.blanks then .error (.unfilled (c.blanks - tokens.length))
  else
    let code := fill blank tokens c.starterCode
    let evaluation := evaluate settings code
    .ok ⟨code, evaluation, evaluation.succeeded && c.acceptance.accepts evaluation.output⟩

end Chapter

end Spellbook
