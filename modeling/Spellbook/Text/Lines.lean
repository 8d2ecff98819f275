import Spellbook.Text.Basic

/-!
# Lines of a text

Two ways to read a text as lines.  `splitNewlines` cuts at every newline, so its pieces are one
more than the newlines.  `rows` reads a newline as the end of a line, so that a text which ends
with one has no empty line after it.
-/

namespace Spellbook.Text

/-- The pieces of the text between its newlines. -/
def splitNewlines : Text → List Text
  | [] => [[]]
  | c :: t =>
    if c = '\n' then [] :: splitNewlines t
    else
      match splitNewlines t with
      | [] => [[c]]
      | piece :: pieces => (c :: piece) :: pieces

theorem splitNewlines_ne_nil (t : Text) : splitNewlines t ≠ [] := by
  cases t with
  | nil => simp [splitNewlines]
  | cons c t =>
    simp only [splitNewlines]
    split
    · simp
    · split <;> simp

/-- The text without one carriage return at its end. -/
def dropCarriage (t : Text) : Text :=
  if t.getLast? = some '\r' then t.dropLast else t

/-- The lines among the pieces between newlines: the last piece is a line only if it is not
empty, and it alone keeps a carriage return at its end. -/
def rowsOfPieces : List Text → List Text
  | [] => []
  | [last] => if last.isEmpty then [] else [last]
  | piece :: pieces => dropCarriage piece :: rowsOfPieces pieces

/-- The lines of the text, without their line endings. -/
def rows (t : Text) : List Text := rowsOfPieces (splitNewlines t)

/-- The lines of the text, each set in by four blanks. -/
def indent (t : Text) : Text := join "\n" ((rows t).map fun row => "    " ++ row)

end Spellbook.Text
