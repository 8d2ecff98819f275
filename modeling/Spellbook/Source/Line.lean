import Spellbook.Text.Blank
import Spellbook.Text.Lines

/-!
# Source lines

The lines of a spell with their numbers and the byte positions at which they start.  A line ends
with a newline or with a carriage return and a newline.  There is one line more than there are
newlines.
-/

namespace Spellbook

/-- A line of a spell, without its line ending. -/
structure SourceLine where
  /-- The lines are counted from one. -/
  number : Nat
  /-- The number of bytes in front of the line. -/
  offset : Nat
  text : Text
deriving DecidableEq

namespace SourceLine

/-- The pieces as lines that follow each other, counted from `number` and placed from `offset`
on.  The carriage return that a piece may end with is not part of its line, but it is counted,
as is the newline behind the piece. -/
def place (number offset : Nat) : List Text → List SourceLine
  | [] => []
  | piece :: pieces =>
    ⟨number, offset, Text.dropCarriage piece⟩ ::
      place (number + 1) (offset + Text.byteLength piece + 1) pieces

/-- The lines of a spell. -/
def split (source : Text) : List SourceLine := place 1 0 (Text.splitNewlines source)

/-- Whether the line says nothing: it is blank or holds only a comment. -/
def isSilent (l : SourceLine) : Bool :=
  let trimmed := Text.trim l.text
  trimmed.isEmpty || trimmed.head? == some '#'

/-- Whether the line is set in by a blank or a tab. -/
def isIndented (l : SourceLine) : Bool :=
  l.text.head? == some ' ' || l.text.head? == some '\t'

end SourceLine

end Spellbook
