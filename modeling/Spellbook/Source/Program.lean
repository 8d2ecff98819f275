import Spellbook.Source.Clause
import Spellbook.Source.Line

/-!
# Reading a spell

Each line that is not silent is one statement.  The line behind the header of a block belongs to
it if it is indented; if that line is silent, the block has no body.  Indentation means nothing
elsewhere.  Lines are read in order, and the first that cannot be read decides the error.
-/

namespace Spellbook

namespace SourceLine

/-- The blame for the first occurrence of the marker in the line.  The empty marker marks
nothing. -/
def unfilled? (marker : Text) (l : SourceLine) : Option (Blame SyntaxCause) :=
  if marker.isEmpty then none
  else
    (Text.find? marker l.text).map fun position =>
      ⟨.unfilledBlank marker, ⟨position, position + Text.byteLength marker⟩⟩

/-- The clause on the line, with its place in the whole source. -/
def clause (marker : Text) (l : SourceLine) : Except SyntaxError Clause :=
  match l.unfilled? marker with
  | some blame => .error ((blame.shift l.offset).onLine l.number)
  | none =>
    match Clause.read l.text with
    | .error blame => .error ((blame.shift l.offset).onLine l.number)
    | .ok clause => .ok (clause.shift l.offset)

/-- The simple statement on a line that stands under a header, none if the line is silent. -/
def body (marker : Text) (l : SourceLine) : Except SyntaxError (Option Simple) :=
  if l.isSilent then .ok none
  else
    match l.clause marker with
    | .error e => .error e
    | .ok ⟨.action action, span⟩ => .ok (some ⟨action, l.number, span⟩)
    | .ok ⟨.header _, span⟩ => .error ⟨⟨.nestedBlock, span⟩, l.number⟩

end SourceLine

namespace Statement

/-- The statements on the lines. -/
def ofLines (marker : Text) : List SourceLine → Except SyntaxError (List Statement)
  | [] => .ok []
  | l :: rest =>
    if l.isSilent then ofLines marker rest
    else
      match l.clause marker with
      | .error e => .error e
      | .ok ⟨.action action, span⟩ =>
        (ofLines marker rest).map (.simple ⟨action, l.number, span⟩ :: ·)
      | .ok ⟨.header header, span⟩ =>
        match rest with
        | [] => .ok [.block ⟨header, l.number, span, none⟩]
        | next :: others =>
          if next.isIndented then
            match next.body marker with
            | .error e => .error e
            | .ok body =>
              (ofLines marker others).map (.block ⟨header, l.number, span, body⟩ :: ·)
          else
            (ofLines marker (next :: others)).map (.block ⟨header, l.number, span, none⟩ :: ·)

end Statement

/-- The spell that the source holds; a line that holds the marker cannot be read. -/
def Program.read (marker source : Text) : Except SyntaxError Program :=
  (Statement.ofLines marker (SourceLine.split source)).map fun statements =>
    ⟨statements, ⟨0, Text.byteLength source⟩⟩

end Spellbook
