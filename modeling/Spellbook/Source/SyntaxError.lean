import Spellbook.Grammar.Rule
import Spellbook.Syntax.Span

/-!
# Syntax errors

The reasons for which a spell cannot be read, and the wording of each.
-/

namespace Spellbook

/-- Why a line of a spell cannot be read. -/
inductive SyntaxCause where
  /-- The line still holds the marker of a blank that is to be filled. -/
  | unfilledBlank (marker : Text)
  /-- None of the rules fits the text at the place that is blamed. -/
  | unexpected (rules : List Rule)
  /-- The digits of an integer literal denote a number that is too large. -/
  | oversizedInteger (digits : Text)
  /-- The statement under a header is itself a header. -/
  | nestedBlock
deriving DecidableEq

/-- A reason, with its place and line. -/
abbrev SyntaxError := Fault SyntaxCause

namespace SyntaxCause

/-- The sentence that reports the cause on a line. -/
def message (line : Nat) : SyntaxCause → Text
  | unfilledBlank _ =>
    "Unresolved placeholder on line " ++ Text.ofNat line ++ ". All voids must be filled."
  | unexpected rules =>
    "Invalid syntax on line " ++ Text.ofNat line ++ ": " ++ Rule.expectation rules
  | oversizedInteger digits =>
    "Invalid integer literal on line " ++ Text.ofNat line ++ ": " ++ digits
  | nestedBlock =>
    "Nested block on line " ++ Text.ofNat line ++
      ": the body of `if` or `for` must be a single simple statement"

/-- The identifier under which the cause is documented. -/
def code : SyntaxCause → Text
  | unfilledBlank _ => "pymancer::parse::unresolved_placeholder"
  | unexpected _ => "pymancer::parse::invalid_syntax"
  | oversizedInteger _ => "pymancer::parse::invalid_integer"
  | nestedBlock => "pymancer::parse::nested_block"

/-- What can be done about the cause. -/
def help : SyntaxCause → Text
  | unfilledBlank marker => "Replace `" ++ marker ++ "` with one of the offered tokens"
  | unexpected _ =>
    "Supported statements: assignment, print(...), list.append(...), " ++
      "`if <condition>:` and `for <name> in <list>:`"
  | oversizedInteger _ => "Integer literals must fit in a signed 64-bit number"
  | nestedBlock => "Bodies may assign, print or append, but cannot open another block"

/-- The words next to the place that is blamed. -/
def label : SyntaxCause → Text
  | unfilledBlank _ => "unfilled placeholder"
  | unexpected _ => "not understood"
  | oversizedInteger _ => "invalid integer"
  | nestedBlock => "block header used as a body"

end SyntaxCause

end Spellbook
