import Spellbook.Grammar.Pattern
import Spellbook.Syntax.Basic

/-!
# Tokens

How words, names, numbers, strings and operators are cut from a text.  Letters and digits are
those of ASCII.  A word ends where neither letter, digit nor underscore follows, and the words
that build statements and the truth values are no names.
-/

namespace Spellbook

namespace Token

/-! ## Cutting a token from the front of a text -/

/-- Whether the character may begin a name. -/
def isNameStart (c : Char) : Bool := c.isAlpha || c == '_'

/-- Whether the character may go on a name, a word or a number. -/
def isWordChar (c : Char) : Bool := c.isAlphanum || c == '_'

/-- The words that are not names. -/
def reserved : List Text := ["if", "for", "in", "and", "True", "False"]

/-- Whether a word or number that ends here has an end: no word character follows. -/
def endsWord (rest : Text) : Bool := !(rest.head?.any isWordChar)

/-- The given word, unless it is only the beginning of a longer one. -/
def word? (word : Text) (t : Text) : Option (Text × Text) :=
  match Text.dropFront? word t with
  | some rest => if endsWord rest then some (word, rest) else none
  | none => none

/-- A name: a letter or underscore and the word characters behind it, unless they are a reserved
word. -/
def name? (t : Text) : Option (Text × Text) :=
  let name := t.takeWhile isWordChar
  if t.head?.any isNameStart && !reserved.contains name then
    some (name, t.dropWhile isWordChar)
  else none

/-- A run of digits that no word character follows. -/
def digits? (t : Text) : Option (Text × Text) :=
  let digits := t.takeWhile Char.isDigit
  let rest := t.dropWhile Char.isDigit
  if !digits.isEmpty && endsWord rest then some (digits, rest) else none

/-- A text between two of the given quote characters, which it does not hold itself. -/
def enclosed? (quote : Char) : Text → Option (Text × Text)
  | [] => none
  | c :: t =>
    if c = quote then
      match t.dropWhile (fun d => d != quote) with
      | [] => none
      | _ :: rest => some (quote :: t.takeWhile (fun d => d != quote) ++ [quote], rest)
    else none

/-- The two characters of the comparison. -/
def equalSign? (t : Text) : Option (Text × Text) :=
  (Text.dropFront? "==" t).map fun rest => ("==", rest)

/-- The sign of an assignment, which is not the beginning of a comparison. -/
def assignSign? (t : Text) : Option (Text × Text) :=
  match Text.dropFront? "=" t with
  | some rest => if rest.head? = some '=' then none else some ("=", rest)
  | none => none

/-- The contents of an enclosed text. -/
def contents (enclosed : Text) : Text := enclosed.tail.dropLast

end Token

namespace Grammar

/-! ## Tokens as patterns -/

/-- A reserved or built-in word. -/
def word (rule : Rule) (text : Text) : Pattern Lexeme := .named rule (.scan (Token.word? text))

/-- A name. -/
def identifier : Pattern Identifier :=
  (fun lexeme => ⟨lexeme.text, lexeme.span⟩) <$> Pattern.named .identifier (.scan Token.name?)

/-- A truth value. -/
def boolean : Pattern (Bool × Span) :=
  .named .boolean
    ((fun lexeme => (true, lexeme.span)) <$> word .trueWord "True" <|>
      (fun lexeme => (false, lexeme.span)) <$> word .falseWord "False")

/-- An integer literal of any size. -/
def integer : Pattern Expression :=
  (fun lexeme => .integer (Text.natOfDigits lexeme.text) lexeme.span) <$>
    Pattern.named .integer (.scan Token.digits?)

/-- A string between quotes of one kind. -/
def stringIn (rule : Rule) (quote : Quote) (mark : Char) : Pattern Expression :=
  (fun lexeme => .string (Token.contents lexeme.text) quote lexeme.span) <$>
    Pattern.named rule (.scan (Token.enclosed? mark))

/-- A string literal. -/
def string : Pattern Expression :=
  .named .string
    (stringIn .singleQuoted .single '\'' <|> stringIn .doubleQuoted .double '"')

end Grammar

end Spellbook
