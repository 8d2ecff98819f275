import Spellbook.Text.Basic
import Spellbook.Text.Extender
import Spellbook.Text.Printable

/-!
# Quoted text

A text in double quotes, with every character that would not show as itself written as an
escape.  Single quotes stand as they are.
-/

namespace Spellbook.Text

/-- The escape of a character by its code point, in lower-case hexadecimal digits. -/
def codePointEscape (c : Char) : Text :=
  "\\u\x7b" ++ Nat.toDigits 16 c.toNat ++ "\x7d"

/-- One character as it stands between double quotes. -/
def quotedChar (c : Char) : Text :=
  if c = '\x00' then "\\0"
  else if c = '\t' then "\\t"
  else if c = '\r' then "\\r"
  else if c = '\n' then "\\n"
  else if c = '"' then "\\\""
  else if c = '\\' then "\\\\"
  else if isCombining c || !isPrintable c then codePointEscape c
  else [c]

/-- The text in double quotes, with escapes. -/
def quoted (t : Text) : Text := "\"" ++ t.flatMap quotedChar ++ "\""

end Spellbook.Text
