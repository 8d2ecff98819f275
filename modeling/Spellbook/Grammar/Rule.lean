import Spellbook.Text.Basic

/-!
# Named rules of the grammar

The rules that a syntax error can mention, with the words that describe each of them to the
person who writes spells.  Their order here is the order in which an error lists them.
-/

namespace Spellbook

/-- A rule of the grammar that a syntax error may report as missing. -/
inductive Rule where
  | lineEnd
  | ifWord
  | forWord
  | printWord
  | lenWord
  | andWord
  | inWord
  | equalSign
  | assignSign
  | identifier
  | boolean
  | trueWord
  | falseWord
  | integer
  | string
  | singleQuoted
  | doubleQuoted
  | list
  | listElements
  | lenCall
  | expression
  | condition
  | membership
  | equality
  | bareCondition
  | methodCall
  | printCall
  | assignment
  | ifHeader
  | forHeader
  | statement
  | line
  | loneExpression
  | loneCondition
deriving DecidableEq

namespace Rule

/-- Every rule once, in the order in which an error lists them. -/
def all : List Rule :=
  [lineEnd, ifWord, forWord, printWord, lenWord, andWord, inWord, equalSign, assignSign,
    identifier, boolean, trueWord, falseWord, integer, string, singleQuoted, doubleQuoted, list,
    listElements, lenCall, expression, condition, membership, equality, bareCondition,
    methodCall, printCall, assignment, ifHeader, forHeader, statement, line, loneExpression,
    loneCondition]

theorem mem_all (r : Rule) : r ∈ all := by cases r <;> decide

theorem nodup_all : all.Nodup := by decide

/-- The words for what the rule would accept.  Rules that differ may share their words. -/
def description : Rule → Text
  | lineEnd => "end of line"
  | ifWord => "`if`"
  | forWord => "`for`"
  | printWord => "`print`"
  | lenWord => "`len`"
  | andWord => "`and`"
  | inWord => "`in`"
  | equalSign => "`==`"
  | assignSign => "`=`"
  | identifier => "a name (like spell or mana_level)"
  | boolean => "True or False"
  | trueWord => "True or False"
  | falseWord => "True or False"
  | integer => "a number (like 100)"
  | string => "a string (like 'authorized')"
  | singleQuoted => "a string (like 'authorized')"
  | doubleQuoted => "a string (like 'authorized')"
  | list => "a list (like ['Sage', 'Water'])"
  | listElements => "list_elements"
  | lenCall => "len(...)"
  | expression => "a value or a name"
  | condition => "a condition"
  | membership => "a condition"
  | equality => "a condition"
  | bareCondition => "a condition"
  | methodCall => "method_call"
  | printCall => "print_call"
  | assignment => "assignment"
  | ifHeader => "if_header"
  | forHeader => "for_header"
  | statement => "a statement"
  | line => "line"
  | loneExpression => "expression_input"
  | loneCondition => "condition_input"

/-- The alternatives as an enumeration: two are joined by `or`, more by commas and a final
`or`. -/
def enumerate : List Text → Text
  | [] => []
  | [only] => only
  | [first, second] => first ++ " or " ++ second
  | alternatives@(_ :: _) =>
    Text.join ", " alternatives.dropLast ++ ", or " ++ alternatives.getLast?.getD []

/-- The rules among the given ones, each once and in listing order. -/
def listed (rules : List Rule) : List Rule := all.filter fun r => rules.contains r

/-- The sentence that says which rules would have been accepted. -/
def expectation (rules : List Rule) : Text :=
  "expected " ++ enumerate (rules.map description)

end Rule

end Spellbook
