import Spellbook.Chapter.Basic

/-!
# The chapters of the book

Six chapters, from assigning a string to counting the items of a list.
-/

namespace Spellbook

namespace Chapter

/-- The Sealed Gates. -/
def sealedGates : Chapter where
  id := 1
  title := "The Sealed Gates"
  difficulty := .beginner
  story :=
    "The ancient library of Pythonia is sealed by a logical gate. To enter, you must " ++
      "define the entry 'status' as 'authorized'."
  task := "Complete the code to set the status variable to the string 'authorized'."
  hint := "Use quotes for strings: status = 'authorized'"
  starterCode :=
    "# Define entry status\n" ++
      "status = ???\n\n" ++
      "if status == 'authorized':\n" ++
      "    print('The gate glows blue and swings open.')"
  tokens := ["'locked'", "'authorized'", "True", "False"]
  acceptance := .contains "swings open"

/-- The Mana Well. -/
def manaWell : Chapter where
  id := 2
  title := "The Mana Well"
  difficulty := .beginner
  story :=
    "The well is dry. It requires a specific amount of mana to activate. Set the " ++
      "'mana_level' to exactly 100."
  task := "Assign the integer 100 to the variable mana_level."
  hint := "Numbers don't need quotes: mana_level = 100"
  starterCode :=
    "mana_level = ???\n\n" ++
      "if mana_level == 100:\n" ++
      "    print('Pure arcane water gushes forth!')"
  tokens := ["50", "100", "'100'", "0"]
  acceptance := .contains "water gushes forth"

/-- The Gargoyle Orbs. -/
def gargoyleOrbs : Chapter where
  id := 3
  title := "The Gargoyle Orbs"
  difficulty := .intermediate
  story :=
    "Two stone gargoyles guard the hall. Only if both 'left_orb' and 'right_orb' are set " ++
      "to True will the path clear."
  task := "Use Boolean values to activate both orbs."
  hint := "In Python, booleans are True and False (Case Sensitive)."
  starterCode :=
    "left_orb = ???\n" ++
      "right_orb = ???\n\n" ++
      "if left_orb and right_orb:\n" ++
      "    print('The path is clear.')"
  tokens := ["True", "False", "'True'", "1"]
  acceptance := .contains "path is clear"

/-- Brewing Clarity. -/
def brewingClarity : Chapter where
  id := 4
  title := "Brewing Clarity"
  difficulty := .intermediate
  story :=
    "Your potion is almost complete. You must append 'Moonlight' to the 'ingredients' " ++
      "list."
  task := "Use the .append() method to add 'Moonlight' to the ingredients."
  hint := "Methods are called with dots: list.append('item')"
  starterCode :=
    "ingredients = ['Sage', 'Water']\n" ++
      "ingredients.???('Moonlight')\n\n" ++
      "if 'Moonlight' in ingredients:\n" ++
      "    print('The brew sparkles with silver light.')"
  tokens := ["push", "append", "add", "insert"]
  acceptance := .contains "sparkles with silver light"

/-- The Hydra's Trial. -/
def hydrasTrial : Chapter where
  id := 5
  title := "The Hydra's Trial"
  difficulty := .advanced
  story := "The Hydra has multiple heads. You must strike each one in sequence using a loop."
  task := "Use a for loop to iterate through the heads and print 'Strike!'."
  hint := "The syntax is: for item in list:"
  starterCode :=
    "heads = ['Alpha', 'Beta', 'Gamma']\n" ++
      "??? head in heads:\n" ++
      "    print('Strike!')"
  tokens := ["while", "for", "if", "each"]
  acceptance := .repeats "Strike!" 3

/-- The Oracle's Count. -/
def oraclesCount : Chapter where
  id := 6
  title := "The Oracle's Count"
  difficulty := .advanced
  story :=
    "The Oracle demands to know how many souls reside in the Hall. You must calculate " ++
      "the length of the 'souls' list."
  task := "Use the len() function to get the count of souls."
  hint := "len(list_name) returns the number of items."
  starterCode :=
    "souls = ['Merlin', 'Arthur', 'Gwen']\n" ++
      "count = ???(souls)\n\n" ++
      "if count == 3:\n" ++
      "    print('The Oracle nods in approval.')"
  tokens := ["size", "count", "len", "length"]
  acceptance := .contains "approval"

/-- The chapters in order. -/
def all : List Chapter :=
  [sealedGates, manaWell, gargoyleOrbs, brewingClarity, hydrasTrial, oraclesCount]

/-- The chapter with the given number. -/
def find (id : Nat) : Except ChapterError Chapter :=
  match all.find? fun c => c.id == id with
  | some c => .ok c
  | none => .error (.unknown id)

end Chapter

end Spellbook
