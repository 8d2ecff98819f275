import Spellbook.Run.Evaluation

/-!
# Command line arguments

How the words of a command line are read.  The first word names a command, and the rest are its
options and operands in any order.  A value stands behind its option as a word of its own, which
then must not look like an option, or is attached to it.  Behind a lone `--` every word is an
operand.  Words are read from left to right, so a request for help counts only if the words
before it are in order.
-/

namespace Spellbook

namespace CommandLine

/-! ## Options -/

/-- The options of all commands. -/
inductive Flag where
  | spans
  | hint
  | noHistory
  | token
  | placeholder
  | maxSteps
deriving DecidableEq

namespace Flag

/-- The name of the option, without the dashes. -/
def long : Flag → Text
  | spans => "spans"
  | hint => "hint"
  | noHistory => "no-history"
  | token => "token"
  | placeholder => "placeholder"
  | maxSteps => "max-steps"

/-- The letter that stands for the option, if one does. -/
def short? : Flag → Option Char
  | spans => some 's'
  | token => some 't'
  | _ => none

/-- Whether the option has a value. -/
def takesValue : Flag → Bool
  | spans | hint | noHistory => false
  | token | placeholder | maxSteps => true

/-- Whether the option may be given more than once. -/
def mayRepeat (f : Flag) : Bool := f == token

end Flag

/-! ## Numbers -/

/-- The number that a word of digits denotes. -/
def digits? (t : Text) : Option Nat :=
  if !t.isEmpty && t.all Char.isDigit then some (Text.natOfDigits t) else none

/-- A natural number, which may have a plus sign, up to the given bound. -/
def natural? (bound : Nat) (t : Text) : Option Nat :=
  let unsigned := match t with
    | '+' :: rest => rest
    | _ => t
  (digits? unsigned).filter fun n => n ≤ bound

/-- The largest step limit that can be given. -/
def maxStepLimit : Nat := 18446744073709551615

/-- The largest chapter number that can be given. -/
def maxChapterId : Nat := 4294967295

/-- A chapter number.  Zero may also have a minus sign. -/
def chapterId? (t : Text) : Option Nat :=
  match t with
  | '-' :: rest => (digits? rest).filter fun n => n = 0
  | _ => natural? maxChapterId t

/-- Whether the option can have the value. -/
def Flag.admits (value : Text) : Flag → Bool
  | .maxSteps => (natural? maxStepLimit value).isSome
  | _ => true

/-! ## Commands -/

/-- The commands of the program. -/
inductive Verb where
  | run
  | parse
  | chapters
  | chapter
  | repl
deriving DecidableEq

namespace Verb

/-- The word that names the command. -/
def name : Verb → Text
  | run => "run"
  | parse => "parse"
  | chapters => "chapters"
  | chapter => "chapter"
  | repl => "repl"

/-- Every command once. -/
def all : List Verb := [run, parse, chapters, chapter, repl]

/-- The command with the name. -/
def ofName? (t : Text) : Option Verb := all.find? fun v => v.name == t

/-- The options that the command knows. -/
def flags : Verb → List Flag
  | run => [.placeholder, .maxSteps]
  | parse => [.spans, .placeholder]
  | chapters => []
  | chapter => [.token, .hint, .placeholder, .maxSteps]
  | repl => [.noHistory, .placeholder, .maxSteps]

/-- The number of operands that the command takes at most, if there is a limit. -/
def operandLimit? : Verb → Option Nat
  | run | chapter => some 1
  | parse => none
  | chapters | repl => some 0

/-- Whether the command can have the operand. -/
def admits (operand : Text) : Verb → Bool
  | run | parse => !operand.isEmpty
  | chapter => (chapterId? operand).isSome
  | chapters | repl => false

end Verb

/-! ## Reading the words -/

/-- Why the words of a command line name no command to carry out. -/
inductive Stop where
  /-- The words are not in order. -/
  | misuse
  /-- They ask for help. -/
  | help
  /-- They ask for the version. -/
  | version
deriving DecidableEq

/-- The options with their values, and the operands, in the order they are given. -/
structure Words where
  flags : List (Flag × Text)
  operands : List Text

namespace Words

/-- The words with one more option. -/
def addFlag (w : Words) (f : Flag) (value : Text) : Except Stop Words :=
  if !f.mayRepeat && w.flags.any (fun given => given.1 == f) then .error .misuse
  else if f.admits value then .ok { w with flags := w.flags ++ [(f, value)] }
  else .error .misuse

/-- The words with one more operand of the command. -/
def addOperand (v : Verb) (w : Words) (operand : Text) : Except Stop Words :=
  if (v.operandLimit?.any fun limit => limit ≤ w.operands.length) || !v.admits operand then
    .error .misuse
  else .ok { w with operands := w.operands ++ [operand] }

/-- The words with more operands of the command. -/
def addOperands (v : Verb) : List Text → Words → Except Stop Words
  | [], w => .ok w
  | operand :: rest, w => (w.addOperand v operand).bind (addOperands v rest)

/-- Whether the option has been given. -/
def has (w : Words) (f : Flag) : Bool := w.flags.any fun given => given.1 == f

/-- The values of the option. -/
def values (w : Words) (f : Flag) : List Text :=
  w.flags.filterMap fun given => if given.1 == f then some given.2 else none

end Words

/-- What has been read of the words when an option is reached: all of it, or an option that
still wants its value. -/
inductive Progress where
  | complete (words : Words)
  | wanting (flag : Flag) (words : Words)

/-- Whether the word looks like an option.  A lone dash does not. -/
def looksLikeOption : Text → Bool
  | '-' :: _ :: _ => true
  | _ => false

/-- Reads an option that is given by its name, with the value that is attached to it, if one
is. -/
def readLong (known : List Flag) (name : Text) (attached : Option Text) (w : Words) :
    Except Stop Progress :=
  match known.find? fun f => f.long == name with
  | none => .error (if name = "help".toList ∧ attached = none then .help else .misuse)
  | some f =>
    match f.takesValue, attached with
    | true, some value => (w.addFlag f value).map .complete
    | true, none => .ok (.wanting f w)
    | false, none => (w.addFlag f []).map .complete
    | false, some _ => .error .misuse

/-- Reads options that are given by their letters in one word.  What follows the letter of an
option with a value is the value, and an equals sign may come in between. -/
def readShort (known : List Flag) : Text → Words → Except Stop Progress
  | [], w => .ok (.complete w)
  | letter :: rest, w =>
    match known.find? fun f => f.short? == some letter with
    | none => .error (if letter = 'h' then .help else .misuse)
    | some f =>
      if f.takesValue then
        match rest with
        | [] => .ok (.wanting f w)
        | '=' :: value => (w.addFlag f value).map .complete
        | value => (w.addFlag f value).map .complete
      else (w.addFlag f []).bind (readShort known rest)

/-- The name and the attached value of an option. -/
def splitAttached (t : Text) : Text × Option Text :=
  match Text.cut? "=" t with
  | some (name, value) => (name, some value)
  | none => (t, none)

/-- Reads the words of a command. -/
def readWords (v : Verb) : List Text → Words → Except Stop Words
  | [], w => .ok w
  | ['-', '-'] :: rest, w => Words.addOperands v rest w
  | word :: rest, w =>
    if looksLikeOption word then
      let progress := match word with
        | '-' :: '-' :: body =>
          let (name, attached) := splitAttached body
          readLong v.flags name attached w
        | letters => readShort v.flags letters.tail w
      match progress with
      | .error stop => .error stop
      | .ok (.complete w) => readWords v rest w
      | .ok (.wanting f w) =>
        match rest with
        | [] => .error .misuse
        | value :: rest =>
          if looksLikeOption value then .error .misuse
          else
            match w.addFlag f value with
            | .error stop => .error stop
            | .ok w => readWords v rest w
    else
      match w.addOperand v word with
      | .error stop => .error stop
      | .ok w => readWords v rest w

/-! ## What is asked for -/

/-- What a command line asks for. -/
inductive Request where
  | run (file : Text) (settings : Settings)
  | parse (files : List Text) (spans : Bool) (marker : Text)
  | chapters
  | chapter (id : Nat) (tokens : List Text) (hint : Bool) (settings : Settings)
  | repl (keepHistory : Bool) (settings : Settings)
deriving DecidableEq

/-- The marker that the words give, or the usual one. -/
def Words.marker (w : Words) : Text := (w.values .placeholder).head?.getD defaultMarker

/-- The settings that the words give. -/
def Words.settings (w : Words) : Settings :=
  let usual : Settings := {}
  ⟨w.marker, ((w.values .maxSteps).head?.bind (natural? maxStepLimit)).getD usual.maxSteps⟩

/-- The request that the words of a command make. -/
def Words.request (w : Words) : Verb → Except Stop Request
  | .run =>
    match w.operands with
    | file :: _ => .ok (.run file w.settings)
    | [] => .error .misuse
  | .parse =>
    if w.operands.isEmpty then .error .misuse
    else .ok (.parse w.operands (w.has .spans) w.marker)
  | .chapters => .ok .chapters
  | .chapter =>
    match w.operands.head?.bind chapterId? with
    | some id => .ok (.chapter id (w.values .token) (w.has .hint) w.settings)
    | none => .error .misuse
  | .repl => .ok (.repl (!w.has .noHistory) w.settings)

/-- Whether the words behind `help` name a command, or nothing. -/
def namesHelpTopic : List Text → Bool
  | [] => true
  | [topic] => topic == "help".toList || (Verb.ofName? topic).isSome
  | _ => false

/-- The request that a command line makes.  Without any word it asks for help. -/
def request : List Text → Except Stop Request
  | [] => .error .help
  | first :: rest =>
    match Verb.ofName? first with
    | some v => (readWords v rest ⟨[], []⟩).bind fun w => w.request v
    | none =>
      if first = "--version".toList then .error .version
      else if first = "--help".toList then .error .help
      else if first = "--".toList ∧ rest = [] then .error .help
      else if first = "help".toList then
        .error (if namesHelpTopic rest then .help else .misuse)
      else
        match first with
        | '-' :: 'V' :: _ => .error .version
        | '-' :: 'h' :: _ => .error .help
        | _ => .error .misuse

end CommandLine

end Spellbook
