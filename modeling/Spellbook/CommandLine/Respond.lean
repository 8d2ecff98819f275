import Spellbook.Chapter.Catalog
import Spellbook.CommandLine.Arguments
import Spellbook.Session.Console
import Spellbook.Syntax.Outline

/-!
# Answering a command line

What each request prints and the code that it exits with.  A request sees only the text of the
files that it names and the text of its standard input, which can be read once.
-/

namespace Spellbook

namespace CommandLine

/-- What a request answers. -/
structure Response where
  /-- Zero for success, one for failure, two for words that are not in order, 101 for a session
  that broke off. -/
  exitCode : Nat
  output : Text
  /-- The line that tells why a chapter was not attempted. -/
  notice : Option Text
deriving DecidableEq

/-- A response that prints the output, whether it is a success or a failure. -/
def Response.printing (success : Bool) (output : Text) : Response :=
  ⟨if success then 0 else 1, output, none⟩

/-- A text as a line of its own. -/
def asLine (t : Text) : Text := t ++ "\n"

/-! ## Files -/

/-- The name under which standard input is read. -/
def stdinName : Text := "-"

/-- The texts under the names, in order.  Standard input is used up by the first name that reads
it, and is empty after that. -/
def sources (file? : Text → Option Text) : List Text → Text → List (Text × Option Text)
  | [], _ => []
  | name :: names, stdin =>
    if name = stdinName then ("<stdin>".toList, some stdin) :: sources file? names []
    else (name, file? name) :: sources file? names stdin

/-- The name under which the text of a file is shown. -/
def reportName (name : Text) : Text :=
  if name.drop (name.length - 3) = ".py".toList then name else name ++ ".py"

/-! ## Running and parsing -/

/-- The response to running a spell, which fails if there is none. -/
def respondRun (settings : Settings) : Option Text → Response
  | none => .printing false []
  | some source =>
    let evaluation := evaluate settings source
    .printing evaluation.succeeded
      (if evaluation.output.isEmpty then [] else asLine evaluation.output)

/-- The tree of a spell, if there is a spell and it can be read. -/
def tree? (spans : Bool) (marker : Text) (source : Option Text) : Option Text :=
  match source.map (Program.read marker) with
  | some (.ok p) => some (if spans then p.outline else p.sexpr)
  | some (.error _) => none
  | none => none

/-- The response to parsing spells: each tree, behind which the name is confirmed if there are
several spells. -/
def respondParse (spans : Bool) (marker : Text) (spells : List (Text × Option Text)) :
    Response :=
  let trees := spells.map fun (name, source) => (name, tree? spans marker source)
  let several := 1 < spells.length
  .printing (trees.all fun (_, tree) => tree.isSome)
    (trees.flatMap fun (name, tree) =>
      match tree with
      | some tree => asLine tree ++ if several then asLine ("✅ " ++ name) else []
      | none => [])

/-! ## Chapters -/

/-- The line of a chapter in the list of chapters. -/
def chapterLine (c : Chapter) : Text :=
  Text.padLeft 2 (Text.ofNat c.id) ++ ". " ++ c.title ++ " (" ++ c.difficulty.name ++ ") - " ++
    Text.ofNat c.blanks ++ " blank(s)"

/-- The page of a chapter. -/
def chapterPage (hint : Bool) (c : Chapter) : Text :=
  asLine ("Chapter " ++ Text.ofNat c.id ++ ": " ++ c.title ++ " [" ++ c.difficulty.name ++ "]") ++
    asLine ("\n" ++ c.story ++ "\n") ++
    asLine ("Task: " ++ c.task) ++
    (if hint then asLine ("Hint: " ++ c.hint) else []) ++
    asLine ("\n" ++ Text.indent c.starterCode ++ "\n") ++
    asLine ("Tokens for " ++ Chapter.blank ++ ": " ++ Text.join "  " c.tokens)

/-- How to go on with a chapter whose blanks have not been filled. -/
def fillAdvice (c : Chapter) : Text :=
  asLine ("\nFill the blanks with --token, one per blank, e.g. `pymancer chapter " ++
    Text.ofNat c.id ++ " --token " ++ c.tokens.head?.getD "TOKEN" ++ "`")

/-- What is told about an attempt at a chapter. -/
def attemptText (c : Chapter) (a : Attempt) : Text :=
  asLine ("\nYour spell:\n" ++ Text.indent a.code ++ "\n") ++
    (if a.evaluation.output.isEmpty then []
      else asLine ("Output:\n" ++ Text.indent a.evaluation.output ++ "\n")) ++
    if a.passed then
      asLine ("✨ The spell takes hold. Chapter " ++ Text.ofNat c.id ++ " complete!")
    else asLine "💨 The spell fizzles. Try another token."

/-- The response to a chapter, which is attempted if there are tokens. -/
def respondChapter (id : Nat) (tokens : List Text) (hint : Bool) (settings : Settings) :
    Response :=
  match Chapter.find id with
  | .error _ => .printing false []
  | .ok c =>
    let page := chapterPage hint c
    if tokens.isEmpty then .printing true (page ++ fillAdvice c)
    else
      match c.attempt settings tokens with
      | .error e => ⟨1, page, some (asLine ("⚠️  " ++ e.message))⟩
      | .ok a => .printing a.passed (page ++ attemptText c a)

/-! ## All requests -/

/-- The name and version of the program. -/
def versionText : Text := "pymancer 0.1.0"

/-- The files that the request reads, standard input among them. -/
def Request.files : Request → List Text
  | .run file _ => [file]
  | .parse files _ _ => files
  | _ => []

/-- Whether the request reads standard input. -/
def Request.readsStdin : Request → Bool
  | .repl _ _ => true
  | r => r.files.contains stdinName

/-- The setup of a session on the command line. -/
def sessionConfig (keepHistory : Bool) (settings : Settings) : SessionConfig :=
  let usual : SessionConfig := {}
  { usual with
    persistHistory := keepHistory
    historyFile := if keepHistory then usual.historyFile else none
    settings := settings }

/-- The response to a session. -/
def respondSession (transcript : Session.Transcript) : Response :=
  ⟨if transcript.ended then 0 else 101, transcript.text, none⟩

/-- The response to a request. -/
def Request.respond (file? : Text → Option Text) (stdin : Text) (r : Request) : Response :=
  match r with
  | .run _ settings =>
    respondRun settings (((sources file? r.files stdin).head?.map Prod.snd).join)
  | .parse _ spans marker => respondParse spans marker (sources file? r.files stdin)
  | .chapters => .printing true (Chapter.all.flatMap fun c => asLine (chapterLine c))
  | .chapter id tokens hint settings => respondChapter id tokens hint settings
  | .repl keepHistory settings =>
    respondSession (Session.transcript (sessionConfig keepHistory settings) stdin)

/-- The response to a command line that makes no request. -/
def Stop.respond : Stop → Response
  | misuse => ⟨2, [], none⟩
  | help => ⟨0, [], none⟩
  | version => ⟨0, asLine versionText, none⟩

/-- The response to a command line. -/
def respond (arguments : List Text) (file? : Text → Option Text) (stdin : Text) : Response :=
  match request arguments with
  | .error stop => stop.respond
  | .ok r => r.respond file? stdin

end CommandLine

end Spellbook
