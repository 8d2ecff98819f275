import Spellbook.CommandLine.Respond

/-!
# The program

Hands the command line, the files that it names and standard input to the library, and carries
out the response.
-/

namespace Spellbook

/-- The text of a file, if it can be read. -/
def readText? (name : Text) : IO (Option Text) := do
  try
    return some (← IO.FS.readFile (String.ofList name)).toList
  catch _ =>
    return none

/-- The files that can be read, with their texts. -/
def readTexts (names : List Text) : IO (List (Text × Text)) := do
  let texts ← names.mapM fun name => do
    return (← readText? name).map fun text => (name, text)
  return texts.filterMap id

/-- The response to a command line, with the files and the standard input that it reads. -/
def answer (arguments : List Text) : IO CommandLine.Response := do
  match CommandLine.request arguments with
  | .error stop => return stop.respond
  | .ok request =>
    let files ← readTexts (request.files.filter fun name => name != CommandLine.stdinName)
    let input ← if request.readsStdin then (← IO.getStdin).readToEnd else pure ""
    return request.respond (fun name => files.lookup name) input.toList

end Spellbook

open Spellbook in
/-- Answers a command line. -/
def main (arguments : List String) : IO UInt32 := do
  let response ← answer (arguments.map String.toList)
  IO.print (String.ofList response.output)
  if let some notice := response.notice then
    IO.eprint (String.ofList notice)
  return UInt32.ofNat response.exitCode
