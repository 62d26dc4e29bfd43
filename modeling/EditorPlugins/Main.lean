/-
  The program: a plugin host that nobody sits in front of.

  It works on an image of its surroundings, which it reads from standard input: one JSON object
  with the files below the current directory under `files`, and environment variables under `env`.
-/
import EditorPlugins.CommandLine.Run

namespace EditorPlugins.CommandLine

/-- The current directory of the program. -/
def workPlace : Place := ["work"]

/-- The files of an image. -/
def filesOfImage (image : Json) : Files :=
  FileChange.applyAll ⟨[(workPlace, .directory)], workPlace⟩
    (FileChange.listOfJson (image.field? "files"))

/-- The variables of an image. -/
def environmentOfImage (image : Json) : Environment :=
  match image.field? "env" with
  | some (.object fields) =>
    Dict.ofList (fields.filterMap fun e => e.2.text?.map fun s => (e.1, s))
  | _ => ∅

/-- How many steps each operation is granted. -/
def grantedSteps : Nat := 100000000

end EditorPlugins.CommandLine

open EditorPlugins CommandLine in
def main (args : List String) : IO UInt32 := do
  let input ← (← IO.getStdin).readToEnd
  match Json.parse input with
  | .error e =>
    IO.eprintln e.message
    return 1
  | .ok image =>
    match run? grantedSteps (filesOfImage image) (environmentOfImage image) args with
    | none =>
      IO.eprintln "Error: a plugin does not come to an end"
      return 1
    | some (outcome, _) =>
      IO.print outcome.output
      for complaint in outcome.complaint?.toList do
        IO.eprintln complaint
      return outcome.exitCode.toUInt32
