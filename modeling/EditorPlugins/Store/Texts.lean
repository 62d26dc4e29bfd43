/-
  Dictionaries of texts in files: the common form of plugin configurations and host settings.

  A dictionary is written as a JSON object, one entry a line, keys increasing.
-/
import EditorPlugins.Json.Parser
import EditorPlugins.Json.Printer
import EditorPlugins.Files.Operations

namespace EditorPlugins.Store

/-- The text of a dictionary in a file. -/
def render (d : Dict String) : String := Json.pretty (Json.ofDict d)

/-- The entries of a JSON object.  A value that is not a text counts as the empty one. -/
def lenientEntries : Json → Dict String
  | .object fields => Dict.ofList (fields.map (fun e => (e.1, e.2.text?.getD "")))
  | _ => ∅

/-- An entry whose value is a text. -/
def asTextEntry (e : String × Json) : Option (String × String) := e.2.text?.map (fun s => (e.1, s))

/-- The entries of a JSON object all of whose values are texts. -/
def strictEntries? : Json → Option (Dict String)
  | .object fields => (fields.mapM asTextEntry).map Dict.ofList
  | _ => none

/-- The dictionary in a file, read leniently; empty when there is no such text or it is not JSON. -/
def loadLenient (f : Files) (p : Path) : Dict String :=
  match f.readText p with
  | .ok text =>
    match Json.parse text with
    | .ok j => lenientEntries j
    | .error _ => ∅
  | .error _ => ∅

/-- The dictionary in a file, read strictly; empty when the file does not hold one. -/
def loadStrict (f : Files) (p : Path) : Dict String :=
  match f.readText p with
  | .ok text =>
    match Json.parse text with
    | .ok j => (strictEntries? j).getD ∅
    | .error _ => ∅
  | .error _ => ∅

/-- Make a directory with those above it, then write a file.  Directories made before a fault
stay. -/
def saveBelow (f : Files) (dir : Option Path) (p : Path) (d : Dict String) :
    Files × Option FileFault :=
  let made := match dir with
    | some dir => f.makeDirectories dir
    | none => (f, none)
  match made with
  | (g, some e) => (g, some e)
  | (g, none) =>
    match g.writeText p (render d) with
    | .ok h => (h, none)
    | .error e => (g, some e)

end EditorPlugins.Store
