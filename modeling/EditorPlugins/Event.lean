/-
  What the host announces to plugins.

  An event has the name that plugins register handlers under and, when it is about a file, the
  name of that file.
-/
import EditorPlugins.Json.Basic

namespace EditorPlugins

/-- The stages of a file that plugins hear about. -/
inductive FileStage where
  | beforeOpen
  | afterOpen
  | beforeSave
  | afterSave
  | beforeClose
  | afterClose
deriving DecidableEq, Repr

/-- An event that the host announces. -/
inductive Event where
  | ready
  | shutdown
  | file (stage : FileStage) (name : String)
deriving DecidableEq, Repr

def FileStage.all : List FileStage :=
  [.beforeOpen, .afterOpen, .beforeSave, .afterSave, .beforeClose, .afterClose]

/-- The name under which handlers for a stage are registered. -/
def FileStage.eventName : FileStage → String
  | beforeOpen => "beforeFileOpen"
  | afterOpen => "afterFileOpen"
  | beforeSave => "beforeFileSave"
  | afterSave => "afterFileSave"
  | beforeClose => "beforeFileClose"
  | afterClose => "afterFileClose"

/-- The tag of a stage in a serialized event. -/
def FileStage.tag : FileStage → String
  | beforeOpen => "BeforeFileOpen"
  | afterOpen => "AfterFileOpen"
  | beforeSave => "BeforeFileSave"
  | afterSave => "AfterFileSave"
  | beforeClose => "BeforeFileClose"
  | afterClose => "AfterFileClose"

namespace Event

/-! ## Names -/

/-- The name under which handlers are registered. -/
def name : Event → String
  | ready => "ready"
  | shutdown => "shutdown"
  | file stage _ => stage.eventName

/-- The file that an event is about. -/
def filename? : Event → Option String
  | file _ f => some f
  | _ => none

/-- The names of all events. -/
def knownNames : List String := "ready" :: "shutdown" :: FileStage.all.map FileStage.eventName

def isKnown (name : String) : Bool := knownNames.contains name

/-- The event of a name.  A file event without a file is about the empty name; the other events
have no use for one. -/
def ofName? (name : String) (filename : Option String) : Option Event :=
  if name = "ready" then some .ready
  else if name = "shutdown" then some .shutdown
  else
    (FileStage.all.find? (fun s => s.eventName == name)).map
      (fun s => .file s (filename.getD ""))

/-- Reading the name of an event gives the event back. -/
theorem ofName?_name (e : Event) : ofName? e.name e.filename? = some e := by
  cases e with
  | ready => rfl
  | shutdown => rfl
  | file s f => cases s <;> rfl

/-! ## Serialized form -/

/-- A tag, with the file name under it when there is one. -/
def toJson : Event → Json
  | ready => .text "Ready"
  | shutdown => .text "Shutdown"
  | file stage f => .object [(stage.tag, .text f)]

/-- The event of a tag and of what stands under it. -/
def ofTag? (tag : String) (content : Option Json) : Option Event :=
  let plain (e : Event) : Option Event :=
    match content with
    | none | some .null => some e
    | some _ => none
  if tag = "Ready" then plain .ready
  else if tag = "Shutdown" then plain .shutdown
  else
    match FileStage.all.find? (fun s => s.tag == tag), content with
    | some s, some (.text f) => some (.file s f)
    | _, _ => none

/-- The event that a serialized form stands for: a tag alone, or an object of exactly one tag. -/
def ofJson? : Json → Option Event
  | .text tag => ofTag? tag none
  | .object [(tag, content)] => ofTag? tag (some content)
  | _ => none

/-- A serialized event reads back. -/
theorem ofJson?_toJson (e : Event) : ofJson? e.toJson = some e := by
  cases e with
  | ready => rfl
  | shutdown => rfl
  | file s f => cases s <;> rfl

end Event

end EditorPlugins
