/-
  The collaborators of a registry: whom capabilities talk to.

  A host answers prompts, keeps a clipboard, may have an editor, and holds the settings.
-/
import EditorPlugins.Store.SettingsFile

namespace EditorPlugins

/-- How prompts are answered. -/
inductive Prompting where
  /-- With their defaults; confirmations with the given answer. -/
  | defaults (yes : Bool)
  /-- Every prompt is cancelled and the clipboard refuses texts. -/
  | cancelling
deriving DecidableEq, Repr, Inhabited

namespace Prompting

def confirm : Prompting → Bool
  | defaults yes => yes
  | cancelling => false

def input (p : Prompting) (default : String) : Option String :=
  match p with
  | defaults _ => some default
  | cancelling => none

/-- The item at an index counted from zero. -/
def select (p : Prompting) (items : List String) (index : Nat) : Option String :=
  match p with
  | defaults _ => items[index]?
  | cancelling => none

/-- The clipboard after a text was put there, and whether it was taken. -/
def setClipboard (p : Prompting) (clipboard text : String) : String × Bool :=
  match p with
  | defaults _ => (text, true)
  | cancelling => (clipboard, false)

end Prompting

/-- An editor with at most one file open. -/
structure Editor where
  file : Option Path
  /-- How often the file was saved. -/
  saves : Nat := 0
deriving DecidableEq, Inhabited

namespace Editor

/-- Close the file that is open, if it is the given one or none is given. -/
def close (e : Editor) (path : Option Path) : Editor × Bool :=
  match e.file with
  | none => (e, false)
  | some file =>
    match path with
    | none => ({ e with file := none }, true)
    | some p => if p.same file then ({ e with file := none }, true) else (e, false)

end Editor

/-- Where a host keeps its settings. -/
inductive SettingsStore where
  /-- In memory, shared by all hosts of the session. -/
  | memory
  | file (s : SettingsFile)
deriving Inhabited

/-- The collaborators of a registry. -/
structure Host where
  prompting : Prompting
  clipboard : String := ""
  editor : Option Editor
  settings : SettingsStore
deriving Inhabited

/-- How the collaborators are made when a registry is initialized. -/
structure HostProfile where
  prompting : Prompting := .defaults false
  /-- The file that a new editor has open; nothing for a host without editor. -/
  editor : Option (Option Path) := none
  /-- The file of the settings; nothing for settings in memory. -/
  settingsFile : Option Path := none
deriving DecidableEq, Inhabited

/-- New collaborators. -/
def HostProfile.attach (p : HostProfile) (f : Files) : Host where
  prompting := p.prompting
  editor := p.editor.map (fun file => ⟨file, 0⟩)
  settings := match p.settingsFile with
    | some path => .file (SettingsFile.load f path)
    | none => .memory

end EditorPlugins
