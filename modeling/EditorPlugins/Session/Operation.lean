/-
  What the embedding application does with a registry of plugins.

  Operations come from outside, one after the other, or from the middle of a running script.
-/
import EditorPlugins.Session.FileChange

namespace EditorPlugins

/-- One step of the embedding application. -/
inductive Operation where
  /-- Attach collaborators to the registry. -/
  | attach
  /-- Announce the shutdown, unload every plugin and detach the collaborators. -/
  | finalize
  | isInitialized
  | load (root : Path)
  /-- Load every plugin folder directly below a directory. -/
  | loadDirectory (dir : Path)
  | unload (plugin : String)
  | reload (plugin : String)
  /-- Run a command by its qualified id. -/
  | execute (id : String)
  /-- Call a global function of a plugin with texts. -/
  | call (plugin function : String) (args : List String)
  /-- Announce the event of a name. -/
  | notify (name : String) (filename : Option String)
  | enable (plugin : String) (on : Bool)
  | version (plugin : String)
  | commands
  | info (plugin : String)
  | config
  /-- The stored configuration of a plugin. -/
  | storedConfig (plugin : String)
  /-- The settings held in memory. -/
  | settings
  | putSetting (key value : String)
  /-- The plugins loaded by the registry that the whole process shares. -/
  | sharedPlugins
  | describe
  | changeFiles (changes : List FileChange)
  | readFile (path : Path)
deriving Inhabited

namespace Operation

/-- The operation that a JSON object asks for. -/
def ofJson? (j : Json) : Option Operation :=
  let text (key : String) : String := (j.textField? key).getD ""
  let texts (key : String) : List String := ((j.itemsField? key).getD []).filterMap Json.text?
  match text "do" with
  | "init" => some .attach
  | "finalize" => some .finalize
  | "is_initialized" => some .isInitialized
  | "load" => some (.load ⟨text "path"⟩)
  | "load_dir" => some (.loadDirectory ⟨text "path"⟩)
  | "unload" => some (.unload (text "name"))
  | "reload" => some (.reload (text "name"))
  | "exec" => some (.execute (text "id"))
  | "call" => some (.call (text "plugin") (text "function") (texts "args"))
  | "notify" | "notify_named" => some (.notify (text "event") (j.textField? "file"))
  | "enable" => some (.enable (text "name") (((j.field? "on").bind Json.bool?).getD false))
  | "version" => some (.version (text "name"))
  | "commands" => some .commands
  | "info" => some (.info (text "name"))
  | "config" => some .config
  | "config_load" => some (.storedConfig (text "name"))
  | "settings" => some .settings
  | "setting" => some (.putSetting (text "key") (text "value"))
  | "same" => some .sharedPlugins
  | "debug" => some .describe
  | "files" => some (.changeFiles (FileChange.listOfJson (j.field? "files")))
  | "read" => some (.readFile ⟨text "path"⟩)
  | _ => none

end Operation

end EditorPlugins
