/-
  What a capability is asked to do, from the arguments of its call.

  All checks of arguments happen here; carrying out an action (`Capability/Action`) cannot fail
  for the script any more.  So a call that raises has no effect.
-/
import EditorPlugins.Boundary.Arguments

namespace EditorPlugins

/-- What a capability is asked to do. -/
inductive Action where
  | describePlugin
  | getConfig
  | saveConfig (config : Dict String)
  | getRootPath
  | registerCommand (id title : String) (f : Script.Function)
  | registerEvent (name : String) (f : Script.Function)
  | callPlugin (plugin function : String) (args : List String)
  | log (isError : Bool) (text : String)
  | message (title text : String)
  | confirm (title text : String)
  | input (label default : String)
  | select (items : List String) (index : Nat)
  | getClipboard
  | setClipboard (text : String)
  | read (path : String)
  | write (path : String) (bytes : ByteArray)
  | append (path : String) (bytes : ByteArray)
  | exists (path : String)
  | isFile (path : String)
  | isDirectory (path : String)
  | makeDirectory (path : String)
  | list (path : String)
  | realPath (path : String)
  | baseName (path : String)
  | dirName (path : String)
  | joinPaths (parts : List String)
  | getSetting (key : String)
  | setSetting (key value : String)
  | hasSetting (key : String)
  | removeSetting (key : String)
  | currentFile
  | openFile (path : Path)
  | saveFile
  | closeFile (path : Option Path)

namespace Capability

/-- A title and a text, or the text alone with an empty title. -/
def titleAndText (a : Arguments) : Except ArgumentFault (String × String) := do
  match ← a.text? 2 "message" with
  | some text => .ok (← a.text 1 "title", text)
  | none => .ok ("", ← a.text 1 "message")

/-- The command that a table describes. -/
def commandAction (t : HostTable) : Except ArgumentFault Action :=
  match t.textField? "id", t.textField? "title", t.callableField? "execute" with
  | some id, some title, some f =>
    if id.isEmpty then .error .emptyCommandId else .ok (.registerCommand id title f)
  | _, _, _ => .error .commandShape

/-- Handlers are registered for a text, not for a number. -/
def eventAction (a : Arguments) : Except ArgumentFault Action :=
  match a.get? 1 with
  | some (.text name) => do .ok (.registerEvent name (← a.callable 2 "handler"))
  | _ => .error (a.mismatch 1 "event" "string")

/-- A script's index, counted from one, as one counted from zero. -/
def indexFromOne (i : Int64) : Nat := (i.toInt - 1).toNat

/-- The action that a call asks for. -/
def check (c : Capability) (values : List HostValue) : Except ArgumentFault Action :=
  let a : Arguments := ⟨c.name, values⟩
  let path (make : String → Action) : Except ArgumentFault Action := do
    .ok (make (← a.text 1 "path"))
  match c with
  | pluginInfo => .ok .describePlugin
  | pluginGetConfig => .ok .getConfig
  | pluginSaveConfig => do .ok (.saveConfig (← a.table 1 "config").toDict)
  | pluginGetRootPath => .ok .getRootPath
  | pluginRegisterCommand => do commandAction (← a.table 1 "command")
  | pluginOn => eventAction a
  | pluginCall => do
    .ok (.callPlugin (← a.text 1 "plugin") (← a.text 2 "function") (a.textsFrom 3))
  | pluginLog => do .ok (.log false (← a.text 1 "message"))
  | pluginLogError => do .ok (.log true (← a.text 1 "message"))
  | uiMessage => do
    let (title, text) ← titleAndText a
    .ok (.message title text)
  | uiConfirm => do
    let (title, text) ← titleAndText a
    .ok (.confirm title text)
  | uiInput => do .ok (.input (← a.text 1 "label") ((← a.text? 2 "default").getD ""))
  | uiSelect => do
    let items := (← a.table 1 "items").array.filterMap HostValue.coerceText
    .ok (.select items (((← a.integer? 2 "default").map indexFromOne).getD 0))
  | uiGetClipboard => .ok .getClipboard
  | uiSetClipboard => do .ok (.setClipboard (← a.text 1 "text"))
  | fsRead => path .read
  | fsWrite => do .ok (.write (← a.text 1 "path") (← a.bytes 2 "contents"))
  | fsAppend => do .ok (.append (← a.text 1 "path") (← a.bytes 2 "contents"))
  | fsExists => path .exists
  | fsIsFile => path .isFile
  | fsIsDirectory => path .isDirectory
  | fsMkdir => path .makeDirectory
  | fsListdir => path .list
  | fsRealpath => path .realPath
  | fsBasename => path .baseName
  | fsDirname => path .dirName
  | fsJoin => .ok (.joinPaths (values.filterMap HostValue.coerceText))
  | settingsGet => do .ok (.getSetting (← a.text 1 "key"))
  | settingsSet => do .ok (.setSetting (← a.text 1 "key") (← a.text 2 "value"))
  | settingsHas => do .ok (.hasSetting (← a.text 1 "key"))
  | settingsRemove => do .ok (.removeSetting (← a.text 1 "key"))
  | editorCurrentFile => .ok .currentFile
  | editorOpen => do .ok (.openFile ⟨← a.text 1 "path"⟩)
  | editorSave => .ok .saveFile
  | editorClose => do .ok (.closeFile ((← a.text? 1 "path").map Path.mk))

end Capability

end EditorPlugins
