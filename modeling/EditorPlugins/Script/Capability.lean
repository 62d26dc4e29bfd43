/-
  The capabilities of plugins: the functions through which a script reaches its host.

  Each capability is a field of one of five tables that every sandbox has among its globals.
-/

namespace EditorPlugins

/-- A function that a host gives to scripts. -/
inductive Capability where
  | pluginInfo | pluginGetConfig | pluginSaveConfig | pluginGetRootPath | pluginRegisterCommand
  | pluginOn | pluginCall | pluginLog | pluginLogError
  | uiMessage | uiConfirm | uiInput | uiSelect | uiGetClipboard | uiSetClipboard
  | fsRead | fsWrite | fsAppend | fsExists | fsIsFile | fsIsDirectory | fsMkdir | fsListdir
  | fsRealpath | fsBasename | fsDirname | fsJoin
  | settingsGet | settingsSet | settingsHas | settingsRemove
  | editorCurrentFile | editorOpen | editorSave | editorClose
deriving DecidableEq, Repr

namespace Capability

/-- The table of a capability and its field there. -/
def place : Capability → String × String
  | pluginInfo => ("plugin", "info")
  | pluginGetConfig => ("plugin", "getConfig")
  | pluginSaveConfig => ("plugin", "saveConfig")
  | pluginGetRootPath => ("plugin", "getRootPath")
  | pluginRegisterCommand => ("plugin", "registerCommand")
  | pluginOn => ("plugin", "on")
  | pluginCall => ("plugin", "call")
  | pluginLog => ("plugin", "log")
  | pluginLogError => ("plugin", "logError")
  | uiMessage => ("ui", "message")
  | uiConfirm => ("ui", "confirm")
  | uiInput => ("ui", "input")
  | uiSelect => ("ui", "select")
  | uiGetClipboard => ("ui", "getClipboard")
  | uiSetClipboard => ("ui", "setClipboard")
  | fsRead => ("fs", "read")
  | fsWrite => ("fs", "write")
  | fsAppend => ("fs", "append")
  | fsExists => ("fs", "exists")
  | fsIsFile => ("fs", "isFile")
  | fsIsDirectory => ("fs", "isDirectory")
  | fsMkdir => ("fs", "mkdir")
  | fsListdir => ("fs", "listdir")
  | fsRealpath => ("fs", "realpath")
  | fsBasename => ("fs", "basename")
  | fsDirname => ("fs", "dirname")
  | fsJoin => ("fs", "join")
  | settingsGet => ("settings", "get")
  | settingsSet => ("settings", "set")
  | settingsHas => ("settings", "has")
  | settingsRemove => ("settings", "remove")
  | editorCurrentFile => ("editor", "currentFile")
  | editorOpen => ("editor", "open")
  | editorSave => ("editor", "save")
  | editorClose => ("editor", "close")

/-- The name of a capability in messages. -/
def name (c : Capability) : String := c.place.1 ++ "." ++ c.place.2

/-- All capabilities, table by table. -/
def all : List Capability :=
  [pluginInfo, pluginGetConfig, pluginSaveConfig, pluginGetRootPath, pluginRegisterCommand,
    pluginOn, pluginCall, pluginLog, pluginLogError,
    uiMessage, uiConfirm, uiInput, uiSelect, uiGetClipboard, uiSetClipboard,
    fsRead, fsWrite, fsAppend, fsExists, fsIsFile, fsIsDirectory, fsMkdir, fsListdir,
    fsRealpath, fsBasename, fsDirname, fsJoin,
    settingsGet, settingsSet, settingsHas, settingsRemove,
    editorCurrentFile, editorOpen, editorSave, editorClose]

/-- The tables that hold the capabilities. -/
def tables : List String := ["plugin", "ui", "fs", "settings", "editor"]

/-- The capabilities of one table. -/
def ofTable (table : String) : List Capability := all.filter (fun c => c.place.1 == table)

theorem mem_all (c : Capability) : c ∈ all := by cases c <;> decide

end Capability

end EditorPlugins
