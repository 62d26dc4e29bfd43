/-
  What can go wrong, as causes; `Failure.message` holds the wording of all of them.
-/
import EditorPlugins.Json.Parser
import EditorPlugins.Files.Basic

namespace EditorPlugins

/-- Why the text of a manifest is not one. -/
inductive ManifestFault where
  | syntaxError (e : Json.SyntaxError)
  /-- The file is there but cannot be read as text. -/
  | unreadable (file : Path) (fault : FileFault)
  | notAnObject
  /-- A field holds another type of value than it should. -/
  | wrongType (found expected : String)
  /-- A command written as an array has more than an id and a title. -/
  | tooManyItems (count : Nat)
  | forbiddenCharacter (c : Char) (name : String)
  | absoluteEntry (entry : String)
  | entryStepsUp (entry : String)
deriving DecidableEq, Repr

def ManifestFault.message : ManifestFault → String
  | syntaxError e => e.message
  | unreadable file fault => "failed to read " ++ file.text ++ ": " ++ fault.message
  | notAnObject => "top level must be a JSON object"
  | wrongType found expected => "invalid type: " ++ found ++ ", expected " ++ expected
  | tooManyItems count =>
    "invalid length " ++ toString count ++ ", expected fewer elements in array"
  | forbiddenCharacter c name =>
    "plugin name contains invalid character '" ++ c.toString ++ "': '" ++ name ++ "'"
  | absoluteEntry entry => "entry must be a relative path, got absolute: '" ++ entry ++ "'"
  | entryStepsUp entry => "entry must not contain '..': '" ++ entry ++ "'"

/-- Why a value from a script is not accepted. -/
inductive ArgumentFault where
  /-- An argument of a capability is missing or of another type. -/
  | mismatch (function : String) (position : Nat) (what expected got : String)
  /-- Values of this type do not leave the sandbox. -/
  | unsupported (type : String)
  /-- Tables inside tables beyond the bound. -/
  | nestedTooDeep (bound : Nat)
  | expectedTable (got : String)
  /-- A command without text id, text title or function. -/
  | commandShape
  | emptyCommandId
deriving DecidableEq, Repr

def ArgumentFault.message : ArgumentFault → String
  | mismatch function position what expected got =>
    function ++ ": argument #" ++ toString position ++ " (" ++ what ++ ") expected " ++ expected
      ++ ", got " ++ got
  | unsupported type => "unsupported value of type " ++ type
  | nestedTooDeep bound => "table nesting deeper than " ++ toString bound
  | expectedTable got => "expected table, got " ++ got
  | commandShape =>
    "plugin.registerCommand: expected \x7b id = string, title = string, execute = function \x7d"
  | emptyCommandId => "plugin.registerCommand: command id is empty"

/-- Why a script file does not make a program. -/
inductive ScriptFault where
  | unreadable (file : Path) (fault : FileFault)
  | syntaxError (file : Path)
deriving DecidableEq, Repr

def ScriptFault.message : ScriptFault → String
  | unreadable file fault => file.text ++ ": " ++ fault.message
  | syntaxError file => "syntax error: " ++ file.text ++ ": not a list of statements"

/-- Why an operation did not succeed. -/
inductive Failure where
  | missingManifest (root : Path)
  | malformedManifest (fault : ManifestFault)
  | emptyName
  | missingEntry (entry : Path)
  | incompatible (required host : String)
  | sandboxRefused (reason : String)
  | scriptUnloadable (fault : ScriptFault)
  | scriptRaised (text : String)
  | alreadyLoaded (plugin : String)
  | invalidCommandId (id : String)
  | pluginNotFound (plugin : String)
  | commandNotFound (id : String)
  | functionNotFound (function : String)
  | invalidArgument (fault : ArgumentFault)
  | pluginDisabled (plugin : String)
  | pluginBusy (plugin : String)
  | reentrantCall (plugin : String)
  | notInitialized
  | alreadyInitialized
  | file (fault : FileFault)
deriving DecidableEq, Repr

def Failure.message : Failure → String
  | missingManifest root => "manifest.json not found in " ++ root.text
  | malformedManifest fault => "malformed manifest: " ++ fault.message
  | emptyName => "plugin name is empty"
  | missingEntry entry => "entry file not found: " ++ entry.text
  | incompatible required host =>
    "version incompatible: plugin requires " ++ required ++ ", host is " ++ host
  | sandboxRefused reason => "failed to create script environment: " ++ reason
  | scriptUnloadable fault => "failed to load plugin script: " ++ fault.message
  | scriptRaised text => "script error: " ++ text
  | alreadyLoaded plugin => "plugin already loaded: " ++ plugin
  | invalidCommandId id => "invalid command id: '" ++ id ++ "'"
  | pluginNotFound plugin => "plugin not found: " ++ plugin
  | commandNotFound id => "command not found: " ++ id
  | functionNotFound function => "function not found: " ++ function
  | invalidArgument fault => "invalid argument: " ++ fault.message
  | pluginDisabled plugin => "plugin is disabled: " ++ plugin
  | pluginBusy plugin => "plugin is busy: " ++ plugin
  | reentrantCall plugin => "reentrant call into plugin: " ++ plugin
  | notInitialized => "plugin registry is not initialized"
  | alreadyInitialized => "plugin registry is already initialized"
  | file fault => "io error: " ++ fault.message

end EditorPlugins
