/-
  Everything that a session of plugins can change: files, settings, collaborators, sandboxes, the
  registry, and the trace of what could be observed.
-/
import EditorPlugins.World.Registry
import EditorPlugins.World.Host
import EditorPlugins.Script.Snapshot
import EditorPlugins.Event

namespace EditorPlugins

/-! ## Answers -/

/-- The outcome of one broadcast, by plugin. -/
structure Summary where
  delivered : List String := []
  skipped : List String := []
  failed : List String := []
deriving DecidableEq, Repr, Inhabited

/-- A command that the host can offer. -/
structure CommandInfo where
  /-- The qualified id. -/
  id : String
  plugin : String
  title : String
  /-- Whether the manifest lists it. -/
  declared : Bool
  /-- Whether the plugin registered it. -/
  hasHandler : Bool
deriving DecidableEq, Repr, Inhabited

/-- What can be asked about a loaded plugin. -/
structure PluginInfo where
  identity : Identity
  enabled : Bool
  lastError : Option String
  sandbox : SandboxId
  config : Dict String
  commands : List String
  events : List String
  manifest : Manifest
deriving Inhabited

/-- What an operation answers when it succeeds. -/
inductive Reply where
  | nothing
  | flag (b : Bool)
  | text (s : String)
  | texts (l : List String)
  | optionalText (s : Option String)
  | dict (d : Dict String)
  /-- Nothing when the host knows no such event. -/
  | summary (s : Option Summary)
  | commands (l : List CommandInfo)
  | info (i : Option PluginInfo)
  | config (c : HostConfig)
  | bytes (b : Option ByteArray)
deriving Inhabited

/-- What an operation answers. -/
abbrev Answer := Except Failure Reply

/-! ## Observations -/

/-- Something that could be observed while plugins ran. -/
inductive Observation where
  | shown (s : Script.Snapshot)
  | succeeded (s : Script.Snapshot)
  | raised (text : ByteArray)
  /-- The embedding application acted in the middle of a script. -/
  | hostActed (a : Answer)
  | logged (isError : Bool) (plugin text : String)
  | message (title text : String)
  | confirm (title text : String)
  | input (label default : String)
  | select (items : List String) (index : Nat)
  | setClipboard (text : String)
  | opened (path : Path)
  | saved (count : Nat)
  | closed (path : Option Path)
  /-- A script wrote a line to the standard output of the host. -/
  | printed (line : String)
deriving Inhabited

/-! ## The world -/

/-- Everything that a session of plugins can change. -/
structure World where
  files : Files
  /-- The settings that are held in memory. -/
  settings : Dict String
  profile : HostProfile
  hosts : Array Host
  sandboxes : Array Sandbox
  registry : Registry
  /-- The observations, latest first. -/
  trace : List Observation
deriving Inhabited

namespace World

def observe (w : World) (o : Observation) : World := { w with trace := o :: w.trace }

def sandbox (w : World) (id : SandboxId) : Sandbox := (w.sandboxes[id]?).getD default

def host (w : World) (id : HostId) : Host := (w.hosts[id]?).getD default

/-- Change one sandbox. -/
def modifySandbox (w : World) (id : SandboxId) (f : Sandbox → Sandbox) : World :=
  { w with sandboxes := w.sandboxes.modify id f }

/-- Change one set of collaborators. -/
def modifyHost (w : World) (id : HostId) (f : Host → Host) : World :=
  { w with hosts := w.hosts.modify id f }

/-- Change the registry. -/
def modifyRegistry (w : World) (f : Registry → Registry) : World :=
  { w with registry := f w.registry }

/-- Add a sandbox; its number. -/
def addSandbox (w : World) (s : Sandbox) : World × SandboxId :=
  ({ w with sandboxes := w.sandboxes.push s }, w.sandboxes.size)

/-- A session before anything happened. -/
def start (files : Files) (profile : HostProfile) (config : HostConfig) (isShared : Bool) :
    World where
  files := files
  settings := ∅
  profile := profile
  hosts := #[]
  sandboxes := #[]
  registry := .empty config isShared
  trace := []

end World

end EditorPlugins
