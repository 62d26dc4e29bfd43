/-
  Sandboxes: what belongs to one plugin's code and to nothing else.

  A sandbox holds the heap of a plugin, with its globals and loaded modules, the handlers it
  registered, its configuration, and who it is.  Nothing of this is shared between two sandboxes.
-/
import EditorPlugins.Script.Library
import EditorPlugins.Configuration
import EditorPlugins.Files.Operations

namespace EditorPlugins

open Script (Value Table Heap Function)

/-- The number of a sandbox in its session. -/
abbrev SandboxId := Nat

/-- The number of a set of collaborators in its session. -/
abbrev HostId := Nat

/-- Who a plugin is, fixed when it is loaded. -/
structure Identity where
  name : String
  version : String
  description : String
  author : String
  root : Path
deriving DecidableEq, Inhabited

/-- The title and the function of a registered command. -/
structure CommandHandler where
  title : String
  function : Function
deriving Inhabited

/-- What belongs to one plugin's code. -/
structure Sandbox where
  identity : Identity
  /-- The collaborators that its capabilities act on. -/
  host : HostId
  scope : SettingsScope
  /-- The most bytes it may use; zero for no limit. -/
  memoryLimit : UInt64
  /-- Its tables, the globals and the loaded modules among them. -/
  heap : Heap
  commands : Dict CommandHandler
  events : Dict Function
  config : Dict String
deriving Inhabited

namespace Sandbox

/-! ## Modules -/

/-- Where modules are looked for: below the root first, then at the usual places. -/
def modulePath (root : Path) : String :=
  root.text ++ "/?.lua;" ++ root.text ++ "/?/init.lua;"
    ++ "/usr/local/share/lua/5.4/?.lua;/usr/local/share/lua/5.4/?/init.lua;"
    ++ "/usr/local/lib/lua/5.4/?.lua;/usr/local/lib/lua/5.4/?/init.lua;./?.lua;./?/init.lua"

/-- The files tried for a module, in order: every `?` stands for the name, points in the name for
steps down. -/
def moduleCandidates (root : Path) (name : String) : List Path :=
  let file := name.toList.map (fun c => if c = '.' then '/' else c)
  let filled := (modulePath root).toList.flatMap (fun c => if c = '?' then file else [c])
  (Text.piecesChars ';' filled).map (fun cs => ⟨String.ofList cs⟩)

/-- The file of a module: the first candidate that is there. -/
def findModule (f : Files) (root : Path) (name : String) : Option Path :=
  (moduleCandidates root name).find? f.exists?

/-! ## The start -/

/-- A sandbox with the language's own library and nothing else. -/
def bare (identity : Identity) (host : HostId) (c : SandboxConfig) (config : Dict String) :
    Sandbox where
  identity := identity
  host := host
  scope := c.scope
  memoryLimit := c.memoryLimit
  heap := Script.Library.heap (modulePath identity.root)
  commands := ∅
  events := ∅
  config := config

/-- Put a new table among the globals. -/
def addTable (name : String) (t : Table) (s : Sandbox) : Sandbox :=
  let (id, h) := s.heap.addTable t
  { s with heap := h.setGlobal name (.table id) }

/-- The table of the capabilities that belong to it. -/
def capabilityTable (name : String) : Table :=
  ⟨#[], (Capability.ofTable name).map fun c => (.text c.place.2, .function (.capability c))⟩

/-- A sandbox with all capabilities. -/
def equipped (identity : Identity) (host : HostId) (c : SandboxConfig) (config : Dict String) :
    Sandbox :=
  Capability.tables.foldl (fun s n => s.addTable n (capabilityTable n))
    (bare identity host c config)

/-- The number of bytes that no sandbox can do with. -/
def leastMemory : Nat := 64

/-- Whether a sandbox can be made at all. -/
def fits (c : SandboxConfig) : Bool := c.memoryLimit = 0 || c.memoryLimit.toNat > leastMemory

/-! ## Globals -/

def global (s : Sandbox) (name : String) : Value := s.heap.global name

/-- A global that is a function. -/
def globalFunction? (s : Sandbox) (name : String) : Option Function :=
  match s.global name with
  | .function f => some f
  | _ => none

def setGlobal (s : Sandbox) (name : String) (v : Value) : Sandbox :=
  { s with heap := s.heap.setGlobal name v }

/-! ## Handlers -/

/-- Register a command in place of an earlier one with the same id. -/
def registerCommand (s : Sandbox) (id title : String) (f : Function) : Sandbox :=
  { s with commands := s.commands.insert id ⟨title, f⟩ }

/-- Register an event handler in place of an earlier one for the same event. -/
def registerEvent (s : Sandbox) (name : String) (f : Function) : Sandbox :=
  { s with events := s.events.insert name f }

end Sandbox

end EditorPlugins
