/-
  The registry: which plugins are loaded, in which order, which loads failed, and which plugins
  are executing at the moment.
-/
import EditorPlugins.World.Sandbox
import EditorPlugins.Manifest.Folder
import EditorPlugins.Store.PluginConfigs

namespace EditorPlugins

/-- A loaded plugin. -/
structure Record where
  sandbox : SandboxId
  enabled : Bool
  lastError : Option String
  manifest : Manifest
deriving Inhabited

/-- A load that failed: the folder and why. -/
structure FailedLoad where
  root : Path
  reason : Failure
deriving DecidableEq

/-- The state of a registry. -/
structure Registry where
  config : HostConfig
  /-- The collaborators; none while the registry is not initialized. -/
  host : Option HostId
  plugins : Dict Record
  loadOrder : List String
  /-- Failures by plugin name, folder name or root. -/
  failed : Dict FailedLoad
  /-- The plugins whose code is executing, innermost last. -/
  active : List String
  /-- Whether this is the registry that the whole process shares. -/
  isShared : Bool
deriving Inhabited

namespace Registry

/-- A registry without plugins, not initialized. -/
def empty (config : HostConfig) (isShared : Bool) : Registry where
  config := config
  host := none
  plugins := ∅
  loadOrder := []
  failed := ∅
  active := []
  isShared := isShared

def isInitialized (r : Registry) : Bool := r.host.isSome

def configs (r : Registry) : PluginConfigs := ⟨r.config.configDir⟩

/-! ## Failures -/

/-- Record a failure.  A key that names a loaded plugin gives way to the root. -/
def recordFailure (r : Registry) (key : String) (root : Path) (e : Failure) : Registry :=
  let key := if r.plugins.contains key then root.text else key
  { r with failed := r.failed.insert key ⟨root, e⟩ }

/-- Forget the failures of a folder. -/
def forgetFailures (r : Registry) (root : Path) : Registry :=
  { r with failed := r.failed.filter (fun _ f => !f.root.same root) }

/-! ## Plugins -/

/-- Add a plugin at the end of the order. -/
def add (r : Registry) (name : String) (record : Record) : Registry :=
  { r with plugins := r.plugins.insert name record, loadOrder := r.loadOrder ++ [name] }

/-- Take a plugin away. -/
def drop (r : Registry) (name : String) : Registry :=
  { r with plugins := r.plugins.erase name, loadOrder := r.loadOrder.filter (· != name) }

/-- No plugins, no failures, no collaborators. -/
def cleared (r : Registry) : Registry :=
  { r with plugins := ∅, loadOrder := [], failed := ∅, host := none }

/-! ## Execution -/

def enter (r : Registry) (plugin : String) : Registry := { r with active := r.active ++ [plugin] }

/-- Without the last occurrence of a name. -/
def eraseLast (name : String) (l : List String) : List String := (l.reverse.erase name).reverse

def leave (r : Registry) (plugin : String) : Registry :=
  { r with active := eraseLast plugin r.active }

/-- Remember the error of a plugin, if it is still loaded. -/
def blame (r : Registry) (plugin text : String) : Registry :=
  { r with plugins := r.plugins.modify plugin (fun rec => { rec with lastError := some text }) }

end Registry

end EditorPlugins
