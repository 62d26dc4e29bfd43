/-
  How a host is set up: its version, its directories and what every sandbox gets.

  The set-up is read from environment variables.  Each directory and the version have a variable
  of their own; the configuration directory, when it has none, lies below the plugin directory.
-/
import EditorPlugins.Dict
import EditorPlugins.Path
import EditorPlugins.Text.Blank

namespace EditorPlugins

/-! ## Sandboxes -/

/-- How the keys of plugins' settings map onto the settings of the host. -/
inductive SettingsScope where
  /-- Every plugin reads and writes the same keys. -/
  | shared
  /-- Every key begins with the name of the plugin. -/
  | perPlugin
deriving DecidableEq, Repr, Inhabited

/-- The scope that a word names, blanks around it and its case aside. -/
def SettingsScope.parse? (s : String) : Option SettingsScope :=
  let word := Text.lowerAscii (Text.trim s)
  if word = "global" then some .shared
  else if word = "plugin" ∨ word = "per-plugin" ∨ word = "per_plugin" then some .perPlugin
  else none

/-- What every sandbox gets. -/
structure SandboxConfig where
  /-- The most bytes a sandbox may use; zero for no limit. -/
  memoryLimit : UInt64 := 64 * 1024 * 1024
  scope : SettingsScope := .shared
deriving DecidableEq, Repr, Inhabited

/-! ## The host -/

/-- The set-up of a host. -/
structure HostConfig where
  hostVersion : String
  pluginDir : Path
  configDir : Path
  sandbox : SandboxConfig := {}
deriving DecidableEq, Repr, Inhabited

/-- The values of environment variables. -/
abbrev Environment := Dict String

namespace Environment

/-- The version of a host that is not told one. -/
def defaultHostVersion : String := "0.1.0"

/-- A natural number that fits 64 bits, with or without a plus sign. -/
def parseWord? (s : String) : Option UInt64 :=
  let digits := match s.toList with
    | '+' :: r => r
    | cs => cs
  if digits.isEmpty || !digits.all (fun c => '0' ≤ c && c ≤ '9') then none
  else
    let n : Nat := digits.foldl (fun n c => n * 10 + (c.toNat - 0x30)) 0
    if n < UInt64.size then some n.toUInt64 else none

/-- The directory of users' data when no home directory is known. -/
def homeless : Path := ⟨"/root/.local/share"⟩

/-- The directory of users' data: the one set when it is absolute, else the usual one below the
home directory. -/
def dataDir (env : Environment) : Path :=
  let usual : Path :=
    match env.get? "HOME" with
    | some home => if home.isEmpty then homeless else Path.mk home / ".local/share"
    | none => homeless
  match env.get? "XDG_DATA_HOME" with
  | some dir => if (Path.mk dir).isAbsolute then ⟨dir⟩ else usual
  | none => usual

/-- The plugin directory of a host that is not told one. -/
def defaultPluginDir (env : Environment) : Path := env.dataDir / "nnp" / "plugins"

/-- What sandboxes get.  The limit is given in units of `2 ^ 20` bytes and wraps at 64 bits. -/
def sandboxConfig (env : Environment) : SandboxConfig where
  memoryLimit := ((env.get? "PLUGIN_LUA_MEMORY_LIMIT_MB").bind parseWord?).getD 64 * 1024 * 1024
  scope := ((env.get? "PLUGIN_SETTINGS_SCOPE").bind SettingsScope.parse?).getD .shared

/-- The set-up when only the data directory is taken from the environment. -/
def defaultConfig (env : Environment) : HostConfig where
  hostVersion := defaultHostVersion
  pluginDir := env.defaultPluginDir
  configDir := env.defaultPluginDir / "config"

/-- The set-up that the environment asks for. -/
def hostConfig (env : Environment) : HostConfig :=
  let pluginDir := match env.get? "NNP_PLUGIN_DIR" with
    | some dir => ⟨dir⟩
    | none => env.defaultPluginDir
  { hostVersion := (env.get? "NNP_HOST_VERSION").getD defaultHostVersion
    pluginDir := pluginDir
    configDir := match env.get? "NNP_PLUGIN_CONFIG_DIR" with
      | some dir => ⟨dir⟩
      | none => pluginDir / "config"
    sandbox := env.sandboxConfig }

end Environment

end EditorPlugins
