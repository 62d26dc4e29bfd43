/-
  Plugin configurations: one file for each plugin, named after it, in one directory.

  A configuration is read when its plugin is loaded and written when it is unloaded.
-/
import EditorPlugins.Store.Texts

namespace EditorPlugins

/-- The directory of plugin configurations. -/
structure PluginConfigs where
  dir : Path
deriving DecidableEq, Inhabited

namespace PluginConfigs

/-- The file of a plugin's configuration. -/
def file (c : PluginConfigs) (plugin : String) : Path := c.dir / (plugin ++ ".json")

/-- The configuration of a plugin.  A file that is missing or no JSON object counts as empty, a
value that is not a text as the empty text. -/
def load (c : PluginConfigs) (f : Files) (plugin : String) : Dict String :=
  Store.loadLenient f (c.file plugin)

/-- Write the configuration of a plugin in place of the one before. -/
def save (c : PluginConfigs) (f : Files) (plugin : String) (config : Dict String) :
    Files × Option FileFault :=
  Store.saveBelow f (some c.dir) (c.file plugin) config

end PluginConfigs

end EditorPlugins
