/-
  Plugin folders: a root directory with a manifest and an entry script.
-/
import EditorPlugins.Manifest.Basic
import EditorPlugins.Files.Operations

namespace EditorPlugins

/-- A folder that holds a plugin, with what its manifest says and where its entry script is. -/
structure PluginFolder where
  manifest : Manifest
  root : Path
  entry : Path
deriving Inhabited

namespace PluginFolder

/-- The name of the manifest in a plugin's root. -/
def manifestFile : String := "manifest.json"

/-- The manifest of a plugin folder. -/
def readManifest (f : Files) (root : Path) : Except Failure Manifest :=
  let file := root / manifestFile
  if !f.isFile file then .error (.missingManifest root)
  else
    match f.readText file with
    | .ok text => Manifest.parse text
    | .error fault => .error (.malformedManifest (.unreadable file fault))

/-- A folder with its manifest read: the entry script has to be there. -/
def withManifest (f : Files) (root : Path) (m : Manifest) : Except Failure PluginFolder :=
  let entry := root / m.entryScript
  if f.isFile entry then .ok ⟨m, root, entry⟩ else .error (.missingEntry entry)

/-- The plugin in a folder. -/
def read (f : Files) (root : Path) : Except Failure PluginFolder := do
  withManifest f root (← readManifest f root)

/-- The key of a failure in a folder whose plugin has no name yet. -/
def key (root : Path) : String := root.fileName?.getD root.text

end PluginFolder

end EditorPlugins
