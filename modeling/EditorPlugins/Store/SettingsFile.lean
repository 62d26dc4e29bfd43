/-
  Host settings kept in a file.

  The values are held in memory and the whole file is written after every change.  A change whose
  writing fails stays in memory.
-/
import EditorPlugins.Store.Texts

namespace EditorPlugins

/-- Settings with the file that they are written to. -/
structure SettingsFile where
  path : Path
  values : Dict String
deriving Inhabited

namespace SettingsFile

/-- The settings in a file; none when it does not hold a JSON object of texts. -/
def load (f : Files) (path : Path) : SettingsFile := ⟨path, Store.loadStrict f path⟩

def get? (s : SettingsFile) (key : String) : Option String := s.values.get? key

def contains (s : SettingsFile) (key : String) : Bool := s.values.contains key

/-- Write the file; whether that succeeded. -/
def persist (s : SettingsFile) (f : Files) : Files × Bool :=
  match Store.saveBelow f s.path.parent? s.path s.values with
  | (g, none) => (g, true)
  | (g, some _) => (g, false)

/-- Store a value; whether it was written to the file. -/
def set (s : SettingsFile) (f : Files) (key value : String) : SettingsFile × Files × Bool :=
  let s' := { s with values := s.values.insert key value }
  let (g, ok) := s'.persist f
  (s', g, ok)

/-- Forget a value; whether there was one and the change was written to the file. -/
def remove (s : SettingsFile) (f : Files) (key : String) : SettingsFile × Files × Bool :=
  if s.contains key then
    let s' := { s with values := s.values.erase key }
    let (g, ok) := s'.persist f
    (s', g, ok)
  else (s, f, false)

end SettingsFile

end EditorPlugins
