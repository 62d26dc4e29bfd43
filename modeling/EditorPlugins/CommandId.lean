/-
  Qualified command ids: `<plugin>.<command>`.

  An id is cut at its FIRST point, so a plugin name never contains one while a command may.
-/
import EditorPlugins.Text.Split

namespace EditorPlugins.CommandId

/-- The qualified id of a plugin's command. -/
def qualify (plugin command : String) : String := plugin ++ "." ++ command

/-- The plugin and the command of a qualified id; neither is empty. -/
def split? (id : String) : Option (String × String) :=
  match Text.cut '.' id with
  | some (plugin, command) =>
    if plugin.isEmpty || command.isEmpty then none else some (plugin, command)
  | none => none

/-- A qualified id is cut where it was put together. -/
theorem cut_qualify {plugin : String} (command : String) (hdot : '.' ∉ plugin.toList) :
    Text.cut '.' (qualify plugin command) = some (plugin, command) := by
  have : (qualify plugin command).toList = plugin.toList ++ '.' :: command.toList := by
    simp [qualify]
  simp [Text.cut, this, Text.cutChars_append hdot]

/-- A qualified id splits into the parts it was made of. -/
theorem split?_qualify {plugin command : String} (hp : plugin ≠ "") (hc : command ≠ "")
    (hdot : '.' ∉ plugin.toList) : split? (qualify plugin command) = some (plugin, command) := by
  simp [split?, cut_qualify command hdot, hp, hc]

/-- What splits is the qualified id of its parts. -/
theorem qualify_of_split? {id plugin command : String} (h : split? id = some (plugin, command)) :
    id = qualify plugin command := by
  unfold split? at h
  split at h
  · rename_i plugin' command' hcut
    split at h
    · cases h
    · cases h
      obtain ⟨⟨a, b⟩, hchars, hparts⟩ := Option.map_eq_some_iff.1 hcut
      cases hparts
      have hid := (Text.eq_of_cutChars hchars).1
      rw [← String.toList_inj, hid]
      simp [qualify]
  · cases h

/-- Plugins whose names have no points qualify different ids differently. -/
theorem qualify_inj {a b c d : String} (ha : '.' ∉ a.toList) (hb : '.' ∉ b.toList)
    (h : qualify a c = qualify b d) : a = b ∧ c = d := by
  have hcut := cut_qualify c ha
  rw [h, cut_qualify d hb] at hcut
  cases hcut
  exact ⟨rfl, rfl⟩

example : split? "wc.sub.cmd" = some ("wc", "sub.cmd") := by decide +kernel
example : split? "plugin." = none := by decide +kernel

end EditorPlugins.CommandId
