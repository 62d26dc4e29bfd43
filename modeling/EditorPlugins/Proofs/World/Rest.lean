/-
  Unloads that change nothing but the form of files.

  When the directory of configurations is there, an unload writes one file or none.  If no plugin
  has saved anything, what it writes is what was read from there, so afterwards every configuration
  is the same as before, whatever the file looked like (`AtRest.unloadAll`).  This takes that no
  other configuration is kept in the same file.
-/
import EditorPlugins.Proofs.Files.Writing
import EditorPlugins.Proofs.Registry.Finalization

namespace EditorPlugins.World

open Files (Rewritten SameFile)

/-- The loaded plugins have the configurations that are stored under their names, each in a file of
its own among those of the known plugins. -/
structure AtRest (w : World) (known : String → Prop) : Prop where
  directory : w.files.isDirectory w.registry.config.configDir = true
  loaded : ∀ name record, w.registry.plugins.get? name = some record → known name
  stored : ∀ name record, w.registry.plugins.get? name = some record →
    (w.sandbox record.sandbox).config = w.registry.configs.load w.files name
  apart : ∀ name other, known name → known other → other ≠ name →
    ¬ w.files.SameTarget (w.configFile other) (w.configFile name)

/-- What unloads of known plugins write, and what they leave as it is. -/
structure Rests (w : World) (known : String → Prop) (w' : World) : Prop where
  rewritten : Rewritten (fun p => ∃ name, known name ∧ p = w.configFile name) w.files w'.files
  config : w'.registry.config = w.registry.config
  loads : ∀ name, known name →
    w'.registry.configs.load w'.files name = w.registry.configs.load w.files name

variable {known : String → Prop} {w w₁ w₂ : World}

theorem Rests.refl (w : World) : w.Rests known w := ⟨.refl _, rfl, fun _ _ => rfl⟩

theorem Rests.trans (h₁ : w.Rests known w₁) (h₂ : w₁.Rests known w₂) : w.Rests known w₂ where
  rewritten := by
    refine h₁.rewritten.trans (h₂.rewritten.mono ?_)
    rintro p ⟨name, hname, rfl⟩
    exact ⟨name, hname, configFile_congr h₁.config name⟩
  config := h₂.config.trans h₁.config
  loads name hname := (h₂.loads name hname).trans (h₁.loads name hname)

/-- An unload in a directory that is there writes one file, or nothing. -/
theorem unload_written (hdirectory : w.files.isDirectory w.registry.config.configDir = true)
    (name : String) : (w.unload name).1.files = w.files ∨
    ∃ record, w.registry.plugins.get? name = some record ∧
      w.files.write (w.configFile name) (Text.encode (Store.render (w.sandbox record.sandbox).config))
        = .ok (w.unload name).1.files := by
  have hmade := Files.makeDirectories_of_isDirectory hdirectory
  rcases (w.unload_files name).2 with hsame | ⟨record, hrecord, hsaved⟩
  · exact .inl hsame
  · have hcases := Store.saveBelow_cases w.files w.registry.config.configDir (w.configFile name)
      (w.sandbox record.sandbox).config
    rw [hmade, ← hsaved] at hcases
    exact hcases.imp_right fun hwritten => ⟨record, hrecord, hwritten⟩

/-- **An unload at rest writes what was stored already**, -/
theorem AtRest.unload (h : w.AtRest known) (name : String) : w.Rests known (w.unload name).1 := by
  have hconfig := (w.unload_files name).1
  have hload : ∀ other, (w.unload name).1.registry.configs.load (w.unload name).1.files other
      = Store.loadLenient (w.unload name).1.files (w.configFile other) := by
    intro other
    rw [← configFile_congr hconfig other]
    rfl
  rcases unload_written h.directory name with hsame | ⟨record, hrecord, hwritten⟩
  · refine ⟨hsame ▸ .refl _, hconfig, fun other _ => ?_⟩
    rw [hload, hsame]
    rfl
  · have hname := h.loaded name record hrecord
    refine ⟨.write ⟨name, hname, rfl⟩ hwritten (.refl _), hconfig, fun other hother => ?_⟩
    rw [hload]
    by_cases heq : other = name
    · subst heq
      obtain ⟨at_, -, hlocate, -⟩ := Files.write_eq_ok hwritten
      rw [Store.loadLenient_of_locate hlocate, h.stored other record hrecord]
    · -- another configuration is in another file
      obtain ⟨at_, hfiles, -⟩ := Files.onlyFiles_of_write hwritten
      have hapart := fun hsame => h.apart name other hname hother heq (hfiles.sameTarget hsame)
      exact Store.loadLenient_of_sameFile (Files.sameFile_write hwritten hapart)

/-- and leaves the others at rest. -/
theorem AtRest.after (h : w.AtRest known) (name : String) :
    (w.unload name).1.AtRest known := by
  have hrests := h.unload name
  have hfiles := hrests.rewritten.onlyFiles
  refine ⟨?_, fun other record hrecord => h.loaded other record (get?_of_unload hrecord), ?_, ?_⟩
  · rw [hrests.config, hfiles.isDirectory_eq]
    exact h.directory
  · intro other record hrecord
    have hother := get?_of_unload hrecord
    rw [sandbox_congr (unload_sandboxes w name), h.stored other record hother]
    exact (hrests.loads other (h.loaded other record hother)).symm
  · intro first other hfirst hother hne hsame
    rw [configFile_congr hrests.config, configFile_congr hrests.config] at hsame
    exact h.apart first other hfirst hother hne (hfiles.sameTarget hsame)

/-- **Unloads one after the other write what was stored already.** -/
theorem AtRest.unloadAll (h : w.AtRest known) (names : List String) :
    w.Rests known (w.unloadAll names) := by
  induction names generalizing w with
  | nil => exact .refl w
  | cons name rest ih => exact (h.unload name).trans (ih (h.after name))

end EditorPlugins.World
