/-
  Configurations, from the start of a sandbox to the next load.

  The configuration of a loaded plugin is what its own code saved last.  If it has saved nothing
  since its sandbox was made, it is what was read from its file then.  `givenConfig?` is what a step
  gives to a sandbox, so the latest such thing in a history is the configuration at its end.

  When a plugin is unloaded, for itself, for a reload or in a finalization, its configuration is
  written.  If that succeeds it is what is stored from then on, until something else writes the
  file, and the next load of the plugin starts from it (`Outlives`).

  Main statement: `History.config_kept`.
-/
import EditorPlugins.Proofs.Machine.Saving
import EditorPlugins.Proofs.Registry.Finalization

namespace EditorPlugins

open Script (Value Raised Program)

/-- What is loaded depends on the text of the file alone. -/
theorem Store.loadLenient_congr {f g : Files} {p : Path} (h : f.readText p = g.readText p) :
    loadLenient f p = loadLenient g p := by
  unfold loadLenient
  rw [h]

/-! ## The set-up of the host -/

theorem Change.config_eq {s s' : Situation} (h : Change s s') :
    s'.world.registry.config = s.world.registry.config := by
  cases h with
  | act id h => rw [h.registry]
  | attach h => rw [(World.attach_of_not_initialized h).1]
  | enable plugin on => rw [World.enable_eq]; rfl
  | push | pop | shutDown | enter | blame | leave => rfl

theorem Removal.config_eq {s s' : Situation} (h : Removal s s') :
    s'.world.registry.config = s.world.registry.config := by
  cases h with
  | unload h => rw [(World.unload_of_ok h).2.2]; rfl
  | clear => rw [World.completeFinalize_registry]; rfl

theorem Loading.config_eq {s s' : Situation} {e : LoadEvent} (h : Loading s e s') :
    s'.world.registry.config = s.world.registry.config := by
  cases h <;> rfl

namespace World

/-- The world after some unloads: as before, but for what is loaded and for the files. -/
theorem unloadAll_registry (w : World) (names : List String) :
    (w.unloadAll names).registry.active = w.registry.active ∧
    (w.unloadAll names).registry.config = w.registry.config ∧
    (w.unloadAll names).sandboxes = w.sandboxes := by
  obtain ⟨hcleared, hsandboxes⟩ := foldl_unload_cleared names w
  have hactive := congrArg Registry.active hcleared
  have hconfig := congrArg Registry.config hcleared
  exact ⟨hactive, hconfig, hsandboxes⟩

end World

namespace Machine

/-- The host is set up once and for all. -/
theorem step_config (m : Machine) :
    m.step.world.registry.config = m.world.registry.config :=
  step_preserve (I := fun s => s.world.registry.config = m.world.registry.config)
    (fun _ _ hchange h => hchange.config_eq.trans h)
    (fun _ _ hremoval h => hremoval.config_eq.trans h)
    (fun _ _ _ hloading h => hloading.config_eq.trans h) rfl

theorem History.config_of_mem {later : List Machine} {m' : Machine} (h : History later m')
    {m : Machine} (hm : m ∈ later) : m'.world.registry.config = m.world.registry.config := by
  refine h.preserve (I := fun past w => ∀ m ∈ past, w.registry.config = m.world.registry.config)
    (fun _ _ _ _ _ hm => nomatch hm) (fun past last _ ih m hm => ?_) m hm
  rw [step_config]
  rcases List.mem_cons.1 hm with rfl | hm
  · rfl
  · exact ih m hm

/-- A load finds its plugin's file where any other moment has it. -/
theorem configFile_of_loadEvent? {m : Machine} {w : World} {e : LoadEvent}
    (h : m.loadEvent? = some (w, e)) (name : String) :
    w.configFile name = m.world.configFile name := by
  rcases (step_of_loadEvent? h).1 with rfl | hremoval
  · rfl
  · exact World.configFile_congr hremoval.config_eq name

/-! ## What is given to a sandbox -/

/-- The configuration that the next step reads for the new sandbox of a plugin. -/
def readConfig? (m : Machine) (name : String) (id : SandboxId) : Option (Dict String) :=
  match m.loadEvent? with
  | some (w, .begun p _) =>
    if p.manifest.name = name ∧ p.sandbox = id then some (w.registry.configs.load w.files name)
    else none
  | _ => none

/-- The configuration that the next step gives to the sandbox of a plugin: what its code saves, or
what is read when the sandbox is made. -/
def givenConfig? (m : Machine) (name : String) (id : SandboxId) : Option (Dict String) :=
  ((m.savedTable? id).map HostTable.toDict).or (m.readConfig? name id)

/-- Nothing is read for a sandbox that is there. -/
theorem readConfig?_of_lt {m : Machine} {id : SandboxId} (hid : id < m.world.sandboxes.size)
    (name : String) : m.readConfig? name id = none := by
  unfold readConfig?
  split
  · rename_i w p s hevent
    have hsandbox : p.sandbox ≠ id := by
      rw [(begins_of_loadEvent? hevent).number]
      exact Nat.ne_of_gt hid
    exact if_neg (fun h => hsandbox h.2)
  · rfl

/-- Sandboxes come from loads that begin. -/
theorem size_of_not_begun {m : Machine} (h : ∀ w p s, m.loadEvent? ≠ some (w, .begun p s)) :
    m.step.world.sandboxes.size = m.world.sandboxes.size := by
  refine step_preserve (I := fun s => s.world.sandboxes.size = m.world.sandboxes.size)
    (fun s s' hchange hs => ?_) (fun s s' hremoval hs => ?_) (fun w e hevent hloading hs => ?_) rfl
  · refine Eq.trans ?_ hs
    cases hchange with
    | act id hact => exact hact.size
    | attach hinit => rw [(World.attach_of_not_initialized hinit).2]
    | enable plugin on => rw [World.enable_eq]; rfl
    | push | pop | shutDown | enter | blame | leave => rfl
  · refine Eq.trans ?_ hs
    cases hremoval with
    | unload _ => rw [World.unload_sandboxes]
    | clear => rw [World.completeFinalize_sandboxes]
  · refine Eq.trans ?_ hs
    generalize m.step.situation = s' at hloading
    generalize m.frames = F at hloading
    cases hloading with
    | begun => exact absurd hevent (h _ _ _)
    | refused | completed | abandoned => rfl

/-- A sandbox that was not there is that of a load which has just begun. -/
theorem exists_begun_of_new {m : Machine} {id : SandboxId} (hold : ¬ id < m.world.sandboxes.size)
    (hid : id < m.step.world.sandboxes.size) :
    ∃ w p s, m.loadEvent? = some (w, .begun p s) ∧ id = p.sandbox := by
  obtain ⟨w, p, s, hevent⟩ : ∃ w p s, m.loadEvent? = some (w, .begun p s) := by
    refine Classical.byContradiction fun hnone => ?_
    have hsize := size_of_not_begun (m := m) (fun w p s hevent => hnone ⟨w, p, s, hevent⟩)
    exact hold (hsize ▸ hid)
  have hbegins := begins_of_loadEvent? hevent
  rw [hbegins.sandboxes, Array.size_push] at hid
  have hlast : id = m.world.sandboxes.size :=
    Nat.le_antisymm (Nat.le_of_lt_succ hid) (Nat.not_lt.1 hold)
  exact ⟨w, p, s, hevent, hlast.trans hbegins.number.symm⟩

/-- **Every sandbox has the configuration that was given to it last.**  A step gives it one, or
leaves the one that it has; a sandbox that is new has just been given one. -/
theorem History.config_latest {past : List Machine} {m : Machine} (h : History past m) :
    ∀ id < m.world.sandboxes.size,
      past.findSome? (·.givenConfig? (m.world.sandbox id).identity.name id)
        = some (m.world.sandbox id).config := by
  refine h.preserve (I := fun past w => ∀ id < w.sandboxes.size,
    past.findSome? (·.givenConfig? (w.sandbox id).identity.name id) = some (w.sandbox id).config)
    (fun _ _ _ _ _ hid => nomatch hid) (fun past m _ ih id hid => ?_)
  rw [findSome?_step]
  by_cases hold : id < m.world.sandboxes.size
  · -- nothing is read for a sandbox that was there, so only a save counts
    rw [(step_keepsSandboxes m).identity id hold, config_step hold, givenConfig?,
      readConfig?_of_lt hold, Option.or_none]
    cases m.savedTable? id with
    | none => exact ih id hold
    | some t => rfl
  · obtain ⟨w, p, s, hevent, rfl⟩ := exists_begun_of_new hold hid
    have hbegins := begins_of_loadEvent? hevent
    have hread : m.readConfig? p.manifest.name p.sandbox = some s.config := by
      unfold readConfig?
      rw [hevent, hbegins.config]
      exact if_pos ⟨rfl, rfl⟩
    rw [hbegins.new, hbegins.name, givenConfig?, savedTable?_of_loadEvent? hevent, hread]
    rfl

/-! ## What is left when a plugin is unloaded -/

/-- The next step unloads a plugin, and `w` is the world just before it does: the plugin is to be
unloaded or reloaded and is not executing, or it is its turn in a finalization. -/
inductive Unloads (m : Machine) (name : String) : World → Prop where
  | unload (h : m.focus = .starting (.unload name)) (hidle : name ∉ m.world.registry.active) :
      Unloads m name m.world
  | reload (h : m.focus = .starting (.reload name)) (hidle : name ∉ m.world.registry.active) :
      Unloads m name m.world
  | finalize {before after : List String} (h : m.clears = true)
      (horder : m.world.registry.loadOrder = before ++ name :: after) :
      Unloads m name (m.world.unloadAll before)

/-- What becomes of the configuration of a plugin that the next step unloads in the world `w`. -/
structure Outlives (m : Machine) (name : String) (w : World) (config : Dict String) : Prop where
  /-- The unload makes it what is stored under the plugin's name. -/
  stored : (w.unload name).1.registry.configs.load (w.unload name).1.files name = config
  /-- Except in a finalization nothing else in the step writes files, and a reload goes on with
  the files as they are. -/
  files : m.clears = false → m.step.world.files = (w.unload name).1.files ∧
    ∀ w' e, m.loadEvent? = some (w', e) → w'.files = (w.unload name).1.files
  /-- If nothing else writes the file in the step, it is what is stored afterwards. -/
  after : m.step.world.files.readText (m.world.configFile name)
      = (w.unload name).1.files.readText (m.world.configFile name) →
    m.step.world.registry.configs.load m.step.world.files name = config
  /-- If nothing else has written the file when the plugin is loaded again, by this step or a later
  one, the new sandbox starts with it. -/
  next : ∀ later m', History later m' → (m' = m ∨ m ∈ later) →
    ∀ w' p s, m'.loadEvent? = some (w', .begun p s) → p.manifest.name = name →
      w'.files.readText (m.world.configFile name)
        = (w.unload name).1.files.readText (m.world.configFile name) →
      m'.step.world.sandbox p.sandbox = s ∧ s.config = config

/-- Nothing is executing when a finalization ends. -/
theorem idle_of_clears {m : Machine} (hm : m.Reachable) (h : m.clears = true) :
    m.world.registry.active = [] := by
  obtain ⟨a, F, -, hframes⟩ := exists_of_clears h
  have hguarded : Guarded ⟨m.world, .finalization :: F⟩ := hframes ▸ hm.guarded
  have hactive : m.world.registry.active = (Frame.executing F).reverse := hguarded.active
  rw [hactive, hguarded.executing_of_finalization]
  rfl

/-- A plugin is not executing when it is unloaded, and all sandboxes are there. -/
theorem Unloads.world {m : Machine} (hm : m.Reachable) {name : String} {w : World}
    (h : m.Unloads name w) : name ∉ w.registry.active ∧
      w.configFile name = m.world.configFile name ∧ w.sandboxes = m.world.sandboxes := by
  cases h with
  | unload _ hidle => exact ⟨hidle, rfl, rfl⟩
  | reload _ hidle => exact ⟨hidle, rfl, rfl⟩
  | @finalize before _ hclears _ =>
    obtain ⟨hactive, hconfig, hsandboxes⟩ := m.world.unloadAll_registry before
    refine ⟨?_, ?_, hsandboxes⟩
    · rw [hactive, idle_of_clears hm hclears]
      exact List.not_mem_nil
    · exact World.configFile_congr hconfig name

/-- Starting a load writes no files. -/
theorem load_files (w : World) (root : Path) (F : List Frame) :
    (load w root F).world.files = w.files := by
  cases hevent : w.loadEvent? root with
  | none =>
    have hsituation := load_of_no_event hevent F
    exact congrArg (fun s : Situation => s.world.files) hsituation
  | some e =>
    have hloading := load_loading hevent F
    show (load w root F).situation.world.files = w.files
    generalize (load w root F).situation = s' at hloading
    cases hloading <;> rfl

/-- A reload starts its load in the world that the unload leaves. -/
theorem loadStart?_of_reload {m : Machine} {name : String} {record : Record}
    (hfocus : m.focus = .starting (.reload name)) (hidle : name ∉ m.world.registry.active)
    (hrecord : m.world.registry.plugins.get? name = some record) :
    m.loadStart?
      = some ((m.world.unload name).1, (m.world.sandbox record.sandbox).identity.root) := by
  have hunload := World.unload_eq hidle hrecord
  obtain ⟨w, focus, F⟩ := m
  cases hfocus
  simp only [loadStart?, hrecord, hunload]

section Unloading

variable {m : Machine} {name : String} {w : World} {record : Record}

/-- Outside finalizations the unload is all that happens to the files. -/
theorem Unloads.files (h : m.Unloads name w) (hclears : m.clears = false)
    (hrecord : w.registry.plugins.get? name = some record) :
    m.step.world.files = (w.unload name).1.files ∧
    ∀ w' e, m.loadEvent? = some (w', e) → w'.files = (w.unload name).1.files := by
  cases h with
  | unload hfocus _ =>
    obtain ⟨w, focus, F⟩ := m
    cases hfocus
    exact ⟨rfl, fun w' e hevent => nomatch hevent⟩
  | reload hfocus hidle =>
    have hstart := loadStart?_of_reload hfocus hidle hrecord
    refine ⟨?_, fun w' e hevent => ?_⟩
    · rw [(step_of_loadStart? hstart).2]
      exact load_files ..
    · -- the load that a reload starts finds the files as the unload has left them
      obtain ⟨world, focus, F⟩ := m
      cases hfocus
      obtain ⟨start, hstart', hmap⟩ := Option.bind_eq_some_iff.1 hevent
      obtain ⟨e', -, heq⟩ := Option.map_eq_some_iff.1 hmap
      cases hstart.symm.trans hstart'
      cases heq
      rfl
  | finalize hclears' _ =>
    rw [hclears'] at hclears
    cases hclears

/-- What has been written is what is read from the plugin's file. -/
theorem Unloads.written (hm : m.Reachable) (h : m.Unloads name w)
    (hrecord : w.registry.plugins.get? name = some record) (hwrites : w.writesConfig name = true) :
    Store.loadLenient (w.unload name).1.files (m.world.configFile name)
      = (m.world.sandbox record.sandbox).config := by
  obtain ⟨hidle, hfile, hsandboxes⟩ := h.world hm
  obtain ⟨at_, hlocate, -⟩ := (World.flushed_unload hidle hrecord hwrites).written
  rw [← hfile, Store.loadLenient_of_locate hlocate, World.sandbox_congr hsandboxes]

/-- **The configuration outlives the unload**, if it can be written.  The file keeps its path, so
whoever finds the text that the unload has left there reads the configuration. -/
theorem Unloads.outlives (hm : m.Reachable) (h : m.Unloads name w)
    (hrecord : w.registry.plugins.get? name = some record) (hwrites : w.writesConfig name = true) :
    m.Outlives name w (m.world.sandbox record.sandbox).config where
  stored := by
    obtain ⟨hidle, hfile, -⟩ := h.world hm
    show Store.loadLenient _ ((w.unload name).1.configFile name) = _
    rw [(World.flushed_unload hidle hrecord hwrites).configFile, hfile]
    exact h.written hm hrecord hwrites
  files hclears := h.files hclears hrecord
  after hsame := by
    show Store.loadLenient _ (m.step.world.configFile name) = _
    rw [World.configFile_congr m.step_config, Store.loadLenient_congr hsame]
    exact h.written hm hrecord hwrites
  next later m' hm' hlater w' p s hevent hname hsame := by
    have hconfig : m'.world.registry.config = m.world.registry.config := by
      rcases hlater with rfl | hmem
      · rfl
      · exact hm'.config_of_mem hmem
    have hpath : w'.configFile name = m.world.configFile name :=
      (configFile_of_loadEvent? hevent name).trans (World.configFile_congr hconfig name)
    have hbegins := begins_of_loadEvent? hevent
    refine ⟨hbegins.new, ?_⟩
    rw [hbegins.config, hname]
    show Store.loadLenient w'.files (w'.configFile name) = _
    rw [hpath, Store.loadLenient_congr hsame]
    exact h.written hm hrecord hwrites

end Unloading

/-- **No saved configuration is lost.**  At every moment of every run:

* the configuration of a loaded plugin is what was given to its sandbox last, by a table that its
  own code saved or by the load that made the sandbox, and without a save the next step leaves it;
* a call of `plugin.saveConfig` succeeds exactly if it counts as a save;
* a step that unloads the plugin, and can write its configuration, stores it for the next load;
* `plugin.saveConfig(plugin.getConfig())` succeeds and leaves every configuration as it is. -/
theorem History.config_kept {past : List Machine} {m : Machine} (h : History past m) :
    (∀ name record, m.world.registry.plugins.get? name = some record →
      past.findSome? (·.givenConfig? name record.sandbox)
        = some (m.world.sandbox record.sandbox).config ∧
      (m.savedTable? record.sandbox = none →
        (m.step.world.sandbox record.sandbox).config
          = (m.world.sandbox record.sandbox).config)) ∧
    (∀ id args next,
      m.focus = .running id (.ask (.call (.function (.capability .pluginSaveConfig)) args) next) →
      ∃ r, m.step.focus = .running id (next r) ∧
        ((m.savedTable? id).isSome = true ↔ ∃ vs, r = .ok vs)) ∧
    (∀ name w record, m.Unloads name w → w.registry.plugins.get? name = some record →
      w.writesConfig name = true →
      m.Outlives name w (m.world.sandbox record.sandbox).config) ∧
    (∀ id args k, m.focus = .running id ((resave.eval args).bind k) →
      (∀ c ∈ [Capability.pluginSaveConfig, .pluginGetConfig],
        (m.world.sandbox id).heap.lookUp c.name = .ok (.function (.capability c))) →
      ∃ w, steps 4 m = ⟨w, .running id (k (.bool true)), m.frames⟩ ∧ m.world.KeepsConfigs w) := by
  refine ⟨fun name record hrecord => ?_, fun id args next hfocus => ?_,
    fun name w record hunloads hrecord hwrites => hunloads.outlives h.reachable hrecord hwrites,
    fun id args k hfocus hglobals => steps_resave hfocus hglobals⟩
  · obtain ⟨hlt, hname, root, hidentity⟩ := h.reachable.owned.record name record hrecord
    have hgiven := h.config_latest record.sandbox hlt
    rw [show (m.world.sandbox record.sandbox).identity = _ from hidentity,
      show (World.identityOf record.manifest root).name = name from hname] at hgiven
    refine ⟨hgiven, fun hsaved => ?_⟩
    rw [config_step hlt, hsaved]
    rfl
  · exact step_of_saveConfig hfocus

end Machine

/-- A plugin that saves a configuration of one entry. -/
def Scene.thrifty : Scene := [⟨"p", "p", [saves "k" "1"]⟩]

/-- What the plugin has saved is its configuration, and outlives its unload. -/
theorem thrifty_kept : ∃ past m record config, Machine.History past m ∧
    m.world.registry.plugins.get? "p" = some record ∧
    past.findSome? (·.givenConfig? "p" record.sandbox) = some config ∧ config.get? "k" = some "1" ∧
    m.Unloads "p" m.world ∧ m.Outlives "p" m.world config := by
  have hscene : (Scene.thrifty.machine? [.load ⟨"p"⟩] (.unload "p") 0).any (fun m =>
      (m.world.registry.active.isEmpty && m.world.writesConfig "p") &&
        (m.world.registry.plugins.get? "p").any fun record =>
          (m.world.sandbox record.sandbox).config.get? "k" == some "1") = true := by
    decide +kernel
  obtain ⟨m, hmachine, hm, hq⟩ := Scene.reach hscene
  obtain ⟨hready, hloaded⟩ := Bool.and_eq_true_iff.1 hq
  obtain ⟨hidle, hwrites⟩ := Bool.and_eq_true_iff.1 hready
  obtain ⟨record, hrecord, hsaved⟩ := (Option.any_eq_true ..).1 hloaded
  obtain ⟨past, hpast⟩ := hm.history
  have hnot : "p" ∉ m.world.registry.active := by
    rw [List.isEmpty_iff.1 hidle]
    exact List.not_mem_nil
  have hunloads : m.Unloads "p" m.world := .unload (Scene.focus_of_machine? hmachine).1 hnot
  obtain ⟨hconfig, -, houtlives, -⟩ := hpast.config_kept
  exact ⟨past, m, record, _, hpast, hrecord, (hconfig "p" record hrecord).1, beq_iff_eq.1 hsaved,
    hunloads, houtlives "p" m.world record hunloads hrecord hwrites⟩

end EditorPlugins
