/-
  Host settings and plugin configurations in one directory.

  A run of the program keeps the settings of its host in a file of the directory in which it also
  keeps the configurations of plugins, each in a file named after its plugin.  What the host holds
  is at all times what the file holds: it is read from there when the host is attached, and every
  change is written.  Nothing else writes the file before the shutdown.  At the shutdown the
  configurations are written, and then a plugin whose configuration file is the settings file
  replaces the settings; when it is loaded it is given them as its configuration.  With names as
  they are this is a plugin that is called `settings`.

  Main statement: `settings_kept`.  `step_holdsSettings` is its step lemma, and
  `sameFile_unloadAll` is the induction over the configurations that are written at the end.
-/
import EditorPlugins.Proofs.CommandLine.Trail
import EditorPlugins.Proofs.Files.Tree
import EditorPlugins.Proofs.Machine.Scene
import EditorPlugins.Proofs.Machine.Stores
import EditorPlugins.Proofs.Store.Settings

namespace EditorPlugins

open Script (Value Raised Program Request)

/-! ## Orderly scripts -/

/-- An action that writes no file of its own, and whose settings are stored. -/
def Action.isOrderly (w : World) (id : SandboxId) : Action → Bool
  | .write .. | .append .. => false
  | .setSetting key value =>
    (w.setSetting (w.sandbox id).host ((w.sandbox id).settingsKey key) value).2
  | .removeSetting key =>
    !(w.settingsOf (w.sandbox id).host).contains ((w.sandbox id).settingsKey key) ||
      (w.removeSetting (w.sandbox id).host ((w.sandbox id).settingsKey key)).2
  | _ => true

/-- The code that runs asks for nothing but orderly actions, and nobody else acts. -/
def Machine.isOrderly (m : Machine) : Bool :=
  !m.hostActs && match m.focus with
    | .running id (.ask q _) => ((m.world.sandbox id).requested? q).all (·.isOrderly m.world id)
    | _ => true

namespace SettingsFile

variable {f : Files} {path : Path}

/-- Settings that were written are what the file holds. -/
theorem persist_load {s : SettingsFile} (hpath : s.path = path) (hsettled : f.Settled path)
    (hok : (s.persist f).2 = true) :
    s = load (s.persist f).1 path ∧ (s.persist f).1.Settled path := by
  subst hpath
  have hsaved : (Store.saveBelow f s.path.parent? s.path s.values).2 = none := by
    unfold persist at hok
    cases hresult : Store.saveBelow f s.path.parent? s.path s.values with
    | mk g e =>
      rw [hresult] at hok
      cases e with
      | none => rfl
      | some e => cases hok
  have hfiles : (s.persist f).1 = (Store.saveBelow f s.path.parent? s.path s.values).1 := by
    unfold persist
    obtain ⟨g, e⟩ := Store.saveBelow f s.path.parent? s.path s.values
    cases e <;> rfl
  refine ⟨(load_persist hsaved).1.symm, ?_⟩
  rw [hfiles]
  exact Store.settled_saveBelow hsettled _ _ _

theorem set_load (hsettled : f.Settled path) {key value : String}
    (hok : ((load f path).set f key value).2.2 = true) :
    ((load f path).set f key value).1 = load ((load f path).set f key value).2.1 path ∧
    ((load f path).set f key value).2.1.Settled path := by
  let s : SettingsFile := ⟨path, (Store.loadStrict f path).insert key value⟩
  have hset : (load f path).set f key value = (s, s.persist f) := rfl
  rw [hset] at hok ⊢
  exact persist_load rfl hsettled hok

/-- A setting that is not there is not taken away, and nothing is written. -/
theorem remove_load (hsettled : f.Settled path) {key : String}
    (hok : (!(Store.loadStrict f path).contains key || ((load f path).remove f key).2.2) = true) :
    ((load f path).remove f key).1 = load ((load f path).remove f key).2.1 path ∧
    ((load f path).remove f key).2.1.Settled path := by
  cases hcontains : (load f path).contains key with
  | false =>
    have hremove : (load f path).remove f key = (load f path, f, false) := by
      unfold remove
      rw [hcontains]
      rfl
    rw [hremove]
    exact ⟨rfl, hsettled⟩
  | true =>
    let s : SettingsFile := ⟨path, (Store.loadStrict f path).erase key⟩
    have hremove : (load f path).remove f key = (s, s.persist f) := by
      unfold remove
      rw [hcontains]
      rfl
    have hthere : (Store.loadStrict f path).contains key = true := hcontains
    rw [hthere, Bool.not_true, Bool.false_or, hremove] at hok
    rw [hremove]
    exact persist_load rfl hsettled hok

end SettingsFile

namespace World

/-- There is one host, and the settings that it holds are those in its file. -/
structure HoldsSettings (w : World) (path : Path) : Prop where
  size : w.hosts.size = 1
  settings : (w.host 0).settings = .file (SettingsFile.load w.files path)
  settled : w.files.Settled path

section Holding

variable {w w' : World} {path : Path}

theorem KeepsStores.holdsSettings (h : w.KeepsStores w') (hw : w.HoldsSettings path) :
    w'.HoldsSettings path where
  size := h.size.trans hw.size
  settings := by rw [h.settings, hw.settings, h.files]
  settled := h.files.symm ▸ hw.settled

/-- No host but the first is there, and so none of the others keeps its settings in a file. -/
theorem HoldsSettings.memory (h : w.HoldsSettings path) {id : HostId} (hid : id ≠ 0) :
    (w.host id).settings = .memory := by
  have hlarge : w.hosts.size ≤ id := by
    rw [h.size]
    exact Nat.one_le_iff_ne_zero.2 hid
  show ((w.hosts[id]?).getD default).settings = .memory
  rw [Array.getElem?_eq_none hlarge]
  rfl

/-- Other files, with the settings that they hold. -/
theorem HoldsSettings.stored (h : w.HoldsSettings path) {g : Files} {s : SettingsFile}
    (hs : s = SettingsFile.load g path ∧ g.Settled path) :
    (({ w with files := g } : World).modifyHost 0
      fun host => { host with settings := .file s }).HoldsSettings path := by
  have hfirst : 0 < ({ w with files := g } : World).hosts.size := by
    show 0 < w.hosts.size
    rw [h.size]
    exact Nat.one_pos
  refine ⟨(Array.size_modify ..).trans h.size, ?_, hs.2⟩
  rw [host_modifyHost _ _ _ _ hfirst, if_pos rfl, hs.1]
  rfl

/-- **An orderly action leaves the host with what is in its file.** -/
theorem HoldsSettings.run (h : w.HoldsSettings path) {id : SandboxId} {a : Action}
    (ha : a.isOrderly w id = true) : (a.run w id).1.HoldsSettings path := by
  cases hchanges : a.changesStores with
  | false => exact (run_keepsStores w id hchanges).holdsSettings h
  | true =>
    cases a with
    | write | append => cases ha
    | makeDirectory p =>
      have hkeeps := w.files.makeDirectories_keeps ((w.sandbox id).resolve p)
      have hsame := Store.loadStrict_congr (h.settled.sameFile hkeeps)
      refine ⟨h.size, h.settings.trans ?_, h.settled.makeDirectories _⟩
      exact congrArg (fun values => SettingsStore.file ⟨path, values⟩) hsame.symm
    | setSetting key value =>
      by_cases hhost : (w.sandbox id).host = 0
      · simp only [Action.isOrderly, setSetting, hhost, h.settings] at ha
        simp only [Action.run, setSetting, hhost, h.settings]
        exact h.stored (SettingsFile.set_load h.settled ha)
      · simp only [Action.run, setSetting, h.memory hhost]
        have hkept : w.KeepsStores
            { w with settings := w.settings.insert ((w.sandbox id).settingsKey key) value } :=
          .of_eq rfl rfl
        exact hkept.holdsSettings h
    | removeSetting key =>
      by_cases hhost : (w.sandbox id).host = 0
      · simp only [Action.isOrderly, removeSetting, settingsOf, hhost, h.settings] at ha
        simp only [Action.run, removeSetting, hhost, h.settings]
        exact h.stored (SettingsFile.remove_load h.settled ha)
      · simp only [Action.run, removeSetting, h.memory hhost]
        have hkept : w.KeepsStores
            { w with settings := w.settings.erase ((w.sandbox id).settingsKey key) } :=
          .of_eq rfl rfl
        exact hkept.holdsSettings h
    | _ => cases hchanges

/-! ## Unloads -/

theorem grows_unload (w : World) (name : String) : w.files.Grows (w.unload name).1.files := by
  rcases (w.unload_files name).2 with hsame | ⟨record, -, hsaved⟩
  · rw [hsame]
    exact .refl _
  · rw [hsaved]
    exact Store.grows_saveBelow ..

theorem unloadAll_grows (w : World) (names : List String) :
    w.files.Grows (w.unloadAll names).files := by
  induction names generalizing w with
  | nil => exact .refl _
  | cons name rest ih => exact (w.grows_unload name).trans (ih _)

theorem settled_unload (h : w.files.Settled path) (name : String) :
    (w.unload name).1.files.Settled path := by
  rcases (w.unload_files name).2 with hsame | ⟨record, -, hsaved⟩
  · rw [hsame]
    exact h
  · rw [hsaved]
    exact Store.settled_saveBelow h ..

/-- **A file that is no configuration file of theirs is the same when plugins have been unloaded**,
whether their configurations could be written or not. -/
theorem sameFile_unloadAll (h : w.files.Settled path) {names : List String}
    (hapart : ∀ name ∈ names, ¬ (w.unloadAll names).files.SameTarget path (w.configFile name)) :
    w.files.SameFile (w.unloadAll names).files path := by
  induction names generalizing w with
  | nil => exact .refl _ _
  | cons name rest ih =>
    obtain ⟨hconfig, hfiles⟩ := w.unload_files name
    have hrest : (w.unload name).1.files.SameFile ((w.unload name).1.unloadAll rest).files path := by
      refine ih (settled_unload h name) (fun other hother => ?_)
      rw [configFile_congr hconfig]
      exact hapart other (List.mem_cons_of_mem _ hother)
    refine .trans ?_ hrest
    rcases hfiles with hsame | ⟨record, -, hsaved⟩
    · rw [hsame]
      exact .refl _ _
    · -- had the file been written it would be the same file at the end, too
      have hgrows := (w.unload name).1.unloadAll_grows rest
      rw [hsaved] at hgrows ⊢
      rcases Store.sameFile_saveBelow h w.registry.config.configDir (w.configFile name)
          (w.sandbox record.sandbox).config with
        hsame | ⟨hsameTarget, at_, bytes, hlocate⟩
      · exact hsame
      · exact absurd (hsameTarget.of_grows hgrows hlocate) (hapart name List.mem_cons_self)

end Holding

end World

/-! ## Steps -/

namespace Machine

variable {m : Machine} {path : Path}

/-- What the code that runs asks for leaves the host with what is in its file. -/
theorem acted_holdsSettings (h : m.world.HoldsSettings path) (horderly : m.isOrderly = true) :
    m.acted.HoldsSettings path := by
  obtain ⟨w, focus, F⟩ := m
  cases focus with
  | running id p =>
    cases p with
    | done | raise => exact h
    | ask q next =>
      have hactions := (Bool.and_eq_true_iff.1 horderly).2
      show (w.afterAction id ((w.sandbox id).requested? q)).HoldsSettings path
      cases ha : (w.sandbox id).requested? q with
      | none => exact h
      | some a =>
        simp only [ha, Option.all_some] at hactions
        exact World.HoldsSettings.run h hactions
  | _ => exact h

/-- **A step of a run leaves the host with what is in its file**, if it does not clear the
registry. -/
theorem step_holdsSettings (h : m.world.HoldsSettings path) (horderly : m.isOrderly = true)
    {closing : Bool} {dir : Path} {kind : Path → Prop} (hproceeds : m.Proceeds closing dir kind)
    (hclears : m.clears = false) : m.step.world.HoldsSettings path :=
  (step_keepsStores hclears (fun op hop => (hproceeds.op op hop).keepsStores)).holdsSettings
    (acted_holdsSettings h horderly)

end Machine

/-! ## Runs -/

namespace CommandLine

/-- The file of the host's settings. -/
def settingsPath (env : Environment) (o : Options) : Path :=
  (hostConfig env o).configDir / "settings.json"

section Settings

variable {n : Nat} {f : Files} {env : Environment} {o : Options} {events : List Event}

theorem prepare_holdsSettings (hsettled : f.Settled (settingsPath env o)) :
    (prepare f env o).HoldsSettings (settingsPath env o) := ⟨rfl, rfl, hsettled⟩

theorem hostActs_of_isOrderly {m : Machine} (h : m.isOrderly = true) : m.hostActs = false := by
  simpa using (Bool.and_eq_true_iff.1 h).1

/-- The operations of a run leave the host with what is in its file, -/
theorem opening_holdsSettings {w₁ : World} {answers : List Answer}
    (hopening : (prepare f env o).performAll? n (opening env o events) = some (w₁, answers))
    (horderly : ∀ m ∈ (prepare f env o).trail n (opening env o events), m.isOrderly = true)
    (hsettled : f.Settled (settingsPath env o)) : w₁.HoldsSettings (settingsPath env o) := by
  let I (w : World) : Prop := w.HoldsSettings (settingsPath env o)
  let J (m : Machine) : Prop := I m.world ∧ m.Proceeds false (hostConfig env o).pluginDir fun _ => True
  have hperform : ∀ w, I w → ∀ op ∈ opening env o events, J (.perform w op) :=
    fun w hw op hop => ⟨hw, proceeds_opening env o events w (fun _ _ => trivial) hop⟩
  have hstep : ∀ m ∈ (prepare f env o).trail n (opening env o events), J m → J m.step := by
    rintro m hm ⟨hholds, hproceeds⟩
    have hm := horderly m hm
    exact ⟨Machine.step_holdsSettings hholds hm hproceeds hproceeds.not_clears,
      hproceeds.step (hostActs_of_isOrderly hm)⟩
  exact (World.trail_preserve hperform (fun _ _ hJ _ => hJ.1) hstep (prepare_holdsSettings hsettled)
    hopening).2

/-- and so do the handlers of the shutdown. -/
theorem closing_holdsSettings {w₁ : World} {path : Path} (dir : Path) (h : w₁.HoldsSettings path)
    (horderly : ∀ m ∈ Machine.trail n (.perform w₁ .finalize), m.isOrderly = true) :
    ∀ m ∈ Machine.trail n (.perform w₁ .finalize), m.world.HoldsSettings path := by
  let J (m : Machine) : Prop := m.world.HoldsSettings path ∧ m.Proceeds true dir fun _ => True
  have hstart : J (.perform w₁ .finalize) := by
    refine ⟨h, fun op heq => ?_, trivial⟩
    cases heq
    exact .finalize rfl rfl
  have hstep : ∀ m ∈ Machine.trail n (.perform w₁ .finalize), m.clears = false → J m → J m.step := by
    rintro m hm hclears ⟨hholds, hproceeds⟩
    have hm := horderly m hm
    exact ⟨Machine.step_holdsSettings hholds hm hproceeds hclears,
      hproceeds.step (hostActs_of_isOrderly hm)⟩
  intro m hm
  exact (Machine.trail_preserve_of_proceeds (fun _ hJ => hJ.2) hstep hstart m hm).1

/-- **Plugin configurations do not disturb the host's settings**, except where the configuration
file of a plugin is the settings file.  In a run that is reported, whose scripts write no files and
whose settings are stored, the settings file holds in the end what the host held when the shutdown
had been announced; and the configuration that a plugin is given when it is loaded is the same
whatever is in the settings file. -/
theorem settings_kept {w : World} {asJson : Bool} {lines : List String} {r : Report}
    (hrun : runSession? n f env o events = some (w, .reported asJson lines r))
    (horderly : ∀ m ∈ trail n f env o events, m.isOrderly = true)
    (hsettled : f.Settled (settingsPath env o)) :
    (∃ m ∈ trail n f env o events, m.clears = true ∧ m.step.world = w ∧
      ((∀ name ∈ m.world.registry.loadOrder,
          ¬ w.files.SameTarget (settingsPath env o) (m.world.configFile name)) →
        (SettingsFile.load w.files (settingsPath env o)).values = m.world.settingsOf 0)) ∧
    ∀ m ∈ trail n f env o events, ∀ w' p s, m.loadEvent? = some (w', .begun p s) →
      ¬ w'.files.SameTarget (w'.configFile p.manifest.name) (settingsPath env o) →
      ∀ bytes g, w'.files.write (settingsPath env o) bytes = .ok g →
        w'.registry.configs.load g p.manifest.name = s.config := by
  refine ⟨?_, fun m _ w' p s hevent hapart bytes g hwrite => ?_⟩
  · obtain ⟨-, -, w₁, hperforms⟩ := runSession?_eq_reported.1 hrun
    obtain ⟨answers, reply, hopening, hclosing⟩ := hperforms.performAll?
    have hmem := mem_trail_iff hopening
    have hopened : w₁.HoldsSettings (settingsPath env o) :=
      opening_holdsSettings hopening (fun m hm => horderly m ((hmem m).2 (.inl hm))) hsettled
    obtain ⟨m, hm, hclears, hw⟩ := Machine.exists_clears hclosing
    have hholds := closing_holdsSettings (hostConfig env o).pluginDir hopened
      (fun m hm => horderly m ((hmem m).2 (.inr hm))) m hm
    refine ⟨m, (hmem m).2 (.inr hm), hclears, hw, fun hapart => ?_⟩
    have hfiles : w.files = (m.world.unloadAll m.world.registry.loadOrder).files := by
      rw [← hw]
      exact Machine.files_of_clears hclears
    rw [hfiles] at hapart ⊢
    have hsame := World.sameFile_unloadAll hholds.settled hapart
    show Store.loadStrict _ (settingsPath env o) = _
    rw [Store.loadStrict_congr hsame]
    unfold World.settingsOf
    rw [hholds.settings]
    rfl
  · rw [(Machine.begins_of_loadEvent? hevent).config]
    obtain ⟨at_, hfg, -⟩ := Files.onlyFiles_of_write hwrite
    have hapart' : ¬ g.SameTarget (w'.configFile p.manifest.name) (settingsPath env o) :=
      fun hsame => hapart (hfg.sameTarget hsame)
    exact Store.loadLenient_of_sameFile (Files.sameFile_write hwrite hapart')

end Settings

end CommandLine

namespace Scene

/-- The statement by which a script stores a setting. -/
def stores (key value : String) : Json :=
  .array [.text "do", .object [("call", .text "settings.set"),
    ("args", .array [.text key, .text value])]]

/-- A plugin that stores a setting when it is loaded. -/
def storing (name : String) : Scene := [⟨name, name, [stores "k" "new"]⟩]

/-- The folders in a directory of their own, next to a settings file. -/
def besideSettings (s : Scene) (d : Dict String) : Files where
  entries := (["settings.json"], .file (Text.encode (Store.render d))) :: s.below "plugins"
  current := []

/-- Configurations and settings in the current directory, plugins in one below. -/
def here : Options := { plugins := some ⟨"plugins"⟩, configDir := some ⟨"."⟩ }

/-- The folders, with a settings file that holds one entry. -/
def storingBeside (name : String) : Files :=
  (storing name).besideSettings (Dict.ofList [("k", "old")])

/-- The world after a run that is reported. -/
def reported? (f : Files) : Option World :=
  (CommandLine.runSession? 200 f ∅ here []).bind fun result =>
    match result.2 with
    | .reported .. => some result.1
    | _ => none

/-- What evaluates to true of the world after a run, and of all machines on its trail. -/
theorem exists_of_reported? {f : Files} {q : World → Bool} {always : Machine → Bool}
    (hend : (reported? f).any q = true)
    (htrail : (CommandLine.trail 200 f ∅ here []).all always = true) :
    ∃ w asJson lines r, CommandLine.runSession? 200 f ∅ here []
        = some (w, .reported asJson lines r) ∧ q w = true ∧
      ∀ m ∈ CommandLine.trail 200 f ∅ here [], always m = true := by
  obtain ⟨w, hw, hq⟩ := (Option.any_eq_true ..).1 hend
  obtain ⟨⟨w', outcome⟩, hrun, hreported⟩ := Option.bind_eq_some_iff.1 hw
  cases outcome with
  | reported asJson lines r =>
    cases hreported
    exact ⟨w', asJson, lines, r, hrun, hq, List.all_eq_true.1 htrail⟩
  | _ => cases hreported

/-- The settings file is there. -/
theorem settled_storingBeside (name : String) :
    (storingBeside name).Settled (CommandLine.settingsPath ∅ here) := by
  exact .inl ⟨.file ["settings.json"] (Text.encode (Store.render (Dict.ofList [("k", "old")]))), rfl⟩

end Scene

/-- A plugin of another name stores a setting, and its file holds the setting in the end. -/
theorem storing_kept : ∃ (w : World) (asJson : Bool) (lines : List String) (r : Report) (m : Machine),
    CommandLine.runSession? 200 (Scene.storingBeside "p") ∅ Scene.here []
      = some (w, .reported asJson lines r) ∧
    m ∈ CommandLine.trail 200 (Scene.storingBeside "p") ∅ Scene.here [] ∧ m.clears = true ∧
    m.world.registry.loadOrder = ["p"] ∧
    (SettingsFile.load w.files ⟨"./settings.json"⟩).values = m.world.settingsOf 0 ∧
    (m.world.settingsOf 0).get? "k" = some "new" := by
  have hend : (Scene.reported? (Scene.storingBeside "p")).any (fun w =>
      w.files.target? ⟨"./settings.json"⟩ != w.files.target? ⟨"./p.json"⟩) = true := by
    decide +kernel
  have htrail : (CommandLine.trail 200 (Scene.storingBeside "p") ∅ Scene.here []).all (fun m =>
      m.isOrderly && (!m.clears || (m.world.registry.loadOrder == ["p"] &&
        (m.world.configFile "p" == ⟨"./p.json"⟩ &&
          (m.world.settingsOf 0).get? "k" == some "new")))) = true := by
    decide +kernel
  obtain ⟨w, asJson, lines, r, hrun, htargets, hall⟩ := Scene.exists_of_reported? hend htrail
  have hapart : ¬ w.files.SameTarget ⟨"./settings.json"⟩ ⟨"./p.json"⟩ :=
    Files.not_sameTarget (bne_iff_ne.1 htargets)
  obtain ⟨⟨m, hm, hclears, -, hkept⟩, -⟩ := CommandLine.settings_kept hrun
    (fun m hm => (Bool.and_eq_true_iff.1 (hall m hm)).1) (Scene.settled_storingBeside "p")
  have hlast := (Bool.and_eq_true_iff.1 (hall m hm)).2
  rw [hclears, Bool.not_true, Bool.false_or] at hlast
  obtain ⟨horder, hlast⟩ := Bool.and_eq_true_iff.1 hlast
  obtain ⟨hfile, hheld⟩ := Bool.and_eq_true_iff.1 hlast
  have horder : m.world.registry.loadOrder = ["p"] := beq_iff_eq.1 horder
  refine ⟨w, asJson, lines, r, m, hrun, hm, hclears, horder, hkept (fun name hname => ?_),
    beq_iff_eq.1 hheld⟩
  obtain rfl : name = "p" := by
    rw [horder] at hname
    exact List.mem_singleton.1 hname
  have hfile : m.world.configFile "p" = ⟨"./p.json"⟩ := beq_iff_eq.1 hfile
  rw [hfile]
  exact hapart

/-- A load begins with this entry in the plugin's configuration. -/
def Scene.isGiven (m : Machine) (key value : String) : Bool :=
  m.loadEvent?.any fun event => match event.2 with
    | .begun _ s => s.config.get? key == some value
    | _ => false

theorem Scene.exists_of_isGiven {m : Machine} {key value : String}
    (h : isGiven m key value = true) :
    ∃ w p s, m.loadEvent? = some (w, .begun p s) ∧ s.config.get? key = some value := by
  obtain ⟨⟨w, e⟩, hevent, hgiven⟩ := (Option.any_eq_true ..).1 h
  cases e with
  | begun p s => exact ⟨w, p, s, hevent, beq_iff_eq.1 hgiven⟩
  | _ => cases hgiven

/-- **A plugin called `settings` is given the host's settings as its configuration**, and writes
them back at the shutdown: the setting that was stored meanwhile is lost. -/
theorem settings_overwritten : ∃ (w : World) (asJson : Bool) (lines : List String) (r : Report)
    (m m' : Machine) (w' : World) (p : PendingLoad) (s : Sandbox),
    CommandLine.runSession? 200 (Scene.storingBeside "settings") ∅ Scene.here []
      = some (w, .reported asJson lines r) ∧
    (∀ m ∈ CommandLine.trail 200 (Scene.storingBeside "settings") ∅ Scene.here [],
      m.isOrderly = true) ∧
    (m ∈ CommandLine.trail 200 (Scene.storingBeside "settings") ∅ Scene.here [] ∧
      m.clears = true ∧ m.step.world = w ∧ (m.world.settingsOf 0).get? "k" = some "new" ∧
      (SettingsFile.load w.files ⟨"./settings.json"⟩).values.get? "k" = some "old") ∧
    m' ∈ CommandLine.trail 200 (Scene.storingBeside "settings") ∅ Scene.here [] ∧
      m'.loadEvent? = some (w', .begun p s) ∧ s.config.get? "k" = some "old" := by
  have hend : (Scene.reported? (Scene.storingBeside "settings")).any (fun w =>
      (SettingsFile.load w.files ⟨"./settings.json"⟩).values.get? "k" == some "old") = true := by
    decide +kernel
  have htrail : (CommandLine.trail 200 (Scene.storingBeside "settings") ∅ Scene.here []).all
      (fun m => m.isOrderly &&
        (!m.clears || (m.world.settingsOf 0).get? "k" == some "new")) = true := by
    decide +kernel
  have hgiven : (CommandLine.trail 200 (Scene.storingBeside "settings") ∅ Scene.here []).any
      (fun m => Scene.isGiven m "k" "old") = true := by
    decide +kernel
  obtain ⟨w, asJson, lines, r, hrun, hread, hall⟩ := Scene.exists_of_reported? hend htrail
  obtain ⟨m', hm', hgiven⟩ := List.any_eq_true.1 hgiven
  obtain ⟨w', p, s, hevent, hentry⟩ := Scene.exists_of_isGiven hgiven
  obtain ⟨m, hm, hclears, hw⟩ := CommandLine.exists_clears_of_reported hrun
  have hheld := (Bool.and_eq_true_iff.1 (hall m hm)).2
  rw [hclears, Bool.not_true, Bool.false_or] at hheld
  exact ⟨w, asJson, lines, r, m, m', w', p, s, hrun,
    fun m hm => (Bool.and_eq_true_iff.1 (hall m hm)).1,
    ⟨hm, hclears, hw, beq_iff_eq.1 hheld, beq_iff_eq.1 hread⟩, hm', hevent, hentry⟩

end EditorPlugins
