/-
  Runs that can be repeated.

  A run whose scripts are quiet changes files at its end only, when the configurations of the loaded
  plugins are written.  Nobody has saved anything, so each of them is written as it was read.  If
  the directory of configurations was there before, and no file of a plugin is one of these files,
  the folders of the plugins look the same to the next run, and it takes the same steps: it reports
  the same.

  With the usual set-up the directory of configurations is one of the directories in the plugin
  directory.  A run that makes it leaves a folder to the next run in which no plugin is.

  Main statement: `run_repeats`.  `Follows.step` is its step lemma, and `run_onGround` the induction
  over the steps of the second run.
-/
import EditorPlugins.Proofs.Machine.Quiet
import EditorPlugins.Proofs.Machine.Scene
import EditorPlugins.Proofs.Registry.LoadOrder
import EditorPlugins.Proofs.World.Rest

namespace EditorPlugins

open Files (OnlyFiles Rewritten SameFile)

/-! ## The folders of plugins -/

namespace PluginFolder

variable {f g : Files} {root : Path}

theorem readManifest_congr (h : SameFile f g (root / manifestFile)) :
    readManifest g root = readManifest f root := by
  unfold readManifest
  dsimp only
  rw [h.isFile_eq]
  cases hfile : f.isFile (root / manifestFile) with
  | false => rw [if_pos (by rfl), if_pos (by rfl)]
  | true => rw [h.readText_eq hfile]

/-- A folder looks the same when the files are that a load of its plugin reads. -/
theorem alike_of_sameFile {c : PluginConfigs} (hmanifest : SameFile f g (root / manifestFile))
    (hscript : ∀ m, readManifest f root = .ok m → SameFile f g (root / m.entryScript))
    (hconfig : ∀ m, readManifest f root = .ok m → c.load g m.name = c.load f m.name) :
    Alike c f g root where
  manifest := readManifest_congr hmanifest
  folder m hm := by
    unfold withManifest
    dsimp only
    rw [(hscript m hm).isFile_eq]
  script m p hm hp := by
    unfold withManifest at hp
    dsimp only at hp
    split at hp
    · rename_i hfile
      cases hp
      unfold World.readScript
      rw [(hscript m hm).readText_eq hfile]
    · cases hp
  config := hconfig

end PluginFolder

namespace Files

variable {f g : Files} {p : Path}

theorem list_of_locate {dir : Place} (h : f.locate p = .ok (.directory dir)) :
    f.list p = .ok (f.namesBelow dir) := by
  unfold list
  rw [h]
  rfl

theorem list_of_not_isDirectory (h : f.isDirectory p = false) : ∃ e, f.list p = .error e := by
  unfold isDirectory at h
  unfold list
  cases hs : f.locate p with
  | error e => exact ⟨e, rfl⟩
  | ok s =>
    rw [hs] at h
    cases s with
    | directory at_ => cases h
    | file at_ bytes => exact ⟨.notDirectory, rfl⟩
    | missing at_ => exact ⟨.notFound, rfl⟩

/-- A directory with the same names in it has the same directories in it. -/
theorem OnlyFiles.pluginRoots_eq (hfg : OnlyFiles f g)
    (hnames : ∀ dir, f.locate p = .ok (.directory dir) → g.namesBelow dir = f.namesBelow dir) :
    World.pluginRoots g p = World.pluginRoots f p := by
  unfold World.pluginRoots
  cases hp : f.isDirectory p with
  | true =>
    obtain ⟨dir, hdir⟩ := exists_of_isDirectory hp
    rw [list_of_locate hdir, list_of_locate (locate_of_grows hfg.grows hdir), hnames dir hdir]
    exact congrArg (List.filter · _) (funext hfg.isDirectory_eq)
  | false =>
    obtain ⟨e, he⟩ := list_of_not_isDirectory hp
    obtain ⟨e', he'⟩ := list_of_not_isDirectory ((hfg.isDirectory_eq p).trans hp)
    rw [he, he']

end Files

namespace HostConfig

/-- Where the configurations of plugins are. -/
def configs (c : HostConfig) : PluginConfigs := ⟨c.configDir⟩

/-- A folder in the plugin directory has a plugin of this name. -/
def Knows (c : HostConfig) (f : Files) (name : String) : Prop :=
  ∃ root ∈ World.pluginRoots f c.pluginDir, ∃ m,
    PluginFolder.readManifest f root = .ok m ∧ m.name = name

/-- Configurations are apart from everything else that a run reads: their files are not directly in
the plugin directory, they are neither manifests nor entry scripts, and each plugin has its own. -/
structure Apart (c : HostConfig) (f : Files) : Prop where
  directory : ∀ name, c.Knows f name → ∀ dir, f.locate c.pluginDir = .ok (.directory dir) →
    ∀ at_, f.target? (c.configs.file name) = some at_ → at_.dropLast ≠ dir
  manifest : ∀ name, c.Knows f name → ∀ root ∈ World.pluginRoots f c.pluginDir,
    ¬ f.SameTarget (root / PluginFolder.manifestFile) (c.configs.file name)
  script : ∀ name, c.Knows f name → ∀ root ∈ World.pluginRoots f c.pluginDir, ∀ m,
    PluginFolder.readManifest f root = .ok m →
    ¬ f.SameTarget (root / m.entryScript) (c.configs.file name)
  config : ∀ name other, c.Knows f name → c.Knows f other → other ≠ name →
    ¬ f.SameTarget (c.configs.file other) (c.configs.file name)

/-- The plugin directory looks the same in two file systems. -/
structure SamePlugins (c : HostConfig) (f g : Files) : Prop where
  roots : World.pluginRoots g c.pluginDir = World.pluginRoots f c.pluginDir
  alike : ∀ root ∈ World.pluginRoots f c.pluginDir, PluginFolder.Alike c.configs f g root

theorem SamePlugins.refl (c : HostConfig) (f : Files) : c.SamePlugins f f :=
  ⟨rfl, fun _ _ => ⟨rfl, fun _ _ => rfl, fun _ _ _ _ => rfl, fun _ _ => rfl⟩⟩

/-- **Configurations that are written as they were change nothing for plugins.** -/
theorem Apart.samePlugins {c : HostConfig} {f g : Files} (h : c.Apart f)
    (hfg : Rewritten (fun p => ∃ name, c.Knows f name ∧ p = c.configs.file name) f g)
    (hloads : ∀ name, c.Knows f name → c.configs.load g name = c.configs.load f name) :
    c.SamePlugins f g where
  roots := by
    refine hfg.onlyFiles.pluginRoots_eq fun dir hdir => hfg.namesBelow_eq ?_
    rintro q ⟨name, hname, rfl⟩
    exact h.directory name hname dir hdir
  alike root hroot := by
    refine PluginFolder.alike_of_sameFile (hfg.sameFile ?_) (fun m hm => hfg.sameFile ?_)
      (fun m hm => hloads m.name ⟨root, hroot, m, hm, rfl⟩)
    · rintro q ⟨name, hname, rfl⟩
      exact h.manifest name hname root hroot
    · rintro q ⟨name, hname, rfl⟩
      exact h.script name hname root hroot m hm

end HostConfig

/-! ## The first run -/

/-- The files and the set-up are still those at the start of a run, and every sandbox has the
configuration that was read for its plugin. -/
structure World.Unsaved (f : Files) (c : HostConfig) (w : World) : Prop where
  files : w.files = f
  config : w.registry.config = c
  given : ∀ id < w.sandboxes.size, c.Knows f (w.sandbox id).identity.name ∧
    (w.sandbox id).config = c.configs.load f (w.sandbox id).identity.name

/-- A machine of a run that has changed no files yet. -/
structure Machine.Follows (closing : Bool) (f : Files) (c : HostConfig) (m : Machine) : Prop where
  reachable : m.Reachable
  unsaved : m.world.Unsaved f c
  proceeds : m.Proceeds closing c.pluginDir (· ∈ World.pluginRoots f c.pluginDir)

namespace Machine

variable {m : Machine} {closing : Bool} {f g : Files} {c : HostConfig}

/-- **A quiet step changes no files**, and no configuration; a new sandbox is given what is stored. -/
theorem Follows.step (h : m.Follows closing f c) (hquiet : m.isQuiet = true)
    (hclears : m.clears = false) : m.step.Follows closing f c := by
  have hfiles : m.step.world.files = f :=
    (keepsStores_of_isQuiet hquiet hclears h.proceeds).files.trans h.unsaved.files
  have hconfig : m.step.world.registry.config = c := m.step_config.trans h.unsaved.config
  refine ⟨h.reachable.step, ⟨hfiles, hconfig, fun id hid => ?_⟩,
    h.proceeds.step (hostActs_of_isQuiet hquiet)⟩
  by_cases hold : id < m.world.sandboxes.size
  · rw [(step_keepsSandboxes m).identity id hold, config_step hold, savedTable?_of_isQuiet hquiet]
    exact h.unsaved.given id hold
  · obtain ⟨w, p, s, hevent, rfl⟩ := exists_begun_of_new hold hid
    have hbegins := begins_of_loadEvent? hevent
    rcases ended_or_started hevent with ⟨-, _, _, -, hnever | ⟨_, hnever⟩⟩ | ⟨root, hstart, hstarted⟩
    · cases hnever
    · cases hnever
    · obtain ⟨rfl, hroot⟩ := h.proceeds.loadStart? hstart
      obtain ⟨-, -, -, -, hmanifest, -⟩ := World.plan_of_begun hstarted
      have hconfigs : m.world.registry.configs = c.configs :=
        congrArg (fun c : HostConfig => c.configs) h.unsaved.config
      rw [h.unsaved.files] at hmanifest
      rw [hbegins.new, hbegins.config, hbegins.name, hconfigs, h.unsaved.files]
      exact ⟨⟨root, hroot, p.manifest, hmanifest, rfl⟩, rfl⟩

/-- What a run that was never saved finds when plugins are unloaded. -/
theorem Follows.atRest (h : m.Follows closing f c) (hapart : c.Apart f)
    (hdirectory : f.isDirectory c.configDir = true) : m.world.AtRest (c.Knows f) := by
  have hfile : ∀ name, m.world.configFile name = c.configs.file name :=
    fun name => congrArg (fun c : HostConfig => c.configs.file name) h.unsaved.config
  have hrecord : ∀ name record, m.world.registry.plugins.get? name = some record →
      c.Knows f name ∧ (m.world.sandbox record.sandbox).config = c.configs.load f name := by
    intro name record hrecord
    obtain ⟨hid, hname, root, hidentity⟩ := h.reachable.owned.record name record hrecord
    have hgiven := h.unsaved.given record.sandbox hid
    have hsandbox : (m.world.sandbox record.sandbox).identity.name = name :=
      (congrArg Identity.name hidentity).trans hname
    rw [hsandbox] at hgiven
    exact hgiven
  refine ⟨?_, fun name record hr => (hrecord name record hr).1, fun name record hr => ?_, ?_⟩
  · rw [h.unsaved.files, h.unsaved.config]
    exact hdirectory
  · rw [(hrecord name record hr).2, ← h.unsaved.files, ← h.unsaved.config]
    rfl
  · intro name other hname hother hne
    rw [hfile, hfile, h.unsaved.files]
    exact hapart.config name other hname hother hne

end Machine

/-! ## The second run -/

namespace World

variable {n : Nat} {w w' : World} {f g : Files} {hosts : Array Host} {c : HostConfig}

/-- What an unload does to the registry is the same with other files. -/
theorem unload_onGround (w : World) (g : Files) (hosts : Array Host) (name : String) :
    ∃ g', ((w.onGround g hosts).unload name).1 = (w.unload name).1.onGround g' hosts := by
  have hregistry : (w.onGround g hosts).registry = w.registry := rfl
  unfold unload
  rw [hregistry]
  split
  · exact ⟨g, rfl⟩
  · split
    · exact ⟨g, rfl⟩
    · exact ⟨_, rfl⟩

theorem unloadAll_onGround (w : World) (g : Files) (hosts : Array Host) (names : List String) :
    ∃ g', (w.onGround g hosts).unloadAll names = (w.unloadAll names).onGround g' hosts := by
  induction names generalizing w g with
  | nil => exact ⟨g, rfl⟩
  | cons name rest ih =>
    obtain ⟨g₁, hfirst⟩ := w.unload_onGround g hosts name
    obtain ⟨g₂, hothers⟩ := ih (w.unload name).1 g₁
    exact ⟨g₂, (congrArg (fun w : World => w.unloadAll rest) hfirst).trans hothers⟩

end World

namespace Machine

variable {n : Nat} {m : Machine} {closing : Bool} {f g : Files} {c : HostConfig}

/-- A step of the first run is one of the second. -/
theorem Follows.step_onGround (h : m.Follows closing f c) (hsame : c.SamePlugins f g)
    (hquiet : m.isQuiet = true) (hclears : m.clears = false) (hosts : Array Host) :
    (m.onGround g hosts).step = m.step.onGround g hosts := by
  have hconfigs : m.world.registry.configs = c.configs :=
    congrArg (fun c : HostConfig => c.configs) h.unsaved.config
  have hproceeds : m.Proceeds closing c.pluginDir
      (PluginFolder.Alike m.world.registry.configs m.world.files g) := by
    rw [hconfigs, h.unsaved.files]
    exact h.proceeds.mono hsame.alike
  have hroots : World.pluginRoots g c.pluginDir
      = World.pluginRoots m.world.files c.pluginDir := by
    rw [h.unsaved.files]
    exact hsame.roots
  exact Machine.step_onGround hquiet hclears hproceeds hroots hosts

/-- So is the step that clears the registry, up to the files. -/
theorem clear_onGround (hclears : m.clears = true) (g : Files) (hosts : Array Host) :
    ∃ g', (m.onGround g hosts).step = m.step.onGround g' hosts := by
  obtain ⟨a, F, hfocus, hframes⟩ := exists_of_clears hclears
  obtain ⟨w, focus, frames⟩ := m
  cases hfocus
  cases hframes
  obtain ⟨g', hunloaded⟩ := w.unloadAll_onGround g hosts w.registry.loadOrder
  have hcleared : (w.onGround g hosts).completeFinalize = w.completeFinalize.onGround g' hosts :=
    congrArg (fun w : World => w.modifyRegistry Registry.cleared) hunloaded
  refine ⟨g', ?_⟩
  show answer (w.onGround g hosts).completeFinalize (.ok .nothing) F = _
  rw [hcleared]
  rfl

/-- **The second run takes the steps of the first.** -/
theorem run_onGround (hsame : c.SamePlugins f g)
    (hall : ∀ m' ∈ trail n m, m'.Follows closing f c ∧ m'.isQuiet = true) (hosts : Array Host) :
    ∃ g', run n (m.onGround g hosts) = (run n m).onGround g' hosts ∧ (closing = false → g' = g) := by
  induction n generalizing m with
  | zero => exact ⟨g, rfl, fun _ => rfl⟩
  | succ n ih =>
    cases hdone : m.isDone with
    | true =>
      have hdone' : (m.onGround g hosts).isDone = true := hdone
      rw [run_of_isDone hdone, run_of_isDone hdone']
      exact ⟨g, rfl, fun _ => rfl⟩
    | false =>
      have hdone' : (m.onGround g hosts).isDone = false := hdone
      rw [trail_succ hdone] at hall
      obtain ⟨⟨hfollows, hquiet⟩, hrest⟩ := List.forall_mem_cons.1 hall
      rw [run_succ hdone, run_succ hdone']
      cases hclears : m.clears with
      | false =>
        rw [hfollows.step_onGround hsame hquiet hclears hosts]
        exact ih hrest
      | true =>
        have hend := hfollows.proceeds.isDone_of_clears hclears
        obtain ⟨g', hstep⟩ := clear_onGround hclears g hosts
        have hend' : (m.step.onGround g' hosts).isDone = true := hend
        rw [hstep, run_of_isDone hend, run_of_isDone hend']
        refine ⟨g', rfl, ?_⟩
        rintro rfl
        rw [hfollows.proceeds.not_clears] at hclears
        cases hclears

end Machine

namespace World

variable {n : Nat} {w w' : World} {f g : Files} {c : HostConfig}

theorem perform?_onGround {closing : Bool} {op : Operation} {a : Answer} (hsame : c.SamePlugins f g)
    (hall : ∀ m ∈ Machine.trail n (.perform w op), m.Follows closing f c ∧ m.isQuiet = true)
    (h : w.perform? n op = some (w', a)) (hosts : Array Host) :
    ∃ g', (w.onGround g hosts).perform? n op = some (w'.onGround g' hosts, a) ∧
      (closing = false → g' = g) := by
  obtain ⟨hanswer, rfl⟩ := exists_of_perform? h
  obtain ⟨g', hrun, hopen⟩ := Machine.run_onGround hsame hall hosts
  refine ⟨g', ?_, hopen⟩
  have hperform : Machine.perform (w.onGround g hosts) op = (Machine.perform w op).onGround g hosts :=
    rfl
  have hanswer' : ((Machine.run n (.perform w op)).onGround g' hosts).answer? = some a := hanswer
  unfold perform?
  dsimp only
  rw [hperform, hrun, hanswer']
  rfl

theorem performAll?_onGround {ops : List Operation} {answers : List Answer}
    (hsame : c.SamePlugins f g)
    (hall : ∀ m ∈ w.trail n ops, m.Follows false f c ∧ m.isQuiet = true)
    (h : w.performAll? n ops = some (w', answers)) (hosts : Array Host) :
    (w.onGround g hosts).performAll? n ops = some (w'.onGround g hosts, answers) := by
  induction ops generalizing w answers with
  | nil =>
    cases h
    rfl
  | cons op ops ih =>
    obtain ⟨w₁, a, others, hfirst, hothers, rfl⟩ := performAll?_cons.1 h
    obtain ⟨htrail, hrest⟩ := (forall_mem_trail_cons hfirst).1 hall
    obtain ⟨g', hsecond, hopen⟩ := perform?_onGround hsame htrail hfirst hosts
    obtain rfl := hopen rfl
    exact performAll?_cons.2 ⟨_, a, others, hsecond, ih hrest hothers, rfl⟩

end World

namespace CommandLine

variable {n : Nat} {f g : Files} {env : Environment} {o : Options} {events : List Event}
  {w w₁ : World} {r : Report}

/-- **A run on other files reports the same**, when the plugin directory looks the same. -/
theorem Performs.onGround (h : Performs n f env o events w₁ r w)
    (hsame : (hostConfig env o).SamePlugins f g)
    (hopened : ∀ m ∈ (prepare f env o).trail n (opening env o events),
      m.Follows false f (hostConfig env o) ∧ m.isQuiet = true)
    (hclosing : ∀ m ∈ Machine.trail n (.perform w₁ .finalize),
      m.Follows true f (hostConfig env o) ∧ m.isQuiet = true) :
    ∃ hosts g', Performs n g env o events (w₁.onGround g hosts) r (w.onGround g' hosts) := by
  let hosts : Array Host := #[(hostProfile (hostConfig env o) o).attach g]
  have hprepared : prepare g env o = (prepare f env o).onGround g hosts := rfl
  cases h with
  | @intro w₂ w₃ w₄ _ _ roots reply ready ran announced hscan hready hran hannounced hclosed =>
    obtain ⟨hscanning, hrest⟩ := (World.forall_mem_trail_cons hscan).1 hopened
    obtain ⟨hannouncing, hrest⟩ := (World.forall_mem_trail_cons hready).1 hrest
    rw [World.trail_append hran, List.forall_mem_append] at hrest
    obtain ⟨g₁, hscan', hopen⟩ := World.perform?_onGround hsame hscanning hscan hosts
    obtain rfl := hopen rfl
    obtain ⟨g₂, hready', hopen⟩ := World.perform?_onGround hsame hannouncing hready hosts
    obtain rfl := hopen rfl
    have hran' := World.performAll?_onGround hsame hrest.1 hran hosts
    have hannounced' := World.performAll?_onGround hsame hrest.2 hannounced hosts
    obtain ⟨g', hclosed', -⟩ := World.perform?_onGround hsame hclosing hclosed hosts
    rw [← hprepared] at hscan'
    exact ⟨hosts, g', .intro hscan' hready' hran' hannounced' hclosed'⟩

/-! ## Trails -/

/-- Before anything is loaded nothing has changed. -/
theorem prepare_follows (f : Files) (env : Environment) (o : Options) : ∃ (m : Machine) (a : Answer),
    m.Follows false f (hostConfig env o) ∧ m.answer? = some a ∧ m.world = prepare f env o := by
  let c := hostConfig env o
  let m : Machine := (Machine.perform (.start f (hostProfile c o) c false) .attach).step
  have hreachable : m.Reachable := .step (.start f (hostProfile c o) c false .attach)
  have hunsaved : m.world.Unsaved f c := ⟨rfl, rfl, fun _ hid => nomatch hid⟩
  have hproceeds : m.Proceeds false c.pluginDir (· ∈ World.pluginRoots f c.pluginDir) :=
    ⟨fun _ => nofun, trivial⟩
  exact ⟨m, .ok .nothing, ⟨hreachable, hunsaved, hproceeds⟩, rfl, rfl⟩

/-- **The operations of a quiet run change no files**, -/
theorem opening_follows {answers : List Answer}
    (hopening : (prepare f env o).performAll? n (opening env o events) = some (w₁, answers))
    (hquiet : ∀ m ∈ (prepare f env o).trail n (opening env o events), m.isQuiet = true) :
    (∀ m ∈ (prepare f env o).trail n (opening env o events), m.Follows false f (hostConfig env o)) ∧
    ∃ (m : Machine) (a : Answer),
      m.Follows false f (hostConfig env o) ∧ m.answer? = some a ∧ m.world = w₁ := by
  let J (m : Machine) : Prop := m.Follows false f (hostConfig env o)
  let I (w : World) : Prop := ∃ (m : Machine) (a : Answer), J m ∧ m.answer? = some a ∧ m.world = w
  have hperform : ∀ w, I w → ∀ op ∈ opening env o events, J (.perform w op) := by
    rintro w ⟨m, a, hm, ha, rfl⟩ op hop
    refine ⟨hm.reachable.next op ha, hm.unsaved, proceeds_opening env o events _ ?_ hop⟩
    rw [hm.unsaved.files]
    exact fun root hroot => hroot
  have hworld : ∀ m a, J m → m.answer? = some a → I m.world :=
    fun m a hm ha => ⟨m, a, hm, ha, rfl⟩
  have hstep : ∀ m ∈ (prepare f env o).trail n (opening env o events), J m → J m.step :=
    fun m hm hJ => hJ.step (hquiet m hm) hJ.proceeds.not_clears
  exact World.trail_preserve hperform hworld hstep (prepare_follows f env o) hopening

/-- and neither do the handlers of the shutdown. -/
theorem closing_follows {m : Machine} {a : Answer} {c : HostConfig} (hm : m.Follows false f c)
    (ha : m.answer? = some a)
    (hquiet : ∀ m' ∈ Machine.trail n (.perform m.world .finalize), m'.isQuiet = true) :
    ∀ m' ∈ Machine.trail n (.perform m.world .finalize), m'.Follows true f c := by
  have hstart : (Machine.perform m.world .finalize).Follows true f c := by
    refine ⟨hm.reachable.next .finalize ha, hm.unsaved, fun op heq => ?_, trivial⟩
    cases heq
    exact .finalize rfl rfl
  exact Machine.trail_preserve_of_proceeds (fun _ hJ => hJ.proceeds)
    (fun m' hm' hclears hJ => hJ.step (hquiet m' hm') hclears) hstart

/-! ## Two runs -/

/-- A shutdown with nothing loaded writes nothing. -/
theorem files_of_nothing_loaded {reply : Reply} (hnone : w₁.registry.loadOrder = [])
    (h : w₁.perform? n .finalize = some (w, .ok reply)) : w.files = w₁.files := by
  obtain ⟨hanswer, rfl⟩ := World.exists_of_perform? h
  cases n with
  | zero => cases hanswer
  | succ n =>
    -- the announcement is answered at once, and the next step is the last one
    have hstep := Machine.step_of_finalize h
    rw [hnone] at hstep
    rw [Machine.run_succ (by rfl), hstep] at hanswer ⊢
    cases n with
    | zero => cases hanswer
    | succ n =>
      have hcleared : (Machine.announce w₁ .shutdown [.finalization] [] {}).step
          = Machine.answer w₁.completeFinalize (.ok .nothing) [] := rfl
      rw [Machine.run_succ (by rfl), hcleared, Machine.run_of_isDone (by rfl)]
      show w₁.completeFinalize.files = w₁.files
      rw [World.completeFinalize_files, hnone]
      rfl

/-- When no plugin is reported none is loaded. -/
theorem loadOrder_of_report {w : World} (hlisted : w.registry.Listed) {runs : List CommandRun}
    {announced : List EventRun} (h : (report w runs announced).loaded = []) :
    w.registry.loadOrder = [] := by
  refine List.eq_nil_iff_forall_not_mem.2 fun name hname => ?_
  obtain ⟨record, hrecord⟩ := Dict.contains_iff.1 ((hlisted name).1 hname)
  have hinfo : w.info name ≠ none := by
    unfold World.info
    rw [hrecord]
    exact nofun
  exact hinfo (List.filterMap_eq_nil_iff.1 h name hname)

/-- The machines of a quiet run, before the shutdown and after. -/
theorem Performs.follows (h : Performs n f env o events w₁ r w)
    (hquiet : ∀ m ∈ trail n f env o events, m.isQuiet = true) :
    (∀ m ∈ (prepare f env o).trail n (opening env o events),
      m.Follows false f (hostConfig env o) ∧ m.isQuiet = true) ∧
    (∀ m ∈ Machine.trail n (.perform w₁ .finalize),
      m.Follows true f (hostConfig env o) ∧ m.isQuiet = true) ∧
    w₁.files = f ∧ w₁.registry.Listed := by
  obtain ⟨answers, reply, hopening, -⟩ := h.performAll?
  have hmem := mem_trail_iff hopening
  have hquiet₁ := fun m hm => hquiet m ((hmem m).2 (.inl hm))
  have hquiet₂ := fun m hm => hquiet m ((hmem m).2 (.inr hm))
  obtain ⟨hfollows, m, a, hm, ha, rfl⟩ := opening_follows hopening hquiet₁
  have hclosing := closing_follows hm ha hquiet₂
  exact ⟨fun m hm => ⟨hfollows m hm, hquiet₁ m hm⟩, fun m hm => ⟨hclosing m hm, hquiet₂ m hm⟩,
    hm.unsaved.files, hm.reachable.listed⟩

/-- **A quiet run leaves the plugin directory as it was**, if there was nothing to save or a
directory of configurations apart from the plugins. -/
theorem Performs.samePlugins (h : Performs n f env o events w₁ r w)
    (hquiet : ∀ m ∈ trail n f env o events, m.isQuiet = true)
    (hapart : (hostConfig env o).Apart f)
    (hmade : r.loaded = [] ∨ f.isDirectory (hostConfig env o).configDir = true) :
    (hostConfig env o).SamePlugins f w.files := by
  obtain ⟨-, hclosing, hfiles, hlisted⟩ := h.follows hquiet
  obtain ⟨answers, reply, -, hclosed⟩ := h.performAll?
  rcases hmade with hnone | hdirectory
  · have hloaded : w₁.registry.loadOrder = [] := by
      cases h
      exact loadOrder_of_report hlisted hnone
    rw [files_of_nothing_loaded hloaded hclosed, hfiles]
    exact .refl _ f
  · obtain ⟨m, hm, hclears, rfl⟩ := Machine.exists_clears hclosed
    have hfollows := (hclosing m hm).1
    have hrests := (hfollows.atRest hapart hdirectory).unloadAll m.world.registry.loadOrder
    have hconfig : m.world.registry.config = hostConfig env o := hfollows.unsaved.config
    rw [Machine.files_of_clears hclears]
    refine hapart.samePlugins ?_ fun name hname => ?_
    · have hrewritten := hrests.rewritten
      rw [hfollows.unsaved.files] at hrewritten
      refine hrewritten.mono ?_
      rintro p ⟨name, hname, rfl⟩
      exact ⟨name, hname, congrArg (fun c : HostConfig => c.configs.file name) hconfig⟩
    · have hload := hrests.loads name hname
      unfold Registry.configs at hload
      rw [hrests.config, hconfig, hfollows.unsaved.files] at hload
      exact hload

/-- What arguments come to that are understood. -/
theorem runWith?_of_read {args : List String} (hread : Options.read args = .ok (.run o))
    (hevents : o.events.mapM parseEvent = .ok events) (n : Nat) (f : Files) (env : Environment) :
    runWith? n f env args = (runSession? n f env o events).map (fun p => (p.2, p.1.files)) := by
  unfold runWith?
  rw [hread]
  dsimp only
  rw [hevents]

/-- **A quiet run can be repeated**, unless it has made the directory of configurations: with the
files that it leaves, the same arguments lead to the same report.  Its scripts have to be quiet, and
where configurations are kept has to be apart from the plugins; if a plugin was loaded, the
directory of configurations has to be there before. -/
theorem run_repeats {args : List String} {asJson : Bool} {lines : List String}
    (hread : Options.read args = .ok (.run o)) (hevents : o.events.mapM parseEvent = .ok events)
    (hrun : runWith? n f env args = some (.reported asJson lines r, g))
    (hquiet : ∀ m ∈ trail n f env o events, m.isQuiet = true)
    (hapart : (hostConfig env o).Apart f)
    (hmade : r.loaded = [] ∨ f.isDirectory (hostConfig env o).configDir = true) :
    ∃ h, runWith? n g env args = some (.reported asJson lines r, h) := by
  rw [runWith?_of_read hread hevents] at hrun
  obtain ⟨⟨w, outcome⟩, hsession, heq⟩ := Option.map_eq_some_iff.1 hrun
  cases heq
  obtain ⟨rfl, rfl, w₁, hperforms⟩ := runSession?_eq_reported.1 hsession
  obtain ⟨hopened, hclosing, -, -⟩ := hperforms.follows hquiet
  have hsame := hperforms.samePlugins hquiet hapart hmade
  obtain ⟨hosts, g', hagain⟩ := hperforms.onGround hsame hopened hclosing
  have hsecond : runSession? n w.files env o events
      = some (w.onGround g' hosts, .reported o.json (printed w) r) :=
    runSession?_eq_reported.2 ⟨rfl, rfl, _, hagain⟩
  rw [runWith?_of_read hread hevents, hsecond]
  exact ⟨g', rfl⟩

end CommandLine

/-! ## Runs on small directories -/

namespace Entry

/-- Whether two entries are the same. -/
def same : Entry → Entry → Bool
  | file a, file b => Scene.sameBytes a b
  | directory, directory => true
  | link p, link q => decide (p = q)
  | _, _ => false

theorem same_iff {a b : Entry} : a.same b = true ↔ a = b := by
  cases a <;> cases b <;> simp [same, Scene.sameBytes_iff]

instance : DecidableEq Entry := fun a b => decidable_of_iff (a.same b = true) same_iff

end Entry

deriving instance DecidableEq for Files

namespace Scene

/-- The folders in the plugin directory, and nothing else. -/
def asPlugins (s : Scene) : Files := ⟨s.below "plugins", []⟩

/-- The set-up names a plugin directory and nothing else. -/
def pluginsGiven : Environment := Dict.ofList [("NNP_PLUGIN_DIR", "plugins")]

/-- A run is reported, with something that evaluates to true of the report. -/
def reports (q : Report → Bool) (result : Outcome × Files) : Bool :=
  match result.1 with
  | .reported _ _ r => q r
  | _ => false

theorem eq_reported_of_reports {q : Report → Bool} {result : Outcome × Files}
    (h : reports q result = true) :
    ∃ asJson lines r, result.1 = .reported asJson lines r ∧ q r = true := by
  obtain ⟨outcome, g⟩ := result
  cases outcome with
  | reported asJson lines r => exact ⟨asJson, lines, r, rfl, h⟩
  | _ => cases h

theorem exists_of_reports {q : Report → Bool} {f g : Files}
    (h : (CommandLine.runWith? 200 f pluginsGiven []).any
      (fun result => reports q result && decide (result.2 = g)) = true) :
    ∃ asJson lines r, CommandLine.runWith? 200 f pluginsGiven []
      = some (.reported asJson lines r, g) ∧ q r = true := by
  obtain ⟨⟨outcome, g'⟩, hrun, hresult⟩ := (Option.any_eq_true ..).1 h
  obtain ⟨hreports, hfiles⟩ := Bool.and_eq_true_iff.1 hresult
  obtain rfl : g' = g := of_decide_eq_true hfiles
  obtain ⟨asJson, lines, r, rfl, hq⟩ := eq_reported_of_reports hreports
  exact ⟨asJson, lines, r, hrun, hq⟩

/-- A plugin that listens to `ready`, in a folder of some name. -/
def listening (root : String) : Scene :=
  [⟨root, "p", [.array [.text "do", .object [("call", .text "plugin.on"), ("args",
    .array [.text "ready", .object [("fn", .array [])]])]]]⟩]

/-- The entry of an empty configuration. -/
def emptyConfig (at_ : Place) : Place × Entry := (at_, .file (Text.encode (Store.render ∅)))

/-- The directory of configurations is the folder of the plugin itself. -/
def settled : Files := (listening "config").asPlugins

/-- The run writes one file. -/
def settledAfter : Files :=
  ⟨emptyConfig ["plugins", "config", "p.json"] :: settled.entries, []⟩

theorem apart_settled : (CommandLine.hostConfig pluginsGiven {}).Apart settled := by
  have hroots : World.pluginRoots settled (CommandLine.hostConfig pluginsGiven {}).pluginDir
      = [⟨"plugins/config"⟩] := by
    decide +kernel
  have hmanifest : (PluginFolder.readManifest settled ⟨"plugins/config"⟩).toOption.all
      (fun m => m.name == "p" && m.entryScript == "init.lua") = true := by
    decide +kernel
  have hread : ∀ m, PluginFolder.readManifest settled ⟨"plugins/config"⟩ = .ok m →
      m.name = "p" ∧ m.entryScript = "init.lua" := by
    intro m hm
    rw [hm] at hmanifest
    obtain ⟨hname, hentry⟩ := Bool.and_eq_true_iff.1 hmanifest
    exact ⟨beq_iff_eq.1 hname, beq_iff_eq.1 hentry⟩
  have hknown : ∀ name, (CommandLine.hostConfig pluginsGiven {}).Knows settled name → name = "p" := by
    rintro name ⟨root, hroot, m, hm, rfl⟩
    rw [hroots] at hroot
    obtain rfl := List.mem_singleton.1 hroot
    exact (hread m hm).1
  refine ⟨fun name hname dir hdir at_ hat => ?_, fun name hname root hroot => ?_,
    fun name hname root hroot m hm => ?_, fun name other hname hother hne => ?_⟩
  · obtain rfl := hknown name hname
    cases hdir
    cases hat
    decide
  · obtain rfl := hknown name hname
    rw [hroots] at hroot
    obtain rfl := List.mem_singleton.1 hroot
    exact Files.not_sameTarget (by decide +kernel)
  · obtain rfl := hknown name hname
    rw [hroots] at hroot
    obtain rfl := List.mem_singleton.1 hroot
    rw [(hread m hm).2]
    exact Files.not_sameTarget (by decide +kernel)
  · exact absurd ((hknown other hother).trans (hknown name hname).symm) hne

end Scene

/-- A plugin directory in which the directory of configurations was there before. -/
theorem settled_repeated : ∃ (asJson : Bool) (lines : List String) (r : Report) (h : Files),
    CommandLine.runWith? 200 Scene.settled Scene.pluginsGiven []
      = some (.reported asJson lines r, Scene.settledAfter) ∧
    (r.events.map EventRun.summary).map Summary.delivered = [["p"]] ∧
    CommandLine.runWith? 200 Scene.settledAfter Scene.pluginsGiven []
      = some (.reported asJson lines r, h) := by
  have hrun : (CommandLine.runWith? 200 Scene.settled Scene.pluginsGiven []).any (fun result =>
      Scene.reports (fun r => (r.events.map EventRun.summary).map Summary.delivered == [["p"]]) result
        && decide (result.2 = Scene.settledAfter)) = true := by
    decide +kernel
  have htrail : (CommandLine.trail 200 Scene.settled Scene.pluginsGiven {} []).all Machine.isQuiet
      = true := by
    decide +kernel
  have hmade : Scene.settled.isDirectory (CommandLine.hostConfig Scene.pluginsGiven {}).configDir
      = true := by
    decide +kernel
  obtain ⟨asJson, lines, r, hrun, hdelivered⟩ := Scene.exists_of_reports hrun
  have hevents : ({} : Options).events.mapM CommandLine.parseEvent = .ok [] := rfl
  obtain ⟨h, hagain⟩ := CommandLine.run_repeats rfl hevents hrun (List.all_eq_true.1 htrail)
    Scene.apart_settled (.inr hmade)
  exact ⟨asJson, lines, r, h, hrun, beq_iff_eq.1 hdelivered, hagain⟩

namespace Scene

/-- A plugin that does nothing. -/
def idle : Scene := [⟨"p", "p", []⟩]

/-- There is no directory of configurations. -/
def fresh : Files := idle.asPlugins

/-- The run makes the directory of configurations. -/
def freshAfter : Files :=
  ⟨emptyConfig ["plugins", "config", "p.json"] :: (["plugins", "config"], .directory) ::
    fresh.entries, []⟩

/-- What is left of a run after the scan: it is reported, and something evaluates to true of the
world after the announcement. -/
def goesOn (q : World → Bool) (scanned : World × Answer) : Bool :=
  scanned.2.isOk && (scanned.1.perform? 200 (CommandLine.announcement .ready)).any fun announced =>
    q announced.1 && (announced.1.perform? 200 .finalize).any fun closed => closed.2.isOk

theorem exists_of_goesOn {q : World → Bool} {f : Files} {env : Environment} {o : Options}
    (hcommands : o.commands = [])
    (h : ((CommandLine.prepare f env o).perform? 200
      (.loadDirectory (CommandLine.hostConfig env o).pluginDir)).any (goesOn q) = true) :
    ∃ w₁ r w, CommandLine.Performs 200 f env o [] w₁ r w ∧ q w₁ = true ∧
      r.failed = (CommandLine.report w₁ [] []).failed := by
  obtain ⟨⟨w₂, scanned⟩, hscan, hgoesOn⟩ := (Option.any_eq_true ..).1 h
  obtain ⟨hscanned, hgoesOn⟩ := Bool.and_eq_true_iff.1 hgoesOn
  obtain ⟨⟨w₁, ready⟩, hready, hgoesOn⟩ := (Option.any_eq_true ..).1 hgoesOn
  obtain ⟨hq, hgoesOn⟩ := Bool.and_eq_true_iff.1 hgoesOn
  obtain ⟨⟨w, closed⟩, hclosed, hend⟩ := (Option.any_eq_true ..).1 hgoesOn
  cases scanned with
  | error e => cases hscanned
  | ok roots =>
    cases closed with
    | error e => cases hend
    | ok reply =>
      have hran : w₁.performAll? 200 (o.commands.map .execute) = some (w₁, []) := by
        rw [hcommands]
        rfl
      exact ⟨w₁, _, w, .intro hscan hready hran rfl hclosed, hq, rfl⟩

/-- A scan of folders that are known. -/
theorem perform?_loadDirectory {n : Nat} {w : World} {dir : Path} {roots : List Path}
    (hinit : w.registry.isInitialized = true) (hroots : World.pluginRoots w.files dir = roots) :
    w.perform? (n + 1) (.loadDirectory dir) = (Machine.run n (Machine.scan w [] roots [])).answer?.map
      fun a => ((Machine.run n (Machine.scan w [] roots [])).world, a) := by
  have hstep : (Machine.perform w (.loadDirectory dir)).step = Machine.scan w [] roots [] := by
    show Machine.start w (.loadDirectory dir) [] = _
    simp only [Machine.start, hinit, hroots]
    rfl
  unfold World.perform?
  dsimp only
  rw [Machine.run_succ (by rfl), hstep]

/-- The directory of configurations is one of the folders. -/
theorem pluginRoots_freshAfter :
    World.pluginRoots freshAfter ⟨"plugins"⟩ = [⟨"plugins/config"⟩, ⟨"plugins/p"⟩] := by
  have hlocate : freshAfter.locate ⟨"plugins"⟩ = .ok (.directory ["plugins"]) := rfl
  have hnames : freshAfter.namesBelow ["plugins"] = ["config", "p"] :=
    Files.namesBelow_of_sorted (by decide +kernel) (by decide +kernel)
  have hlist : freshAfter.list ⟨"plugins"⟩ = .ok ["config", "p"] := by
    rw [Files.list_of_locate hlocate, hnames]
  unfold World.pluginRoots
  rw [hlist]
  decide +kernel

end Scene

/-- **A run that makes the directory of configurations is not repeated**: to the next run it is a
folder in which no plugin is, and a failure is reported that was not reported before. -/
theorem fresh_not_repeated : ∃ (asJson asJson' : Bool) (lines lines' : List String)
    (r r' : Report) (h : Files),
    CommandLine.runWith? 200 Scene.fresh Scene.pluginsGiven []
      = some (.reported asJson lines r, Scene.freshAfter) ∧
    (∀ m ∈ CommandLine.trail 200 Scene.fresh Scene.pluginsGiven {} [], m.isQuiet = true) ∧
    r.failed.get? "config" = none ∧
    CommandLine.runWith? 200 Scene.freshAfter Scene.pluginsGiven []
      = some (.reported asJson' lines' r', h) ∧
    r'.failed.get? "config" = some "manifest.json not found in plugins/config" := by
  have hrun : (CommandLine.runWith? 200 Scene.fresh Scene.pluginsGiven []).any (fun result =>
      Scene.reports (fun r => r.failed.get? "config" == none) result
        && decide (result.2 = Scene.freshAfter)) = true := by
    decide +kernel
  have htrail : (CommandLine.trail 200 Scene.fresh Scene.pluginsGiven {} []).all Machine.isQuiet
      = true := by
    decide +kernel
  have hagain : ((Machine.run 199 (Machine.scan (CommandLine.prepare Scene.freshAfter
      Scene.pluginsGiven {}) [] [⟨"plugins/config"⟩, ⟨"plugins/p"⟩] [])).answer?.map fun a =>
        ((Machine.run 199 (Machine.scan (CommandLine.prepare Scene.freshAfter
          Scene.pluginsGiven {}) [] [⟨"plugins/config"⟩, ⟨"plugins/p"⟩] [])).world, a)).any
      (Scene.goesOn fun w => (CommandLine.report w [] []).failed.get? "config"
        == some "manifest.json not found in plugins/config") = true := by
    decide +kernel
  rw [← Scene.perform?_loadDirectory (by rfl) Scene.pluginRoots_freshAfter] at hagain
  obtain ⟨asJson, lines, r, hrun, hbefore⟩ := Scene.exists_of_reports hrun
  obtain ⟨w₁, r', w, hperforms, hfailed, hreport⟩ := Scene.exists_of_goesOn rfl hagain
  have hsecond := CommandLine.runSession?_eq_reported.2 ⟨rfl, rfl, w₁, hperforms⟩
  refine ⟨asJson, false, lines, CommandLine.printed w, r, r', w.files, hrun, List.all_eq_true.1 htrail,
    beq_iff_eq.1 hbefore, ?_, ?_⟩
  · have hevents : ({} : Options).events.mapM CommandLine.parseEvent = .ok [] := rfl
    rw [CommandLine.runWith?_of_read rfl hevents, hsecond]
    rfl
  · rw [hreport]
    exact beq_iff_eq.1 hfailed

end EditorPlugins
