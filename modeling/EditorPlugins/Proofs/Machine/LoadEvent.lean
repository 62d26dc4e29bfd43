/-
  Loads as events.

  A load is spread over many steps of the machine: it begins, its entry script runs (and may make
  the registry do anything meanwhile), and then it is completed or abandoned; or it is refused at
  once.  `Machine.loadEvent?` tells from a machine alone which of these its next step is, and in
  which world; `Loading` says what each of them does to the world and to what waits.

  Main statement: `step_cases`, all that a step can do to a situation.  The next step of a machine
  with a load event is that event, after at most one removal (`step_of_loadEvent?`); the next step
  of any other machine makes basic changes or a removal (`step_of_no_loadEvent`).
-/
import EditorPlugins.Proofs.Machine.Change

namespace EditorPlugins

/-- What happens to the load of a folder. -/
inductive LoadEvent where
  /-- Nothing stands against it: its entry script is to run in a new sandbox. -/
  | begun (p : PendingLoad) (s : Sandbox)
  /-- It fails before its entry script, and the failure is recorded under a key. -/
  | refused (key : String) (root : Path) (e : Failure)
  /-- Its entry script has ended. -/
  | completed (p : PendingLoad)
  /-- Its entry script has raised. -/
  | abandoned (p : PendingLoad) (e : Failure)

/-- A folder has the manifest that was read and the root where it was read. -/
theorem PluginFolder.withManifest_eq_ok {f : Files} {root : Path} {m : Manifest}
    {folder : PluginFolder} (h : PluginFolder.withManifest f root m = .ok folder) :
    folder.manifest = m ∧ folder.root = root := by
  unfold withManifest at h
  dsimp only at h
  split at h
  · cases h; exact ⟨rfl, rfl⟩
  · cases h

namespace World

/-- What happens to a load of a folder at its start; nothing when there are no collaborators. -/
def loadEvent? (w : World) (root : Path) : Option LoadEvent :=
  match w.registry.host with
  | none => none
  | some host =>
    match PluginFolder.readManifest w.files root with
    | .error e => some (.refused (PluginFolder.key root) root e)
    | .ok m =>
      match (PluginFolder.withManifest w.files root m).bind (w.plan host) with
      | .error e => some (.refused m.name root e)
      | .ok (s, _) => some (.begun ⟨m, root, w.sandboxes.size⟩ s)

/-- What a load of a folder begins with: no collaborators, no manifest that can be read, no plan for
what was read, or a plan, with a new sandbox for the entry script. -/
inductive LoadStart (w : World) (root : Path) : Prop where
  | detached (hhost : w.registry.host = none) (hevent : w.loadEvent? root = none)
      (hprepare : w.prepareLoad root = (w, .error .notInitialized))
  | unread {host : HostId} {e : Failure} (hhost : w.registry.host = some host)
      (hread : PluginFolder.readManifest w.files root = .error e)
      (hevent : w.loadEvent? root = some (.refused (PluginFolder.key root) root e))
      (hprepare : w.prepareLoad root = (w.recordFailure (PluginFolder.key root) root e, .error e))
  | unplanned {host : HostId} {m : Manifest} {e : Failure} (hhost : w.registry.host = some host)
      (hread : PluginFolder.readManifest w.files root = .ok m)
      (hplan : (PluginFolder.withManifest w.files root m).bind (w.plan host) = .error e)
      (hevent : w.loadEvent? root = some (.refused m.name root e))
      (hprepare : w.prepareLoad root = (w.recordFailure m.name root e, .error e))
  | planned {host : HostId} {m : Manifest} {folder : PluginFolder} {s : Sandbox}
      {block : Script.Block} (hhost : w.registry.host = some host)
      (hread : PluginFolder.readManifest w.files root = .ok m)
      (hfolder : PluginFolder.withManifest w.files root m = .ok folder)
      (hplan : w.plan host folder = .ok (s, block))
      (hevent : w.loadEvent? root = some (.begun ⟨m, root, w.sandboxes.size⟩ s))
      (hprepare : w.prepareLoad root
        = ((w.addSandbox s).1, .ok (⟨m, root, w.sandboxes.size⟩, block)))

/-- Where there is a plan the load begins. -/
theorem prepareLoad_of_plan {w : World} {root : Path} {host : HostId} {m : Manifest}
    {folder : PluginFolder} {s : Sandbox} {block : Script.Block}
    (hhost : w.registry.host = some host) (hread : PluginFolder.readManifest w.files root = .ok m)
    (hfolder : PluginFolder.withManifest w.files root m = .ok folder)
    (hplan : w.plan host folder = .ok (s, block)) :
    w.prepareLoad root = ((w.addSandbox s).1, .ok (⟨m, root, w.sandboxes.size⟩, block)) := by
  have hbind : (PluginFolder.withManifest w.files root m).bind (w.plan host) = .ok (s, block) :=
    Except.bind_eq_ok.2 ⟨folder, hfolder, hplan⟩
  simp only [prepareLoad, hhost, hread, hbind]
  rfl

/-- **Every load begins in one of these ways.** -/
theorem load_starts (w : World) (root : Path) : LoadStart w root := by
  cases hhost : w.registry.host with
  | none =>
    exact .detached hhost (by simp only [loadEvent?, hhost]) (by simp only [prepareLoad, hhost])
  | some host =>
    cases hread : PluginFolder.readManifest w.files root with
    | error e =>
      exact .unread hhost hread (by simp only [loadEvent?, hhost, hread])
        (by simp only [prepareLoad, hhost, hread])
    | ok m =>
      cases hbind : (PluginFolder.withManifest w.files root m).bind (w.plan host) with
      | error e =>
        exact .unplanned hhost hread hbind (by simp only [loadEvent?, hhost, hread, hbind])
          (by simp only [prepareLoad, hhost, hread, hbind])
      | ok planned =>
        obtain ⟨folder, hfolder, hplan⟩ := Except.bind_eq_ok.1 hbind
        exact .planned hhost hread hfolder hplan
          (by simp only [loadEvent?, hhost, hread, hbind])
          (prepareLoad_of_plan hhost hread hfolder hplan)

theorem prepareLoad_of_no_event {w : World} {root : Path} (h : w.loadEvent? root = none) :
    w.prepareLoad root = (w, .error .notInitialized) := by
  cases w.load_starts root with
  | detached _ _ hprepare => exact hprepare
  | unread _ _ hevent | unplanned _ _ _ hevent | planned _ _ _ _ hevent =>
    rw [hevent] at h
    cases h

theorem prepareLoad_of_refused {w : World} {root : Path} {key : String} {e : Failure}
    (h : w.loadEvent? root = some (.refused key root e)) :
    w.registry.isInitialized = true ∧
    w.prepareLoad root = (w.recordFailure key root e, .error e) := by
  cases w.load_starts root with
  | unread hhost _ hevent hprepare | unplanned hhost _ _ hevent hprepare =>
    rw [hevent] at h
    cases h
    exact ⟨by rw [Registry.isInitialized, hhost]; rfl, hprepare⟩
  | detached _ hevent | planned _ _ _ _ hevent =>
    rw [hevent] at h
    cases h

/-- At its start a load is begun or refused. -/
theorem begun_or_refused {w : World} {root : Path} {e : LoadEvent}
    (h : w.loadEvent? root = some e) :
    (∃ p s, e = .begun p s) ∨ ∃ key reason, e = .refused key root reason := by
  cases w.load_starts root with
  | detached _ hevent =>
    rw [hevent] at h
    cases h
  | unread _ _ hevent | unplanned _ _ _ hevent =>
    rw [hevent] at h
    cases h
    exact .inr ⟨_, _, rfl⟩
  | planned _ _ _ _ hevent =>
    rw [hevent] at h
    cases h
    exact .inl ⟨_, _, rfl⟩

/-- A plan is only made for a plugin whose name is free, and its sandbox is that plugin's. -/
theorem plan_eq_ok {w : World} {host : HostId} {p : PluginFolder} {s : Sandbox}
    {block : Script.Block} (h : w.plan host p = .ok (s, block)) :
    w.registry.plugins.contains p.manifest.name = false ∧
    s = Sandbox.equipped (identityOf p.manifest p.root) host w.registry.config.sandbox
      (w.registry.configs.load w.files p.manifest.name) := by
  unfold plan at h
  cases hcheck : w.checkAdmission p.manifest with
  | error e => rw [hcheck] at h; cases h
  | ok u =>
    have hfree : w.registry.plugins.contains p.manifest.name = false := by
      unfold checkAdmission at hcheck
      split at hcheck
      · cases hcheck
      · rename_i hnot; simpa using hnot
    rw [hcheck] at h
    change (if !Sandbox.fits w.registry.config.sandbox then _ else _) = _ at h
    split at h
    · cases h
    · split at h
      · cases h
      · cases h
        exact ⟨hfree, rfl⟩

theorem identity_addTable (name : String) (t : Script.Table) (s : Sandbox) :
    (s.addTable name t).identity = s.identity := rfl

theorem identity_equipped (i : Identity) (host : HostId) (c : SandboxConfig) (d : Dict String) :
    (Sandbox.equipped i host c d).identity = i := by
  show (Capability.tables.foldl (fun s n => s.addTable n (Sandbox.capabilityTable n))
    (Sandbox.bare i host c d)).identity = (Sandbox.bare i host c d).identity
  generalize Sandbox.bare i host c d = s
  induction Capability.tables generalizing s with
  | nil => rfl
  | cons n rest ih => exact (ih _).trans (identity_addTable n _ s)

/-- What a load that begins has found: collaborators, a manifest, and a plan for its folder. -/
theorem plan_of_begun {w : World} {root : Path} {p : PendingLoad} {s : Sandbox}
    (h : w.loadEvent? root = some (.begun p s)) :
    ∃ host folder block, w.registry.host = some host ∧
      PluginFolder.readManifest w.files root = .ok p.manifest ∧
      PluginFolder.withManifest w.files root p.manifest = .ok folder ∧
      w.plan host folder = .ok (s, block) ∧ p = ⟨p.manifest, root, w.sandboxes.size⟩ := by
  cases w.load_starts root with
  | planned hhost hread hfolder hplan hevent =>
    rw [hevent] at h
    cases h
    exact ⟨_, _, _, hhost, hread, hfolder, hplan, rfl⟩
  | detached _ hevent | unread _ _ hevent | unplanned _ _ _ hevent =>
    rw [hevent] at h
    cases h

/-- A load that begins does so for a free name, in a new sandbox that is its plugin's. -/
theorem prepareLoad_of_begun {w : World} {root : Path} {p : PendingLoad} {s : Sandbox}
    (h : w.loadEvent? root = some (.begun p s)) :
    w.registry.isInitialized = true ∧
    w.registry.plugins.contains p.manifest.name = false ∧
    p.root = root ∧ p.sandbox = w.sandboxes.size ∧
    s.identity = identityOf p.manifest p.root ∧
    ∃ block, w.prepareLoad root = ((w.addSandbox s).1, .ok (p, block)) := by
  obtain ⟨host, folder, block, hhost, hread, hfolder, hplan, hp⟩ := plan_of_begun h
  obtain ⟨hmanifest, hroot⟩ := PluginFolder.withManifest_eq_ok hfolder
  obtain ⟨hfree, hs⟩ := plan_eq_ok hplan
  rw [hmanifest] at hfree hs
  rw [hroot] at hs
  have hpRoot : p.root = root := congrArg PendingLoad.root hp
  refine ⟨by rw [Registry.isInitialized, hhost]; rfl, hfree, hpRoot,
    congrArg PendingLoad.sandbox hp, ?_, block, ?_⟩
  · rw [hs, identity_equipped, hpRoot]
  · rw [prepareLoad_of_plan hhost hread hfolder hplan, ← hp]

end World

/-! ## The load event of a machine -/

namespace Machine

/-- The load that the next step starts: its folder, and the world it starts in.  A reload starts
one after the plugin has been unloaded. -/
def loadStart? (m : Machine) : Option (World × Path) :=
  match m.focus with
  | .starting (.load root) => some (m.world, root)
  | .starting (.reload plugin) =>
    match m.world.registry.plugins.get? plugin with
    | none => none
    | some record =>
      match m.world.unload plugin with
      | (_, .error _) => none
      | (w, .ok ()) => some (w, (m.world.sandbox record.sandbox).identity.root)
  | _ => none

/-- What the next step does about a load, and the world in which it does so. -/
def loadEvent? (m : Machine) : Option (World × LoadEvent) :=
  match m.focus, m.frames with
  | .ended (.ok _), .entry p :: _ => some (m.world, .completed p)
  | .ended (.error r), .entry p :: _ =>
    some (m.world, .abandoned p (.scriptRaised r.message))
  | _, _ => m.loadStart?.bind fun s => (s.1.loadEvent? s.2).map fun e => (s.1, e)

end Machine

/-- A load event, as a change of a situation. -/
inductive Loading : Situation → LoadEvent → Situation → Prop where
  | begun {w : World} {F : List Frame} {p : PendingLoad} {s : Sandbox}
      (hinit : w.registry.isInitialized = true)
      (hfree : w.registry.plugins.contains p.manifest.name = false)
      (hsandbox : p.sandbox = w.sandboxes.size)
      (hidentity : s.identity = World.identityOf p.manifest p.root) :
      Loading ⟨w, F⟩ (.begun p s) ⟨(w.addSandbox s).1, .entry p :: F⟩
  | refused {w : World} {F : List Frame} {key : String} {root : Path} {e : Failure}
      (hinit : w.registry.isInitialized = true) :
      Loading ⟨w, F⟩ (.refused key root e) ⟨w.recordFailure key root e, F⟩
  | completed {w : World} {F : List Frame} {p : PendingLoad} :
      Loading ⟨w, .entry p :: F⟩ (.completed p)
        ⟨w.modifyRegistry fun r =>
          (r.add p.manifest.name ⟨p.sandbox, true, none, p.manifest⟩).forgetFailures p.root, F⟩
  | abandoned {w : World} {F : List Frame} {p : PendingLoad} {e : Failure} :
      Loading ⟨w, .entry p :: F⟩ (.abandoned p e)
        ⟨w.recordFailure p.manifest.name p.root e, F⟩

namespace Machine

/-- Starting a load is its event. -/
theorem load_loading {w : World} {root : Path} {e : LoadEvent} (h : w.loadEvent? root = some e)
    (F : List Frame) : Loading ⟨w, F⟩ e (load w root F).situation := by
  rcases World.begun_or_refused h with ⟨p, s, rfl⟩ | ⟨key, reason, rfl⟩
  · obtain ⟨hinit, hfree, -, hsandbox, hidentity, block, hprepare⟩ := World.prepareLoad_of_begun h
    have hload : (load w root F).situation = ⟨(w.addSandbox s).1, .entry p :: F⟩ := by
      unfold load
      rw [hprepare]
      rfl
    rw [hload]
    exact .begun hinit hfree hsandbox hidentity
  · obtain ⟨hinit, hprepare⟩ := World.prepareLoad_of_refused h
    have hload : (load w root F).situation = ⟨w.recordFailure key root reason, F⟩ := by
      unfold load
      rw [hprepare]
      rfl
    rw [hload]
    exact .refused hinit

theorem load_of_no_event {w : World} {root : Path} (h : w.loadEvent? root = none)
    (F : List Frame) : (load w root F).situation = ⟨w, F⟩ := by
  unfold load
  rw [World.prepareLoad_of_no_event h]
  rfl

/-- A load starts at once, or after a removal when it belongs to a reload; it is the whole rest of
the step. -/
theorem step_of_loadStart? {m : Machine} {w : World} {root : Path}
    (h : m.loadStart? = some (w, root)) :
    (w = m.world ∨ Removal m.situation ⟨w, m.frames⟩) ∧ m.step = load w root m.frames := by
  obtain ⟨world, focus, frames⟩ := m
  unfold loadStart? at h
  split at h
  · rename_i root' hfocus
    cases hfocus
    cases h
    exact ⟨.inl rfl, rfl⟩
  · rename_i plugin hfocus
    cases hfocus
    split at h
    · cases h
    · rename_i record hrecord
      split at h
      · cases h
      · rename_i w' hunload
        cases h
        refine ⟨?_, ?_⟩
        · have hcases := unload_cases world plugin frames
          rw [hunload] at hcases
          exact hcases
        · show start world (.reload plugin) frames = _
          simp only [start, hrecord, hunload]
  · cases h

/-- Where a load event comes from: the entry script on top has ended, or it has raised, or a load
starts. -/
inductive LoadNews : Machine → World → LoadEvent → Prop where
  | ended {w : World} {vs : List Script.Value} {p : PendingLoad} {F : List Frame} :
      LoadNews ⟨w, .ended (.ok vs), .entry p :: F⟩ w (.completed p)
  | raised {w : World} {r : Script.Raised} {p : PendingLoad} {F : List Frame} :
      LoadNews ⟨w, .ended (.error r), .entry p :: F⟩ w (.abandoned p (.scriptRaised r.message))
  | started {m : Machine} {w : World} {root : Path} {e : LoadEvent}
      (hstart : m.loadStart? = some (w, root)) (hevent : w.loadEvent? root = some e) :
      LoadNews m w e

theorem loadNews_of_loadEvent? {m : Machine} {w : World} {e : LoadEvent}
    (h : m.loadEvent? = some (w, e)) : LoadNews m w e := by
  obtain ⟨world, focus, frames⟩ := m
  unfold loadEvent? at h
  split at h
  · rename_i vs p F hfocus hframes
    cases hfocus; cases hframes; cases h
    exact .ended
  · rename_i r p F hfocus hframes
    cases hfocus; cases hframes; cases h
    exact .raised
  · obtain ⟨⟨w', root⟩, hstart, hevent⟩ := Option.bind_eq_some_iff.1 h
    obtain ⟨e', he, heq⟩ := Option.map_eq_some_iff.1 hevent
    cases heq
    exact .started hstart he

/-- **The next step of a machine with a load event is that event**, after a removal when it is
the event of a reload. -/
theorem step_of_loadEvent? {m : Machine} {w : World} {e : LoadEvent}
    (h : m.loadEvent? = some (w, e)) :
    (w = m.world ∨ Removal m.situation ⟨w, m.frames⟩) ∧
    Loading ⟨w, m.frames⟩ e m.step.situation := by
  cases loadNews_of_loadEvent? h with
  | ended => exact ⟨.inl rfl, .completed⟩
  | raised => exact ⟨.inl rfl, .abandoned⟩
  | started hstart hevent =>
    obtain ⟨hworld, hstep⟩ := step_of_loadStart? hstart
    rw [hstep]
    exact ⟨hworld, load_loading hevent _⟩

/-- A load event is the end of the innermost load under way, in the world as it is, or it is
what happens to a load at its start. -/
theorem ended_or_started {m : Machine} {w : World} {e : LoadEvent}
    (h : m.loadEvent? = some (w, e)) :
    (w = m.world ∧ ∃ p F, m.frames = .entry p :: F ∧
      (e = .completed p ∨ ∃ reason, e = .abandoned p reason)) ∨
    ∃ root, m.loadStart? = some (w, root) ∧ w.loadEvent? root = some e := by
  cases loadNews_of_loadEvent? h with
  | @ended w vs p F => exact .inl ⟨rfl, p, F, rfl, .inl rfl⟩
  | @raised w r p F => exact .inl ⟨rfl, p, F, rfl, .inr ⟨_, rfl⟩⟩
  | @started m w root e hstart hevent => exact .inr ⟨root, hstart, hevent⟩

/-- Operations other than loads make basic changes, or unload a plugin; so does a reload that goes
no further. -/
theorem start_changes (w : World) (op : Operation) (F : List Frame)
    (h : loadStart? ⟨w, .starting op, F⟩ = none) :
    Changes ⟨w, F⟩ (start w op F).situation ∨ Removal ⟨w, F⟩ (start w op F).situation := by
  cases op with
  | load root => cases h
  | reload plugin =>
    simp only [loadStart?] at h
    simp only [start]
    split
    · exact .inl .refl
    · rename_i record hrecord
      rw [hrecord] at h
      split
      · rename_i w' e hunload
        have hcases := unload_cases w plugin F
        rw [hunload] at hcases
        rcases hcases with rfl | hremoval
        · exact .inl .refl
        · exact .inr hremoval
      · rename_i w' hunload
        simp only [hunload] at h
        cases h
  | unload plugin =>
    show Changes ⟨w, F⟩ ⟨(w.unload plugin).1, F⟩ ∨ Removal ⟨w, F⟩ ⟨(w.unload plugin).1, F⟩
    rcases unload_cases w plugin F with heq | hremoval
    · rw [heq]; exact .inl .refl
    · exact .inr hremoval
  | attach => exact .inl (attach_changes w F)
  | finalize => exact .inl (finalize_changes w F)
  | loadDirectory dir =>
    simp only [start]
    split
    · exact .inl .refl
    · exact .inl (scan_changes w F _ _)
  | execute id => exact .inl (execute_changes w id F)
  | call plugin function args => exact .inl (call_changes w plugin function args F)
  | notify name filename =>
    simp only [start]
    split
    · exact .inl .refl
    · exact .inl (announce_changes w _ F _ _)
  | enable plugin on => exact .inl (.single (.enable plugin on))
  | putSetting key value => exact .inl (.single (.act 0 (World.settings_actsWithin w 0 _)))
  | changeFiles changes => exact .inl (.single (.act 0 (World.files_actsWithin w 0 _)))
  | isInitialized | version | commands | info | config | storedConfig | settings
  | sharedPlugins | describe | readFile => exact .inl .refl

/-- **The next step of a machine without a load event** makes basic changes or a removal. -/
theorem step_of_no_loadEvent {m : Machine} (h : m.loadEvent? = none) :
    Changes m.situation m.step.situation ∨ Removal m.situation m.step.situation := by
  obtain ⟨world, focus, frames⟩ := m
  cases focus with
  | running id p =>
    cases p with
    | done vs => exact .inl .refl
    | raise r => exact .inl .refl
    | ask q next => exact .inl (ask_changes world id q next frames)
  | ended r =>
    refine .inl (deliverResults_changes world r frames (fun p G hF => ?_))
    subst hF
    cases r <;> cases h
  | answered a =>
    by_cases hshutdown : ∃ G, frames = .finalization :: G
    · obtain ⟨G, rfl⟩ := hshutdown
      exact .inr .clear
    · exact .inl (deliverAnswer_changes world a frames (fun G hG => hshutdown ⟨G, hG⟩))
  | starting op =>
    show Changes ⟨world, frames⟩ (start world op frames).situation ∨
      Removal ⟨world, frames⟩ (start world op frames).situation
    cases hstart : loadStart? ⟨world, .starting op, frames⟩ with
    | none => exact start_changes world op frames hstart
    | some s =>
      obtain ⟨w, root⟩ := s
      obtain ⟨hworld, hstep⟩ := step_of_loadStart? hstart
      have hnone : w.loadEvent? root = none := by
        simpa [loadEvent?, hstart] using h
      have hsituation : (start world op frames).situation = ⟨w, frames⟩ := by
        show (step ⟨world, .starting op, frames⟩).situation = _
        rw [hstep, load_of_no_event hnone]
      rw [hsituation]
      rcases hworld with rfl | hremoval
      · exact .inl .refl
      · exact .inr hremoval

/-- **All that a step can do to a situation**: basic changes, or a removal, or a load event, before
which the plugin has been removed when it is reloaded. -/
theorem step_cases (m : Machine) :
    (m.loadEvent? = none ∧ Changes m.situation m.step.situation) ∨
    (m.loadEvent? = none ∧ Removal m.situation m.step.situation) ∨
    ∃ w e, m.loadEvent? = some (w, e) ∧ (w = m.world ∨ Removal m.situation ⟨w, m.frames⟩) ∧
      Loading ⟨w, m.frames⟩ e m.step.situation := by
  cases hevent : m.loadEvent? with
  | none =>
    rcases step_of_no_loadEvent hevent with hchanges | hremoval
    · exact .inl ⟨rfl, hchanges⟩
    · exact .inr (.inl ⟨rfl, hremoval⟩)
  | some event =>
    obtain ⟨hbefore, hloading⟩ := step_of_loadEvent? hevent
    exact .inr (.inr ⟨event.1, event.2, rfl, hbefore, hloading⟩)

end Machine

end EditorPlugins
