/-
  What a step does to configurations.

  A step changes the configuration of a sandbox only when code of this sandbox saves a table; then
  it is the dictionary of this table (`config_step`).  The case split is on what happens now: code
  that asks has its request answered, or begins something that it waits for; everything else works
  on the registry, the files and the heaps.  New sandboxes come from loads only, and a new sandbox
  has the configuration that was read from its plugin's file (`Begins`).

  A script that saves what it was given, `plugin.saveConfig(plugin.getConfig())`, changes nothing:
  `steps_resave`.
-/
import EditorPlugins.Proofs.Boundary.Dictionaries
import EditorPlugins.Proofs.World.Saving
import EditorPlugins.Proofs.Machine.LoadEvent

namespace EditorPlugins

open Script (Value Raised Program Request)

/-! ## The start of a sandbox -/

theorem World.config_equipped (i : Identity) (host : HostId) (c : SandboxConfig) (d : Dict String) :
    (Sandbox.equipped i host c d).config = d := by
  show (Capability.tables.foldl (fun s n => s.addTable n (Sandbox.capabilityTable n))
    (Sandbox.bare i host c d)).config = (Sandbox.bare i host c d).config
  generalize Sandbox.bare i host c d = s
  induction Capability.tables generalizing s with
  | nil => rfl
  | cons n rest ih => exact ih _

/-- The sandbox of a load that begins has the configuration that is read for its plugin. -/
theorem World.config_of_begun {w : World} {root : Path} {p : PendingLoad} {s : Sandbox}
    (h : w.loadEvent? root = some (.begun p s)) :
    s.config = w.registry.configs.load w.files p.manifest.name := by
  obtain ⟨host, folder, block, -, -, hfolder, hplan, -⟩ := plan_of_begun h
  rw [(plan_eq_ok hplan).2, config_equipped, (PluginFolder.withManifest_eq_ok hfolder).1]

namespace Machine

/-- The table that code of a sandbox saves in the next step. -/
def savedTable? (m : Machine) (id : SandboxId) : Option HostTable :=
  match m.focus with
  | .running j (.ask q _) => if j = id then (m.world.sandbox id).savedBy? q else none
  | _ => none

/-! ## The other parts of a step -/

theorem dispatch_sandboxes (w : World) (plugin : String) (t : World.Target) (args : List Value)
    (purpose : Purpose) (F : List Frame) :
    (dispatch w plugin t args purpose F).world.sandboxes = w.sandboxes := by
  unfold dispatch
  split <;> rfl

theorem announce_sandboxes (w : World) (e : Event) (F : List Frame) (plugins : List String)
    (soFar : Summary) : (announce w e F plugins soFar).world.sandboxes = w.sandboxes := by
  obtain ⟨m, hannounce, hannounced⟩ := exists_announced w e F plugins soFar
  rw [hannounce]
  cases hannounced <;> rfl

theorem endDispatch_sandboxes (w : World) (plugin : String) (purpose : Purpose)
    (r : Except Raised (List Value)) (F : List Frame) :
    (endDispatch w plugin purpose r F).world.sandboxes = w.sandboxes := by
  cases purpose <;> cases r <;> first | rfl | exact announce_sandboxes ..

theorem scan_world (w : World) (F : List Frame) (roots : List Path) (loaded : List String) :
    (scan w F roots loaded).world = w := by
  cases roots <;> rfl

/-- Results go to the innermost frame; a module's are kept in the heap. -/
theorem deliverResults_keepsConfigs (w : World) (r : Except Raised (List Value)) (F : List Frame) :
    w.KeepsConfigs (deliverResults w r F).world := by
  cases F with
  | nil => exact .of_eq rfl
  | cons f F =>
    cases f with
    | module id name =>
      cases r with
      | ok vs => exact World.modifySandbox_keepsConfigs w id (fun _ => rfl)
      | error e => exact .of_eq rfl
    | entry p => cases r <;> exact .of_eq rfl
    | dispatch plugin purpose => exact .of_eq (endDispatch_sandboxes ..)
    | _ => exact .of_eq rfl

theorem deliverAnswer_sandboxes (w : World) (a : Answer) (F : List Frame) :
    (deliverAnswer w a F).world.sandboxes = w.sandboxes := by
  cases F with
  | nil => rfl
  | cons f F =>
    cases f with
    | scan rest loaded =>
      simp only [deliverAnswer]
      split <;> rw [scan_world]
    | finalization => exact w.completeFinalize_sandboxes
    | _ => rfl

/-- Removing plugins leaves their sandboxes behind. -/
theorem sandboxes_of_removal {m : Machine} {w : World}
    (h : w = m.world ∨ Removal m.situation ⟨w, m.frames⟩) : w.sandboxes = m.world.sandboxes := by
  rcases h with rfl | hremoval
  · rfl
  · generalize hs : m.situation = s at hremoval
    generalize hs' : (⟨w, m.frames⟩ : Situation) = s' at hremoval
    rw [show w = s'.world from congrArg Situation.world hs',
      show m.world = s.world from congrArg Situation.world hs]
    cases hremoval with
    | unload hok => exact World.unload_sandboxes ..
    | clear => exact World.completeFinalize_sandboxes _

/-- Operations work on the registry and the files; those that load a folder are load events. -/
theorem start_sandboxes (w : World) (op : Operation) (F : List Frame)
    (h : loadEvent? ⟨w, .starting op, F⟩ = none) :
    (start w op F).world.sandboxes = w.sandboxes := by
  cases hstart : loadStart? ⟨w, .starting op, F⟩ with
  | some s =>
    -- a load that nothing comes of, after the plugin has been unloaded when it is a reload
    obtain ⟨w', root⟩ := s
    obtain ⟨hbefore, hstep⟩ := step_of_loadStart? hstart
    have hnone : w'.loadEvent? root = none := by
      simpa [loadEvent?, hstart] using h
    have hworld : (start w op F).world = w' := by
      show (step ⟨w, .starting op, F⟩).world = w'
      rw [hstep]
      exact congrArg Situation.world (load_of_no_event hnone F)
    rw [hworld]
    exact sandboxes_of_removal hbefore
  | none =>
    cases op with
    | load root => cases hstart
    | reload plugin =>
      simp only [loadStart?] at hstart
      simp only [start]
      split
      · rfl
      · rename_i record hrecord
        rw [hrecord] at hstart
        have hunloaded := w.unload_sandboxes plugin
        split
        · rename_i w' e hunload
          rw [hunload] at hunloaded
          exact hunloaded
        · rename_i w' hunload
          simp only [hunload] at hstart
          cases hstart
    | attach =>
      simp only [start, World.attach]
      split <;> rfl
    | finalize =>
      simp only [start]
      split
      · rfl
      · split
        · rfl
        · exact announce_sandboxes ..
    | loadDirectory dir =>
      simp only [start]
      split
      · rfl
      · rw [scan_world]
    | unload plugin => exact w.unload_sandboxes plugin
    | execute id =>
      simp only [start]
      split
      · rfl
      · exact dispatch_sandboxes ..
    | call plugin function args =>
      simp only [start]
      split
      · rfl
      · exact dispatch_sandboxes ..
    | notify name filename =>
      simp only [start]
      split
      · rfl
      · exact announce_sandboxes ..
    | enable plugin on =>
      show (w.enable plugin on).1.sandboxes = _
      rw [World.enable_eq]
      rfl
    | _ => rfl

/-! ## A step -/

/-- Only code that runs saves. -/
theorem savedTable?_of_loadEvent? {m : Machine} {e : World × LoadEvent} (h : m.loadEvent? = some e)
    (id : SandboxId) : m.savedTable? id = none := by
  obtain ⟨w, focus, F⟩ := m
  cases focus with
  | running j p => cases h
  | ended | starting | answered => rfl

/-- A load begins in the world `w`: the sandbox of its plugin comes to the others, under the next
number, with the configuration that is read for the plugin. -/
structure Begins (m : Machine) (w : World) (p : PendingLoad) (s : Sandbox) : Prop where
  sandboxes : m.step.world.sandboxes = m.world.sandboxes.push s
  number : p.sandbox = m.world.sandboxes.size
  name : s.identity.name = p.manifest.name
  config : s.config = w.registry.configs.load w.files p.manifest.name

theorem begins_of_loadEvent? {m : Machine} {w : World} {p : PendingLoad} {s : Sandbox}
    (h : m.loadEvent? = some (w, .begun p s)) : m.Begins w p s := by
  obtain ⟨hbefore, hloading⟩ := step_of_loadEvent? h
  have hsandboxes := sandboxes_of_removal hbefore
  have hconfig : s.config = w.registry.configs.load w.files p.manifest.name := by
    rcases ended_or_started h with ⟨-, _, _, -, hnever | ⟨_, hnever⟩⟩ | ⟨root, -, hevent⟩
    · cases hnever
    · cases hnever
    · exact World.config_of_begun hevent
  have hpushed : m.step.situation.world.sandboxes = m.world.sandboxes.push s ∧
      p.sandbox = m.world.sandboxes.size ∧ s.identity.name = p.manifest.name := by
    generalize m.step.situation = s' at hloading
    generalize m.frames = F at hloading
    cases hloading with
    | begun _ _ hsandbox hidentity =>
      refine ⟨?_, ?_, ?_⟩
      · show w.sandboxes.push s = _
        rw [hsandboxes]
      · rw [hsandbox, hsandboxes]
      · rw [hidentity]
        rfl
  exact ⟨hpushed.1, hpushed.2.1, hpushed.2.2, hconfig⟩

theorem Begins.new {m : Machine} {w : World} {p : PendingLoad} {s : Sandbox}
    (h : m.Begins w p s) : m.step.world.sandbox p.sandbox = s := by
  unfold World.sandbox
  rw [h.sandboxes, h.number, Array.getElem?_push, if_pos rfl]
  rfl

theorem Begins.others {m : Machine} {w : World} {p : PendingLoad} {s : Sandbox}
    (h : m.Begins w p s) {id : SandboxId} (hid : id < m.world.sandboxes.size) :
    m.step.world.sandbox id = m.world.sandbox id := by
  unfold World.sandbox
  rw [h.sandboxes, Array.getElem?_push, if_neg (Nat.ne_of_lt hid)]

/-- The other load events leave all sandboxes. -/
theorem sandboxes_of_loadEvent? {m : Machine} {w : World} {e : LoadEvent}
    (h : m.loadEvent? = some (w, e)) (hbegun : ∀ p s, e ≠ .begun p s) :
    m.step.world.sandboxes = m.world.sandboxes := by
  obtain ⟨hbefore, hloading⟩ := step_of_loadEvent? h
  have hsandboxes := sandboxes_of_removal hbefore
  have hworld : m.step.world = m.step.situation.world := rfl
  rw [hworld]
  generalize m.step.situation = s' at hloading
  generalize m.frames = F at hloading
  cases hloading with
  | begun => exact absurd rfl (hbegun _ _)
  | refused | completed | abandoned => exact hsandboxes

/-- A step that is no load event and saves no table leaves all configurations. -/
theorem keepsConfigs_of_no_loadEvent {m : Machine} (h : m.loadEvent? = none)
    (hsaved : ∀ id, m.savedTable? id = none) : m.world.KeepsConfigs m.step.world := by
  obtain ⟨w, focus, F⟩ := m
  cases focus with
  | running id p =>
    cases p with
    | done vs => exact .of_eq rfl
    | raise r => exact .of_eq rfl
    | ask q next =>
      have hnone : (w.sandbox id).savedBy? q = none := by
        have hid := hsaved id
        simpa [savedTable?] using hid
      show w.KeepsConfigs (ask w id q next F).world
      cases hserve : w.serve id q with
      | none => rw [ask_world w id next F hserve]; exact .of_eq rfl
      | some served =>
        rw [ask_of_serve w id next F hserve]
        exact World.serve_keepsConfigs hserve hnone
  | ended r => exact deliverResults_keepsConfigs w r F
  | starting op => exact .of_eq (start_sandboxes w op F h)
  | answered a => exact .of_eq (deliverAnswer_sandboxes w a F)

/-- Code that saves a table goes on with true, and no other code runs in the step. -/
theorem step_of_savedTable? {m : Machine} {id : SandboxId} {t : HostTable}
    (h : m.savedTable? id = some t) :
    m.world.ActsWithin id m.step.world ∧ (∀ j, j ≠ id → m.savedTable? j = none) ∧
      (id < m.world.sandboxes.size → (m.step.world.sandbox id).config = t.toDict) := by
  obtain ⟨w, focus, F⟩ := m
  unfold savedTable? at h
  split at h
  · rename_i j q next hfocus
    cases hfocus
    split at h
    · rename_i hj
      subst hj
      obtain ⟨w', hserve, hconfig⟩ := World.serve_of_savedTable? h
      have hworld : (step ⟨w, .running j (.ask q next), F⟩).world = w' :=
        congrArg Machine.world (ask_of_serve w j next F hserve)
      rw [hworld]
      exact ⟨World.serve_actsWithin hserve, fun i hi => if_neg (Ne.symm hi), hconfig⟩
    · cases h
  · cases h

/-- A call of `plugin.saveConfig` succeeds exactly if it saves a table. -/
theorem step_of_saveConfig {m : Machine} {id : SandboxId} {args : List Value}
    {next : Except Raised (List Value) → Program (List Value)}
    (h : m.focus
      = .running id (.ask (.call (.function (.capability .pluginSaveConfig)) args) next)) :
    ∃ r, m.step.focus = .running id (next r) ∧
      ((m.savedTable? id).isSome = true ↔ ∃ vs, r = .ok vs) := by
  obtain ⟨w, focus, F⟩ := m
  cases h
  have hsaved : savedTable? ⟨w, .running id
      (.ask (.call (.function (.capability .pluginSaveConfig)) args) next), F⟩ id
        = (w.sandbox id).savedTable? args := if_pos rfl
  rw [hsaved]
  cases htable : (w.sandbox id).savedTable? args with
  | none =>
    obtain ⟨w', e, hserve⟩ := World.serve_of_not_saved htable
    exact ⟨.error e, congrArg Machine.focus (ask_of_serve w id next F hserve),
      iff_of_false Bool.false_ne_true (fun ⟨_, h⟩ => nomatch h)⟩
  | some t =>
    obtain ⟨w', hserve, -⟩ := World.serve_of_savedTable?
      (q := .call (.function (.capability .pluginSaveConfig)) args) htable
    exact ⟨.ok [.bool true], congrArg Machine.focus (ask_of_serve w id next F hserve),
      iff_of_true rfl ⟨_, rfl⟩⟩

/-- **A step changes the configuration of a sandbox only to what its own code saves.** -/
theorem config_step {m : Machine} {id : SandboxId} (hid : id < m.world.sandboxes.size) :
    (m.step.world.sandbox id).config
      = ((m.savedTable? id).map HostTable.toDict).getD (m.world.sandbox id).config := by
  by_cases hsaves : ∃ j t, m.savedTable? j = some t
  · obtain ⟨j, t, hsaved⟩ := hsaves
    obtain ⟨hacts, honly, hconfig⟩ := step_of_savedTable? hsaved
    by_cases hj : id = j
    · subst hj
      rw [hsaved]
      exact hconfig hid
    · -- what code of another sandbox saves stays in that sandbox
      rw [honly id hj, hacts.others id hj]
      rfl
  · have hnone : ∀ j, m.savedTable? j = none := fun j =>
      Option.eq_none_iff_forall_ne_some.2 (fun t ht => hsaves ⟨j, t, ht⟩)
    rw [hnone]
    show (m.step.world.sandbox id).config = (m.world.sandbox id).config
    cases hevent : m.loadEvent? with
    | none => exact keepsConfigs_of_no_loadEvent hevent hnone id
    | some event =>
      obtain ⟨w, e⟩ := event
      cases e with
      | begun p s =>
        rw [(begins_of_loadEvent? hevent).others hid]
      | refused | completed | abandoned =>
        exact World.KeepsConfigs.of_eq (sandboxes_of_loadEvent? hevent (fun _ _ h => nomatch h)) id

/-! ## Saving what was given -/

/-- Code that asks for a value goes on with it. -/
theorem step_of_value {w w' : World} {id : SandboxId} {q : Request} {vs : List Value}
    (h : w.serve id q = some (w', .ok vs)) (k : Value → Program (List Value)) (F : List Frame) :
    step ⟨w, .running id ((Program.value q).bind k), F⟩
      = ⟨w', .running id (k (Program.first vs)), F⟩ := by
  exact ask_of_serve w id _ F h

/-- What a script gets for `plugin.getConfig()`: a new table that is taken out again as the
configuration. -/
theorem serve_getConfig {w : World} {id : SandboxId} (hid : id < w.sandboxes.size) :
    ∃ w' v, w.serve id (.call (.function (.capability .pluginGetConfig)) []) = some (w', .ok [v]) ∧
      w.KeepsConfigs w' ∧ w'.sandboxes.size = w.sandboxes.size ∧
      (w'.sandbox id).savedTable? [v] = some (HostTable.ofDict (w.sandbox id).config) := by
  let config := HostTable.ofDict (w.sandbox id).config
  let given := HostValue.importValue config.toValue (w.sandbox id).heap
  have hserve : w.serve id (.call (.function (.capability .pluginGetConfig)) [])
      = some (w.modifySandbox id (fun s => { s with heap := given.2 }), .ok [given.1]) := rfl
  refine ⟨_, _, hserve, World.modifySandbox_keepsConfigs w id (fun _ => rfl),
    Array.size_modify .., ?_⟩
  have hexport : HostValue.exportValue given.2 given.1 = .ok config.toValue :=
    HostValue.exportValue_importValue_ofDict ..
  have hexported : ∀ s : Sandbox, s.heap = given.2 →
      World.exportArguments s [given.1] = .ok [config.toValue] := by
    intro s hs
    unfold World.exportArguments
    rw [hs, List.mapM_cons, hexport]
    rfl
  unfold Sandbox.savedTable?
  rw [World.sandbox_modifySandbox _ _ hid, hexported _ rfl]
  rfl

/-- The expression `plugin.saveConfig(plugin.getConfig())`. -/
def resave : Script.Expr :=
  .call Capability.pluginSaveConfig.name [.call Capability.pluginGetConfig.name []]

/-- Where the capabilities are found there is a sandbox: the globals of another one are empty. -/
theorem lt_of_lookUp {w : World} {id : SandboxId}
    (h : (w.sandbox id).heap.lookUp Capability.pluginSaveConfig.name
      = .ok (.function (.capability .pluginSaveConfig))) : id < w.sandboxes.size := by
  refine Nat.lt_of_not_le fun hle => ?_
  have hdefault : w.sandbox id = default := by
    unfold World.sandbox
    rw [Array.getElem?_eq_none hle]
    rfl
  have hnone : ((default : Sandbox).heap.lookUp Capability.pluginSaveConfig.name).toOption.isNone
      = true := by decide +kernel
  rw [← hdefault, h] at hnone
  cases hnone

/-- **Saving what was given leaves every configuration**, in a sandbox whose globals still lead to
the two capabilities. -/
theorem steps_resave {m : Machine} {id : SandboxId} {args : List Value}
    {k : Value → Program (List Value)} (hfocus : m.focus = .running id ((resave.eval args).bind k))
    (hglobals : ∀ c ∈ [Capability.pluginSaveConfig, .pluginGetConfig],
      (m.world.sandbox id).heap.lookUp c.name = .ok (.function (.capability c))) :
    ∃ w, steps 4 m = ⟨w, .running id (k (.bool true)), m.frames⟩ ∧ m.world.KeepsConfigs w := by
  -- two look-ups, a call that makes a table, and a call that takes it out again
  obtain ⟨w, focus, F⟩ := m
  cases hfocus
  have hid := lt_of_lookUp (hglobals _ List.mem_cons_self)
  have hprogram : (resave.eval args).bind k =
      (Program.value (.lookUp Capability.pluginSaveConfig.name)).bind fun save =>
        (Program.value (.lookUp Capability.pluginGetConfig.name)).bind fun get =>
          (Program.value (.call get [])).bind fun config =>
            (Program.value (.call save [config])).bind k := by
    simp only [resave, Script.Expr.eval, Script.evalAll, bind, pure, Program.bind,
      Program.bind_assoc]
  have hlookUp : ∀ c ∈ [Capability.pluginSaveConfig, .pluginGetConfig],
      w.serve id (.lookUp c.name) = some (w, .ok [.function (.capability c)]) := fun c hc =>
    congrArg (fun r => some (w, Except.map ([·]) r)) (hglobals c hc)
  obtain ⟨w₁, v, hgot, hkept, hsize, hsaved⟩ := serve_getConfig hid
  obtain ⟨w₂, hserved, hconfig⟩ := World.serve_of_savedTable?
    (q := .call (.function (.capability .pluginSaveConfig)) [v]) hsaved
  refine ⟨w₂, ?_, fun j => ?_⟩
  · simp only [steps]
    rw [hprogram, step_of_value (hlookUp _ List.mem_cons_self),
      step_of_value (hlookUp _ (List.mem_cons_of_mem _ List.mem_cons_self))]
    simp only [Program.first, List.headD_cons]
    rw [step_of_value hgot]
    exact step_of_value hserved k F
  · by_cases hj : j = id
    · subst hj
      rw [hconfig (hsize ▸ hid), HostTable.toDict_ofDict]
    · rw [(World.serve_actsWithin hserved).others j hj]
      exact hkept j

end Machine

end EditorPlugins
