/-
  Sandboxes from step to step, their heaps aside.

  Apart from its heap a sandbox has who it is, what it was made with, and what its code has put
  there through capabilities: handlers of commands and events, and the configuration.  So of a step
  it is enough to know which action the code that runs asks for (`Machine.requested?`), and of an
  action what it puts into the sandbox (`Action.register`); the heap may change in any way.

  Main statements: `sandbox_step`, what becomes of a sandbox that is there, and `sandbox_of_new`,
  what a sandbox that comes to them is.
-/
import EditorPlugins.Proofs.Registry.Configs

namespace EditorPlugins

open Script (Value Raised Program Request Heap)

/-- What an action puts into the sandbox that it is asked from. -/
def Action.register (a : Action) (s : Sandbox) : Sandbox :=
  match a with
  | .saveConfig config => { s with config := config }
  | .registerCommand id title f => s.registerCommand id title f
  | .registerEvent name f => s.registerEvent name f
  | _ => s

namespace Sandbox

/-- The same sandbox, with another heap perhaps. -/
def SameButHeap (s s' : Sandbox) : Prop := ∃ h : Heap, s' = { s with heap := h }

theorem SameButHeap.refl (s : Sandbox) : s.SameButHeap s := ⟨s.heap, rfl⟩

theorem SameButHeap.of_eq {s s' : Sandbox} (h : s' = s) : s.SameButHeap s' := h ▸ .refl s

/-- What a request puts into its sandbox. -/
def registered (s : Sandbox) (a : Option Action) : Sandbox :=
  match a with
  | some a => a.register s
  | none => s

theorem registered_scope (s : Sandbox) (a : Option Action) : (s.registered a).scope = s.scope := by
  cases a with
  | none => rfl
  | some a => cases a <;> rfl

end Sandbox

/-! ## Requests -/

namespace World

variable {w : World} {id : SandboxId}

theorem setHeap_sameButHeap (hid : id < w.sandboxes.size) (h : Heap) :
    (w.sandbox id).SameButHeap
      ((w.modifySandbox id (fun s => { s with heap := h })).sandbox id) :=
  ⟨h, sandbox_modifySandbox w _ hid⟩

/-- **An action puts into its sandbox what it says**, and not even the heap changes. -/
theorem sandbox_run (hid : id < w.sandboxes.size) (a : Action) :
    (a.run w id).1.sandbox id = a.register (w.sandbox id) := by
  cases a with
  | saveConfig | registerCommand | registerEvent => exact sandbox_modifySandbox w _ hid
  | write path bytes | append path bytes =>
    simp only [Action.run, Action.changeFiles]
    split <;> rfl
  | setSetting key value =>
    simp only [Action.run, setSetting]
    split <;> rfl
  | removeSetting key =>
    simp only [Action.run, removeSetting]
    split <;> rfl
  | openFile | saveFile | closeFile =>
    simp only [Action.run]
    split <;> rfl
  | _ => rfl

/-- **A request that is answered on the spot leaves its sandbox as its action says**, but for the
heap. -/
theorem serve_sameButHeap {w' : World} {q : Request} {r : Results} (hid : id < w.sandboxes.size)
    (h : w.serve id q = some (w', r)) :
    ((w.sandbox id).registered ((w.sandbox id).requested? q)).SameButHeap (w'.sandbox id) := by
  cases serve_carriesOut h with
  | same hnone => rw [hnone]; exact .refl _
  | observed o hnone => rw [hnone]; exact .refl _
  | worked f hnone => rw [hnone]; exact ⟨_, sandbox_modifySandbox w _ hid⟩
  | @acted a heap hasked =>
    have hsize : id < (a.run w id).1.sandboxes.size := by
      rw [(Action.run_actsWithin w id a).size]
      exact hid
    have hkept := setHeap_sameButHeap hsize heap
    rw [hasked]
    rw [sandbox_run hid a] at hkept
    exact hkept

/-- A request that is not answered on the spot asks for nothing that is put into a sandbox. -/
theorem registered_of_not_served {q : Request} (h : w.serve id q = none) :
    (w.sandbox id).registered ((w.sandbox id).requested? q) = w.sandbox id := by
  rcases asked_of_not_served h with hnone | ⟨plugin, function, texts, hcalls⟩
  · rw [hnone]
    rfl
  · rw [hcalls]
    rfl

end World

/-! ## The start of a sandbox -/

/-- The capabilities are put into the heap. -/
theorem Sandbox.equipped_sameButHeap (i : Identity) (host : HostId) (c : SandboxConfig)
    (d : Dict String) : (Sandbox.bare i host c d).SameButHeap (Sandbox.equipped i host c d) := by
  have hfold : ∀ (tables : List String) (s : Sandbox),
      s.SameButHeap (tables.foldl (fun s n => s.addTable n (capabilityTable n)) s) := by
    intro tables
    induction tables with
    | nil => exact .refl
    | cons n rest ih =>
      intro s
      obtain ⟨h, heq⟩ := ih (s.addTable n (capabilityTable n))
      exact ⟨h, heq⟩
  exact hfold _ _

/-- The sandbox of a load that begins has no handlers, and was made as the host is set up. -/
theorem World.sandbox_of_begun {w : World} {root : Path} {p : PendingLoad} {s : Sandbox}
    (h : w.loadEvent? root = some (.begun p s)) : ∃ host,
    (Sandbox.bare (identityOf p.manifest p.root) host w.registry.config.sandbox
      (w.registry.configs.load w.files p.manifest.name)).SameButHeap s := by
  obtain ⟨host, folder, block, -, -, hfolder, hplan, hp⟩ := plan_of_begun h
  obtain ⟨hmanifest, hroot⟩ := PluginFolder.withManifest_eq_ok hfolder
  have hfound : p.root = folder.root := (congrArg PendingLoad.root hp).trans hroot.symm
  rw [(plan_eq_ok hplan).2, ← hmanifest, hfound]
  exact ⟨host, Sandbox.equipped_sameButHeap ..⟩

/-! ## Steps -/

namespace Machine

/-- The action that code of a sandbox asks for in the next step. -/
def requested? (m : Machine) (id : SandboxId) : Option Action :=
  match m.focus with
  | .running j (.ask q _) => if j = id then (m.world.sandbox id).requested? q else none
  | _ => none

theorem deliverResults_sameButHeap {w : World} {id : SandboxId} (hid : id < w.sandboxes.size)
    (r : Except Raised (List Value)) (F : List Frame) :
    (w.sandbox id).SameButHeap ((deliverResults w r F).world.sandbox id) := by
  cases F with
  | nil => exact .refl _
  | cons f F =>
    cases f with
    | module j name =>
      cases r with
      | error e => exact .refl _
      | ok vs =>
        by_cases hj : id = j
        · subst hj
          exact ⟨_, World.sandbox_modifySandbox w _ hid⟩
        · exact .of_eq ((keepModule_actsWithin w j name vs).others id hj)
    | entry p => cases r <;> exact .refl _
    | dispatch plugin purpose =>
      exact .of_eq (World.sandbox_congr (endDispatch_sandboxes w plugin purpose r F) id)
    | _ => exact .refl _

/-- Code asks for something in the sandbox where it runs, and nobody does in the others. -/
theorem sandbox_ask {w : World} {id j : SandboxId} (hid : id < w.sandboxes.size) (q : Request)
    (next : Except Raised (List Value) → Program (List Value)) (F : List Frame) :
    ((w.sandbox id).registered (requested? ⟨w, .running j (.ask q next), F⟩ id)).SameButHeap
      ((ask w j q next F).world.sandbox id) := by
  by_cases hj : j = id
  · subst hj
    have hrequested : requested? ⟨w, .running j (.ask q next), F⟩ j
        = (w.sandbox j).requested? q := if_pos rfl
    rw [hrequested]
    cases hserve : w.serve j q with
    | none =>
      rw [ask_world w j next F hserve, World.registered_of_not_served hserve]
      exact .refl _
    | some served =>
      rw [ask_of_serve w j next F hserve]
      exact World.serve_sameButHeap hid hserve
  · have hrequested : requested? ⟨w, .running j (.ask q next), F⟩ id = none := if_neg hj
    rw [hrequested]
    cases hserve : w.serve j q with
    | none =>
      rw [ask_world w j next F hserve]
      exact .refl _
    | some served =>
      rw [ask_of_serve w j next F hserve]
      exact .of_eq ((World.serve_actsWithin hserve).others id (Ne.symm hj))

/-- **A step leaves a sandbox as the action says that its code asks for**, but for the heap. -/
theorem sandbox_step {m : Machine} {id : SandboxId} (hid : id < m.world.sandboxes.size) :
    ((m.world.sandbox id).registered (m.requested? id)).SameButHeap (m.step.world.sandbox id) := by
  obtain ⟨w, focus, F⟩ := m
  cases focus with
  | running j p =>
    cases p with
    | done | raise => exact .refl _
    | ask q next => exact sandbox_ask hid q next F
  | ended r => exact deliverResults_sameButHeap hid r F
  | answered a => exact .of_eq (World.sandbox_congr (deliverAnswer_sandboxes w a F) id)
  | starting op =>
    cases hevent : loadEvent? ⟨w, .starting op, F⟩ with
    | none => exact .of_eq (World.sandbox_congr (start_sandboxes w op F hevent) id)
    | some event =>
      obtain ⟨w', e⟩ := event
      cases e with
      | begun p s => exact .of_eq ((begins_of_loadEvent? hevent).others hid)
      | refused | completed | abandoned =>
        exact .of_eq (World.sandbox_congr (sandboxes_of_loadEvent? hevent nofun) id)

/-- **A sandbox that comes to the others is that of a load that has just begun**: no handlers, and
made as the host is set up. -/
theorem sandbox_of_new {m : Machine} {id : SandboxId} (hold : ¬ id < m.world.sandboxes.size)
    (hid : id < m.step.world.sandboxes.size) : ∃ i host d,
    (Sandbox.bare i host m.world.registry.config.sandbox d).SameButHeap
      (m.step.world.sandbox id) := by
  obtain ⟨w, p, s, hevent, rfl⟩ := exists_begun_of_new hold hid
  have hbegins := begins_of_loadEvent? hevent
  -- the plugin that is reloaded has been taken away, and the set-up is the same
  have hconfig : w.registry.config = m.world.registry.config := by
    rcases (step_of_loadEvent? hevent).1 with rfl | hremoval
    · rfl
    · exact hremoval.config_eq
  rw [hbegins.new, ← hconfig]
  rcases ended_or_started hevent with ⟨-, _, _, -, hnever | ⟨_, hnever⟩⟩ | ⟨root, -, hstarted⟩
  · cases hnever
  · cases hnever
  · obtain ⟨host, hmade⟩ := World.sandbox_of_begun hstarted
    exact ⟨_, host, _, hmade⟩

end Machine

end EditorPlugins
