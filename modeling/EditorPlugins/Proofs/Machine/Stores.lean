/-
  Files and settings from step to step.

  The files and the settings that hosts keep in them are changed in few places: by the actions that
  write, make directories or store settings (`Action.changesStores`), by operations of the embedding
  application, and by the unloads at the end of a finalization.  So of any other step it is enough
  to know the action that the code that runs asks for (`Machine.acted`).

  Main statement: `step_keepsStores`, by one lemma for each part of a step.
-/
import EditorPlugins.Proofs.Registry.Sandboxes

namespace EditorPlugins

open Script (Value Raised Program Request)
open World (Results)

/-- Actions that change files, or settings that are kept in one. -/
def Action.changesStores : Action → Bool
  | .write .. | .append .. | .makeDirectory _ | .setSetting .. | .removeSetting _ => true
  | _ => false

/-- Operations that leave all files and all hosts as they are when they begin. -/
def Operation.keepsStores : Operation → Bool
  | .attach | .unload _ | .reload _ | .changeFiles _ => false
  | _ => true

namespace World

/-- The files are as they were, and so are the hosts and their settings. -/
structure KeepsStores (w w' : World) : Prop where
  files : w'.files = w.files
  size : w'.hosts.size = w.hosts.size
  settings : ∀ id, (w'.host id).settings = (w.host id).settings

section Keeping

variable {w w' w₁ w₂ : World}

theorem KeepsStores.of_eq (hfiles : w'.files = w.files) (hhosts : w'.hosts = w.hosts) :
    w.KeepsStores w' := by
  refine ⟨hfiles, by rw [hhosts], fun id => ?_⟩
  unfold host
  rw [hhosts]

theorem KeepsStores.refl (w : World) : w.KeepsStores w := .of_eq rfl rfl

theorem KeepsStores.trans (h₁ : w.KeepsStores w₁) (h₂ : w₁.KeepsStores w₂) : w.KeepsStores w₂ where
  files := h₂.files.trans h₁.files
  size := h₂.size.trans h₁.size
  settings id := (h₂.settings id).trans (h₁.settings id)

/-- A host that is found is the one that was changed, or as it was. -/
theorem host_modifyHost (w : World) (id other : HostId) (f : Host → Host)
    (hid : id < w.hosts.size) :
    (w.modifyHost id f).host other = if other = id then f (w.host id) else w.host other := by
  show ((w.hosts.modify id f)[other]?).getD default = _
  rw [Array.getElem?_modify]
  by_cases hother : id = other
  · subst hother
    rw [if_pos rfl, if_pos rfl]
    unfold host
    rw [Array.getElem?_eq_getElem hid]
    rfl
  · rw [if_neg hother, if_neg (Ne.symm hother)]
    rfl

/-- A host that keeps its settings. -/
theorem modifyHost_keepsStores (w : World) (id : HostId) {f : Host → Host}
    (hf : ∀ h, (f h).settings = h.settings) : w.KeepsStores (w.modifyHost id f) := by
  refine ⟨rfl, Array.size_modify .., fun other => ?_⟩
  show (((w.hosts.modify id f)[other]?).getD default).settings
    = ((w.hosts[other]?).getD default).settings
  rw [Array.getElem?_modify]
  split
  · cases w.hosts[other]? with
    | none => rfl
    | some h => exact hf h
  · rfl

/-- Something that is observed of such a host. -/
theorem observed_keepsStores (w : World) (o : Observation) (id : HostId) {f : Host → Host}
    (hf : ∀ h, (f h).settings = h.settings) : w.KeepsStores ((w.observe o).modifyHost id f) :=
  (KeepsStores.of_eq rfl rfl : w.KeepsStores (w.observe o)).trans
    (modifyHost_keepsStores (w.observe o) id hf)

end Keeping

/-! ## Requests -/

/-- **Any other action leaves files and settings.** -/
theorem run_keepsStores (w : World) (id : SandboxId) {a : Action}
    (ha : a.changesStores = false) : w.KeepsStores (a.run w id).1 := by
  cases a with
  | write | append | makeDirectory | setSetting | removeSetting => cases ha
  | setClipboard text => exact observed_keepsStores w _ (w.sandbox id).host (fun _ => rfl)
  | openFile path =>
    simp only [Action.run]
    split
    · exact .refl w
    · exact observed_keepsStores w (.opened path) (w.sandbox id).host (fun _ => rfl)
  | saveFile =>
    simp only [Action.run]
    split
    · exact .refl w
    · exact observed_keepsStores w _ (w.sandbox id).host (fun _ => rfl)
  | closeFile path =>
    simp only [Action.run]
    split
    · exact .refl w
    · exact observed_keepsStores w (.closed path) (w.sandbox id).host (fun _ => rfl)
  | _ => exact .of_eq rfl rfl

/-- The world after the action that a request asks for, if it asks for one. -/
def afterAction (w : World) (id : SandboxId) : Option Action → World
  | some a => (a.run w id).1
  | none => w

/-- A request changes files and settings as its action does. -/
theorem serve_keepsStores {w w' : World} {id : SandboxId} {q : Request} {r : Results}
    (h : w.serve id q = some (w', r)) :
    (w.afterAction id ((w.sandbox id).requested? q)).KeepsStores w' := by
  cases serve_carriesOut h with
  | same hnone => rw [hnone]; exact .refl _
  | observed o hnone => rw [hnone]; exact .of_eq rfl rfl
  | worked f hnone => rw [hnone]; exact .of_eq rfl rfl
  | acted heap hasked => rw [hasked]; exact .of_eq rfl rfl

/-- A request that is not answered on the spot asks for no action that changes anything. -/
theorem afterAction_of_not_served {w : World} {id : SandboxId} {q : Request}
    (h : w.serve id q = none) : w.afterAction id ((w.sandbox id).requested? q) = w := by
  rcases asked_of_not_served h with hnone | ⟨plugin, function, texts, hcalls⟩
  · rw [hnone]
    rfl
  · rw [hcalls]
    rfl

end World

namespace Machine

variable {w : World} {F : List Frame}

theorem ask_keepsStores (w : World) (id : SandboxId) (q : Request)
    (next : Except Raised (List Value) → Program (List Value)) (F : List Frame) :
    (w.afterAction id ((w.sandbox id).requested? q)).KeepsStores (ask w id q next F).world := by
  cases hserve : w.serve id q with
  | none =>
    rw [ask_world w id next F hserve, World.afterAction_of_not_served hserve]
    exact .refl w
  | some served =>
    rw [ask_of_serve w id next F hserve]
    exact World.serve_keepsStores hserve

/-! ## The parts of a step -/

theorem dispatch_keepsStores (w : World) (plugin : String) (t : World.Target) (args : List Value)
    (purpose : Purpose) (F : List Frame) :
    w.KeepsStores (dispatch w plugin t args purpose F).world := by
  unfold dispatch
  split <;> exact .of_eq rfl rfl

theorem announce_keepsStores (w : World) (e : Event) (F : List Frame) (plugins : List String)
    (soFar : Summary) : w.KeepsStores (announce w e F plugins soFar).world := by
  obtain ⟨m, hannounce, hannounced⟩ := exists_announced w e F plugins soFar
  rw [hannounce]
  cases hannounced <;> exact .of_eq rfl rfl

theorem endDispatch_keepsStores (w : World) (plugin : String) (purpose : Purpose)
    (r : Except Raised (List Value)) (F : List Frame) :
    w.KeepsStores (endDispatch w plugin purpose r F).world := by
  -- remembering an error and leaving the stack change the registry alone
  have hleft : w.KeepsStores (w.modifyRegistry (·.leave plugin)) := .of_eq rfl rfl
  have hblamed : ∀ text, w.KeepsStores
      ((w.modifyRegistry (·.blame plugin text)).modifyRegistry (·.leave plugin)) :=
    fun _ => .of_eq rfl rfl
  cases r with
  | ok vs =>
    cases purpose with
    | command | function => exact hleft
    | delivery event rest soFar => exact hleft.trans (announce_keepsStores _ event F rest _)
  | error e =>
    cases purpose with
    | command | function => exact hblamed _
    | delivery event rest soFar => exact (hblamed _).trans (announce_keepsStores _ event F rest _)

theorem load_keepsStores (w : World) (root : Path) (F : List Frame) :
    w.KeepsStores (load w root F).world := by
  refine .of_eq (load_files w root F) ?_
  cases hevent : w.loadEvent? root with
  | none =>
    have hsituation := load_of_no_event hevent F
    exact congrArg (fun s : Situation => s.world.hosts) hsituation
  | some e =>
    have hloading := load_loading hevent F
    show (load w root F).situation.world.hosts = w.hosts
    generalize (load w root F).situation = s' at hloading
    cases hloading <;> rfl

theorem scan_keepsStores (w : World) (F : List Frame) (roots : List Path) (loaded : List String) :
    w.KeepsStores (scan w F roots loaded).world := by
  cases roots <;> exact .refl w

theorem start_keepsStores (w : World) {op : Operation} (F : List Frame)
    (hop : op.keepsStores = true) : w.KeepsStores (start w op F).world := by
  cases op with
  | attach | unload | reload | changeFiles => cases hop
  | load root => exact load_keepsStores w root F
  | loadDirectory dir =>
    simp only [start]
    split
    · exact .refl w
    · exact scan_keepsStores w F _ _
  | finalize =>
    simp only [start]
    split
    · exact .refl w
    · split
      · exact .refl w
      · exact announce_keepsStores w _ _ _ _
  | execute id =>
    simp only [start]
    split
    · exact .refl w
    · exact dispatch_keepsStores w _ _ _ _ F
  | call plugin function args =>
    simp only [start]
    split
    · exact .refl w
    · exact dispatch_keepsStores w _ _ _ _ F
  | notify name filename =>
    simp only [start]
    split
    · exact .refl w
    · exact announce_keepsStores w _ F _ _
  | enable plugin on =>
    show w.KeepsStores (w.enable plugin on).1
    rw [World.enable_eq]
    exact .of_eq rfl rfl
  | isInitialized | version | commands | info | config | storedConfig | settings | putSetting
  | sharedPlugins | describe | readFile => exact .of_eq rfl rfl

theorem deliverResults_keepsStores (w : World) (r : Except Raised (List Value)) (F : List Frame) :
    w.KeepsStores (deliverResults w r F).world := by
  cases F with
  | nil => exact .refl w
  | cons f F =>
    cases f with
    | module id name => cases r <;> exact .of_eq rfl rfl
    | entry p => cases r <;> exact .of_eq rfl rfl
    | dispatch plugin purpose => exact endDispatch_keepsStores w plugin purpose r F
    | _ => exact .refl w

theorem deliverAnswer_keepsStores (w : World) (a : Answer) (F : List Frame)
    (hshutdown : ∀ G, F ≠ .finalization :: G) :
    w.KeepsStores (deliverAnswer w a F).world := by
  cases F with
  | nil => exact .refl w
  | cons f F =>
    cases f with
    | finalization => exact absurd rfl (hshutdown F)
    | hostStep id next => exact .of_eq rfl rfl
    | scan rest loaded =>
      simp only [deliverAnswer]
      split
      · exact scan_keepsStores w F rest _
      · exact scan_keepsStores w F rest _
    | _ => exact .refl w

/-! ## Steps -/

/-- The world after the action that the code that runs asks for, if it asks for one. -/
def acted (m : Machine) : World :=
  match m.focus with
  | .running id (.ask q _) => m.world.afterAction id ((m.world.sandbox id).requested? q)
  | _ => m.world

/-- **A step changes files and settings as the action does that its code asks for**, unless it
clears the registry or begins an operation that may change them. -/
theorem step_keepsStores {m : Machine} (hclears : m.clears = false)
    (hop : ∀ op, m.focus = .starting op → op.keepsStores = true) :
    m.acted.KeepsStores m.step.world := by
  obtain ⟨w, focus, F⟩ := m
  cases focus with
  | running id p =>
    cases p with
    | done | raise => exact .refl w
    | ask q next => exact ask_keepsStores w id q next F
  | ended r => exact deliverResults_keepsStores w r F
  | starting op => exact start_keepsStores w F (hop op rfl)
  | answered a =>
    refine deliverAnswer_keepsStores w a F ?_
    rintro G rfl
    cases hclears

end Machine

end EditorPlugins
