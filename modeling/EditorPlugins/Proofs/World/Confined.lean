/-
  What code can change without leaving its sandbox.

  `ActsWithin id w w'` says that of the registry nothing changed, and of the sandboxes at most the
  one numbered `id`, which stays the sandbox of the same plugin.  The files, the settings and the
  collaborators are common ground: they may change.

  Main statements: everything that a capability does (`run_actsWithin`) and every request that is
  answered without a frame (`serve_actsWithin`) acts within the sandbox it came from.  So a change
  of the registry can only come from a step that the machine takes itself.
-/
import EditorPlugins.Proofs.World.Requests

namespace EditorPlugins

open Script (Value Request Heap Table)

namespace World

/-- A sandbox is found among the sandboxes, whatever else changed. -/
theorem sandbox_congr {w w' : World} (h : w'.sandboxes = w.sandboxes) (id : SandboxId) :
    w'.sandbox id = w.sandbox id := by
  unfold sandbox
  rw [h]

/-- From `w` to `w'` nothing changed in the registry, and nothing in the sandboxes other than the
one with the given number, whose plugin is the same. -/
structure ActsWithin (id : SandboxId) (w w' : World) : Prop where
  registry : w'.registry = w.registry
  profile : w'.profile = w.profile
  size : w'.sandboxes.size = w.sandboxes.size
  others : ∀ j, j ≠ id → w'.sandbox j = w.sandbox j
  identity : (w'.sandbox id).identity = (w.sandbox id).identity

namespace ActsWithin

variable {id : SandboxId} {w w₁ w₂ : World}

theorem refl (id : SandboxId) (w : World) : ActsWithin id w w :=
  ⟨rfl, rfl, rfl, fun _ _ => rfl, rfl⟩

theorem trans (h₁ : ActsWithin id w w₁) (h₂ : ActsWithin id w₁ w₂) : ActsWithin id w w₂ where
  registry := h₂.registry.trans h₁.registry
  profile := h₂.profile.trans h₁.profile
  size := h₂.size.trans h₁.size
  others j hj := (h₂.others j hj).trans (h₁.others j hj)
  identity := h₂.identity.trans h₁.identity

/-- Whoever acts, all sandboxes stay with their plugins. -/
theorem identity_eq (h : ActsWithin id w w₁) (j : SandboxId) :
    (w₁.sandbox j).identity = (w.sandbox j).identity := by
  by_cases hj : j = id
  · subst hj; exact h.identity
  · rw [h.others j hj]

/-- A change of the common ground alone. -/
theorem of_sandboxes_eq (id : SandboxId) {w w' : World} (hr : w'.registry = w.registry)
    (hp : w'.profile = w.profile) (hs : w'.sandboxes = w.sandboxes) : ActsWithin id w w' := by
  have hsandbox := sandbox_congr hs
  exact ⟨hr, hp, by rw [hs], fun j _ => hsandbox j, by rw [hsandbox]⟩

end ActsWithin

/-! ## Sandboxes and collaborators -/

theorem sandbox_modifySandbox_of_ne (w : World) {id j : SandboxId} (f : Sandbox → Sandbox)
    (h : j ≠ id) : (w.modifySandbox id f).sandbox j = w.sandbox j := by
  show ((w.sandboxes.modify id f)[j]?).getD default = (w.sandboxes[j]?).getD default
  rw [Array.getElem?_modify, if_neg (Ne.symm h)]

/-- Each sandbox is as it was, or it is the one that is changed. -/
theorem sandbox_modifySandbox_cases (w : World) (id j : SandboxId) (f : Sandbox → Sandbox) :
    (w.modifySandbox id f).sandbox j = w.sandbox j ∨
      j = id ∧ (w.modifySandbox id f).sandbox j = f (w.sandbox j) := by
  by_cases hj : j = id
  · subst hj
    show ((w.sandboxes.modify j f)[j]?).getD default = (w.sandboxes[j]?).getD default ∨
      j = j ∧ ((w.sandboxes.modify j f)[j]?).getD default = f ((w.sandboxes[j]?).getD default)
    rw [Array.getElem?_modify, if_pos rfl]
    cases w.sandboxes[j]? with
    | none => exact .inl rfl
    | some s => exact .inr ⟨rfl, rfl⟩
  · exact .inl (sandbox_modifySandbox_of_ne w f hj)

theorem identity_modifySandbox (w : World) (id : SandboxId) {f : Sandbox → Sandbox}
    (hf : ∀ s, (f s).identity = s.identity) :
    ((w.modifySandbox id f).sandbox id).identity = (w.sandbox id).identity := by
  rcases w.sandbox_modifySandbox_cases id id f with hsame | ⟨-, hchanged⟩
  · rw [hsame]
  · rw [hchanged, hf]

theorem modifySandbox_actsWithin (w : World) (id : SandboxId) {f : Sandbox → Sandbox}
    (hf : ∀ s, (f s).identity = s.identity) : ActsWithin id w (w.modifySandbox id f) where
  registry := rfl
  profile := rfl
  size := Array.size_modify ..
  others _ hj := sandbox_modifySandbox_of_ne w f hj
  identity := identity_modifySandbox w id hf

theorem observe_actsWithin (w : World) (id : SandboxId) (o : Observation) :
    ActsWithin id w (w.observe o) := .of_sandboxes_eq id rfl rfl rfl

theorem modifyHost_actsWithin (w : World) (id : SandboxId) (host : HostId) (f : Host → Host) :
    ActsWithin id w (w.modifyHost host f) := .of_sandboxes_eq id rfl rfl rfl

theorem files_actsWithin (w : World) (id : SandboxId) (f : Files) :
    ActsWithin id w { w with files := f } := .of_sandboxes_eq id rfl rfl rfl

theorem settings_actsWithin (w : World) (id : SandboxId) (d : Dict String) :
    ActsWithin id w { w with settings := d } := .of_sandboxes_eq id rfl rfl rfl

theorem setSetting_actsWithin (w : World) (id : SandboxId) (host : HostId) (key value : String) :
    ActsWithin id w (w.setSetting host key value).1 := by
  unfold setSetting
  cases (w.host host).settings with
  | memory => exact settings_actsWithin w id _
  | file s => exact (files_actsWithin w id _).trans (modifyHost_actsWithin _ id host _)

theorem removeSetting_actsWithin (w : World) (id : SandboxId) (host : HostId) (key : String) :
    ActsWithin id w (w.removeSetting host key).1 := by
  unfold removeSetting
  cases (w.host host).settings with
  | memory => exact settings_actsWithin w id _
  | file s => exact (files_actsWithin w id _).trans (modifyHost_actsWithin _ id host _)

end World

/-! ## Capabilities -/

namespace Action

open World

theorem changeFiles_actsWithin (w : World) (id : SandboxId) (r : Except FileFault Files) :
    ActsWithin id w (changeFiles w r).1 := by
  cases r with
  | ok f => exact files_actsWithin w id f
  | error _ => exact .refl id w

/-- **A capability acts within the sandbox of its caller.** -/
theorem run_actsWithin (w : World) (id : SandboxId) (a : Action) :
    ActsWithin id w (a.run w id).1 := by
  cases a with
  | describePlugin | getConfig | getRootPath | callPlugin | getClipboard | read | «exists»
  | isFile | isDirectory | list | realPath | baseName | dirName | joinPaths | getSetting
  | hasSetting | currentFile => exact .refl id w
  | saveConfig config => exact modifySandbox_actsWithin w id (fun _ => rfl)
  | registerCommand command title f => exact modifySandbox_actsWithin w id (fun _ => rfl)
  | registerEvent name f => exact modifySandbox_actsWithin w id (fun _ => rfl)
  | log isError text => exact observe_actsWithin w id _
  | message title text => exact observe_actsWithin w id _
  | confirm title text => exact observe_actsWithin w id _
  | input label default => exact observe_actsWithin w id _
  | select items index => exact observe_actsWithin w id _
  | setClipboard text =>
    exact (observe_actsWithin w id _).trans (modifyHost_actsWithin _ id _ _)
  | write path bytes => exact changeFiles_actsWithin w id _
  | append path bytes => exact changeFiles_actsWithin w id _
  | makeDirectory path => exact files_actsWithin w id _
  | setSetting key value => exact setSetting_actsWithin w id _ _ _
  | removeSetting key => exact removeSetting_actsWithin w id _ _
  | openFile path =>
    simp only [run]
    split
    · exact .refl id w
    · exact (observe_actsWithin w id _).trans (modifyHost_actsWithin _ id _ _)
  | saveFile =>
    simp only [run]
    split
    · exact .refl id w
    · exact (observe_actsWithin w id _).trans (modifyHost_actsWithin _ id _ _)
  | closeFile path =>
    simp only [run]
    split
    · exact .refl id w
    · exact (observe_actsWithin w id _).trans (modifyHost_actsWithin _ id _ _)

end Action

/-! ## Requests -/

namespace World

/-- **A request that is answered on the spot acts within the sandbox it came from.** -/
theorem serve_actsWithin {w w' : World} {id : SandboxId} {q : Request} {r : Results}
    (h : w.serve id q = some (w', r)) : ActsWithin id w w' := by
  cases serve_carriesOut h with
  | same => exact .refl id w
  | observed o => exact observe_actsWithin w id o
  | worked f => exact modifySandbox_actsWithin w id (fun _ => rfl)
  | @acted a =>
    exact (Action.run_actsWithin w id a).trans (modifySandbox_actsWithin _ id (fun _ => rfl))

end World

end EditorPlugins
