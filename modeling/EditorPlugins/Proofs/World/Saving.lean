/-
  Which requests save a configuration.

  A configuration belongs to a sandbox, and one capability changes it: `plugin.saveConfig`, when
  its call can be carried out.  That is when all its arguments can be taken out of the sandbox and
  the first of them is a table; `savedTable?` is this table.  Every other request leaves every
  configuration as it is (`KeepsConfigs`), whether it is answered or raises.

  Main statements: `serve_of_savedTable?` and `serve_keepsConfigs`.
-/
import EditorPlugins.Proofs.Capability.Actions
import EditorPlugins.Proofs.World.Confined

namespace EditorPlugins

open Script (Value Request Heap)

/-- The table that a call of `plugin.saveConfig` with these arguments saves. -/
def Sandbox.savedTable? (s : Sandbox) (args : List Value) : Option HostTable :=
  match World.exportArguments s args with
  | .ok (.table array fields :: _) => some ⟨array, fields⟩
  | _ => none

/-- The table that a request saves. -/
def Sandbox.savedBy? (s : Sandbox) : Request → Option HostTable
  | .call (.function (.capability .pluginSaveConfig)) args => s.savedTable? args
  | _ => none

/-! ## What is asked for -/

namespace World

/-- A call that passes a table asks to save it; -/
theorem requestedAction_of_savedTable? {s : Sandbox} {args : List Value} {t : HostTable}
    (h : s.savedTable? args = some t) :
    requestedAction s .pluginSaveConfig args = .ok (.saveConfig t.toDict) := by
  unfold Sandbox.savedTable? at h
  split at h
  · rename_i array fields rest hvalues
    cases h
    exact requestedAction_of_check hvalues rfl
  · cases h

/-- any other call is refused. -/
theorem requestedAction_of_not_saved {s : Sandbox} {args : List Value}
    (h : s.savedTable? args = none) : ∃ e, requestedAction s .pluginSaveConfig args = .error e := by
  unfold requestedAction
  cases hvalues : exportArguments s args with
  | error e => exact ⟨_, rfl⟩
  | ok values =>
    unfold Sandbox.savedTable? at h
    rw [hvalues] at h
    cases values with
    | nil => exact ⟨_, rfl⟩
    | cons v rest =>
      cases v with
      | table array fields => cases h
      | _ => exact ⟨_, rfl⟩

/-- So a request that saves nothing does not ask for it. -/
theorem requested?_ne_saveConfig {s : Sandbox} {q : Request} (hq : s.savedBy? q = none)
    (d : Dict String) : s.requested? q ≠ some (.saveConfig d) := by
  intro hasked
  obtain ⟨c, args, rfl, hrequested⟩ := Sandbox.requested?_eq_some hasked
  obtain rfl : Capability.pluginSaveConfig = c := capability_of_requestedAction hrequested
  obtain ⟨e, he⟩ := requestedAction_of_not_saved hq
  rw [he] at hrequested
  cases hrequested

/-! ## What is left as it is -/

/-- Every sandbox has the configuration that it had. -/
def KeepsConfigs (w w' : World) : Prop := ∀ id, (w'.sandbox id).config = (w.sandbox id).config

theorem KeepsConfigs.of_eq {w w' : World} (h : w'.sandboxes = w.sandboxes) : w.KeepsConfigs w' := by
  intro id
  rw [sandbox_congr h]

theorem KeepsConfigs.trans {w w₁ w₂ : World} (h₁ : w.KeepsConfigs w₁) (h₂ : w₁.KeepsConfigs w₂) :
    w.KeepsConfigs w₂ := fun id => (h₂ id).trans (h₁ id)

theorem sandbox_modifySandbox (w : World) {id : SandboxId} (f : Sandbox → Sandbox)
    (hid : id < w.sandboxes.size) : (w.modifySandbox id f).sandbox id = f (w.sandbox id) := by
  show ((w.sandboxes.modify id f)[id]?).getD default = f ((w.sandboxes[id]?).getD default)
  rw [Array.getElem?_modify, if_pos rfl, Array.getElem?_eq_getElem hid]
  rfl

/-- Under a number that is not taken yet there is nothing. -/
theorem sandbox_of_not_lt {w : World} {id : SandboxId} (h : ¬ id < w.sandboxes.size) :
    w.sandbox id = default := by
  unfold sandbox
  rw [Array.getElem?_eq_none (Nat.le_of_not_lt h)]
  rfl

theorem modifySandbox_keepsConfigs (w : World) (id : SandboxId) {f : Sandbox → Sandbox}
    (hf : ∀ s, (f s).config = s.config) : w.KeepsConfigs (w.modifySandbox id f) := by
  intro j
  rcases w.sandbox_modifySandbox_cases id j f with hsame | ⟨-, hchanged⟩
  · rw [hsame]
  · rw [hchanged, hf]

theorem onHeap_keepsConfigs (w : World) (id : SandboxId) (f : Heap → Results × Heap) :
    w.KeepsConfigs (w.onHeap id f).1 :=
  modifySandbox_keepsConfigs w id (fun _ => rfl)

end World

/-- **Every other action leaves all configurations.** -/
theorem Action.run_keepsConfigs (w : World) (id : SandboxId) {a : Action}
    (ha : ∀ d, a ≠ .saveConfig d) : w.KeepsConfigs (a.run w id).1 := by
  cases a with
  | saveConfig d => exact absurd rfl (ha d)
  | registerCommand command title f => exact World.modifySandbox_keepsConfigs w id (fun _ => rfl)
  | registerEvent name f => exact World.modifySandbox_keepsConfigs w id (fun _ => rfl)
  | write path bytes | append path bytes =>
    simp only [run, changeFiles]
    split <;> exact .of_eq rfl
  | setSetting key value =>
    simp only [run, World.setSetting]
    split <;> exact .of_eq rfl
  | removeSetting key =>
    simp only [run, World.removeSetting]
    split <;> exact .of_eq rfl
  | openFile path | saveFile | closeFile path =>
    simp only [run]
    split <;> exact .of_eq rfl
  | _ => exact .of_eq rfl

namespace World

/-! ## What is saved -/

/-- **A request that saves a table is answered with true**, and the table is the configuration. -/
theorem serve_of_savedTable? {w : World} {id : SandboxId} {q : Request} {t : HostTable}
    (h : (w.sandbox id).savedBy? q = some t) :
    ∃ w', w.serve id q = some (w', .ok [.bool true]) ∧
      (id < w.sandboxes.size → (w'.sandbox id).config = t.toDict) := by
  unfold Sandbox.savedBy? at h
  split at h
  · rename_i args
    have hserve : w.serve id (.call (.function (.capability .pluginSaveConfig)) args)
        = some ((w.modifySandbox id fun s => { s with config := t.toDict }).giveBack id
          [.boolean true]) := by
      refine serve_of_requestedAction (requestedAction_of_savedTable? h) ?_
      intro plugin function texts hcalls
      cases hcalls
    refine ⟨_, hserve, fun hid => ?_⟩
    have hkept := onHeap_keepsConfigs (w.modifySandbox id fun s => { s with config := t.toDict }) id
      (fun h => (.ok (HostValue.importItems [.boolean true] h).1,
        (HostValue.importItems [.boolean true] h).2)) id
    refine hkept.trans ?_
    rw [sandbox_modifySandbox _ _ hid]
  · cases h

/-- **Every other request leaves all configurations**, if it is answered on the spot. -/
theorem serve_keepsConfigs {w w' : World} {id : SandboxId} {q : Request} {r : Results}
    (h : w.serve id q = some (w', r)) (hq : (w.sandbox id).savedBy? q = none) :
    w.KeepsConfigs w' := by
  cases serve_carriesOut h with
  | same => exact .of_eq rfl
  | observed o => exact .of_eq rfl
  | worked f => exact modifySandbox_keepsConfigs w id (fun _ => rfl)
  | @acted a heap hasked =>
    have ha : ∀ d, a ≠ .saveConfig d := by
      rintro d rfl
      exact requested?_ne_saveConfig hq d hasked
    exact (Action.run_keepsConfigs w id ha).trans
      (modifySandbox_keepsConfigs _ id (fun _ => rfl))

/-- A call of `plugin.saveConfig` that saves nothing raises. -/
theorem serve_of_not_saved {w : World} {id : SandboxId} {args : List Value}
    (h : (w.sandbox id).savedTable? args = none) :
    ∃ w' e, w.serve id (.call (.function (.capability .pluginSaveConfig)) args)
      = some (w', .error e) := by
  obtain ⟨e, he⟩ := requestedAction_of_not_saved h
  simp only [serve, he]
  exact ⟨_, _, rfl⟩

end World

end EditorPlugins
