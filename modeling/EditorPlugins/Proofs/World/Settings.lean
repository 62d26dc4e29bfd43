/-
  Calls of the settings capabilities.

  When all collaborators keep their settings in the memory that they share, a call works on two
  things: the sandbox that it comes from, whose heap takes the answer, and the shared settings
  (`Sandbox.callSettings`).  Of the settings it reads and writes the one entry under the key that
  the sandbox makes of the script's key.

  With a scope for each plugin the key begins with the plugin's name and a point.  A name has no
  point, so whatever the keys are, no two plugins make the same key (`Sandbox.settingsKey_ne`).

  Main statements: `serve_settings`, what a call does; `callSettings_congr`, that it depends on the
  caller's own settings alone; `callSettings_others`, that it leaves those of the others.
-/
import EditorPlugins.CommandId
import EditorPlugins.Proofs.World.Saving

namespace EditorPlugins

open Script (Value Raised Heap)
open World (Results)

/-! ## Keys -/

/-- The settings that a plugin can reach under a name are the same in the two dictionaries. -/
def Dict.SameBelow (name : String) (d e : Dict String) : Prop :=
  ∀ key, d.get? (CommandId.qualify name key) = e.get? (CommandId.qualify name key)

/-- A sandbox whose settings are its plugin's own. -/
structure Sandbox.HasOwnSettings (s : Sandbox) : Prop where
  scope : s.scope = .perPlugin
  undotted : '.' ∉ s.identity.name.toList

namespace Sandbox

theorem settingsKey_eq {s : Sandbox} (h : s.scope = .perPlugin) (key : String) :
    s.settingsKey key = CommandId.qualify s.identity.name key := by
  unfold settingsKey
  rw [h]
  rfl

/-- **No two plugins make the same key**, whatever the keys of their scripts are. -/
theorem settingsKey_ne {s : Sandbox} (h : s.HasOwnSettings) {name : String}
    (hname : '.' ∉ name.toList) (hne : s.identity.name ≠ name) (key own : String) :
    s.settingsKey key ≠ CommandId.qualify name own := by
  rw [settingsKey_eq h.scope]
  intro heq
  exact hne (CommandId.qualify_inj h.undotted hname heq).1

end Sandbox

/-! ## What a call asks for -/

namespace Action

/-- The script's key in an action on the settings. -/
def settingKey? : Action → Option String
  | .getSetting key | .setSetting key _ | .hasSetting key | .removeSetting key => some key
  | _ => none

/-- An action on settings in memory: what they are afterwards, and the results. -/
def onSettings (a : Action) (qualify : String → String) (d : Dict String) :
    Dict String × List HostValue :=
  match a with
  | .getSetting key => (d, [.ofText? (d.get? (qualify key))])
  | .setSetting key value => (d.insert (qualify key) value, [.boolean true])
  | .hasSetting key => (d, [.boolean (d.contains (qualify key))])
  | .removeSetting key => (d.erase (qualify key), [.boolean (d.contains (qualify key))])
  | _ => (d, [])

end Action

namespace World

/-- The capabilities of the settings table ask for actions on the settings. -/
theorem settingKey?_of_requestedAction {s : Sandbox} {c : Capability}
    (hc : c ∈ Capability.ofTable "settings") {args : List Value} {a : Action}
    (h : requestedAction s c args = .ok a) : ∃ key, a.settingKey? = some key := by
  obtain rfl : a.capability = c := capability_of_requestedAction h
  have htable := (List.mem_filter.1 hc).2
  cases a with
  | getSetting key => exact ⟨key, rfl⟩
  | setSetting key value => exact ⟨key, rfl⟩
  | hasSetting key => exact ⟨key, rfl⟩
  | removeSetting key => exact ⟨key, rfl⟩
  | log isError text => cases isError <;> simp [Action.capability, Capability.place] at htable
  | _ => simp [Action.capability, Capability.place] at htable

/-! ## What a call does -/

/-- All collaborators keep their settings in the memory that they share. -/
def SharesSettings (w : World) : Prop := ∀ id, (w.host id).settings = .memory

/-- With shared settings an action on them works on nothing else. -/
theorem run_of_sharesSettings {w : World} (hshared : w.SharesSettings) (id : SandboxId)
    {a : Action} {key : String} (ha : a.settingKey? = some key) :
    a.run w id = ({ w with settings := (a.onSettings (w.sandbox id).settingsKey w.settings).1 },
      (a.onSettings (w.sandbox id).settingsKey w.settings).2) := by
  have hmemory := hshared (w.sandbox id).host
  have hsettings : w.settingsOf (w.sandbox id).host = w.settings := by
    unfold settingsOf
    rw [hmemory]
  cases a with
  | getSetting | hasSetting =>
    simp only [Action.run, hsettings]
    rfl
  | setSetting =>
    simp only [Action.run, setSetting, hmemory]
    rfl
  | removeSetting =>
    simp only [Action.run, removeSetting, hmemory]
    rfl
  | _ => cases ha

end World

/-- A call of a settings capability from a sandbox, on settings in memory: what they are afterwards,
the heap of the sandbox with the answer in it, and the answer. -/
def Sandbox.callSettings (s : Sandbox) (c : Capability) (args : List Value) (d : Dict String) :
    Dict String × Heap × Results :=
  match World.requestedAction s c args with
  | .error e => (d, s.heap.addObject.2, .error (.value (.fault s.heap.addObject.1 e)))
  | .ok a =>
    let (d, results) := a.onSettings s.settingsKey d
    (d, (HostValue.importItems results s.heap).2, .ok (HostValue.importItems results s.heap).1)

/-- **A call is answered at once, and changes the heap of its sandbox and the settings.** -/
theorem World.serve_settings {w : World} (hshared : w.SharesSettings) (id : SandboxId)
    {c : Capability} (hc : c ∈ Capability.ofTable "settings") (args : List Value) :
    w.serve id (.call (.function (.capability c)) args)
      = some (({ w with
          settings := ((w.sandbox id).callSettings c args w.settings).1 } : World).modifySandbox id
            (fun s => { s with heap := ((w.sandbox id).callSettings c args w.settings).2.1 }),
          ((w.sandbox id).callSettings c args w.settings).2.2) := by
  unfold Sandbox.callSettings
  cases hrequested : requestedAction (w.sandbox id) c args with
  | error e =>
    simp only [serve, hrequested]
    rfl
  | ok a =>
    obtain ⟨key, hkey⟩ := settingKey?_of_requestedAction hc hrequested
    have hrun := run_of_sharesSettings hshared id hkey
    -- an action on settings calls no plugin
    have hserve : w.serve id (.call (.function (.capability c)) args)
        = some ((a.run w id).1.giveBack id (a.run w id).2) := by
      refine serve_of_requestedAction hrequested ?_
      rintro plugin function texts rfl
      cases hkey
    rw [hserve, hrun]
    rfl

/-! ## Whose settings matter -/

namespace Action

variable {a : Action} {name key : String}

/-- An action reads and writes below the name that its key is qualified with, -/
theorem onSettings_congr (ha : a.settingKey? = some key) {d e : Dict String}
    (h : d.SameBelow name e) :
    (a.onSettings (CommandId.qualify name) d).2 = (a.onSettings (CommandId.qualify name) e).2 ∧
    (a.onSettings (CommandId.qualify name) d).1.SameBelow name
      (a.onSettings (CommandId.qualify name) e).1 := by
  have hcontains : ∀ k, d.contains (CommandId.qualify name k)
      = e.contains (CommandId.qualify name k) := fun k => congrArg Option.isSome (h k)
  cases a with
  | getSetting k => exact ⟨congrArg (fun v => [HostValue.ofText? v]) (h k), h⟩
  | hasSetting k => exact ⟨congrArg (fun b => [HostValue.boolean b]) (hcontains k), h⟩
  | setSetting k value =>
    refine ⟨rfl, fun own => ?_⟩
    simp only [onSettings, Dict.get?_insert, h own]
  | removeSetting k =>
    refine ⟨congrArg (fun b => [HostValue.boolean b]) (hcontains k), fun own => ?_⟩
    simp only [onSettings, Dict.get?_erase, h own]
  | _ => cases ha

/-- and nowhere else. -/
theorem onSettings_others (ha : a.settingKey? = some key) {qualify : String → String} {k : String}
    (hk : ∀ key, qualify key ≠ k) (d : Dict String) :
    (a.onSettings qualify d).1.get? k = d.get? k := by
  cases a with
  | getSetting | hasSetting => rfl
  | setSetting key' value =>
    simp only [onSettings, Dict.get?_insert, if_neg (Ne.symm (hk key'))]
  | removeSetting key' =>
    simp only [onSettings, Dict.get?_erase, if_neg (Ne.symm (hk key'))]
  | _ => cases ha

end Action

namespace Sandbox

variable {s : Sandbox} {c : Capability}

/-- **The answer to a plugin depends on its own settings alone**, and so do these afterwards. -/
theorem callSettings_congr (hscope : s.scope = .perPlugin)
    (hc : c ∈ Capability.ofTable "settings") (args : List Value) {d e : Dict String}
    (h : d.SameBelow s.identity.name e) :
    (s.callSettings c args d).2 = (s.callSettings c args e).2 ∧
    (s.callSettings c args d).1.SameBelow s.identity.name (s.callSettings c args e).1 := by
  unfold callSettings
  cases hrequested : World.requestedAction s c args with
  | error fault => exact ⟨rfl, h⟩
  | ok a =>
    obtain ⟨key, hkey⟩ := World.settingKey?_of_requestedAction hc hrequested
    have hqualify : s.settingsKey = CommandId.qualify s.identity.name :=
      funext (settingsKey_eq hscope)
    obtain ⟨hresults, hsame⟩ := Action.onSettings_congr hkey h
    dsimp only
    rw [hqualify, hresults]
    exact ⟨rfl, hsame⟩

/-- **A call leaves the settings of all other plugins.** -/
theorem callSettings_others (h : s.HasOwnSettings) (hc : c ∈ Capability.ofTable "settings")
    (args : List Value) (d : Dict String) {name : String} (hname : '.' ∉ name.toList)
    (hne : s.identity.name ≠ name) : (s.callSettings c args d).1.SameBelow name d := by
  intro own
  unfold callSettings
  cases hrequested : World.requestedAction s c args with
  | error fault => rfl
  | ok a =>
    obtain ⟨key, hkey⟩ := World.settingKey?_of_requestedAction hc hrequested
    exact Action.onSettings_others hkey (fun key => settingsKey_ne h hname hne key own) d

end Sandbox

end EditorPlugins
