/-
  Which actions capabilities ask for.

  An action is asked for by one capability only (`Action.capability`), so what a call does is known
  from the function that was called, and the other way round.  What is asked for is carried out on
  the spot, unless it calls a plugin.

  Main statements: `capability_of_check`, `serve_of_requestedAction`.
-/
import EditorPlugins.Machine.Request
import EditorPlugins.Proofs.World.Operations

namespace EditorPlugins

open Script (Value)

/-- The capability that asks for an action. -/
def Action.capability : Action → Capability
  | describePlugin => .pluginInfo
  | getConfig => .pluginGetConfig
  | saveConfig _ => .pluginSaveConfig
  | getRootPath => .pluginGetRootPath
  | registerCommand .. => .pluginRegisterCommand
  | registerEvent .. => .pluginOn
  | callPlugin .. => .pluginCall
  | log isError _ => if isError then .pluginLogError else .pluginLog
  | message .. => .uiMessage
  | confirm .. => .uiConfirm
  | input .. => .uiInput
  | select .. => .uiSelect
  | getClipboard => .uiGetClipboard
  | setClipboard _ => .uiSetClipboard
  | read _ => .fsRead
  | write .. => .fsWrite
  | append .. => .fsAppend
  | «exists» _ => .fsExists
  | isFile _ => .fsIsFile
  | isDirectory _ => .fsIsDirectory
  | makeDirectory _ => .fsMkdir
  | list _ => .fsListdir
  | realPath _ => .fsRealpath
  | baseName _ => .fsBasename
  | dirName _ => .fsDirname
  | joinPaths _ => .fsJoin
  | getSetting _ => .settingsGet
  | setSetting .. => .settingsSet
  | hasSetting _ => .settingsHas
  | removeSetting _ => .settingsRemove
  | currentFile => .editorCurrentFile
  | openFile _ => .editorOpen
  | saveFile => .editorSave
  | closeFile _ => .editorClose

namespace Capability

/-- A table asks for one action at most, a command to be registered. -/
theorem commandAction_eq_ok {t : HostTable} {a : Action} (h : commandAction t = .ok a) :
    ∃ id title f, id ≠ "" ∧ a = .registerCommand id title f := by
  unfold commandAction at h
  split at h
  · split at h
    · cases h
    · rename_i id title f _ _ _ hid
      cases h
      refine ⟨id, title, f, ?_, rfl⟩
      rintro rfl
      exact hid rfl
  · cases h

theorem eventAction_eq_ok {a : Arguments} {e : Action} (h : eventAction a = .ok e) :
    ∃ name f, e = .registerEvent name f := by
  unfold eventAction at h
  split at h
  · obtain ⟨f, -, hf⟩ := Except.bind_eq_ok.1 h
    cases hf
    exact ⟨_, f, rfl⟩
  · cases h

/-- **An action is asked for by its capability and no other.** -/
theorem capability_of_check {c : Capability} {values : List HostValue} {a : Action}
    (h : c.check values = .ok a) : a.capability = c := by
  cases c with
  | pluginInfo | pluginGetConfig | pluginGetRootPath | uiGetClipboard | fsJoin | editorCurrentFile
  | editorSave =>
    cases h
    rfl
  | pluginRegisterCommand =>
    obtain ⟨t, -, ht⟩ := Except.bind_eq_ok.1 h
    obtain ⟨_, _, _, -, rfl⟩ := commandAction_eq_ok ht
    rfl
  | pluginOn =>
    obtain ⟨_, _, rfl⟩ := eventAction_eq_ok h
    rfl
  | pluginSaveConfig | pluginLog | pluginLogError | uiMessage | uiConfirm | uiSetClipboard | fsRead
  | fsExists | fsIsFile | fsIsDirectory | fsMkdir | fsListdir | fsRealpath | fsBasename | fsDirname
  | settingsGet | settingsHas | settingsRemove | editorOpen | editorClose =>
    obtain ⟨_, -, ha⟩ := Except.bind_eq_ok.1 h
    cases ha
    rfl
  | pluginCall | uiInput | uiSelect | fsWrite | fsAppend | settingsSet =>
    obtain ⟨_, -, hrest⟩ := Except.bind_eq_ok.1 h
    obtain ⟨_, -, ha⟩ := Except.bind_eq_ok.1 hrest
    cases ha
    rfl

end Capability

namespace World

/-- What is asked for came out of the arguments. -/
theorem requestedAction_eq_ok {s : Sandbox} {c : Capability} {args : List Value} {a : Action}
    (h : requestedAction s c args = .ok a) :
    ∃ values, exportArguments s args = .ok values ∧ c.check values = .ok a := by
  unfold requestedAction at h
  cases hrequest : (exportArguments s args).bind c.check with
  | error e => rw [hrequest] at h; cases h
  | ok a' =>
    rw [hrequest] at h
    cases h
    exact Except.bind_eq_ok.1 hrequest

/-- What the arguments ask for, once they are taken out of the sandbox, is asked for. -/
theorem requestedAction_of_check {s : Sandbox} {c : Capability} {args : List Value}
    {values : List HostValue} {a : Action} (hexport : exportArguments s args = .ok values)
    (hcheck : c.check values = .ok a) : requestedAction s c args = .ok a := by
  simp only [requestedAction, hexport, Except.bind, hcheck]

theorem capability_of_requestedAction {s : Sandbox} {c : Capability} {args : List Value}
    {a : Action} (h : requestedAction s c args = .ok a) : a.capability = c := by
  obtain ⟨values, -, hcheck⟩ := requestedAction_eq_ok h
  exact Capability.capability_of_check hcheck

/-- An action that calls no plugin is carried out on the spot. -/
theorem serve_of_requestedAction {w : World} {id : SandboxId} {c : Capability}
    {args : List Value} {a : Action} (h : requestedAction (w.sandbox id) c args = .ok a)
    (ha : ∀ plugin function texts, a ≠ .callPlugin plugin function texts) :
    w.serve id (.call (.function (.capability c)) args)
      = some ((a.run w id).1.giveBack id (a.run w id).2) := by
  simp only [serve, h]

end World

end EditorPlugins
