/-
  Settings of their own.

  Plugins call the settings capabilities in turn, in any order, and work on their tables between
  the calls.  When every plugin has a scope of its own, no plugin can tell from the answers that the
  others have called anything: they are those of the session in which only its own calls were made.
  The two runs agree, from call to call, on the sandbox of the plugin and on the settings below its
  name (`World.AgreeFor`); calls of the plugin are answered alike and keep this, calls of others
  keep it on one side.

  Main statement: `Reachable.settings_apart`.
-/
import EditorPlugins.Proofs.Machine.Execution
import EditorPlugins.Proofs.Machine.Scene
import EditorPlugins.Proofs.Registry.Manifests
import EditorPlugins.Proofs.Registry.Sandboxes
import EditorPlugins.Proofs.World.Settings

namespace EditorPlugins

open Script (Value Raised Heap Program Request)
open World (Results)

/-! ## Calls in turn -/

/-- A call of a settings capability by a loaded plugin. -/
structure SettingsCall where
  plugin : String
  capability : Capability
  args : List Value
  /-- What the plugin does to its tables before the call, which may have made some of the
  arguments. -/
  work : Heap → Heap

namespace SettingsCall

/-- What the code of the plugin asks for. -/
def request (c : SettingsCall) : Request := .call (.function (.capability c.capability)) c.args

/-- The capability is one of the settings, and the plugin is loaded. -/
structure Possible (w : World) (c : SettingsCall) : Prop where
  settings : c.capability ∈ Capability.ofTable "settings"
  loaded : w.registry.plugins.contains c.plugin = true

end SettingsCall

namespace World

/-- The world in which a plugin makes a call. -/
def beforeCall (w : World) (c : SettingsCall) (id : SandboxId) : World :=
  w.modifySandbox id fun s => { s with heap := c.work s.heap }

/-- The answer to a call, and the world afterwards. -/
def answerCall? (w : World) (c : SettingsCall) : Option (World × Results) :=
  (w.registry.plugins.get? c.plugin).bind fun record =>
    (w.beforeCall c record.sandbox).serve record.sandbox c.request

/-- The answers to calls one after the other, each with the plugin that gets it. -/
def answerCalls? : List SettingsCall → World → Option (World × List (String × Results))
  | [], w => some (w, [])
  | c :: rest, w => do
    let (w, r) ← w.answerCall? c
    let (w, answers) ← answerCalls? rest w
    some (w, (c.plugin, r) :: answers)

/-- Every loaded plugin has settings of its own in the memory that all share. -/
structure KeepsSettingsApart (w : World) : Prop where
  shared : w.SharesSettings
  sandbox : ∀ name record, w.registry.plugins.get? name = some record →
    record.sandbox < w.sandboxes.size ∧ (w.sandbox record.sandbox).identity.name = name ∧
      (w.sandbox record.sandbox).HasOwnSettings

/-- For a plugin the two worlds are the same: its sandbox, and its settings. -/
structure AgreeFor (plugin : String) (w w' : World) : Prop where
  plugins : w'.registry.plugins = w.registry.plugins
  sandbox : ∀ record, w.registry.plugins.get? plugin = some record →
    w'.sandbox record.sandbox = w.sandbox record.sandbox
  settings : w.settings.SameBelow plugin w'.settings

theorem AgreeFor.refl (plugin : String) (w : World) : AgreeFor plugin w w :=
  ⟨rfl, fun _ _ => rfl, fun _ => rfl⟩

/-- What a call does to the settings and the heap of its sandbox, with its answer. -/
def effect (w : World) (c : SettingsCall) (id : SandboxId) : Dict String × Heap × Results :=
  ((w.beforeCall c id).sandbox id).callSettings c.capability c.args w.settings

/-- The world after a call, by its heap and the settings. -/
def afterCall (w : World) (c : SettingsCall) (id : SandboxId) : World :=
  ({ w.beforeCall c id with settings := (w.effect c id).1 } : World).modifySandbox id
    (fun s => { s with heap := (w.effect c id).2.1 })

theorem sandbox_beforeCall {w : World} {id : SandboxId} (hid : id < w.sandboxes.size)
    (c : SettingsCall) :
    (w.beforeCall c id).sandbox id = { w.sandbox id with heap := c.work (w.sandbox id).heap } :=
  sandbox_modifySandbox _ _ hid

theorem size_beforeCall (w : World) (c : SettingsCall) (id : SandboxId) :
    (w.beforeCall c id).sandboxes.size = w.sandboxes.size :=
  Array.size_modify ..

theorem sandbox_afterCall {w : World} {id : SandboxId} (hid : id < w.sandboxes.size)
    (c : SettingsCall) :
    (w.afterCall c id).sandbox id = { w.sandbox id with heap := (w.effect c id).2.1 } := by
  have hsize := size_beforeCall w c id
  refine (sandbox_modifySandbox _ _ (hsize ▸ hid)).trans ?_
  exact congrArg (fun s : Sandbox => { s with heap := (w.effect c id).2.1 })
    (sandbox_beforeCall hid c)

theorem sandbox_afterCall_of_ne (w : World) (c : SettingsCall) {id j : SandboxId} (h : j ≠ id) :
    (w.afterCall c id).sandbox j = w.sandbox j :=
  (sandbox_modifySandbox_of_ne _ _ h).trans (sandbox_modifySandbox_of_ne _ _ h)

section OneCall

variable {w : World} (h : w.KeepsSettingsApart) {c : SettingsCall} {record : Record}
  (hrecord : w.registry.plugins.get? c.plugin = some record)

include h hrecord

/-- A call leaves everything that keeps the settings apart. -/
theorem keepsSettingsApart_afterCall : (w.afterCall c record.sandbox).KeepsSettingsApart := by
  obtain ⟨hlt, -, -⟩ := h.sandbox c.plugin record hrecord
  refine ⟨h.shared, fun name other hother => ?_⟩
  obtain ⟨hotherLt, hname, hown⟩ := h.sandbox name other hother
  have hsize : (w.afterCall c record.sandbox).sandboxes.size = w.sandboxes.size :=
    (Array.size_modify ..).trans (size_beforeCall w c record.sandbox)
  refine ⟨hsize ▸ hotherLt, ?_⟩
  by_cases hsame : other.sandbox = record.sandbox
  · rw [hsame] at hname hown ⊢
    rw [sandbox_afterCall hlt]
    exact ⟨hname, hown.scope, hown.undotted⟩
  · rw [sandbox_afterCall_of_ne w c hsame]
    exact ⟨hname, hown⟩

variable (hc : c.Possible w)

include hc

theorem answerCall?_eq :
    w.answerCall? c = some (w.afterCall c record.sandbox, (w.effect c record.sandbox).2.2) := by
  have hshared : (w.beforeCall c record.sandbox).SharesSettings := h.shared
  unfold answerCall?
  rw [hrecord]
  exact serve_settings hshared record.sandbox hc.settings c.args

/-- **A call of the plugin is answered alike** in two worlds that agree for it, and they still agree
afterwards. -/
theorem AgreeFor.own {w' : World} (h' : w'.KeepsSettingsApart) (hagree : w.AgreeFor c.plugin w') :
    (w'.effect c record.sandbox).2.2 = (w.effect c record.sandbox).2.2 ∧
    (w.afterCall c record.sandbox).AgreeFor c.plugin (w'.afterCall c record.sandbox) := by
  obtain ⟨hlt, hname, hown⟩ := h.sandbox c.plugin record hrecord
  obtain ⟨hlt', -, -⟩ := h'.sandbox c.plugin record (hagree.plugins ▸ hrecord)
  have hsandbox := hagree.sandbox record hrecord
  have hbefore : (w'.beforeCall c record.sandbox).sandbox record.sandbox
      = (w.beforeCall c record.sandbox).sandbox record.sandbox := by
    rw [sandbox_beforeCall hlt, sandbox_beforeCall hlt', hsandbox]
  have hcalled := sandbox_beforeCall hlt c
  have hcaller : ((w.beforeCall c record.sandbox).sandbox record.sandbox).identity.name
      = c.plugin := by
    rw [hcalled]
    exact hname
  obtain ⟨hanswer, hsettings⟩ := Sandbox.callSettings_congr
    (s := (w.beforeCall c record.sandbox).sandbox record.sandbox)
    (by rw [hcalled]; exact hown.scope) hc.settings c.args
    (by rw [hcaller]; exact hagree.settings)
  rw [hcaller] at hsettings
  have heffect : (w'.effect c record.sandbox).2 = (w.effect c record.sandbox).2 := by
    unfold effect
    rw [hbefore, hanswer]
  refine ⟨by rw [heffect], hagree.plugins, fun other hother => ?_, ?_⟩
  · -- a plugin has one record
    cases hrecord.symm.trans hother
    rw [sandbox_afterCall hlt, sandbox_afterCall hlt', hsandbox, heffect]
  · have hafter : (w'.afterCall c record.sandbox).settings
        = (((w.beforeCall c record.sandbox).sandbox record.sandbox).callSettings c.capability
          c.args w'.settings).1 := by
      rw [← hbefore]
      rfl
    rw [hafter]
    exact hsettings

/-- **A call of another plugin changes nothing for this one.** -/
theorem AgreeFor.other {w' : World} {plugin : String} (hne : c.plugin ≠ plugin)
    (hloaded : w.registry.plugins.contains plugin = true) (hagree : w.AgreeFor plugin w') :
    (w.afterCall c record.sandbox).AgreeFor plugin w' := by
  obtain ⟨hlt, hname, hown⟩ := h.sandbox c.plugin record hrecord
  obtain ⟨mine, hmine⟩ := Dict.contains_iff.1 hloaded
  obtain ⟨-, hplugin, hmineOwn⟩ := h.sandbox plugin mine hmine
  refine ⟨hagree.plugins, fun other hother => ?_, ?_⟩
  · -- sandboxes of plugins with different names are different
    obtain ⟨-, hotherName, -⟩ := h.sandbox plugin other hother
    have hapart : other.sandbox ≠ record.sandbox := by
      intro hsame
      rw [hsame, hname] at hotherName
      exact hne hotherName
    rw [sandbox_afterCall_of_ne w c hapart]
    exact hagree.sandbox other hother
  · have hcalled := sandbox_beforeCall hlt c
    have hcaller : ((w.beforeCall c record.sandbox).sandbox record.sandbox).identity.name
        ≠ plugin := by
      rw [hcalled]
      exact hname ▸ hne
    have hothers := Sandbox.callSettings_others
      (s := (w.beforeCall c record.sandbox).sandbox record.sandbox)
      (by rw [hcalled]; exact ⟨hown.scope, hown.undotted⟩) hc.settings c.args w.settings
      (hplugin ▸ hmineOwn.undotted) hcaller
    exact fun key => (hothers key).trans (hagree.settings key)

end OneCall

/-- The answers that a plugin gets. -/
def answersTo (plugin : String) (answers : List (String × Results)) : List (String × Results) :=
  answers.filter (·.1 == plugin)

theorem answerCalls?_cons {w w₁ w₂ : World} {c : SettingsCall} {r : Results}
    {rest : List SettingsCall} {answers : List (String × Results)}
    (hfirst : w.answerCall? c = some (w₁, r)) (hrest : answerCalls? rest w₁ = some (w₂, answers)) :
    answerCalls? (c :: rest) w = some (w₂, (c.plugin, r) :: answers) := by
  simp only [answerCalls?, hfirst, hrest, Option.bind_eq_bind, Option.bind_some]

/-- **Two runs that agree for a plugin give it the same answers**, the one with the calls of all
plugins and the one with its own calls only. -/
theorem answerCalls?_agree {plugin : String} (calls : List SettingsCall) {w w' : World}
    (h : w.KeepsSettingsApart) (h' : w'.KeepsSettingsApart)
    (hloaded : w.registry.plugins.contains plugin = true)
    (hcalls : ∀ c ∈ calls, c.Possible w) (hagree : w.AgreeFor plugin w') :
    ∃ w₁ answers w₂, answerCalls? calls w = some (w₁, answers) ∧
      answerCalls? (calls.filter (·.plugin == plugin)) w'
        = some (w₂, answersTo plugin answers) := by
  induction calls generalizing w w' with
  | nil => exact ⟨w, [], w', rfl, rfl⟩
  | cons c rest ih =>
    have hc := hcalls c List.mem_cons_self
    obtain ⟨record, hrecord⟩ := Dict.contains_iff.1 hc.loaded
    have hanswer := answerCall?_eq h hrecord hc
    have hnext := keepsSettingsApart_afterCall h hrecord
    have hrest : ∀ c' ∈ rest, c'.Possible (w.afterCall c record.sandbox) := fun c' hc' =>
      ⟨(hcalls c' (List.mem_cons_of_mem c hc')).settings,
        (hcalls c' (List.mem_cons_of_mem c hc')).loaded⟩
    by_cases hown : c.plugin = plugin
    · -- the call is made in both runs
      subst hown
      have hc' : c.Possible w' := ⟨hc.settings, hagree.plugins ▸ hc.loaded⟩
      have hrecord' : w'.registry.plugins.get? c.plugin = some record := hagree.plugins ▸ hrecord
      obtain ⟨hsame, hafter⟩ := hagree.own h hrecord hc h'
      have hanswer' := answerCall?_eq h' hrecord' hc'
      rw [hsame] at hanswer'
      obtain ⟨w₁, answers, w₂, hall, honly⟩ :=
        ih hnext (keepsSettingsApart_afterCall h' hrecord') hloaded hrest hafter
      have hmade : (c :: rest).filter (·.plugin == c.plugin)
          = c :: rest.filter (·.plugin == c.plugin) :=
        List.filter_cons_of_pos (beq_self_eq_true c.plugin)
      have hgets : ∀ r, answersTo c.plugin ((c.plugin, r) :: answers)
          = (c.plugin, r) :: answersTo c.plugin answers :=
        fun r => List.filter_cons_of_pos (beq_self_eq_true c.plugin)
      refine ⟨w₁, _, w₂, answerCalls?_cons hanswer hall, ?_⟩
      rw [hmade, hgets]
      exact answerCalls?_cons hanswer' honly
    · -- the call is made in one of the runs
      obtain ⟨w₁, answers, w₂, hall, honly⟩ :=
        ih hnext h' hloaded hrest (hagree.other h hrecord hc hown hloaded)
      have hnot : ¬ (c.plugin == plugin) = true := fun heq => hown (beq_iff_eq.1 heq)
      have hmade : (c :: rest).filter (·.plugin == plugin) = rest.filter (·.plugin == plugin) :=
        List.filter_cons_of_neg hnot
      have hgets : ∀ r, answersTo plugin ((c.plugin, r) :: answers) = answersTo plugin answers :=
        fun r => List.filter_cons_of_neg hnot
      refine ⟨w₁, _, w₂, answerCalls?_cons hanswer hall, ?_⟩
      rw [hmade, hgets]
      exact honly

/-- Whether a host keeps its settings in memory. -/
def hasSharedSettings (h : Host) : Bool :=
  match h.settings with
  | .memory => true
  | .file _ => false

/-- The collaborators that a session has made show whether all share their settings. -/
theorem sharesSettings_of_all {w : World} (h : w.hosts.all hasSharedSettings = true) :
    w.SharesSettings := by
  intro id
  unfold host
  cases hhost : w.hosts[id]? with
  | none => rfl
  | some host =>
    have hmemory := Array.all_eq_true'.1 h host (Array.mem_of_getElem? hhost)
    unfold hasSharedSettings at hmemory
    split at hmemory
    · assumption
    · cases hmemory

end World

namespace Machine

/-- The machine answers a call as the world does, and the code that has asked goes on. -/
theorem step_of_answerCall? {w w' : World} {c : SettingsCall} {r : Results} {record : Record}
    (hrecord : w.registry.plugins.get? c.plugin = some record)
    (h : w.answerCall? c = some (w', r))
    (next : Except Raised (List Value) → Program (List Value)) (F : List Frame) :
    step ⟨w.beforeCall c record.sandbox, .running record.sandbox (.ask c.request next), F⟩
      = ⟨w', .running record.sandbox (next r), F⟩ := by
  unfold World.answerCall? at h
  rw [hrecord] at h
  exact ask_of_serve (w.beforeCall c record.sandbox) record.sandbox next F h

/-! ## Reachable machines -/

/-- Every sandbox has the scope that the host is set up with. -/
theorem Reachable.scope_eq {m : Machine} (hm : m.Reachable) : ∀ id < m.world.sandboxes.size,
    (m.world.sandbox id).scope = m.world.registry.config.sandbox.scope := by
  refine hm.avoiding_nothing.preserve (P := fun w => ∀ id < w.sandboxes.size,
    (w.sandbox id).scope = w.registry.config.sandbox.scope)
    (fun _ _ _ _ _ hid => nomatch hid) (fun m _ _ ih id hid => ?_)
  rw [step_config]
  by_cases hold : id < m.world.sandboxes.size
  · obtain ⟨h, hsandbox⟩ := sandbox_step hold
    rw [hsandbox]
    exact (Sandbox.registered_scope _ _).trans (ih id hold)
  · obtain ⟨i, host, d, h, hsandbox⟩ := sandbox_of_new hold hid
    rw [hsandbox]
    rfl

theorem Reachable.keepsSettingsApart {m : Machine} (hm : m.Reachable)
    (hscope : m.world.registry.config.sandbox.scope = .perPlugin)
    (hshared : m.world.SharesSettings) : m.world.KeepsSettingsApart := by
  refine ⟨hshared, fun name record hrecord => ?_⟩
  obtain ⟨hlt, hidentity⟩ := Owned.ownsSandboxes hm.owned name record hrecord
  obtain ⟨hsound, hname⟩ := hm.manifests_sound hrecord
  have hname' : (m.world.sandbox record.sandbox).identity.name = name :=
    (Option.some.inj hidentity).symm
  refine ⟨hlt, hname', (hm.scope_eq _ hlt).trans hscope, ?_⟩
  rw [hname', ← hname]
  exact hsound.undotted

/-- **Plugins keep their settings apart.**  When each plugin has a scope of its own, in one memory
that all share, then for any calls of the settings capabilities by loaded plugins, in any order,
with any arguments and whatever the plugins do to their tables meanwhile, every call is answered,
and every plugin gets the answers that it gets when only its own calls are made. -/
theorem Reachable.settings_apart {m : Machine} (hm : m.Reachable)
    (hscope : m.world.registry.config.sandbox.scope = .perPlugin)
    (hshared : m.world.SharesSettings) {calls : List SettingsCall}
    (hcalls : ∀ c ∈ calls, c.Possible m.world) {plugin : String}
    (hloaded : m.world.registry.plugins.contains plugin = true) :
    ∃ w₁ answers w₂, World.answerCalls? calls m.world = some (w₁, answers) ∧
      World.answerCalls? (calls.filter (·.plugin == plugin)) m.world
        = some (w₂, World.answersTo plugin answers) :=
  have hapart := hm.keepsSettingsApart hscope hshared
  World.answerCalls?_agree calls hapart hapart hloaded hcalls (.refl plugin m.world)

end Machine

/-- Two plugins in a session with a scope for each. -/
def Scene.secluded : World :=
  .start (Scene.files [⟨"a", "a", []⟩, ⟨"b", "b", []⟩]) {}
    { Scene.config with sandbox := { scope := .perPlugin } } false

/-- Two plugins write under the same key, and one of them reads it. -/
def Scene.rivalCalls : List SettingsCall :=
  [⟨"a", .settingsSet, [.text "key", .text "mine"], id⟩,
    ⟨"b", .settingsSet, [.text "key", .text "yours"], id⟩,
    ⟨"a", .settingsGet, [.text "key"], id⟩]

/-- The plugin that reads gets what it gets without the other one. -/
theorem rivals_apart : ∃ m : Machine, m.Reachable ∧
    m.world.registry.config.sandbox.scope = .perPlugin ∧ m.world.SharesSettings ∧
    ∃ w₁ answers w₂, World.answerCalls? Scene.rivalCalls m.world = some (w₁, answers) ∧
      World.answerCalls? (Scene.rivalCalls.filter (·.plugin == "a")) m.world
        = some (w₂, World.answersTo "a" answers) := by
  have hsession : (Scene.secluded.performAll? 200 [.attach, .load ⟨"a"⟩, .load ⟨"b"⟩]).any (fun r =>
      (r.1.registry.plugins.contains "a" && r.1.registry.plugins.contains "b") &&
      (r.1.registry.config.sandbox.scope == .perPlugin &&
        r.1.hosts.all World.hasSharedSettings)) = true := by decide +kernel
  obtain ⟨⟨w, answers⟩, hall, hq⟩ := (Option.any_eq_true ..).1 hsession
  obtain ⟨hplugins, hsettings⟩ := Bool.and_eq_true_iff.1 hq
  obtain ⟨ha, hb⟩ := Bool.and_eq_true_iff.1 hplugins
  obtain ⟨hscope, hmemory⟩ := Bool.and_eq_true_iff.1 hsettings
  obtain ⟨m, hm, -, -, rfl⟩ := Machine.reachable_of_performAll?
    (.start (Scene.files [⟨"a", "a", []⟩, ⟨"b", "b", []⟩]) {}
      { Scene.config with sandbox := { scope := .perPlugin } } false .attach) hall
  have hshared := World.sharesSettings_of_all hmemory
  have hcalls : ∀ c ∈ Scene.rivalCalls, c.Possible m.world := by
    intro c hc
    simp only [Scene.rivalCalls, List.mem_cons, List.not_mem_nil, or_false] at hc
    rcases hc with rfl | rfl | rfl
    · exact ⟨by decide, ha⟩
    · exact ⟨by decide, hb⟩
    · exact ⟨by decide, ha⟩
  exact ⟨m, hm, beq_iff_eq.1 hscope, hshared,
    hm.settings_apart (beq_iff_eq.1 hscope) hshared hcalls ha⟩

end EditorPlugins
