/-
  What code of one plugin can do to the others.

  Code asks its surroundings for things, one request after the other.  A request is answered within
  the sandbox that it came from, or it calls other code of the same sandbox, or it leaves the
  sandbox: it calls another plugin, or has the embedding application act on the registry
  (`Operation.actsOnPlugins`).  As long as it does not leave, whatever it is, an entry script, a
  module, a handler or a function, and whether it goes on, ends or raises, no other plugin changes.

  `CodeAbove` is the invariant that carries the induction: all that waits above the frames where the
  code began is code of its sandbox.  Main statement: `Reachable.isolated`.
-/
import EditorPlugins.Proofs.Machine.Broadcast
import EditorPlugins.Proofs.Machine.Execution
import EditorPlugins.Proofs.Machine.Saving

namespace EditorPlugins

open Script (Value Raised Program Request)

/-! ## Leaving a sandbox -/

/-- Whether an operation can run code, or change which plugins there are and what they are like.
The others only look at the registry, or concern the files and the settings of the host. -/
def Operation.actsOnPlugins : Operation → Bool
  | attach | finalize | load _ | loadDirectory _ | unload _ | reload _ | execute _ | call _ _ _
  | notify _ _ | enable _ _ => true
  | isInitialized | version _ | commands | info _ | config | storedConfig _ | settings
  | putSetting _ _ | sharedPlugins | describe | changeFiles _ | readFile _ => false

/-- A frame of code in a sandbox. -/
def Frame.IsCodeOf (id : SandboxId) (f : Frame) : Prop :=
  (∃ depth next, f = .code depth id next) ∨ (∃ name, f = .module id name) ∨
    ∃ next, f = .hostStep id next

namespace Machine

/-- The next step takes the machine out of the sandbox whose code is running: an operation that acts
on plugins starts, for a `plugin.call` or because the embedding application acts. -/
def leavesSandbox (m : Machine) : Bool :=
  match m.focus with
  | .starting op => op.actsOnPlugins
  | _ => false

/-- Above the frames of `base` there is code of one sandbox and nothing else. -/
inductive CodeAbove (id : SandboxId) (base : List Frame) : Machine → Prop where
  | running {w : World} {p : Program (List Value)} {new : List Frame}
      (h : ∀ f ∈ new, f.IsCodeOf id) : CodeAbove id base ⟨w, .running id p, new ++ base⟩
  | ended {w : World} {r : Except Raised (List Value)} {new : List Frame}
      (h : ∀ f ∈ new, f.IsCodeOf id) : CodeAbove id base ⟨w, .ended r, new ++ base⟩
  /-- The code waits for the embedding application. -/
  | starting {w : World} {op : Operation} {new : List Frame}
      {next : Except Raised (List Value) → Program (List Value)} (h : ∀ f ∈ new, f.IsCodeOf id) :
      CodeAbove id base ⟨w, .starting op, .hostStep id next :: (new ++ base)⟩
  | answered {w : World} {a : Answer} {new : List Frame}
      {next : Except Raised (List Value) → Program (List Value)} (h : ∀ f ∈ new, f.IsCodeOf id) :
      CodeAbove id base ⟨w, .answered a, .hostStep id next :: (new ++ base)⟩
  | leaving {w : World} {op : Operation} {frames : List Frame} (h : op.actsOnPlugins = true) :
      CodeAbove id base ⟨w, .starting op, frames⟩

/-! ## Steps within a sandbox -/

/-- **A request is answered within the sandbox, or other code of it is called, or it is about to
leave.** -/
theorem ask_codeAbove {w : World} {id : SandboxId} {base new : List Frame}
    (h : ∀ f ∈ new, f.IsCodeOf id) (next : Except Raised (List Value) → Program (List Value))
    (q : Request) :
    CodeAbove id base (ask w id q next (new ++ base)) ∧
      w.ActsWithin id (ask w id q next (new ++ base)).world := by
  cases hserve : w.serve id q with
  | some served =>
    obtain ⟨w', r⟩ := served
    rw [ask_of_serve w id next _ hserve]
    exact ⟨.running h, World.serve_actsWithin hserve⟩
  | none =>
    have hworld := ask_world w id next (new ++ base) hserve
    refine ⟨?_, by rw [hworld]; exact .refl id w⟩
    obtain ⟨m, hask, hdeferred⟩ := exists_deferred w id next (new ++ base) hserve
    rw [hask]
    cases hdeferred with
    | resumed r => exact .running h
    | called p waiting hwaiting =>
      -- all that is pushed is code of the sandbox, so the frames still end in the base
      have hnew : ∀ f ∈ waiting ++ .code (Frame.depth (new ++ base) + 1) id next :: new,
          f.IsCodeOf id := by
        intro f hf
        rcases List.mem_append.1 hf with hf | hf
        · exact .inr (.inl (hwaiting f hf))
        · rcases List.mem_cons.1 hf with rfl | hf
          · exact .inl ⟨_, _, rfl⟩
          · exact h f hf
      have hframes : waiting ++ .code (Frame.depth (new ++ base) + 1) id next :: (new ++ base)
          = (waiting ++ .code (Frame.depth (new ++ base) + 1) id next :: new) ++ base := by
        rw [List.append_assoc, List.cons_append]
      rw [hframes]
      exact .running hnew
    | calledPlugin => exact .leaving rfl
    | hostActs => exact .starting h

/-- An operation that does not act on plugins is answered at once. -/
theorem start_of_quiet (w : World) {op : Operation} (h : op.actsOnPlugins = false)
    (id : SandboxId) (F : List Frame) :
    ∃ w' a, start w op F = answer w' a F ∧ w.ActsWithin id w' := by
  cases op with
  | attach | finalize | load | loadDirectory | unload | reload | execute | call | notify
  | enable => cases h
  | putSetting key value => exact ⟨_, _, rfl, World.settings_actsWithin w id _⟩
  | changeFiles changes => exact ⟨_, _, rfl, World.files_actsWithin w id _⟩
  | isInitialized | version | commands | info | config | storedConfig | settings
  | sharedPlugins | describe | readFile => exact ⟨_, _, rfl, .refl id w⟩

/-- Results that no frame takes stay where they are: the frames are given up when one does. -/
theorem step_of_ended {w : World} {r : Except Raised (List Value)} {F : List Frame}
    (hlasts : F <:+ (step ⟨w, .ended r, F⟩).frames) :
    step ⟨w, .ended r, F⟩ = ⟨w, .ended r, F⟩ := by
  have hgone : ∀ {f : Frame} {G : List Frame}, ¬ f :: G <:+ G := fun hsuffix => by
    have hlength := hsuffix.length_le
    rw [List.length_cons] at hlength
    omega
  cases F with
  | nil => rfl
  | cons f G =>
    cases f with
    | code depth id next => exact absurd hlasts hgone
    | module id name => cases r <;> exact absurd hlasts hgone
    | entry p => cases r <;> exact absurd hlasts hgone
    | dispatch plugin purpose =>
      rcases dispatch_ends (m := ⟨w, .ended r, .dispatch plugin purpose :: G⟩) rfl rfl with
        hframes | ⟨next, purpose', hframes, hnew⟩
      · rw [hframes] at hlasts
        exact absurd hlasts hgone
      · -- the frame of the next plugin is another one
        have heq := hlasts.eq_of_length (by rw [hframes, List.length_cons, List.length_cons])
        exact absurd (heq ▸ List.suffix_refl _) hnew
    | pluginCall | hostStep | scan | finalization => rfl

/-- **A step of code that does not leave its sandbox stays within it.** -/
theorem CodeAbove.step {id : SandboxId} {base : List Frame} {m : Machine}
    (h : CodeAbove id base m) (hstays : m.leavesSandbox = false)
    (hlasts : base <:+ m.step.frames) :
    CodeAbove id base m.step ∧ m.world.ActsWithin id m.step.world := by
  cases h with
  | @running w p new hnew =>
    cases p with
    | done vs => exact ⟨.ended hnew, .refl id w⟩
    | raise r => exact ⟨.ended hnew, .refl id w⟩
    | ask q next => exact ask_codeAbove hnew next q
  | @ended w r new hnew =>
    cases new with
    | nil =>
      -- the code as a whole has ended: the base would have to give up a frame
      have hstep : Machine.step ⟨w, .ended r, base⟩ = ⟨w, .ended r, base⟩ := step_of_ended hlasts
      rw [List.nil_append, hstep]
      exact ⟨.ended hnew, .refl id w⟩
    | cons f new =>
      have hrest : ∀ g ∈ new, g.IsCodeOf id := fun g hg => hnew g (List.mem_cons_of_mem f hg)
      -- the code that called takes the results, in the same sandbox
      rcases hnew f List.mem_cons_self with ⟨depth, next, rfl⟩ | ⟨name, rfl⟩ | ⟨next, rfl⟩
      · exact ⟨.running hrest, .refl id w⟩
      · cases r with
        | ok vs => exact ⟨.ended hrest, keepModule_actsWithin w id name vs⟩
        | error e => exact ⟨.ended hrest, .refl id w⟩
      · exact ⟨.ended hnew, .refl id w⟩
  | @starting w op new next hnew =>
    obtain ⟨w', a, hstart, hacts⟩ := start_of_quiet w hstays id (.hostStep id next :: (new ++ base))
    have hstep : Machine.step ⟨w, .starting op, .hostStep id next :: (new ++ base)⟩
        = ⟨w', .answered a, .hostStep id next :: (new ++ base)⟩ := hstart
    rw [hstep]
    exact ⟨.answered hnew, hacts⟩
  | @answered w a new next hnew => exact ⟨.running hnew, World.observe_actsWithin w id _⟩
  | leaving hleaves => exact absurd (hleaves.symm.trans hstays) Bool.noConfusion

/-- The code that is running above some frames goes on for so many steps without giving these frames
up and without leaving its sandbox. -/
structure StaysInSandbox (m : Machine) (n : Nat) : Prop where
  lasts : ∀ j ≤ n, m.frames <:+ (steps j m).frames
  stays : ∀ j < n, (steps j m).leavesSandbox = false

/-- Code that runs hands nothing to the frames. -/
theorem frames_of_running {m : Machine} {id : SandboxId} {p : Program (List Value)}
    (h : m.focus = .running id p) : m.frames <:+ m.step.frames := by
  obtain ⟨w, focus, F⟩ := m
  cases h
  cases p with
  | done | raise => exact List.suffix_refl _
  | ask q next => exact (ask_onto w id q next F).suffix

/-- The sandbox whose code is running. -/
def running? (m : Machine) : Option SandboxId :=
  match m.focus with
  | .running id _ => some id
  | .ended _ | .starting _ | .answered _ => none

/-- What the code has ended with, if it failed. -/
def raised? (m : Machine) : Option Raised :=
  match m.focus with
  | .ended (.error e) => some e
  | .ended (.ok _) | .running _ _ | .starting _ | .answered _ => none

theorem focus_of_running? {m : Machine} {id : SandboxId} (h : m.running? = some id) :
    ∃ p, m.focus = .running id p := by
  unfold running? at h
  split at h
  · rename_i hfocus
    cases h
    exact ⟨_, hfocus⟩
  all_goals cases h

theorem focus_of_raised? {m : Machine} {e : Raised} (h : m.raised? = some e) :
    m.focus = .ended (.error e) := by
  unfold raised? at h
  split at h
  · rename_i hfocus
    cases h
    exact hfocus
  all_goals cases h

/-- Code that runs on and on never waits for an operation, and gives no frames up. -/
theorem StaysInSandbox.of_running? {m : Machine} {n : Nat}
    (h : ∀ j < n, ∃ id, (steps j m).running? = some id) : m.StaysInSandbox n := by
  have hfocus : ∀ j < n, ∃ id p, (steps j m).focus = .running id p := fun j hj =>
    (h j hj).imp fun _ => focus_of_running?
  refine ⟨fun j hj => ?_, fun j hj => ?_⟩
  · induction j with
    | zero => exact List.suffix_refl _
    | succ j ih =>
      obtain ⟨id, p, hrunning⟩ := hfocus j hj
      rw [steps_succ]
      exact (ih (Nat.le_of_succ_le hj)).trans (frames_of_running hrunning)
  · obtain ⟨id, p, hrunning⟩ := hfocus j hj
    unfold leavesSandbox
    rw [hrunning]

theorem CodeAbove.steps {id : SandboxId} {base : List Frame} {m : Machine}
    (h : CodeAbove id base m) (n : Nat) (hlasts : ∀ j ≤ n, base <:+ (Machine.steps j m).frames)
    (hstays : ∀ j < n, (Machine.steps j m).leavesSandbox = false) :
    m.world.ActsWithin id (Machine.steps n m).world := by
  induction n generalizing m with
  | zero => exact .refl id m.world
  | succ n ih =>
    -- the first step keeps the invariant, and the rest is the run of the next machine
    obtain ⟨hnext, hone⟩ := h.step (hstays 0 (Nat.succ_pos n)) (hlasts 1 (Nat.le_add_left 1 n))
    exact hone.trans (ih hnext (fun j hj => hlasts (j + 1) (Nat.succ_le_succ hj))
      (fun j hj => hstays (j + 1) (Nat.succ_lt_succ hj)))

/-! ## The end of the code -/

/-- Announcing an event changes no record and not the order of the plugins. -/
theorem announce_plugins (w : World) (e : Event) (F : List Frame) (plugins : List String)
    (soFar : Summary) :
    (announce w e F plugins soFar).world.registry.plugins = w.registry.plugins ∧
    (announce w e F plugins soFar).world.registry.loadOrder = w.registry.loadOrder := by
  obtain ⟨m, hannounce, hannounced⟩ := exists_announced w e F plugins soFar
  rw [hannounce]
  cases hannounced <;> exact ⟨rfl, rfl⟩

end Machine

/-- A loaded plugin is as it was: its record, with whether it is enabled and its last error, and its
sandbox, with its globals, loaded modules, handlers and configuration. -/
structure World.KeepsPlugin (w w' : World) (name : String) (record : Record) : Prop where
  loaded : w'.registry.plugins.get? name = some record
  sandbox : w'.sandbox record.sandbox = w.sandbox record.sandbox

namespace Machine

theorem endDispatch_keepsPlugin {w : World} {name plugin : String} {record : Record}
    (hrecord : w.registry.plugins.get? name = some record) (hne : name ≠ plugin)
    (purpose : Purpose) (r : Except Raised (List Value)) (F : List Frame) :
    w.KeepsPlugin (endDispatch w plugin purpose r F).world name record := by
  refine ⟨?_, World.sandbox_congr (endDispatch_sandboxes w plugin purpose r F) record.sandbox⟩
  have hblamed : ∀ text, (w.registry.blame plugin text).plugins.get? name = some record := by
    intro text
    refine (Dict.get?_modify ..).trans ?_
    rw [if_neg hne]
    exact hrecord
  have hannounced : ∀ {w' : World}, w'.registry.plugins.get? name = some record →
      ∀ e rest soFar, (announce w' e F rest soFar).world.registry.plugins.get? name
        = some record := fun h e rest soFar =>
    (congrArg (·.get? name) (announce_plugins _ e F rest soFar).1).trans h
  cases r with
  | ok vs =>
    cases purpose with
    | command | function => exact hrecord
    | delivery event rest soFar =>
      have hleft : (w.modifyRegistry (·.leave plugin)).registry.plugins.get? name = some record :=
        hrecord
      exact hannounced hleft event rest _
  | error e =>
    cases purpose with
    | command | function => exact hblamed _
    | delivery event rest soFar =>
      have hleft : ∀ text, ((w.modifyRegistry (·.blame plugin text)).modifyRegistry
          (·.leave plugin)).registry.plugins.get? name = some record := hblamed
      exact hannounced (hleft _) event rest _

theorem endDispatch_loadOrder (w : World) (plugin : String) (purpose : Purpose)
    (r : Except Raised (List Value)) (F : List Frame) :
    (endDispatch w plugin purpose r F).world.registry.loadOrder = w.registry.loadOrder := by
  cases r <;> cases purpose <;> first | rfl | exact (announce_plugins ..).2

/-- **When code ends, its results or its error concern its own plugin only**: an error is remembered
for this plugin, the values of a module are kept in its sandbox, and if it was being loaded it comes
behind the others. -/
theorem step_of_ended_keepsPlugin {m : Machine} (hlinked : m.Linked)
    {r : Except Raised (List Value)} (hended : m.focus = .ended r) {name : String} {record : Record}
    (hrecord : m.world.registry.plugins.get? name = some record)
    (howner : (m.world.sandbox record.sandbox).identity.name = name)
    (hother : Frame.plugin? m.frames ≠ some name) :
    m.world.KeepsPlugin m.step.world name record := by
  obtain ⟨w, focus, F⟩ := m
  cases hended
  cases F with
  | nil => exact ⟨hrecord, rfl⟩
  | cons f G =>
    -- the frame on top tells whose code has ended, and it is not that of this plugin
    cases f with
    | module id module =>
      cases r with
      | ok vs =>
        have hid : w.RunsFor (Frame.plugin? G) id := hlinked.frames.1
        have hapart : record.sandbox ≠ id := by
          rintro rfl
          exact hother (hid.2.trans (congrArg some howner))
        exact ⟨hrecord, (keepModule_actsWithin w id module vs).others _ hapart⟩
      | error e => exact ⟨hrecord, rfl⟩
    | entry p =>
      have hne : name ≠ p.manifest.name := fun heq => hother (congrArg some heq.symm)
      cases r with
      | ok vs => exact ⟨(Dict.get?_insert ..).trans ((if_neg hne).trans hrecord), rfl⟩
      | error e => exact ⟨hrecord, rfl⟩
    | dispatch plugin purpose =>
      have hne : name ≠ plugin := fun heq => hother (congrArg some heq.symm)
      exact endDispatch_keepsPlugin hrecord hne purpose r G
    | code | pluginCall | hostStep | scan | finalization => exact ⟨hrecord, rfl⟩

/-- The order of the plugins that are loaded stays; one more may come behind them. -/
theorem loadOrder_of_ended {m : Machine} {r : Except Raised (List Value)}
    (hended : m.focus = .ended r) :
    m.world.registry.loadOrder <+: m.step.world.registry.loadOrder := by
  obtain ⟨w, focus, F⟩ := m
  cases hended
  cases F with
  | nil => exact List.prefix_refl _
  | cons f G =>
    cases f with
    | module | entry => cases r <;> first | exact List.prefix_refl _ | exact List.prefix_append ..
    | dispatch plugin purpose =>
      have horder := endDispatch_loadOrder w plugin purpose r G
      exact horder.symm ▸ List.prefix_refl _
    | code | pluginCall | hostStep | scan | finalization => exact List.prefix_refl _

/-- **Plugins are isolated from each other.**  Let code run in the sandbox of a plugin, for as many
steps as it calls no other plugin and has no operation act on plugins.  Every other loaded plugin
has another sandbox; every loaded plugin whose sandbox is another one is as it was, and so is the
load order.  If the code has ended by then, with results or with an error, every other plugin is as
it was also after the step that takes note of the end, at its position in an order that can only
have got longer. -/
theorem Reachable.isolated {m : Machine} (hm : m.Reachable) {id : SandboxId}
    {p : Program (List Value)} (hrunning : m.focus = .running id p) {n : Nat}
    (hstays : m.StaysInSandbox n) :
    Frame.plugin? m.frames = some (m.world.sandbox id).identity.name ∧
    (∀ name record, m.world.registry.plugins.get? name = some record →
      name ≠ (m.world.sandbox id).identity.name → record.sandbox ≠ id) ∧
    (∀ name record, m.world.registry.plugins.get? name = some record → record.sandbox ≠ id →
      m.world.KeepsPlugin (Machine.steps n m).world name record) ∧
    (Machine.steps n m).world.registry.loadOrder = m.world.registry.loadOrder ∧
    ∀ r, (Machine.steps n m).focus = .ended r → (Machine.steps n m).frames = m.frames →
      (∀ name record, m.world.registry.plugins.get? name = some record →
        name ≠ (m.world.sandbox id).identity.name →
        m.world.KeepsPlugin (Machine.steps (n + 1) m).world name record) ∧
      m.world.registry.loadOrder <+: (Machine.steps (n + 1) m).world.registry.loadOrder := by
  have hplugin := (hm.linked.focus id p hrunning).2
  have hcode : CodeAbove id m.frames m := by
    obtain ⟨w, focus, F⟩ := m
    cases hrunning
    have hnothing : ∀ f ∈ ([] : List Frame), f.IsCodeOf id := List.forall_mem_nil _
    exact .running hnothing
  have hacts := hcode.steps n hstays.lasts hstays.stays
  have hkeeps : ∀ name record, m.world.registry.plugins.get? name = some record →
      record.sandbox ≠ id → m.world.KeepsPlugin (Machine.steps n m).world name record := by
    intro name record hrecord hapart
    refine ⟨?_, hacts.others _ hapart⟩
    rw [hacts.registry]
    exact hrecord
  have howner : ∀ name record, m.world.registry.plugins.get? name = some record →
      (m.world.sandbox record.sandbox).identity.name = name := by
    intro name record hrecord
    have hrunsFor := Owned.ownsSandboxes hm.owned name record hrecord
    exact (Option.some.inj hrunsFor.2).symm
  have hapart : ∀ name record, m.world.registry.plugins.get? name = some record →
      name ≠ (m.world.sandbox id).identity.name → record.sandbox ≠ id := by
    rintro name record hrecord hother rfl
    exact hother (howner name record hrecord).symm
  refine ⟨hplugin, hapart, hkeeps, by rw [hacts.registry], fun r hended hframes => ⟨?_, ?_⟩⟩
  · intro name record hrecord hother
    obtain ⟨hloaded, hsandbox⟩ := hkeeps name record hrecord (hapart name record hrecord hother)
    have hend := step_of_ended_keepsPlugin (hm.steps n).linked hended hloaded
      (by rw [hsandbox]; exact howner name record hrecord)
      (by rw [hframes, hplugin]; exact fun heq => hother (Option.some.inj heq).symm)
    rw [steps_succ]
    exact ⟨hend.loaded, hend.sandbox.trans hsandbox⟩
  · rw [steps_succ, ← show (Machine.steps n m).world.registry.loadOrder
      = m.world.registry.loadOrder by rw [hacts.registry]]
    exact loadOrder_of_ended hended

end Machine

/-- Two plugins.  The second registers a handler and then fails. -/
def Scene.neighbours : Scene :=
  [⟨"a", "a", []⟩, ⟨"b", "b", [.array [.text "do", .object [("call", .text "plugin.on"), ("args",
    .array [.text "ready", .object [("fn", .array [])]])]], .array [.text "error", .text "no"]]⟩]

/-- The first plugin is as it was while the second one is loaded, and after it failed. -/
theorem neighbour_untouched : ∃ m record n,
    Scene.neighbours.machine? [.load ⟨"a"⟩] (.load ⟨"b"⟩) 1 = some m ∧ m.Reachable ∧
    m.StaysInSandbox n ∧ (∃ e, (Machine.steps n m).focus = .ended (.error e)) ∧
    m.world.registry.plugins.get? "a" = some record ∧
    m.world.KeepsPlugin (Machine.steps (n + 1) m).world "a" record := by
  have hscene : (Scene.neighbours.machine? [.load ⟨"a"⟩] (.load ⟨"b"⟩) 1).any (fun m =>
      ((List.range 4).all (fun j => (Machine.steps j m).running? == some 1) &&
        (m.world.sandbox 1).identity.name == "b") &&
      ((Machine.steps 4 m).raised?.isSome && (Machine.steps 4 m).frames.length == m.frames.length &&
        (m.world.registry.plugins.get? "a").isSome)) = true := by
    decide +kernel
  obtain ⟨m, hmachine, hm, hq⟩ := Scene.reach hscene
  obtain ⟨hbegins, hends⟩ := Bool.and_eq_true_iff.1 hq
  obtain ⟨hruns, hname⟩ := Bool.and_eq_true_iff.1 hbegins
  obtain ⟨hfails, hloaded⟩ := Bool.and_eq_true_iff.1 hends
  obtain ⟨hraised, hlength⟩ := Bool.and_eq_true_iff.1 hfails
  have hrunning : ∀ j < 4, (Machine.steps j m).running? = some 1 := fun j hj =>
    beq_iff_eq.1 (List.all_eq_true.1 hruns j (List.mem_range.2 hj))
  have hstays : m.StaysInSandbox 4 := .of_running? fun j hj => ⟨1, hrunning j hj⟩
  obtain ⟨p, hfocus⟩ := Machine.focus_of_running? (hrunning 0 (Nat.succ_pos 3))
  obtain ⟨e, he⟩ := Option.isSome_iff_exists.1 hraised
  obtain ⟨record, hrecord⟩ := Option.isSome_iff_exists.1 hloaded
  have hframes := (hstays.lasts 4 (Nat.le_refl 4)).eq_of_length (beq_iff_eq.1 hlength).symm
  obtain ⟨-, -, -, -, hafter⟩ := hm.isolated hfocus hstays
  have hended := Machine.focus_of_raised? he
  exact ⟨m, record, 4, hmachine, hm, hstays, ⟨e, hended⟩, hrecord,
    (hafter _ hended hframes.symm).1 "a" record hrecord (by rw [beq_iff_eq.1 hname]; decide)⟩

end EditorPlugins
