/-
  Commands, as they are listed and as they are run.

  A command has an id of its own, under which a plugin declares it in its manifest or registers a
  function for it, and a qualified id, by which the host knows it.  What is listed is put together
  from the manifest and the sandbox of each plugin; what is run is found by cutting a qualified id.
  The two agree because names have no points and no command has an empty id: manifests drop such
  commands, and registering one is refused.

  The function of a command is the one that was registered last in the sandbox of its plugin.  A
  reload makes a new sandbox, in which nothing has been registered.

  Main statements: `History.handler_latest`, that a sandbox holds what was registered last;
  `History.commands_agree`.
-/
import EditorPlugins.Proofs.Machine.Broadcast
import EditorPlugins.Proofs.Machine.Execution
import EditorPlugins.Proofs.Machine.History
import EditorPlugins.Proofs.Registry.LoadOrder
import EditorPlugins.Proofs.Registry.Manifests
import EditorPlugins.Proofs.Registry.Sandboxes

namespace EditorPlugins

open Script (Value Raised Program)

/-! ## Registering -/

/-- The handler that an action registers for a command. -/
def Action.registers? (a : Action) (command : String) : Option CommandHandler :=
  match a with
  | .registerCommand id title f => if id = command then some ⟨title, f⟩ else none
  | _ => none

/-- **A sandbox finds what is registered now, or else what it found before.** -/
theorem Sandbox.commands_registered (s : Sandbox) (a : Option Action) (command : String) :
    (s.registered a).commands.get? command
      = (a.bind (·.registers? command)).or (s.commands.get? command) := by
  cases a with
  | none => rfl
  | some a =>
    cases a with
    | registerCommand id title f =>
      show (s.commands.insert id ⟨title, f⟩).get? command
        = (if id = command then some ⟨title, f⟩ else none).or (s.commands.get? command)
      rw [Dict.get?_insert]
      by_cases hid : id = command
      · rw [if_pos hid.symm, if_pos hid]
        rfl
      · rw [if_neg (Ne.symm hid), if_neg hid]
        rfl
    | _ => rfl

/-- **No command is registered under an empty id.** -/
theorem Capability.ne_empty_of_check {c : Capability} {values : List HostValue} {id title : String}
    {f : Script.Function} (h : c.check values = .ok (.registerCommand id title f)) : id ≠ "" := by
  obtain rfl : pluginRegisterCommand = c := capability_of_check h
  obtain ⟨t, -, ht⟩ := Except.bind_eq_ok.1 h
  obtain ⟨_, _, _, hid, hcommand⟩ := commandAction_eq_ok ht
  cases hcommand
  exact hid

theorem Sandbox.registers?_empty {s : Sandbox} {q : Script.Request} {a : Action}
    (h : s.requested? q = some a) : a.registers? "" = none := by
  obtain ⟨c, args, -, hrequested⟩ := requested?_eq_some h
  obtain ⟨values, -, hcheck⟩ := World.requestedAction_eq_ok hrequested
  cases a with
  | registerCommand id title f => exact if_neg (Capability.ne_empty_of_check hcheck)
  | _ => rfl

namespace Machine

/-- The handler that code of a sandbox registers for a command in the next step. -/
def registered? (m : Machine) (id : SandboxId) (command : String) : Option CommandHandler :=
  (m.requested? id).bind (·.registers? command)

theorem registered?_empty (m : Machine) (id : SandboxId) : m.registered? id "" = none := by
  unfold registered?
  cases hrequested : m.requested? id with
  | none => rfl
  | some a =>
    unfold requested? at hrequested
    split at hrequested
    · split at hrequested
      · exact Sandbox.registers?_empty hrequested
      · cases hrequested
    · cases hrequested

/-- Code asks in a sandbox that is there. -/
theorem Reachable.lt_of_requested? {m : Machine} (hm : m.Reachable) {id : SandboxId} {a : Action}
    (h : m.requested? id = some a) : id < m.world.sandboxes.size := by
  unfold requested? at h
  split at h
  · rename_i j q next hfocus
    split at h
    · rename_i hj
      exact hj ▸ (hm.linked.focus j _ hfocus).1
    · cases h
  · cases h

/-- **A sandbox holds for each command the handler that was registered last.** -/
theorem History.handler_latest {past : List Machine} {m : Machine} (h : History past m) :
    ∀ id command, (m.world.sandbox id).commands.get? command
      = past.findSome? (·.registered? id command) := by
  refine h.preserve (I := fun past w => ∀ id command,
    (w.sandbox id).commands.get? command = past.findSome? (·.registered? id command))
    (fun _ _ _ _ _ _ => rfl) (fun past m hpast ih id command => ?_)
  rw [findSome?_step, ← ih]
  by_cases hold : id < m.world.sandboxes.size
  · obtain ⟨heap, hsandbox⟩ := sandbox_step hold
    rw [hsandbox]
    exact Sandbox.commands_registered ..
  · -- no code has run in this sandbox: it is still missing, or has just been made
    have hnothing : m.registered? id command = none := by
      unfold registered?
      cases hrequested : m.requested? id with
      | none => rfl
      | some a => exact absurd (hpast.reachable.lt_of_requested? hrequested) hold
    have hmissing : ∀ {w : World}, ¬ id < w.sandboxes.size → w.sandbox id = default := by
      intro w hnot
      unfold World.sandbox
      rw [Array.getElem?_eq_none (Nat.not_lt.1 hnot)]
      rfl
    rw [hnothing, hmissing hold]
    by_cases hnew : id < m.step.world.sandboxes.size
    · obtain ⟨i, host, d, heap, hsandbox⟩ := sandbox_of_new hold hnew
      rw [hsandbox]
      rfl
    · rw [hmissing hnew]
      rfl

end Machine

/-! ## Listing -/

namespace World

/-- A command of a plugin under its own id: it is declared in the manifest or has a handler. -/
structure IsCommand (m : Manifest) (s : Sandbox) (command : String) (c : CommandInfo) : Prop where
  id : c.id = CommandId.qualify c.plugin command
  declared : c.declared = m.commands.any (·.id == command)
  hasHandler : c.hasHandler = (s.commands.get? command).isSome
  known : c.declared = true ∨ c.hasHandler = true

theorem exists_of_mem_commandsOf {name : String} {m : Manifest} {s : Sandbox} {c : CommandInfo}
    (h : c ∈ commandsOf name m s) : c.plugin = name ∧ ∃ command, IsCommand m s command c := by
  unfold commandsOf at h
  -- first come the commands of the manifest, then those that are only registered
  rcases List.mem_append.1 h with hdeclared | hother
  · obtain ⟨d, hd, rfl⟩ := List.mem_map.1 hdeclared
    have hany : m.commands.any (·.id == d.id) = true :=
      List.any_eq_true.2 ⟨d, hd, beq_self_eq_true d.id⟩
    exact ⟨rfl, d.id, rfl, hany.symm, rfl, .inl rfl⟩
  · obtain ⟨⟨command, handler⟩, he, rfl⟩ := List.mem_map.1 hother
    obtain ⟨hmem, hnot⟩ := List.mem_filter.1 he
    have hhandler : s.commands.get? command = some handler := Dict.mem_entries.1 hmem
    have hnone : m.commands.any (·.id == command) = false := by simpa using hnot
    exact ⟨rfl, command, rfl, hnone.symm, by rw [hhandler]; rfl, .inr rfl⟩

/-- What has a handler is listed. -/
theorem mem_commandsOf_of_handler (name : String) (m : Manifest) {command : String} {s : Sandbox}
    {handler : CommandHandler} (h : s.commands.get? command = some handler) :
    ∃ c ∈ commandsOf name m s, c.id = CommandId.qualify name command ∧ c.hasHandler = true := by
  unfold commandsOf
  cases hdeclared : m.commands.any (·.id == command) with
  | true =>
    obtain ⟨d, hd, hid⟩ := List.any_eq_true.1 hdeclared
    obtain rfl : d.id = command := beq_iff_eq.1 hid
    refine ⟨_, List.mem_append.2 (.inl (List.mem_map.2 ⟨d, hd, rfl⟩)), rfl, ?_⟩
    rw [h]
    rfl
  | false =>
    have hkept : (command, handler) ∈ s.commands.entries.filter
        (fun e => !m.commands.any (fun c => c.id == e.1)) :=
      List.mem_filter.2 ⟨Dict.mem_entries.2 h, by rw [hdeclared]; rfl⟩
    exact ⟨_, List.mem_append.2 (.inr (List.mem_map.2 ⟨_, hkept, rfl⟩)), rfl, rfl⟩

theorem mem_commands {w : World} {c : CommandInfo} : c ∈ w.commands ↔
    ∃ name ∈ w.registry.loadOrder, ∃ record, w.registry.plugins.get? name = some record ∧
      c ∈ commandsOf name record.manifest (w.sandbox record.sandbox) := by
  unfold commands
  rw [List.mem_flatMap]
  refine exists_congr fun name => and_congr_right fun _ => ?_
  cases w.registry.plugins.get? name with
  | none => exact iff_of_false List.not_mem_nil (fun ⟨_, h, _⟩ => nomatch h)
  | some record =>
    exact ⟨fun h => ⟨record, rfl, h⟩, fun ⟨_, heq, h⟩ => Option.some.inj heq ▸ h⟩

/-! ## Running -/

section Resolving

variable {w : World} {id plugin command : String} {record : Record}
  (hsplit : CommandId.split? id = some (plugin, command))
  (hrecord : w.registry.plugins.get? plugin = some record) (henabled : record.enabled = true)

include hsplit hrecord henabled

/-- A command of an enabled plugin is resolved to its handler, -/
theorem resolveCommand_of_handler {handler : CommandHandler}
    (h : (w.sandbox record.sandbox).commands.get? command = some handler) :
    w.resolveCommand id = .ok (plugin, ⟨record.sandbox, handler.function⟩) := by
  simp only [resolveCommand, hsplit, resolve, hrecord, henabled, Bool.not_true, Bool.false_eq_true,
    if_false, h]
  rfl

/-- or not at all. -/
theorem resolveCommand_of_no_handler
    (h : (w.sandbox record.sandbox).commands.get? command = none) :
    w.resolveCommand id = .error (.commandNotFound id) := by
  simp only [resolveCommand, hsplit, resolve, hrecord, henabled, Bool.not_true, Bool.false_eq_true,
    if_false, h]
  rfl

end Resolving

end World

namespace Machine

/-- The host executes a command while some frames wait. -/
def executing (w : World) (id : String) (F : List Frame) : Machine :=
  ⟨w, .starting (.execute id), F⟩

/-- The answer to a command whose function has ended. -/
def commandAnswer : Except Raised (List Value) → Answer
  | .ok _ => .ok .nothing
  | .error e => .error (.scriptRaised e.message)

/-- Executing a command calls one function of a plugin, and nothing else. -/
structure Invokes (w : World) (id : String) (F : List Frame) (plugin : String)
    (sandbox : SandboxId) (f : Script.Function) : Prop where
  /-- The function is called with no arguments, and a frame waits for its end. -/
  starts : (executing w id F).step = ⟨w.modifyRegistry (·.enter plugin),
    .running sandbox (Script.callProgram (.function f) []), .dispatch plugin .command :: F⟩
  /-- The frame waits until the call has ended, or without end. -/
  waits : (∃ n r w', EndsAbove (.dispatch plugin .command :: F) (executing w id F).step n r w') ∨
    ∀ n, .dispatch plugin .command :: F <:+ (steps n (executing w id F).step).frames
  /-- When the call has ended the next step answers the command. -/
  answers : ∀ n r w', EndsAbove (.dispatch plugin .command :: F) (executing w id F).step n r w' →
    steps (n + 2) (executing w id F) = ⟨w'.handled plugin r, .answered (commandAnswer r), F⟩

theorem invokes_of_resolveCommand {w : World} {id plugin : String} {t : World.Target}
    (h : w.resolveCommand id = .ok (plugin, t)) (hidle : plugin ∉ w.registry.active)
    (F : List Frame) : Invokes w id F plugin t.sandbox t.function := by
  have hstep : (executing w id F).step = ⟨w.modifyRegistry (·.enter plugin),
      .running t.sandbox (Script.callProgram (.function t.function) []),
      .dispatch plugin .command :: F⟩ := by
    have hactive : ¬ w.registry.active.contains plugin = true := by simpa using hidle
    show start w (.execute id) F = _
    simp only [start, h, dispatch, if_neg hactive]
  have hframes : (executing w id F).step.frames = .dispatch plugin .command :: F :=
    congrArg Machine.frames hstep
  refine ⟨hstep, ends_or_lasts (hframes.symm ▸ List.suffix_refl _), ?_⟩
  intro n r w' hends
  show steps (n + 1) (executing w id F).step = _
  rw [steps_succ, hends.ended]
  cases r <;> rfl

theorem step_of_resolveCommand_error {w : World} {id : String} {e : Failure}
    (h : w.resolveCommand id = .error e) (F : List Frame) :
    (executing w id F).step = ⟨w, .answered (.error e), F⟩ := by
  show start w (.execute id) F = _
  simp only [start, h]
  rfl

/-- Code runs after the step only if the id is resolved. -/
theorem exists_of_executing_runs {w : World} {id : String} {F : List Frame} {sandbox : SandboxId}
    {p : Program (List Value)} (h : (executing w id F).step.focus = .running sandbox p) :
    ∃ plugin t, w.resolveCommand id = .ok (plugin, t) := by
  cases hresolve : w.resolveCommand id with
  | error e =>
    rw [step_of_resolveCommand_error hresolve] at h
    cases h
  | ok resolved => exact ⟨resolved.1, resolved.2, rfl⟩

/-! ## Listing and running -/

/-- What is known of a command that is listed: its own id, its plugin, and what executing it does.
The latest registration is looked for in the past of the machine. -/
structure Agrees (past : List Machine) (m : Machine) (c : CommandInfo) (command : String)
    (record : Record) : Prop where
  split : CommandId.split? c.id = some (c.plugin, command)
  loaded : m.world.registry.plugins.get? c.plugin = some record
  /-- The own id is one that the manifest declares or the plugin has registered. -/
  declared : c.declared = record.manifest.commands.any (·.id == command)
  hasHandler : c.hasHandler = (past.findSome? (·.registered? record.sandbox command)).isSome
  known : c.declared = true ∨ c.hasHandler = true
  /-- With a handler, executing the qualified id calls the function registered last. -/
  invokes : ∀ handler, past.findSome? (·.registered? record.sandbox command) = some handler →
    record.enabled = true → c.plugin ∉ m.world.registry.active →
      ∀ F, Invokes m.world c.id F c.plugin record.sandbox handler.function
  /-- Without one it is refused, and nothing happens. -/
  refused : c.hasHandler = false → record.enabled = true → ∀ F,
    (executing m.world c.id F).step = ⟨m.world, .answered (.error (.commandNotFound c.id)), F⟩

/-- An own id is not empty: manifests drop such commands, and no handler is registered for one. -/
theorem History.ne_empty_of_isCommand {past : List Machine} {m : Machine} (h : History past m)
    {name command : String} {record : Record} {c : CommandInfo}
    (hrecord : m.world.registry.plugins.get? name = some record)
    (hc : World.IsCommand record.manifest (m.world.sandbox record.sandbox) command c) :
    command ≠ "" := by
  rintro rfl
  -- what is listed is declared or registered, and neither is possible without an id
  rcases hc.known with hdeclared | hhandler
  · rw [hc.declared] at hdeclared
    obtain ⟨d, hd, hid⟩ := List.any_eq_true.1 hdeclared
    exact (h.reachable.manifests_sound hrecord).1.commands d hd (beq_iff_eq.1 hid)
  · have hnone : past.findSome? (·.registered? record.sandbox "") = none :=
      List.findSome?_eq_none_iff.2 fun m _ => registered?_empty m record.sandbox
    rw [hc.hasHandler, h.handler_latest, hnone] at hhandler
    cases hhandler

/-- **What is listed is what is run.**  In every reachable machine each command that is listed has
an id that splits into its plugin and its own id; when the plugin is enabled and not executing,
executing the command calls the function registered last under the own id in the plugin's sandbox,
once and with no arguments, or is refused when there is none.  And whatever id leads to a call when
it is executed, it is that of a listed command with a handler. -/
theorem History.commands_agree {past : List Machine} {m : Machine} (h : History past m) :
    (∀ c ∈ m.world.commands, ∃ command record, Agrees past m c command record) ∧
    ∀ id F sandbox p, (executing m.world id F).step.focus = .running sandbox p →
      ∃ c ∈ m.world.commands, c.id = id ∧ c.hasHandler = true := by
  constructor
  · intro c hc
    obtain ⟨name, -, record, hrecord, hmem⟩ := World.mem_commands.1 hc
    obtain ⟨rfl, command, hcommand⟩ := World.exists_of_mem_commandsOf hmem
    obtain ⟨hsound, hname⟩ := h.reachable.manifests_sound hrecord
    have hsplit : CommandId.split? c.id = some (c.plugin, command) := by
      rw [hcommand.id, ← hname]
      exact CommandId.split?_qualify hsound.name_ne_empty
        (h.ne_empty_of_isCommand hrecord hcommand) hsound.undotted
    -- what the sandbox finds under the own id is what was registered last
    have hlatest := h.handler_latest record.sandbox command
    refine ⟨command, record, hsplit, hrecord, hcommand.declared, ?_, hcommand.known, ?_, ?_⟩
    · rw [← hlatest]
      exact hcommand.hasHandler
    · intro handler hhandler henabled hidle F
      rw [← hlatest] at hhandler
      exact invokes_of_resolveCommand
        (World.resolveCommand_of_handler hsplit hrecord henabled hhandler) hidle F
    · intro hnone henabled F
      have hnothing : (m.world.sandbox record.sandbox).commands.get? command = none := by
        rw [hcommand.hasHandler] at hnone
        exact Option.isSome_eq_false_iff.1 hnone |> Option.isNone_iff_eq_none.1
      exact step_of_resolveCommand_error
        (World.resolveCommand_of_no_handler hsplit hrecord henabled hnothing) F
  · intro id F sandbox p hruns
    -- an id that leads to a call is resolved, so there is a handler under the own id
    obtain ⟨plugin, t, hresolve⟩ := exists_of_executing_runs hruns
    obtain ⟨command, record, hsplit, hrecord, -, -, hfunction⟩ :=
      World.resolveCommand_eq_ok hresolve
    obtain ⟨handler, hhandler, -⟩ := Option.map_eq_some_iff.1 hfunction
    obtain ⟨c, hc, hid, hhas⟩ :=
      World.mem_commandsOf_of_handler plugin record.manifest hhandler
    have hlisted := (h.reachable.listed plugin).2 (Dict.contains_iff.2 ⟨record, hrecord⟩)
    exact ⟨c, World.mem_commands.2 ⟨plugin, hlisted, record, hrecord, hc⟩,
      hid.trans (CommandId.qualify_of_split? hsplit).symm, hhas⟩

end Machine

/-- A plugin that registers a command. -/
def Scene.greeter : Scene :=
  [⟨"a", "a", [.array [.text "do", .object [("call", .text "plugin.registerCommand"), ("args",
    .array [.object [("k", .array [.array [.text "id", .text "hi"],
      .array [.text "title", .text ""],
      .array [.text "execute", .object [("fn", .array [])]]])]])]]]⟩]

/-- The command is listed with a handler, and executing it calls what was registered. -/
theorem greeter_called : ∃ past m c command record handler, Machine.History past m ∧
    c ∈ m.world.commands ∧ c.id = "a.hi" ∧ Machine.Agrees past m c command record ∧
    past.findSome? (·.registered? record.sandbox command) = some handler ∧
    Machine.Invokes m.world c.id [] c.plugin record.sandbox handler.function := by
  have hscene : (Scene.greeter.machine? [.load ⟨"a"⟩] (.execute "a.hi") 0).any (fun m =>
      m.world.registry.active.isEmpty && m.world.commands.any fun c =>
        (c.id == "a.hi" && c.hasHandler) &&
          (m.world.registry.plugins.get? c.plugin).any (·.enabled)) = true := by
    decide +kernel
  obtain ⟨m, -, hm, hq⟩ := Scene.reach hscene
  obtain ⟨hidle, hlisted⟩ := Bool.and_eq_true_iff.1 hq
  obtain ⟨c, hc, hkinds⟩ := List.any_eq_true.1 hlisted
  obtain ⟨hcommand, hloaded⟩ := Bool.and_eq_true_iff.1 hkinds
  obtain ⟨hid, hhandler⟩ := Bool.and_eq_true_iff.1 hcommand
  obtain ⟨past, hpast⟩ := hm.history
  obtain ⟨command, record, hagrees⟩ := hpast.commands_agree.1 c hc
  have hsome := hagrees.hasHandler
  rw [hhandler] at hsome
  obtain ⟨handler, hlatest⟩ := Option.isSome_iff_exists.1 hsome.symm
  have henabled : record.enabled = true := by
    rw [hagrees.loaded] at hloaded
    exact hloaded
  have hnot : c.plugin ∉ m.world.registry.active := by
    rw [List.isEmpty_iff.1 hidle]
    exact List.not_mem_nil
  exact ⟨past, m, c, command, record, handler, hpast, hc, beq_iff_eq.1 hid, hagrees, hlatest,
    hagrees.invokes handler hlatest henabled hnot []⟩

end EditorPlugins
