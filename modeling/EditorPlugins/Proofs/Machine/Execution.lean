/-
  Whose code runs.

  Code runs because the entry script of a plugin or one of its functions was started, and the frame
  that was pushed then waits for it.  So the plugin that code belongs to can be read off the frames:
  it is that of the innermost such frame (`Frame.plugin?`).  Everything that waits above this frame,
  and the code that runs now, is code in the sandbox of this plugin.

  Main statement: `Reachable.linked`, by one lemma for each part of a step.
-/
import EditorPlugins.Proofs.Registry.ActiveStack

namespace EditorPlugins

open Script (Value Raised Program Request)

/-- The plugin whose entry script or function the innermost frames wait for. -/
def Frame.plugin? : List Frame → Option String
  | [] => none
  | .entry p :: _ => some p.manifest.name
  | .dispatch plugin _ :: _ => some plugin
  | .code .. :: F | .module .. :: F | .pluginCall .. :: F | .hostStep .. :: F | .scan .. :: F
  | .finalization :: F => plugin? F

/-- The sandbox is there, and it is that of the plugin. -/
def World.RunsFor (w : World) (plugin : Option String) (id : SandboxId) : Prop :=
  id < w.sandboxes.size ∧ plugin = some (w.sandbox id).identity.name

/-- Code that waits is in the sandbox of the plugin that the frames below it wait for. -/
def Frame.Linked (w : World) : List Frame → Prop
  | [] => True
  | .code _ id _ :: F | .module id _ :: F | .pluginCall id _ :: F | .hostStep id _ :: F =>
    w.RunsFor (plugin? F) id ∧ Linked w F
  | .entry _ :: F | .dispatch .. :: F | .scan .. :: F | .finalization :: F => Linked w F

/-- So is the code that runs now. -/
structure Machine.Linked (m : Machine) : Prop where
  frames : Frame.Linked m.world m.frames
  focus : ∀ id p, m.focus = .running id p → m.world.RunsFor (Frame.plugin? m.frames) id

theorem World.RunsFor.mono {w w' : World} {plugin : Option String} {id : SandboxId}
    (h : w.RunsFor plugin id) (hkeeps : w.KeepsSandboxes w') : w'.RunsFor plugin id := by
  refine ⟨Nat.lt_of_lt_of_le h.1 hkeeps.size, ?_⟩
  rw [hkeeps.identity id h.1]
  exact h.2

theorem Frame.Linked.mono {w w' : World} {F : List Frame} (h : Frame.Linked w F)
    (hkeeps : w.KeepsSandboxes w') : Frame.Linked w' F := by
  induction F with
  | nil => trivial
  | cons f F ih =>
    cases f with
    | code | module | pluginCall | hostStep => exact ⟨h.1.mono hkeeps, ih h.2⟩
    | entry | dispatch | scan | finalization => exact ih h

theorem World.ActsWithin.keepsSandboxes {w w' : World} {id : SandboxId}
    (h : w.ActsWithin id w') : w.KeepsSandboxes w' :=
  ⟨Nat.le_of_eq h.size.symm, fun j _ => h.identity_eq j⟩

/-- Every loaded plugin has its own sandbox. -/
def World.OwnsSandboxes (w : World) : Prop :=
  ∀ name record, w.registry.plugins.get? name = some record →
    w.RunsFor (some name) record.sandbox

theorem Owned.ownsSandboxes {w : World} {F : List Frame} (h : Owned ⟨w, F⟩) :
    w.OwnsSandboxes := by
  intro name record hrecord
  obtain ⟨hlt, hname, root, hidentity⟩ := h.record name record hrecord
  refine ⟨hlt, congrArg some ?_⟩
  rw [hidentity]
  exact hname.symm

namespace Machine

variable {w : World} {F : List Frame}

/-! ## The parts of a step -/

/-- Nothing runs: what waits is as it was. -/
theorem linked_of_still (h : Frame.Linked w F) {focus : Focus}
    (hfocus : ∀ id p, focus ≠ .running id p) : Linked ⟨w, focus, F⟩ :=
  ⟨h, fun id p heq => absurd heq (hfocus id p)⟩

theorem answer_linked (h : Frame.Linked w F) (a : Answer) : Linked (answer w a F) :=
  linked_of_still h (fun _ _ => nofun)

/-- Code of the plugin that is being waited for goes on. -/
theorem linked_of_running (h : Frame.Linked w F) {id : SandboxId}
    (hid : w.RunsFor (Frame.plugin? F) id) (p : Program (List Value)) :
    Linked ⟨w, .running id p, F⟩ := by
  refine ⟨h, fun j q heq => ?_⟩
  cases heq
  exact hid

section Code

variable {id : SandboxId} (h : Frame.Linked w F) (hid : w.RunsFor (Frame.plugin? F) id)
  (next : Except Raised (List Value) → Program (List Value))

include h hid

/-- Other code of the sandbox runs, above a module of the same sandbox if it is that module's. -/
theorem called_linked (p : Program (List Value)) {waiting : List Frame}
    (hwaiting : ∀ f ∈ waiting, ∃ name, f = .module id name) :
    Linked ⟨w, .running id p, waiting ++ .code (Frame.depth F + 1) id next :: F⟩ := by
  have hpushed : Frame.plugin? (waiting ++ .code (Frame.depth F + 1) id next :: F)
        = Frame.plugin? F ∧
      Frame.Linked w (waiting ++ .code (Frame.depth F + 1) id next :: F) := by
    induction waiting with
    | nil => exact ⟨rfl, hid, h⟩
    | cons f l ih =>
      obtain ⟨name, rfl⟩ := hwaiting f List.mem_cons_self
      obtain ⟨hplugin, hlinked⟩ := ih fun f hf => hwaiting f (List.mem_cons_of_mem _ hf)
      exact ⟨hplugin, hplugin.symm ▸ hid, hlinked⟩
  exact linked_of_running hpushed.2 (hpushed.1.symm ▸ hid) p

/-- Code that asks goes on, calls other code of its sandbox, or waits for an operation. -/
theorem ask_linked (q : Request) : Linked (ask w id q next F) := by
  cases hserve : w.serve id q with
  | some served =>
    obtain ⟨w', r⟩ := served
    have hkeeps := (World.serve_actsWithin hserve).keepsSandboxes
    rw [ask_of_serve w id next F hserve]
    exact linked_of_running (h.mono hkeeps) (hid.mono hkeeps) _
  | none =>
    obtain ⟨m, hask, hdeferred⟩ := exists_deferred w id next F hserve
    rw [hask]
    cases hdeferred with
    | resumed r => exact linked_of_running h hid _
    | called p waiting hwaiting => exact called_linked h hid next p hwaiting
    | calledPlugin =>
      exact linked_of_still (F := .pluginCall id next :: F) ⟨hid, h⟩ (fun _ _ => nofun)
    | hostActs => exact linked_of_still (F := .hostStep id next :: F) ⟨hid, h⟩ (fun _ _ => nofun)

end Code

/-- A function that is dispatched runs in the sandbox of its plugin. -/
theorem dispatch_linked (h : Frame.Linked w F) {plugin : String} {t : World.Target}
    (ht : w.RunsFor (some plugin) t.sandbox) (args : List Value) (purpose : Purpose) :
    Linked (dispatch w plugin t args purpose F) := by
  have hentered : w.KeepsSandboxes (w.modifyRegistry (·.enter plugin)) := .of_eq rfl
  unfold dispatch
  split
  · exact answer_linked h _
  · exact linked_of_running (F := .dispatch plugin purpose :: F) (h.mono hentered)
      (ht.mono hentered) _

theorem announce_linked (h : Frame.Linked w F) (howns : w.OwnsSandboxes) (e : Event)
    (plugins : List String) (soFar : Summary) : Linked (announce w e F plugins soFar) := by
  obtain ⟨m, hannounce, hannounced⟩ := exists_announced w e F plugins soFar
  rw [hannounce]
  cases hannounced with
  | finished soFar => exact linked_of_still h (fun _ _ => nofun)
  | @delivered plugin rest soFar record f hidle hrecord =>
    have hentered : w.KeepsSandboxes (w.modifyRegistry (·.enter plugin)) := .of_eq rfl
    exact linked_of_running (F := .dispatch plugin (.delivery e rest soFar) :: F)
      (h.mono hentered) ((howns plugin record hrecord).mono hentered) _

theorem endDispatch_linked (h : Frame.Linked w F) (howns : w.OwnsSandboxes) (plugin : String)
    (purpose : Purpose) (r : Except Raised (List Value)) :
    Linked (endDispatch w plugin purpose r F) := by
  -- remembering an error and leaving the stack change no sandbox of any record
  have hleft : Frame.Linked (w.modifyRegistry (·.leave plugin)) F := h.mono (.of_eq rfl)
  have hblamed : ∀ text, Frame.Linked
      ((w.modifyRegistry (·.blame plugin text)).modifyRegistry (·.leave plugin)) F :=
    fun text => h.mono (.of_eq rfl)
  have hownsBlamed : ∀ text, World.OwnsSandboxes
      ((w.modifyRegistry (·.blame plugin text)).modifyRegistry (·.leave plugin)) := by
    intro text name record hrecord
    have hrel := rel_same_modify w.registry.plugins plugin name
      (f := fun rec => { rec with lastError := some text }) (fun _ => ⟨rfl, rfl⟩)
    obtain ⟨old, hold, hsandbox, -⟩ := exists_of_rel_same
      ((show (w.registry.plugins.modify plugin _).get? name = some record from hrecord) ▸ hrel)
    rw [hsandbox]
    exact howns name old hold
  cases r with
  | ok vs =>
    cases purpose with
    | command | function => exact answer_linked hleft _
    | delivery event rest soFar => exact announce_linked hleft howns event rest _
  | error e =>
    cases purpose with
    | command | function => exact answer_linked (hblamed _) _
    | delivery event rest soFar => exact announce_linked (hblamed _) (hownsBlamed _) event rest _

/-- An entry script runs in the sandbox that was made for it. -/
theorem load_linked (h : Frame.Linked w F) (root : Path) : Linked (load w root F) := by
  unfold load
  cases hevent : w.loadEvent? root with
  | none =>
    rw [World.prepareLoad_of_no_event hevent]
    exact answer_linked h _
  | some e =>
    rcases World.begun_or_refused hevent with ⟨p, s, rfl⟩ | ⟨key, reason, rfl⟩
    · obtain ⟨-, -, -, hnumber, hidentity, block, hprepare⟩ := World.prepareLoad_of_begun hevent
      have hkeeps := w.addSandbox_keepsSandboxes s
      have hnew : (w.addSandbox s).1.RunsFor (some p.manifest.name) p.sandbox := by
        rw [hnumber]
        refine ⟨?_, congrArg some ?_⟩
        · show w.sandboxes.size < (w.sandboxes.push s).size
          rw [Array.size_push]
          exact Nat.lt_succ_self _
        · rw [World.sandbox_addSandbox, hidentity]
          rfl
      rw [hprepare]
      exact linked_of_running (F := .entry p :: F) (h.mono hkeeps) hnew _
    · rw [(World.prepareLoad_of_refused hevent).2]
      exact answer_linked (w := w.recordFailure key root reason) (h.mono (.of_eq rfl)) _

theorem scan_linked (h : Frame.Linked w F) (roots : List Path) (loaded : List String) :
    Linked (scan w F roots loaded) := by
  cases roots with
  | nil => exact answer_linked h _
  | cons root rest => exact linked_of_still (F := .scan rest loaded :: F) h (fun _ _ => nofun)

/-- An operation starts code of a plugin in the sandbox of this plugin. -/
theorem start_linked (h : Frame.Linked w F) (howns : w.OwnsSandboxes) (op : Operation) :
    Linked (start w op F) := by
  have hstill : ∀ (w' : World) {a : Answer}, w'.sandboxes = w.sandboxes →
      Linked (answer w' a F) := fun w' _ hsandboxes => answer_linked (h.mono (.of_eq hsandboxes)) _
  cases op with
  | load root => exact load_linked h root
  | reload plugin =>
    simp only [start]
    -- the load begins in what the unloading has left, with the same sandboxes
    have hunloaded := w.unload_sandboxes plugin
    split
    · exact hstill _ rfl
    · split
      · rename_i w' e hunload
        rw [hunload] at hunloaded
        exact hstill _ hunloaded
      · rename_i w' hunload
        rw [hunload] at hunloaded
        exact load_linked (h.mono (.of_eq hunloaded)) _
  | finalize =>
    simp only [start]
    split
    · exact hstill _ rfl
    · split
      · exact hstill _ rfl
      · exact announce_linked (F := .finalization :: F) h howns _ _ _
  | loadDirectory dir =>
    simp only [start]
    split
    · exact hstill _ rfl
    · exact scan_linked h _ _
  | execute id =>
    simp only [start]
    split
    · exact hstill _ rfl
    · rename_i plugin t hresolve
      obtain ⟨-, record, -, hrecord, -, hsandbox, -⟩ := World.resolveCommand_eq_ok hresolve
      exact dispatch_linked h (hsandbox ▸ howns plugin record hrecord) _ _
  | call plugin function args =>
    simp only [start]
    split
    · exact hstill _ rfl
    · rename_i t hresolve
      obtain ⟨record, hrecord, -, hsandbox, -⟩ := World.resolve_eq_ok hresolve
      exact dispatch_linked h (hsandbox ▸ howns plugin record hrecord) _ _
  | notify name filename =>
    simp only [start]
    split
    · exact hstill _ rfl
    · exact announce_linked h howns _ _ _
  | attach =>
    refine hstill w.attach.1 ?_
    unfold World.attach
    split <;> rfl
  | unload plugin => exact hstill _ (w.unload_sandboxes plugin)
  | enable plugin on =>
    refine hstill (w.enable plugin on).1 ?_
    rw [World.enable_eq]
    rfl
  | isInitialized | version | commands | info | config | storedConfig | settings | putSetting
  | sharedPlugins | describe | changeFiles | readFile => exact hstill _ rfl

theorem deliverResults_linked (h : Frame.Linked w F) (howns : w.OwnsSandboxes)
    (r : Except Raised (List Value)) : Linked (deliverResults w r F) := by
  cases F with
  | nil => exact linked_of_still h (fun _ _ => nofun)
  | cons f F =>
    cases f with
    | code depth id next => exact linked_of_running h.2 h.1 _
    | module id name =>
      cases r with
      | ok vs =>
        have hkeeps := (keepModule_actsWithin w id name vs).keepsSandboxes
        exact linked_of_still (h.2.mono hkeeps) (fun _ _ => nofun)
      | error e => exact linked_of_still h.2 (fun _ _ => nofun)
    | entry p =>
      have hbelow : Frame.Linked w F := h
      cases r with
      | ok vs =>
        exact answer_linked (w := (w.completeLoad p (.ok vs)).1) (hbelow.mono (.of_eq rfl)) _
      | error e =>
        exact answer_linked (w := (w.completeLoad p (.error e : Except Raised (List Value))).1)
          (hbelow.mono (.of_eq rfl)) _
    | dispatch plugin purpose =>
      have hbelow : Frame.Linked w F := h
      exact endDispatch_linked hbelow howns plugin purpose r
    | pluginCall | hostStep | scan | finalization => exact linked_of_still h (fun _ _ => nofun)

theorem deliverAnswer_linked (h : Frame.Linked w F) (a : Answer) :
    Linked (deliverAnswer w a F) := by
  cases F with
  | nil => exact answer_linked h a
  | cons f F =>
    cases f with
    | pluginCall id next => exact linked_of_running h.2 h.1 _
    | hostStep id next =>
      have hkeeps : w.KeepsSandboxes (w.observe (.hostActed a)) := .of_eq rfl
      exact linked_of_running (h.2.mono hkeeps) (h.1.mono hkeeps) _
    | scan rest loaded =>
      have hbelow : Frame.Linked w F := h
      simp only [deliverAnswer]
      split
      · exact scan_linked hbelow rest _
      · exact scan_linked hbelow rest _
    | finalization =>
      have hbelow : Frame.Linked w F := h
      exact answer_linked (hbelow.mono (.of_eq w.completeFinalize_sandboxes)) _
    | code | module | entry | dispatch => exact answer_linked h a

/-! ## Steps -/

theorem Linked.step {m : Machine} (h : m.Linked) (howns : m.world.OwnsSandboxes) :
    m.step.Linked := by
  obtain ⟨w, focus, F⟩ := m
  cases focus with
  | running id p =>
    cases p with
    | done vs => exact linked_of_still h.frames (fun _ _ => nofun)
    | raise r => exact linked_of_still h.frames (fun _ _ => nofun)
    | ask q next => exact ask_linked h.frames (h.focus id _ rfl) next q
  | ended r => exact deliverResults_linked h.frames howns r
  | starting op => exact start_linked h.frames howns op
  | answered a => exact deliverAnswer_linked h.frames a

/-- **Code runs in the sandbox of the plugin that the frames wait for**, in every reachable
machine. -/
theorem Reachable.linked {m : Machine} (h : m.Reachable) : m.Linked := by
  induction h with
  | start files profile config isShared op =>
    exact linked_of_still (F := []) trivial (fun _ _ => nofun)
  | step hm ih => exact ih.step (Owned.ownsSandboxes hm.owned)
  -- the next operation begins when nothing waits any more
  | next op _ _ _ => exact linked_of_still (F := []) trivial (fun _ _ => nofun)

end Machine

end EditorPlugins
