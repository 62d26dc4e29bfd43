/-
  Runs of the program, machine by machine.

  A run performs operations one after the other, and an operation is so many steps of the machine.
  The machines from which these steps are taken are the trail of the run: what holds of the first
  of them and is kept by the steps on the trail holds all along it (`trail_preserve`).

  In a run of the program nothing embeds the registry, so operations begin in few ways: those of the
  run itself when nothing waits, loads of the folders that a scan has found, and calls from one
  plugin to another.  The run shuts down in the end, and nothing else does (`Proceeds`).

  Main statements: `Proceeds.step`, and `exists_clears`, that a run which is reported has cleared
  its registry at the end of its trail.
-/
import EditorPlugins.CommandLine.Run
import EditorPlugins.Proofs.Machine.Stores

namespace EditorPlugins

open Script (Value Raised Program Request)

namespace Machine

/-! ## Trails -/

/-- The machines from which steps are taken until nothing is left to do, at most so many. -/
def trail : Nat → Machine → List Machine
  | 0, _ => []
  | n + 1, m => if m.isDone then [] else m :: trail n m.step

section Trails

variable {n : Nat} {m m' : Machine}

theorem run_of_isDone (h : m.isDone = true) (n : Nat) : run n m = m := by
  cases n with
  | zero => rfl
  | succ n =>
    unfold run
    rw [if_pos h]

theorem trail_of_isDone (h : m.isDone = true) (n : Nat) : trail n m = [] := by
  cases n with
  | zero => rfl
  | succ n =>
    unfold trail
    rw [if_pos h]

theorem trail_succ (h : m.isDone = false) (n : Nat) : trail (n + 1) m = m :: trail n m.step := by
  rw [trail, h]
  rfl

theorem run_succ (h : m.isDone = false) (n : Nat) : run (n + 1) m = run n m.step := by
  rw [run, h]
  rfl

/-- **What the steps on a trail keep holds all along it**, and of the machine at its end. -/
theorem trail_preserve {J : Machine → Prop} (hstep : ∀ m' ∈ trail n m, J m' → J m'.step)
    (h : J m) : (∀ m' ∈ trail n m, J m') ∧ J (run n m) := by
  induction n generalizing m with
  | zero => exact ⟨List.forall_mem_nil _, h⟩
  | succ n ih =>
    cases hdone : m.isDone with
    | true =>
      rw [trail_of_isDone hdone, run_of_isDone hdone]
      exact ⟨List.forall_mem_nil _, h⟩
    | false =>
      rw [trail_succ hdone] at hstep ⊢
      rw [run_succ hdone]
      have hnext : J m.step := hstep m List.mem_cons_self h
      obtain ⟨hrest, hend⟩ := ih (fun m' hm' => hstep m' (List.mem_cons_of_mem _ hm')) hnext
      exact ⟨List.forall_mem_cons.2 ⟨h, hrest⟩, hend⟩

/-- Something is left to do on a trail, and the run goes on from the step that is taken. -/
theorem run_of_mem_trail (h : m' ∈ trail n m) :
    m'.isDone = false ∧ ∃ k, run n m = run k m'.step := by
  induction n generalizing m with
  | zero => cases h
  | succ n ih =>
    cases hdone : m.isDone with
    | true =>
      rw [trail_of_isDone hdone] at h
      cases h
    | false =>
      rw [trail_succ hdone] at h
      rw [run_succ hdone]
      rcases List.mem_cons.1 h with rfl | h
      · exact ⟨hdone, n, rfl⟩
      · exact ih h

/-- What does not hold any more at the end of a trail was lost at one of its steps. -/
theorem exists_lost {J : Machine → Prop} (h : J m) (hend : ¬ J (run n m)) :
    ∃ m' ∈ trail n m, J m' ∧ ¬ J m'.step := by
  refine Classical.byContradiction fun hnever => hend (trail_preserve (fun m' hm' hJ => ?_) h).2
  exact Classical.byContradiction fun hlost => hnever ⟨m', hm', hJ, hlost⟩

end Trails

end Machine

/-- The trails of operations one after the other. -/
def World.trail (n : Nat) : World → List Operation → List Machine
  | _, [] => []
  | w, op :: ops =>
    Machine.trail n (.perform w op)
      ++ (w.perform? n op).elim [] (fun answered => answered.1.trail n ops)

namespace World

variable {n : Nat} {w w₁ w₂ : World} {ops rest : List Operation} {answers : List Answer}

theorem performAll?_cons {op : Operation} :
    w.performAll? n (op :: ops) = some (w₂, answers) ↔ ∃ w₁ a answers',
      w.perform? n op = some (w₁, a) ∧ w₁.performAll? n ops = some (w₂, answers') ∧
      answers = a :: answers' := by
  constructor
  · intro h
    obtain ⟨⟨w₁, a⟩, hfirst, hrest⟩ := Option.bind_eq_some_iff.1 h
    obtain ⟨⟨w₂', answers'⟩, hothers, hlast⟩ := Option.bind_eq_some_iff.1 hrest
    cases hlast
    exact ⟨w₁, a, answers', hfirst, hothers, rfl⟩
  · rintro ⟨w₁, a, answers', hfirst, hothers, rfl⟩
    simp only [performAll?, hfirst, hothers, Option.bind_eq_bind, Option.bind_some]

/-- Operations after others go on in the world that those have left. -/
theorem performAll?_append (h : w.performAll? n ops = some (w₁, answers))
    {answers' : List Answer} (hrest : w₁.performAll? n rest = some (w₂, answers')) :
    w.performAll? n (ops ++ rest) = some (w₂, answers ++ answers') := by
  induction ops generalizing w answers with
  | nil =>
    cases h
    exact hrest
  | cons op ops ih =>
    obtain ⟨w', a, others, hfirst, hothers, rfl⟩ := performAll?_cons.1 h
    exact performAll?_cons.2 ⟨w', a, _, hfirst, ih hothers, rfl⟩

theorem trail_append (h : w.performAll? n ops = some (w₁, answers)) (rest : List Operation) :
    w.trail n (ops ++ rest) = w.trail n ops ++ w₁.trail n rest := by
  induction ops generalizing w answers with
  | nil =>
    cases h
    rfl
  | cons op ops ih =>
    obtain ⟨w', a, others, hfirst, hothers, rfl⟩ := performAll?_cons.1 h
    simp only [List.cons_append, trail, hfirst, Option.elim, ih hothers, List.append_assoc]

/-- The trail of operations is that of the first and then that of the others. -/
theorem forall_mem_trail_cons {op : Operation} {a : Answer} (h : w.perform? n op = some (w₁, a))
    {P : Machine → Prop} : (∀ m ∈ w.trail n (op :: ops), P m) ↔
      (∀ m ∈ Machine.trail n (.perform w op), P m) ∧ ∀ m ∈ w₁.trail n ops, P m := by
  simp only [trail, h, Option.elim, List.forall_mem_append]

/-- The machine that an operation ends with. -/
theorem exists_of_perform? {op : Operation} {a : Answer} (h : w.perform? n op = some (w₁, a)) :
    (Machine.run n (.perform w op)).answer? = some a ∧
    (Machine.run n (.perform w op)).world = w₁ := by
  obtain ⟨a', ha, heq⟩ := Option.map_eq_some_iff.1 h
  cases heq
  exact ⟨ha, rfl⟩

/-- **What operations and the steps on their trails keep holds all along these**, and of the world
that they leave. -/
theorem trail_preserve {I : World → Prop} {J : Machine → Prop}
    (hperform : ∀ w, I w → ∀ op ∈ ops, J (.perform w op))
    (hworld : ∀ m a, J m → m.answer? = some a → I m.world)
    (hstep : ∀ m ∈ w.trail n ops, J m → J m.step) (h : I w)
    (hall : w.performAll? n ops = some (w₁, answers)) :
    (∀ m ∈ w.trail n ops, J m) ∧ I w₁ := by
  induction ops generalizing w answers with
  | nil =>
    cases hall
    exact ⟨List.forall_mem_nil _, h⟩
  | cons op ops ih =>
    obtain ⟨w', a, others, hfirst, hothers, rfl⟩ := performAll?_cons.1 hall
    rw [forall_mem_trail_cons hfirst] at hstep ⊢
    obtain ⟨htrail, hend⟩ := Machine.trail_preserve hstep.1 (hperform w h op List.mem_cons_self)
    obtain ⟨hanswer, hw'⟩ := exists_of_perform? hfirst
    have hleft : I w' := hw' ▸ hworld _ a hend hanswer
    obtain ⟨hrest, hlast⟩ := ih (fun w hw op' hop => hperform w hw op' (List.mem_cons_of_mem _ hop))
      hstep.2 hleft hothers
    exact ⟨⟨htrail, hrest⟩, hlast⟩

end World

/-! ## How operations begin -/

/-- Frames of a run: a scan loads folders of some kind, and when the run is closing a shutdown may
wait below everything else. -/
def Frame.Proceed (closing : Bool) (kind : Path → Prop) : List Frame → Prop
  | [] => True
  | .finalization :: F => closing = true ∧ F = []
  | .scan rest _ :: F => (∀ root ∈ rest, kind root) ∧ Proceed closing kind F
  | .code .. :: F | .module .. :: F | .entry _ :: F | .dispatch .. :: F | .pluginCall .. :: F
  | .hostStep .. :: F => Proceed closing kind F

/-- The operations that begin in a run, in a world and above some frames: the run scans one
directory, and the folders in it are of some kind. -/
inductive Operation.Proceeds (closing : Bool) (dir : Path) (kind : Path → Prop) (w : World)
    (F : List Frame) : Operation → Prop where
  | load {root : Path} (h : kind root) : Proceeds closing dir kind w F (.load root)
  | call (plugin function : String) (args : List String) :
      Proceeds closing dir kind w F (.call plugin function args)
  | scan (h : ∀ root ∈ World.pluginRoots w.files dir, kind root) :
      Proceeds closing dir kind w F (.loadDirectory dir)
  | execute (id : String) : Proceeds closing dir kind w F (.execute id)
  | notify (name : String) (filename : Option String) :
      Proceeds closing dir kind w F (.notify name filename)
  | finalize (hclosing : closing = true) (hF : F = []) : Proceeds closing dir kind w F .finalize

theorem Operation.Proceeds.keepsStores {closing : Bool} {dir : Path} {kind : Path → Prop}
    {w : World} {F : List Frame} {op : Operation} (h : op.Proceeds closing dir kind w F) :
    op.keepsStores = true := by
  cases h <;> rfl

/-- The operation that is about to start, if one is. -/
def Focus.operation? : Focus → Option Operation
  | .starting op => some op
  | .running .. | .ended _ | .answered _ => none

namespace Machine

/-- A machine of a run of the program. -/
structure Proceeds (closing : Bool) (dir : Path) (kind : Path → Prop) (m : Machine) : Prop where
  op : ∀ op, m.focus = .starting op → op.Proceeds closing dir kind m.world m.frames
  frames : Frame.Proceed closing kind m.frames

/-- The code that runs has the embedding application act. -/
def hostActs (m : Machine) : Bool :=
  match m.focus with
  | .running _ (.ask (.host _) _) => true
  | _ => false

section Proceeding

variable {closing : Bool} {dir : Path} {kind : Path → Prop} {w : World} {F : List Frame}

theorem proceeds_of_still (h : Frame.Proceed closing kind F) {focus : Focus}
    (hfocus : focus.operation? = none) : Proceeds closing dir kind ⟨w, focus, F⟩ := by
  refine ⟨?_, h⟩
  rintro op rfl
  cases hfocus

theorem announce_proceeds (h : Frame.Proceed closing kind F) (e : Event) (plugins : List String)
    (soFar : Summary) : Proceeds closing dir kind (announce w e F plugins soFar) := by
  obtain ⟨m, hannounce, hannounced⟩ := exists_announced w e F plugins soFar
  rw [hannounce]
  cases hannounced with
  | finished soFar => exact proceeds_of_still h rfl
  | @delivered plugin rest soFar =>
    exact proceeds_of_still (F := .dispatch plugin (.delivery e rest soFar) :: F) h rfl

theorem dispatch_proceeds (h : Frame.Proceed closing kind F) (plugin : String) (t : World.Target)
    (args : List Value) (purpose : Purpose) :
    Proceeds closing dir kind (dispatch w plugin t args purpose F) := by
  unfold dispatch
  split
  · exact proceeds_of_still h rfl
  · exact proceeds_of_still (F := .dispatch plugin purpose :: F) h rfl

theorem endDispatch_proceeds (h : Frame.Proceed closing kind F) (plugin : String)
    (purpose : Purpose) (r : Except Raised (List Value)) :
    Proceeds closing dir kind (endDispatch w plugin purpose r F) := by
  cases r with
  | ok vs =>
    cases purpose with
    | command | function => exact proceeds_of_still h rfl
    | delivery event rest soFar => exact announce_proceeds h event rest _
  | error e =>
    cases purpose with
    | command | function => exact proceeds_of_still h rfl
    | delivery event rest soFar => exact announce_proceeds h event rest _

/-- The folders that are still to come are those of the scan. -/
theorem scan_proceeds (h : Frame.Proceed closing kind F) {rest : List Path}
    (hrest : ∀ root ∈ rest, kind root) (loaded : List String) :
    Proceeds closing dir kind (scan w F rest loaded) := by
  cases rest with
  | nil => exact proceeds_of_still h rfl
  | cons root rest =>
    obtain ⟨hroot, hothers⟩ := List.forall_mem_cons.1 hrest
    refine ⟨fun op heq => ?_, hothers, h⟩
    cases heq
    exact .load hroot

theorem start_proceeds (h : Frame.Proceed closing kind F) {op : Operation}
    (hop : op.Proceeds closing dir kind w F) : Proceeds closing dir kind (start w op F) := by
  cases hop with
  | load _ =>
    show Proceeds closing dir kind (load w _ F)
    unfold load
    split
    · exact proceeds_of_still h rfl
    · rename_i p block _
      exact proceeds_of_still (F := .entry p :: F) h rfl
  | call =>
    simp only [start]
    split
    · exact proceeds_of_still h rfl
    · exact dispatch_proceeds h _ _ _ _
  | scan hroots =>
    simp only [start]
    split
    · exact proceeds_of_still h rfl
    · exact scan_proceeds h hroots _
  | execute =>
    simp only [start]
    split
    · exact proceeds_of_still h rfl
    · exact dispatch_proceeds h _ _ _ _
  | notify =>
    simp only [start]
    split
    · exact proceeds_of_still h rfl
    · exact announce_proceeds h _ _ _
  | finalize hclosing hF =>
    simp only [start]
    split
    · exact proceeds_of_still h rfl
    · split
      · exact proceeds_of_still h rfl
      · exact announce_proceeds (F := .finalization :: F) ⟨hclosing, hF⟩ _ _ _

section Asking

variable {id : SandboxId} {next : Except Raised (List Value) → Program (List Value)}

theorem callCode_running (w : World) (p : Program (List Value)) (waiting F : List Frame) :
    ∃ p', (callCode w id p waiting next F).focus = .running id p' := by
  unfold callCode
  dsimp only
  split <;> exact ⟨_, rfl⟩

theorem require_running (w : World) (module : Value) (F : List Frame) :
    ∃ p', (require w id module next F).focus = .running id p' := by
  unfold require
  dsimp only
  split
  · exact ⟨_, rfl⟩
  · split
    · exact ⟨_, rfl⟩
    · split
      · exact ⟨_, rfl⟩
      · split
        · exact ⟨_, rfl⟩
        · exact callCode_running w _ _ F

theorem callLibrary_running (w : World) (name : String) (args : List Value) (F : List Frame) :
    ∃ p', (callLibrary w id name args next F).focus = .running id p' := by
  unfold callLibrary runFile
  dsimp only
  split
  · exact callCode_running w _ _ F
  · split
    · split
      · exact ⟨_, rfl⟩
      · split
        · exact ⟨_, rfl⟩
        · exact callCode_running w _ _ F
    · exact ⟨_, rfl⟩

/-- An operation that code begins is a call of another plugin, or one that it has the embedding
application perform. -/
theorem op_of_ask {q : Request} {op : Operation}
    (h : (ask w id q next F).focus = .starting op) :
    (∃ plugin function args, op = .call plugin function args) ∨ q = .host op := by
  have hrunning : ∀ {m : Machine}, (∃ p, m.focus = .running id p) → m.focus ≠ .starting op := by
    rintro m ⟨p, hp⟩ hm
    rw [hp] at hm
    cases hm
  unfold ask at h
  split at h
  · cases h
  · split at h
    · exact absurd h (hrunning (callCode_running w _ _ F))
    · exact absurd h (hrunning (callLibrary_running w _ _ F))
    · split at h
      · cases h
        exact .inl ⟨_, _, _, rfl⟩
      · cases h
    · exact absurd h (hrunning (require_running w _ F))
    · cases h
      exact .inr rfl
    · cases h

end Asking

theorem ask_proceeds (h : Frame.Proceed closing kind F) {id : SandboxId} {q : Request}
    (hq : ∀ op, q ≠ .host op) (next : Except Raised (List Value) → Program (List Value)) :
    Proceeds closing dir kind (ask w id q next F) := by
  cases hserve : w.serve id q with
  | some served =>
    rw [ask_of_serve w id next F hserve]
    exact proceeds_of_still h rfl
  | none =>
    have hcalled : ∀ (p : Program (List Value)) (waiting : List Frame),
        (∀ f ∈ waiting, ∃ name, f = .module id name) → Proceeds closing dir kind
          ⟨w, .running id p, waiting ++ .code (Frame.depth F + 1) id next :: F⟩ := by
      intro p waiting hwaiting
      refine proceeds_of_still ?_ rfl
      induction waiting with
      | nil => exact h
      | cons f rest ih =>
        obtain ⟨name, rfl⟩ := hwaiting f List.mem_cons_self
        exact ih fun f hf => hwaiting f (List.mem_cons_of_mem _ hf)
    obtain ⟨m, hask, hdeferred⟩ := exists_deferred w id next F hserve
    cases hdeferred with
    | resumed r => rw [hask]; exact proceeds_of_still h rfl
    | called p waiting hwaiting => rw [hask]; exact hcalled p waiting hwaiting
    | calledPlugin plugin function args =>
      rw [hask]
      refine ⟨fun op heq => ?_, h⟩
      cases heq
      exact .call plugin function args
    | hostActs op =>
      -- only code that has the embedding application act begins an operation other than a call
      have hfocus : (ask w id q next F).focus = .starting op := by rw [hask]
      have hop := op_of_ask hfocus
      rw [hask]
      refine ⟨fun op' heq => ?_, h⟩
      cases heq
      rcases hop with ⟨plugin, function, args, rfl⟩ | hhost
      · exact .call plugin function args
      · exact absurd hhost (hq op)

/-- The folders may be said to be of a wider kind. -/
theorem Proceeds.mono {m : Machine} {kind' : Path → Prop} (h : m.Proceeds closing dir kind)
    (hkind : ∀ root, kind root → kind' root) : m.Proceeds closing dir kind' := by
  have hframes : ∀ {F : List Frame}, Frame.Proceed closing kind F → Frame.Proceed closing kind' F := by
    intro F hF
    induction F with
    | nil => trivial
    | cons f F ih =>
      cases f with
      | finalization => exact hF
      | scan rest loaded => exact ⟨fun root hroot => hkind root (hF.1 root hroot), ih hF.2⟩
      | _ => exact ih hF
  refine ⟨fun op hop => ?_, hframes h.frames⟩
  cases h.op op hop with
  | load hroot => exact .load (hkind _ hroot)
  | call plugin function args => exact .call plugin function args
  | scan hroots => exact .scan fun root hroot => hkind root (hroots root hroot)
  | execute id => exact .execute id
  | notify name filename => exact .notify name filename
  | finalize hclosing hF => exact .finalize hclosing hF

/-- A load that a run starts is that of a folder of the kind, in the world as it is. -/
theorem Proceeds.loadStart? {m : Machine} {root : Path} (h : m.Proceeds closing dir kind)
    (hstart : m.loadStart? = some (w, root)) : w = m.world ∧ kind root := by
  obtain ⟨world, focus, F⟩ := m
  unfold Machine.loadStart? at hstart
  split at hstart
  · rename_i root' hfocus
    cases hfocus
    cases hstart
    cases h.op _ rfl with
    | load hroot => exact ⟨rfl, hroot⟩
  · rename_i plugin hfocus
    cases hfocus
    cases h.op _ rfl
  · cases hstart

/-- **A step leads from one machine of a run to the next.** -/
theorem Proceeds.step {m : Machine} (h : m.Proceeds closing dir kind) (hhost : m.hostActs = false) :
    m.step.Proceeds closing dir kind := by
  obtain ⟨w, focus, F⟩ := m
  have hframes : Frame.Proceed closing kind F := h.frames
  cases focus with
  | running id p =>
    cases p with
    | done | raise => exact proceeds_of_still hframes rfl
    | ask q next =>
      refine ask_proceeds hframes ?_ next
      rintro op rfl
      cases hhost
  | starting op => exact start_proceeds hframes (h.op op rfl)
  | ended r =>
    cases F with
    | nil => exact proceeds_of_still (F := []) trivial rfl
    | cons f F =>
      cases f with
      | code depth id next => exact proceeds_of_still (F := F) hframes rfl
      | module id name => cases r <;> exact proceeds_of_still (F := F) hframes rfl
      | entry p => cases r <;> exact proceeds_of_still (F := F) hframes rfl
      | dispatch plugin purpose => exact endDispatch_proceeds (F := F) hframes plugin purpose r
      | pluginCall | hostStep | scan | finalization =>
        exact proceeds_of_still hframes rfl
  | answered a =>
    cases F with
    | nil => exact proceeds_of_still (F := []) trivial rfl
    | cons f F =>
      cases f with
      | pluginCall id next => exact proceeds_of_still (F := F) hframes rfl
      | hostStep id next => exact proceeds_of_still (F := F) hframes rfl
      | scan rest loaded =>
        show Proceeds closing dir kind (deliverAnswer w a (.scan rest loaded :: F))
        simp only [deliverAnswer]
        split
        · exact scan_proceeds hframes.2 hframes.1 _
        · exact scan_proceeds hframes.2 hframes.1 _
      | finalization =>
        obtain rfl : F = [] := hframes.2
        exact proceeds_of_still (F := []) trivial rfl
      | code | module | entry | dispatch => exact proceeds_of_still hframes rfl

/-- A run that is not closing clears nothing. -/
theorem Proceeds.not_clears {m : Machine} (h : m.Proceeds false dir kind) : m.clears = false := by
  cases hclears : m.clears with
  | false => rfl
  | true =>
    obtain ⟨a, F, -, hframes⟩ := exists_of_clears hclears
    have hproceed := h.frames
    rw [hframes] at hproceed
    cases hproceed.1

/-- Nothing is left to do when a run has cleared its registry. -/
theorem Proceeds.isDone_of_clears {m : Machine} (h : m.Proceeds closing dir kind)
    (hclears : m.clears = true) : m.step.isDone = true := by
  obtain ⟨a, F, hfocus, hframes⟩ := exists_of_clears hclears
  have hproceed := h.frames
  rw [hframes] at hproceed
  obtain rfl : F = [] := hproceed.2
  obtain ⟨w, focus, frames⟩ := m
  cases hfocus
  cases hframes
  rfl

/-- **What the other steps of a run keep holds all along its trail**, since nothing is left to do
when it has cleared its registry. -/
theorem trail_preserve_of_proceeds {n : Nat} {m : Machine} {J : Machine → Prop}
    (hproceeds : ∀ m, J m → m.Proceeds closing dir kind)
    (hstep : ∀ m' ∈ trail n m, m'.clears = false → J m' → J m'.step) (h : J m) :
    ∀ m' ∈ trail n m, J m' := by
  have hopen : ∀ m' ∈ trail n m, ¬ m'.isDone = true := by
    intro m' hm' hdone
    rw [(run_of_mem_trail hm').1] at hdone
    cases hdone
  have hkept : ∀ m' ∈ trail n m, J m' ∨ m'.isDone = true → J m'.step ∨ m'.step.isDone = true := by
    rintro m' hm' (hJ | hdone)
    · cases hclears : m'.clears with
      | true => exact .inr ((hproceeds m' hJ).isDone_of_clears hclears)
      | false => exact .inl (hstep m' hm' hclears hJ)
    · exact absurd hdone (hopen m' hm')
  intro m' hm'
  exact ((trail_preserve hkept (.inl h)).1 m' hm').resolve_right (hopen m' hm')

end Proceeding

/-! ## The end -/

/-- A shutdown waits until the registry is cleared. -/
theorem finalization_lasts {m : Machine} {F : List Frame} (h : .finalization :: F <:+ m.frames) :
    .finalization :: F <:+ m.step.frames ∨
    m.frames = .finalization :: F ∧ m.clears = true := by
  rcases frame_lasts h with hkept | ⟨hframes, hgets⟩
  · exact .inl hkept
  · refine .inr ⟨hframes, ?_⟩
    obtain ⟨w, focus, frames⟩ := m
    cases hframes
    cases hgets with
    | ended r hawaits => cases hawaits
    | answered a => rfl

/-- The files that the step leaves in which the registry is cleared. -/
theorem files_of_clears {m : Machine} (h : m.clears = true) :
    m.step.world.files = (m.world.unloadAll m.world.registry.loadOrder).files := by
  rw [(step_of_clears h).1]
  exact World.completeFinalize_files m.world

/-- A finalization that succeeds is not refused: the shutdown is announced. -/
theorem step_of_finalize {n : Nat} {w w' : World} {reply : Reply}
    (h : w.perform? (n + 1) .finalize = some (w', .ok reply)) :
    (perform w .finalize).step = announce w .shutdown [.finalization] w.registry.loadOrder {} := by
  obtain ⟨hanswer, -⟩ := World.exists_of_perform? h
  rw [run_succ (by rfl)] at hanswer
  have hrefused : ∀ e, (perform w .finalize).step ≠ answer w (.error e) [] := by
    intro e he
    rw [he, run_of_isDone rfl] at hanswer
    cases hanswer
  have hstep : (perform w .finalize).step = start w .finalize [] := rfl
  rw [hstep] at hrefused ⊢
  simp only [start] at hrefused ⊢
  split
  · rename_i hinit
    rw [if_pos hinit] at hrefused
    exact absurd rfl (hrefused _)
  · rename_i hinit
    rw [if_neg hinit] at hrefused
    split
    · rename_i plugin rest hactive
      rw [hactive] at hrefused
      exact absurd rfl (hrefused _)
    · rfl

/-- **A finalization that succeeds clears the registry in its last step.** -/
theorem exists_clears {n : Nat} {w w' : World} {reply : Reply}
    (h : w.perform? n .finalize = some (w', .ok reply)) :
    ∃ m ∈ trail n (perform w .finalize), m.clears = true ∧ m.step.world = w' := by
  obtain ⟨hanswer, hworld⟩ := World.exists_of_perform? h
  cases n with
  | zero => cases hanswer
  | succ n =>
    have hopen : (perform w .finalize).isDone = false := rfl
    rw [run_succ hopen] at hanswer hworld
    rw [trail_succ hopen]
    have hwaits : [.finalization] <:+ (perform w .finalize).step.frames := by
      rw [step_of_finalize h]
      exact (announce_onto w .shutdown [.finalization] _ _).suffix
    have hend : ¬ [.finalization] <:+ (run n (perform w .finalize).step).frames := by
      rw [frames_of_answer? hanswer]
      intro hsuffix
      cases List.suffix_nil.1 hsuffix
    obtain ⟨m, hm, hbefore, hafter⟩ :=
      exists_lost (J := fun m => [.finalization] <:+ m.frames) hwaits hend
    rcases finalization_lasts hbefore with hkept | ⟨hframes, hclears⟩
    · exact absurd hkept hafter
    · refine ⟨m, List.mem_cons_of_mem _ hm, hclears, ?_⟩
      obtain ⟨-, k, hk⟩ := run_of_mem_trail hm
      have hdone : m.step.isDone = true := by
        obtain ⟨a, -, hfocus, -⟩ := exists_of_clears hclears
        obtain ⟨w, focus, F⟩ := m
        cases hfocus
        cases hframes
        rfl
      rw [hk, run_of_isDone hdone] at hworld
      exact hworld

end Machine

/-! ## Runs -/

namespace CommandLine

/-- The operations of a run before its shutdown. -/
def opening (env : Environment) (o : Options) (events : List Event) : List Operation :=
  .loadDirectory (hostConfig env o).pluginDir :: announcement .ready ::
    (o.commands.map .execute ++ events.map announcement)

/-- None of them shuts down. -/
theorem proceeds_opening (env : Environment) (o : Options) (events : List Event) (w : World)
    {closing : Bool} {kind : Path → Prop} (hscan : ∀ root ∈ World.pluginRoots w.files
      (hostConfig env o).pluginDir, kind root) {op : Operation} (hop : op ∈ opening env o events) :
    (Machine.perform w op).Proceeds closing (hostConfig env o).pluginDir kind := by
  refine ⟨fun op' heq => ?_, trivial⟩
  cases heq
  simp only [opening, List.mem_cons, List.mem_append, List.mem_map] at hop
  rcases hop with rfl | rfl | ⟨id, -, rfl⟩ | ⟨e, -, rfl⟩
  · exact .scan hscan
  · exact .notify ..
  · exact .execute id
  · exact .notify ..

/-- The trail of a run. -/
def trail (n : Nat) (f : Files) (env : Environment) (o : Options) (events : List Event) :
    List Machine :=
  (prepare f env o).trail n (opening env o events ++ [.finalize])

/-- A run performs its operations one after the other, reports, and shuts down. -/
inductive Performs (n : Nat) (f : Files) (env : Environment) (o : Options) (events : List Event) :
    World → Report → World → Prop where
  | intro {w₁ w₂ w₃ w₄ w : World} {roots reply : Reply} {ready : Answer} {ran announced : List Answer}
      (hscan : (prepare f env o).perform? n (.loadDirectory (hostConfig env o).pluginDir)
        = some (w₁, .ok roots))
      (hready : w₁.perform? n (announcement .ready) = some (w₂, ready))
      (hran : w₂.performAll? n (o.commands.map .execute) = some (w₃, ran))
      (hannounced : w₃.performAll? n (events.map announcement) = some (w₄, announced))
      (hclosed : w₄.perform? n .finalize = some (w, .ok reply)) :
      Performs n f env o events w₄ (report w₄ (o.commands.zipWith commandRun ran)
        (eventRun .ready ready :: events.zipWith eventRun announced)) w

section Reported

variable {n : Nat} {f : Files} {env : Environment} {o : Options} {events : List Event}
  {w w₁ : World} {r : Report}

/-- **A run is reported when all its operations end**, the scan and the shutdown without errors. -/
theorem runSession?_eq_reported {asJson : Bool} {lines : List String} :
    runSession? n f env o events = some (w, .reported asJson lines r) ↔
      asJson = o.json ∧ lines = printed w ∧ ∃ w₁, Performs n f env o events w₁ r w := by
  constructor
  · intro h
    obtain ⟨⟨w₁, reported⟩, hsession, hrest⟩ := Option.bind_eq_some_iff.1 h
    obtain ⟨⟨w₂, scanned⟩, hscan, hsession⟩ := Option.bind_eq_some_iff.1 hsession
    cases reported with
    | error e => cases hrest
    | ok report =>
      obtain ⟨⟨w₃, closed⟩, hfinalize, hclosed⟩ := Option.bind_eq_some_iff.1 hrest
      cases closed with
      | error e => cases hclosed
      | ok reply =>
        cases hclosed
        cases scanned with
        | error e => cases hsession
        | ok roots =>
          obtain ⟨⟨w₄, ready⟩, hready, hsession⟩ := Option.bind_eq_some_iff.1 hsession
          obtain ⟨⟨w₅, ran⟩, hran, hsession⟩ := Option.bind_eq_some_iff.1 hsession
          obtain ⟨⟨w₆, announced⟩, hannounced, hsession⟩ := Option.bind_eq_some_iff.1 hsession
          cases hsession
          exact ⟨rfl, rfl, w₁, .intro hscan hready hran hannounced hfinalize⟩
  · rintro ⟨rfl, rfl, w₁, hperforms⟩
    cases hperforms with
    | intro hscan hready hran hannounced hclosed =>
      simp only [runSession?, session?, hscan, hready, hran, hannounced, hclosed,
        Option.bind_eq_bind, Option.bind_some]

/-- Before the shutdown these are the operations of its opening. -/
theorem Performs.performAll? (h : Performs n f env o events w₁ r w) :
    ∃ answers reply, (prepare f env o).performAll? n (opening env o events) = some (w₁, answers) ∧
      w₁.perform? n .finalize = some (w, .ok reply) := by
  cases h with
  | @intro w₂ w₃ w₄ _ _ roots reply ready ran announced hscan hready hran hannounced hclosed =>
    have hlast := World.performAll?_append hran hannounced
    have hrest := World.performAll?_cons.2 ⟨w₃, ready, _, hready, hlast, rfl⟩
    have hall := World.performAll?_cons.2 ⟨w₂, .ok roots, _, hscan, hrest, rfl⟩
    exact ⟨_, reply, hall, hclosed⟩

/-- The trail of a run is that of its opening and then that of the shutdown, -/
theorem mem_trail_iff {answers : List Answer}
    (h : (prepare f env o).performAll? n (opening env o events) = some (w, answers)) :
    ∀ m, m ∈ trail n f env o events ↔
      m ∈ (prepare f env o).trail n (opening env o events) ∨
      m ∈ Machine.trail n (.perform w .finalize) := by
  intro m
  unfold trail
  rw [World.trail_append h, List.mem_append]
  have hlast : w.trail n [.finalize] = Machine.trail n (.perform w .finalize) ++
      (w.perform? n .finalize).elim [] (fun answered => answered.1.trail n []) := rfl
  have hnothing : (w.perform? n .finalize).elim [] (fun answered => answered.1.trail n []) = [] := by
    cases w.perform? n .finalize <;> rfl
  rw [hlast, hnothing, List.append_nil]

/-- **and the last machine on it clears the registry.** -/
theorem exists_clears_of_reported {asJson : Bool} {lines : List String}
    (h : runSession? n f env o events = some (w, .reported asJson lines r)) :
    ∃ m ∈ trail n f env o events, m.clears = true ∧ m.step.world = w := by
  obtain ⟨-, -, w₁, hperforms⟩ := runSession?_eq_reported.1 h
  obtain ⟨answers, reply, hopening, hclosing⟩ := hperforms.performAll?
  obtain ⟨m, hm, hclears, hw⟩ := Machine.exists_clears hclosing
  exact ⟨m, (mem_trail_iff hopening m).2 (.inr hm), hclears, hw⟩

end Reported

end CommandLine

end EditorPlugins
