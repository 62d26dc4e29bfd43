/-
  What has happened on the way to a machine.

  A reachable machine does not tell how it was reached.  Some properties are about just that: which
  of two loads came last, what a script has saved since its plugin was loaded.  `History past m`
  keeps the machines from which a step was taken, latest first, so that "the last time that" is a
  search from the front: `past.findSome? f` is the latest thing that `f` sees in a step.

  Main statements: `reachable_iff_history`, that every reachable machine has a history and nothing
  else has one; `History.preserve`, the induction over a history.
-/
import EditorPlugins.Machine.Step

namespace EditorPlugins

namespace Machine

/-- The machines whose steps led to a machine, latest first. -/
inductive History : List Machine → Machine → Prop where
  | start (files : Files) (profile : HostProfile) (config : HostConfig) (isShared : Bool)
      (op : Operation) : History [] (.perform (.start files profile config isShared) op)
  | step {past : List Machine} {m : Machine} : History past m → History (m :: past) m.step
  | next {past : List Machine} {m : Machine} {a : Answer} (op : Operation) :
      History past m → m.answer? = some a → History past (.perform m.world op)

theorem History.reachable {past : List Machine} {m : Machine} (h : History past m) :
    m.Reachable := by
  induction h with
  | start files profile config isShared op => exact .start files profile config isShared op
  | step _ ih => exact .step ih
  | next op _ ha ih => exact .next op ih ha

theorem Reachable.history {m : Machine} (h : m.Reachable) : ∃ past, History past m := by
  induction h with
  | start files profile config isShared op => exact ⟨[], .start files profile config isShared op⟩
  | step _ ih => obtain ⟨past, hpast⟩ := ih; exact ⟨_, hpast.step⟩
  | next op _ ha ih => obtain ⟨past, hpast⟩ := ih; exact ⟨past, hpast.next op ha⟩

/-- **The reachable machines are those with a history.** -/
theorem reachable_iff_history {m : Machine} : m.Reachable ↔ ∃ past, History past m :=
  ⟨Reachable.history, fun ⟨_, h⟩ => h.reachable⟩

/-- **What every step keeps, of the world and of what has happened, holds at the end.**  A new
operation begins with the world as it is. -/
theorem History.preserve {I : List Machine → World → Prop}
    (hstart : ∀ files profile config isShared, I [] (.start files profile config isShared))
    (hstep : ∀ past m, History past m → I past m.world → I (m :: past) m.step.world)
    {past : List Machine} {m : Machine} (h : History past m) : I past m.world := by
  induction h with
  | start files profile config isShared op => exact hstart files profile config isShared
  | step hpast ih => exact hstep _ _ hpast ih
  | next op _ _ ih => exact ih

/-- What the latest step shows, or what was seen before it. -/
theorem findSome?_step {α : Type} (f : Machine → Option α) (m : Machine) (past : List Machine) :
    (m :: past).findSome? f = (f m).or (past.findSome? f) := by
  rw [List.findSome?_cons]
  cases f m <;> rfl

end Machine

end EditorPlugins
