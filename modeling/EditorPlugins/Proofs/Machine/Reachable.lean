/-
  Reachable machines: the induction that all invariants share.

  A history is a session that starts, operations one after the other, and steps.  `Reachable` has
  all of them; `ReachableAvoiding bad` has those in which no step is taken from a machine that is
  `bad`.  With the second one the exact condition of a property can be said: the property holds
  along all histories that avoid a kind of machine, and fails at the next step of such a machine.

  Main statements: `ReachableAvoiding.invariant` and `Reachable.invariant`, which ask for one small
  proof for each kind of change; `step_preserve_iff`, which makes the exact condition of a step out
  of the exact condition of a load event; `reachable_of_performAll?`, which makes the outcome of
  concrete operations a reachable machine.
-/
import EditorPlugins.Proofs.Machine.LoadEvent

namespace EditorPlugins

namespace Machine

/-! ## Histories -/

/-- The machines that operations and steps lead to when no step is taken from a `bad` machine. -/
inductive ReachableAvoiding (bad : Machine → Prop) : Machine → Prop where
  | start (files : Files) (profile : HostProfile) (config : HostConfig) (isShared : Bool)
      (op : Operation) :
      ReachableAvoiding bad (.perform (.start files profile config isShared) op)
  | step {m : Machine} : ReachableAvoiding bad m → ¬ bad m → ReachableAvoiding bad m.step
  | next {m : Machine} {a : Answer} (op : Operation) :
      ReachableAvoiding bad m → m.answer? = some a →
      ReachableAvoiding bad (.perform m.world op)

theorem ReachableAvoiding.reachable {bad : Machine → Prop} {m : Machine}
    (h : ReachableAvoiding bad m) : m.Reachable := by
  induction h with
  | start files profile config isShared op => exact .start files profile config isShared op
  | step _ _ ih => exact .step ih
  | next op _ ha ih => exact .next op ih ha

theorem Reachable.avoiding_nothing {m : Machine} (h : m.Reachable) :
    ReachableAvoiding (fun _ => False) m := by
  induction h with
  | start files profile config isShared op => exact .start files profile config isShared op
  | step _ ih => exact .step ih id
  | next op _ ha ih => exact .next op ih ha

/-- Nothing waits when an operation has been answered. -/
theorem frames_of_answer? {m : Machine} {a : Answer} (h : m.answer? = some a) : m.frames = [] := by
  unfold answer? at h
  split at h
  · assumption
  · cases h

/-! ## Invariants -/

section Invariants

variable {I : Situation → Prop}

/-- One step keeps what every basic change, every removal and its own load event keep. -/
theorem step_preserve (hchange : ∀ s s', Change s s' → I s → I s')
    (hremoval : ∀ s s', Removal s s' → I s → I s') {m : Machine}
    (hload : ∀ w e, m.loadEvent? = some (w, e) →
      Loading ⟨w, m.frames⟩ e m.step.situation → I ⟨w, m.frames⟩ → I m.step.situation)
    (h : I m.situation) : I m.step.situation := by
  rcases m.step_cases with ⟨-, hchanges⟩ | ⟨-, hremoved⟩ | ⟨w, e, hevent, hbefore, hloading⟩
  · exact hchanges.preserve hchange h
  · exact hremoval _ _ hremoved h
  · -- a plugin that is reloaded has been removed when its load event happens
    have hw : I ⟨w, m.frames⟩ := by
      rcases hbefore with rfl | hremoved
      · exact h
      · exact hremoval _ _ hremoved h
    exact hload w e hevent hloading hw

/-- Where a load event keeps something exactly when it is not of the kind `q`, so does a step. -/
theorem step_preserve_iff {q : World → LoadEvent → Bool}
    (hchange : ∀ s s', Change s s' → I s → I s') (hremoval : ∀ s s', Removal s s' → I s → I s')
    (hload : ∀ s e s', Loading s e s' → I s → (I s' ↔ q s.world e = false)) {m : Machine}
    (h : I m.situation) :
    I m.step.situation ↔ (m.loadEvent?.any fun e => q e.1 e.2) = false := by
  rcases m.step_cases with ⟨hnone, hchanges⟩ | ⟨hnone, hremoved⟩ | ⟨w, e, hevent, hbefore, hloading⟩
  · rw [hnone]
    exact iff_of_true (hchanges.preserve hchange h) rfl
  · rw [hnone]
    exact iff_of_true (hremoval _ _ hremoved h) rfl
  · have hw : I ⟨w, m.frames⟩ := by
      rcases hbefore with rfl | hremoved
      · exact h
      · exact hremoval _ _ hremoved h
    rw [hevent]
    exact hload _ _ _ hloading hw

/-- **Invariants along the histories that avoid a kind of machine.**  Load events may be taken to
come from a machine of another kind. -/
theorem ReachableAvoiding.invariant {bad : Machine → Prop}
    (hstart : ∀ files profile config isShared, I ⟨.start files profile config isShared, []⟩)
    (hchange : ∀ s s', Change s s' → I s → I s')
    (hremoval : ∀ s s', Removal s s' → I s → I s')
    (hload : ∀ m w e, ReachableAvoiding bad m → ¬ bad m → m.loadEvent? = some (w, e) →
      Loading ⟨w, m.frames⟩ e m.step.situation → I ⟨w, m.frames⟩ → I m.step.situation)
    {m : Machine} (h : ReachableAvoiding bad m) : I m.situation := by
  induction h with
  | start files profile config isShared op => exact hstart files profile config isShared
  | @step m hm hgood ih => exact step_preserve hchange hremoval (fun w e => hload m w e hm hgood) ih
  | @next m a op _ ha ih =>
    have hsituation : (perform m.world op).situation = m.situation := by
      show (⟨m.world, []⟩ : Situation) = ⟨m.world, m.frames⟩
      rw [frames_of_answer? ha]
    rw [hsituation]
    exact ih

/-- **Invariants of all reachable machines.** -/
theorem Reachable.invariant
    (hstart : ∀ files profile config isShared, I ⟨.start files profile config isShared, []⟩)
    (hchange : ∀ s s', Change s s' → I s → I s')
    (hremoval : ∀ s s', Removal s s' → I s → I s')
    (hload : ∀ s e s', Loading s e s' → I s → I s') {m : Machine} (h : m.Reachable) :
    I m.situation :=
  h.avoiding_nothing.invariant hstart hchange hremoval
    (fun _ _ _ _ _ _ hloading hw => hload _ _ _ hloading hw)

end Invariants

/-- What is kept by the steps that a history takes holds at its end. -/
theorem ReachableAvoiding.preserve {bad : Machine → Prop} {P : World → Prop}
    (hstart : ∀ files profile config isShared, P (.start files profile config isShared))
    (hstep : ∀ m : Machine, m.Reachable → ¬ bad m → P m.world → P m.step.world) {m : Machine}
    (h : ReachableAvoiding bad m) : P m.world := by
  induction h with
  | start files profile config isShared op => exact hstart files profile config isShared
  | step hm hgood ih => exact hstep _ hm.reachable hgood ih
  | next op _ _ ih => exact ih

/-- A history that never leads to a machine of another kind avoids that kind, too. -/
theorem ReachableAvoiding.avoiding {bad bad' : Machine → Prop}
    (hnever : ∀ m, ReachableAvoiding bad m → ¬ bad' m) {m : Machine}
    (h : ReachableAvoiding bad m) : ReachableAvoiding bad' m := by
  induction h with
  | start files profile config isShared op => exact .start files profile config isShared op
  | step hm _ ih => exact .step ih (hnever _ hm)
  | next op _ ha ih => exact .next op ih ha

/-! ## Runs -/

theorem Reachable.steps {m : Machine} (h : m.Reachable) (n : Nat) :
    (Machine.steps n m).Reachable := by
  induction n generalizing m with
  | zero => exact h
  | succ n ih => exact ih h.step

theorem Reachable.run {m : Machine} (h : m.Reachable) (n : Nat) : (Machine.run n m).Reachable := by
  induction n generalizing m with
  | zero => exact h
  | succ n ih =>
    unfold Machine.run
    split
    · exact h
    · exact ih h.step

/-- An answered operation leaves its world to a reachable machine. -/
theorem reachable_of_perform? {n : Nat} {w w' : World} {op : Operation} {a : Answer}
    (hm : (perform w op).Reachable) (h : w.perform? n op = some (w', a)) :
    ∃ m : Machine, m.Reachable ∧ m.answer? = some a ∧ m.world = w' := by
  obtain ⟨a', ha, heq⟩ := Option.map_eq_some_iff.1 h
  cases heq
  exact ⟨Machine.run n (perform w op), hm.run n, ha, rfl⟩

/-- **The world after operations that were all answered is that of a reachable machine.** -/
theorem reachable_of_performAll? {n : Nat} {w w' : World} {op : Operation}
    {ops : List Operation} {answers : List Answer} (hm : (perform w op).Reachable)
    (h : w.performAll? n (op :: ops) = some (w', answers)) :
    ∃ m : Machine, m.Reachable ∧ ∃ a, m.answer? = some a ∧ m.world = w' := by
  induction ops generalizing w op answers with
  | nil =>
    obtain ⟨⟨w₁, a⟩, hfirst, hrest⟩ := Option.bind_eq_some_iff.1 h
    obtain ⟨m, hreach, ha, hw⟩ := reachable_of_perform? hm hfirst
    cases hrest
    exact ⟨m, hreach, a, ha, hw⟩
  | cons op' ops ih =>
    obtain ⟨⟨w₁, a⟩, hfirst, hrest⟩ := Option.bind_eq_some_iff.1 h
    obtain ⟨⟨w₂, answers'⟩, hothers, hlast⟩ := Option.bind_eq_some_iff.1 hrest
    cases hlast
    obtain ⟨m, hreach, ha, hw⟩ := reachable_of_perform? hm hfirst
    subst hw
    exact ih (.next op' hreach ha) hothers

end Machine

end EditorPlugins
