/-
  Registries without collaborators.

  Loading needs collaborators, and finalizing empties the registry before it lets go of them; so a
  registry without collaborators should be empty.  It is, until a load ends that began before: a
  finalization is refused while a dispatched function runs, but not while an entry script does, and
  a load whose entry script finalizes the registry adds its plugin, or its failure, afterwards
  (`Machine.orphans`).

  Main statement: `detached_exact`.  Such a step and no other fills a registry without
  collaborators, and none is taken when the collaborators stay as long as a load is under way.
-/
import EditorPlugins.Proofs.Registry.LoadOrder

namespace EditorPlugins

namespace Registry

/-- No plugins and no failures. -/
structure Vacant (r : Registry) : Prop where
  plugins : r.plugins = ∅
  loadOrder : r.loadOrder = []
  failed : r.failed = ∅

/-- Without collaborators there is nothing. -/
def Detached (r : Registry) : Prop := r.isInitialized = false → r.Vacant

theorem Vacant.of_sameEntries {r r' : Registry} (hsame : r.SameEntries r') (h : r.Vacant) :
    r'.Vacant where
  plugins := Dict.eq_empty (fun name => by rw [hsame.contains, h.plugins]; rfl)
  loadOrder := hsame.loadOrder.trans h.loadOrder
  failed := hsame.failed.trans h.failed

theorem Vacant.drop {r : Registry} (h : r.Vacant) (plugin : String) : (r.drop plugin).Vacant where
  plugins := by
    show r.plugins.erase plugin = ∅
    rw [h.plugins]
    rfl
  loadOrder := by
    show r.loadOrder.filter (· != plugin) = []
    rw [h.loadOrder]
    rfl
  failed := h.failed

theorem vacant_cleared (r : Registry) : r.cleared.Vacant := ⟨rfl, rfl, rfl⟩

theorem not_vacant_add (r : Registry) (name : String) (record : Record) (root : Path) :
    ¬ ((r.add name record).forgetFailures root).Vacant := by
  intro h
  have horder : r.loadOrder ++ [name] = [] := h.loadOrder
  exact List.append_ne_nil_of_right_ne_nil _ (List.cons_ne_nil _ _) horder

theorem not_vacant_recordFailure (r : Registry) (key : String) (root : Path) (e : Failure) :
    ¬ (r.recordFailure key root e).Vacant := by
  intro h
  have hfailed := congrArg
    (fun d : Dict FailedLoad => d.get? (if r.plugins.contains key then root.text else key)) h.failed
  change (r.failed.insert _ ⟨root, e⟩).get? _ = none at hfailed
  rw [Dict.get?_insert_self] at hfailed
  cases hfailed

theorem detached_of_isInitialized {r : Registry} (h : r.isInitialized = true) : r.Detached := by
  intro hnone
  rw [h] at hnone
  cases hnone

theorem detached_iff_of_not_vacant {r : Registry} (h : ¬ r.Vacant) :
    r.Detached ↔ r.isInitialized = true := by
  refine ⟨fun hdetached => ?_, detached_of_isInitialized⟩
  cases hinit : r.isInitialized with
  | true => rfl
  | false => exact absurd (hdetached hinit) h

end Registry

/-! ## Who lets go of the collaborators -/

/-- A basic change keeps the collaborators or attaches new ones. -/
theorem Change.isInitialized {s s' : Situation} (h : Change s s') :
    s'.world.registry.isInitialized = s.world.registry.isInitialized ∨
    s'.world.registry.isInitialized = true := by
  cases h with
  | act id h =>
    rw [h.registry]
    exact .inl rfl
  | attach h =>
    rw [(World.attach_of_not_initialized h).1]
    exact .inr rfl
  | enable plugin on =>
    rw [World.enable_eq]
    exact .inl rfl
  | push | pop | shutDown | enter | blame | leave => exact .inl rfl

/-- Only a finalization lets go of them, and it leaves nothing. -/
theorem Removal.isInitialized {s s' : Situation} (h : Removal s s') :
    s'.world.registry.isInitialized = s.world.registry.isInitialized ∨
    (∃ F, s.waiting = .finalization :: F) ∧ s'.world.registry.Vacant := by
  cases h with
  | unload hok =>
    rw [(World.unload_of_ok hok).2.2]
    exact .inl rfl
  | @clear w F =>
    rw [World.completeFinalize_registry]
    exact .inr ⟨⟨F, rfl⟩, Registry.vacant_cleared _⟩

theorem Loading.isInitialized {s s' : Situation} {e : LoadEvent} (h : Loading s e s') :
    s'.world.registry.isInitialized = s.world.registry.isInitialized := by
  cases h <;> rfl

theorem Change.detached {s s' : Situation} (hs : Change s s') (h : s.world.registry.Detached) :
    s'.world.registry.Detached := by
  intro hnone
  rcases hs.isInitialized with hsame | hattached
  · exact (h (hsame ▸ hnone)).of_sameEntries hs.sameEntries
  · rw [hattached] at hnone
    cases hnone

theorem Removal.detached {s s' : Situation} (hs : Removal s s') (h : s.world.registry.Detached) :
    s'.world.registry.Detached := by
  intro hnone
  rcases hs.isInitialized with hsame | ⟨-, hvacant⟩
  · cases hs with
    | unload hok =>
      rw [(World.unload_of_ok hok).2.2] at hnone ⊢
      exact (h hnone).drop _
    | clear =>
      rw [World.completeFinalize_registry]
      exact Registry.vacant_cleared _
  · exact hvacant

/-! ## Loads that end without collaborators -/

namespace LoadEvent

/-- A load ends, with or without success, in a registry that has no collaborators. -/
def orphans (r : Registry) : LoadEvent → Bool
  | .completed _ | .abandoned _ _ => !r.isInitialized
  | .begun .. | .refused .. => false

end LoadEvent

/-- A load event fills a registry without collaborators exactly when it is such an end. -/
theorem Loading.detached_iff {s s' : Situation} {e : LoadEvent} (hs : Loading s e s')
    (h : s.world.registry.Detached) :
    s'.world.registry.Detached ↔ e.orphans s.world.registry = false := by
  have hinit' := hs.isInitialized
  cases hs with
  | begun hinit => exact iff_of_true h rfl
  | refused hinit => exact iff_of_true (Registry.detached_of_isInitialized hinit) rfl
  | @completed w F p =>
    have hadded := Registry.not_vacant_add w.registry p.manifest.name
      ⟨p.sandbox, true, none, p.manifest⟩ p.root
    refine (Registry.detached_iff_of_not_vacant hadded).trans ?_
    show w.registry.isInitialized = true ↔ (!w.registry.isInitialized) = false
    rw [Bool.not_eq_false']
  | @abandoned w F p e =>
    have hrecorded := Registry.not_vacant_recordFailure w.registry p.manifest.name p.root e
    refine (Registry.detached_iff_of_not_vacant hrecorded).trans ?_
    show w.registry.isInitialized = true ↔ (!w.registry.isInitialized) = false
    rw [Bool.not_eq_false']

namespace Machine

/-- Whether the next step ends a load in a registry that has no collaborators. -/
def orphans (m : Machine) : Bool := m.loadEvent?.any fun e => e.2.orphans e.1.registry

/-- Whether the next step lets go of the collaborators while a load is under way. -/
def detachesLoad (m : Machine) : Bool :=
  m.world.registry.isInitialized && !m.step.world.registry.isInitialized &&
    !(Frame.pending m.frames).isEmpty

/-- **A registry without collaborators is filled by such steps and by no others.** -/
theorem detached_step_iff {m : Machine} (h : m.world.registry.Detached) :
    m.step.world.registry.Detached ↔ m.orphans = false :=
  step_preserve_iff (I := fun s => s.world.registry.Detached)
    (q := fun w e => e.orphans w.registry)
    (fun _ _ => Change.detached) (fun _ _ => Removal.detached)
    (fun _ _ _ => Loading.detached_iff) h

theorem ReachableAvoiding.detached {m : Machine}
    (h : ReachableAvoiding (fun m => m.orphans = true) m) : m.world.registry.Detached :=
  h.preserve (P := fun w => w.registry.Detached) (fun _ _ _ _ _ => ⟨rfl, rfl, rfl⟩)
    (fun _ _ hgood hdetached => (detached_step_iff hdetached).2 (Bool.not_eq_true _ ▸ hgood))

/-! ## Collaborators that stay as long as a load is under way -/

/-- A load that is under way after a step was so before, or there are collaborators. -/
theorem pending_of_step {m : Machine} (h : Frame.pending m.step.frames ≠ []) :
    Frame.pending m.frames ≠ [] ∨ m.step.world.registry.isInitialized = true := by
  change Frame.pending m.step.situation.waiting ≠ [] at h
  show Frame.pending m.situation.waiting ≠ [] ∨ m.step.situation.world.registry.isInitialized = true
  rcases m.step_cases with ⟨-, hchanges⟩ | ⟨-, hremoval⟩ | ⟨w, e, -, -, hloading⟩
  · have hsame := hchanges.preserve
      (I := fun s => Frame.pending s.waiting = Frame.pending m.situation.waiting)
      (fun _ _ hchange hs => hchange.pending.trans hs) rfl
    exact .inl (hsame ▸ h)
  · exact .inl (hremoval.pending ▸ h)
  · show Frame.pending m.frames ≠ [] ∨ _
    generalize m.step.situation = s' at h hloading ⊢
    generalize m.frames = F at hloading ⊢
    cases hloading with
    | begun hinit => exact .inr hinit
    | refused hinit => exact .inr hinit
    | completed => exact .inl (List.cons_ne_nil _ _)
    | abandoned => exact .inl (List.cons_ne_nil _ _)

/-- Where they stay, a load under way has collaborators. -/
theorem ReachableAvoiding.initialized_of_pending {m : Machine}
    (h : ReachableAvoiding (fun m => m.detachesLoad = true) m)
    (hpending : Frame.pending m.frames ≠ []) : m.world.registry.isInitialized = true := by
  induction h with
  | start => exact absurd rfl hpending
  | next op _ _ _ => exact absurd rfl hpending
  | @step m _ hgood ih =>
    rcases pending_of_step hpending with hbefore | hinit
    · cases hafter : m.step.world.registry.isInitialized with
      | true => rfl
      | false =>
        -- there were collaborators before the step, so it is one that the history avoids
        have hdetaches : m.detachesLoad = true := by
          unfold detachesLoad
          rw [ih hbefore, hafter]
          simpa using hbefore
        exact absurd hdetaches hgood
    · exact hinit

/-- The end of a load is the end of one that was under way. -/
theorem pending_of_orphans {m : Machine} (h : m.orphans = true) :
    m.world.registry.isInitialized = false ∧ Frame.pending m.frames ≠ [] := by
  obtain ⟨⟨w, e⟩, hevent, hends⟩ := (Option.any_eq_true ..).1 h
  change e.orphans w.registry = true at hends
  rcases ended_or_started hevent with ⟨rfl, p, F, hframes, hended⟩ | ⟨root, -, hstart⟩
  · have hnone : (!m.world.registry.isInitialized) = true := by
      rcases hended with rfl | ⟨reason, rfl⟩ <;> exact hends
    exact ⟨by simpa using hnone, by rw [hframes]; exact List.cons_ne_nil _ _⟩
  · rcases World.begun_or_refused hstart with ⟨p, s, rfl⟩ | ⟨key, reason, rfl⟩ <;> cases hends

/-- Where the collaborators stay as long as a load is under way, no load ends without them. -/
theorem ReachableAvoiding.orphans_eq_false {m : Machine}
    (h : ReachableAvoiding (fun m => m.detachesLoad = true) m) : m.orphans = false := by
  cases horphans : m.orphans with
  | false => rfl
  | true =>
    obtain ⟨hnone, hpending⟩ := pending_of_orphans horphans
    rw [h.initialized_of_pending hpending] at hnone
    cases hnone

/-- A step that lets go of the collaborators completes a finalization, and leaves nothing. -/
theorem finalization_of_step {m : Machine} (h : m.world.registry.isInitialized = true)
    (hafter : m.step.world.registry.isInitialized = false) :
    (∃ F, m.frames = .finalization :: F) ∧ m.step.world.registry.Vacant := by
  rcases m.step_cases with ⟨-, hchanges⟩ | ⟨-, hremoval⟩ | ⟨w, e, hevent, -, hloading⟩
  · have hkept : m.step.situation.world.registry.isInitialized = true := by
      refine hchanges.preserve (I := fun s => s.world.registry.isInitialized = true) ?_ h
      intro s s' hchange hs
      rcases hchange.isInitialized with hsame | hattached
      · exact hsame.trans hs
      · exact hattached
    exact absurd (hafter.symm.trans hkept) Bool.false_ne_true
  · rcases hremoval.isInitialized with hsame | hfinalized
    · exact absurd (hafter.symm.trans (hsame.trans h)) Bool.false_ne_true
    · exact hfinalized
  · -- a load event has collaborators at its start; at its end it leaves them as they are
    have hinit : w.registry.isInitialized = true := by
      rcases ended_or_started hevent with ⟨rfl, -⟩ | ⟨root, -, hstart⟩
      · exact h
      · rcases World.begun_or_refused hstart with ⟨p, s, rfl⟩ | ⟨key, reason, rfl⟩
        · exact (World.prepareLoad_of_begun hstart).1
        · exact (World.prepareLoad_of_refused hstart).1
    exact absurd (hafter.symm.trans (hloading.isInitialized.trans hinit)) Bool.false_ne_true

/-- **Registries without collaborators.**  A finalization, and nothing else, lets go of them, and
leaves no plugin and no failure.  From then on, as from the start, the registry stays empty until
there are collaborators again, except that a load which ends meanwhile fills it; and no load does
where the collaborators stay as long as a load is under way. -/
theorem detached_exact (m : Machine) :
    (m.world.registry.isInitialized = true → m.step.world.registry.isInitialized = false →
      (∃ F, m.frames = .finalization :: F) ∧ m.step.world.registry.Vacant) ∧
    (m.world.registry.Detached → (m.step.world.registry.Detached ↔ m.orphans = false)) ∧
    (ReachableAvoiding (fun m => m.orphans = true) m → m.world.registry.Detached) ∧
    (ReachableAvoiding (fun m => m.detachesLoad = true) m →
      m.world.registry.Detached ∧ m.orphans = false) := by
  refine ⟨finalization_of_step, detached_step_iff, fun h => h.detached, fun h => ?_⟩
  have hnothing : ReachableAvoiding (fun m => m.orphans = true) m := by
    refine h.avoiding (fun m hm => ?_)
    rw [hm.orphans_eq_false]
    exact Bool.false_ne_true
  exact ⟨hnothing.detached, h.orphans_eq_false⟩

end Machine

/-- A finalization that nothing stands against leaves nothing. -/
theorem empty_finalized : ∃ m, Scene.machine? [] [] .finalize 1 = some m ∧ m.Reachable ∧
    m.world.registry.isInitialized = true ∧ m.step.world.registry.isInitialized = false ∧
    m.step.world.registry.Vacant := by
  have hscene : (Scene.machine? [] [] .finalize 1).any (fun m =>
      m.world.registry.isInitialized && !m.step.world.registry.isInitialized) = true := by
    decide +kernel
  obtain ⟨m, hmachine, hm, hq⟩ := Scene.reach hscene
  obtain ⟨hinit, hafter⟩ := Bool.and_eq_true_iff.1 hq
  have hafter : m.step.world.registry.isInitialized = false := by simpa using hafter
  exact ⟨m, hmachine, hm, hinit, hafter, (m.detached_exact.1 hinit hafter).2⟩

/-- A plugin whose entry script finalizes the registry. -/
def Scene.saboteur : Scene := [⟨"p", "p", [Scene.hostActs [("do", .text "finalize")]]⟩]

/-- The load adds its plugin after the finalization: there is a reachable machine whose registry
has a plugin and no collaborators. -/
theorem saboteur_loaded : ∃ m : Machine, m.Reachable ∧
    m.world.registry.isInitialized = false ∧ m.world.registry.loadOrder ≠ [] := by
  have hscene : (Scene.saboteur.machine? [] (.load ⟨"p"⟩) 7).any (fun m =>
      !m.world.registry.isInitialized && !m.world.registry.loadOrder.isEmpty) = true := by
    decide +kernel
  obtain ⟨m, -, hm, hq⟩ := Scene.reach hscene
  obtain ⟨hnone, hfilled⟩ := Bool.and_eq_true_iff.1 hq
  exact ⟨m, hm, by simpa using hnone, by simpa using hfilled⟩

end EditorPlugins
