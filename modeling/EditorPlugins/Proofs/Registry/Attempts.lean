/-
  Failures and the attempts that they are left from.

  The registry keeps failures by key, and forgets them by folder.  So what is kept for a folder
  depends on the latest attempt to load it: a success leaves no entry of the folder, whatever keys
  its earlier failures were kept under; a failure leaves its own entry under its own key.  But a key
  is the name of a plugin or of a folder, and folders may share one: the entry stays until a failure
  of ANOTHER folder is recorded under the same key.

  `news?` is what a step has to say about a folder, `recorded?` the failure that it puts under a
  key.  Main statement: `History.failure_kept`.
-/
import EditorPlugins.Proofs.Machine.History
import EditorPlugins.Proofs.Machine.Scene
import EditorPlugins.Proofs.Machine.Nesting
import EditorPlugins.Proofs.Registry.Failures

namespace EditorPlugins

theorem Path.same_iff {a b : Path} : a.same b = true ↔ a.components = b.components := beq_iff_eq

/-- Of the same folder as a path that is of another folder than the third. -/
theorem Path.not_same_of_same {a b c : Path} (hab : a.same b = true) (hcb : c.same b = false) :
    a.same c = false := by
  cases hac : a.same c with
  | false => rfl
  | true =>
    have hback : c.same b = true :=
      same_iff.2 ((same_iff.1 hac).symm.trans (same_iff.1 hab))
    rw [hcb] at hback
    cases hback

/-! ## What an attempt leaves -/

namespace LoadEvent

/-- The failure that a load event records, with its key. -/
def failure? (r : Registry) : LoadEvent → Option (String × FailedLoad)
  | .refused key root e => some (r.failureKey key root, ⟨root, e⟩)
  | .abandoned p e => some (r.failureKey p.manifest.name p.root, ⟨p.root, e⟩)
  | .begun .. | .completed _ => none

/-- The folder that a load event completes the load of. -/
def loaded? : LoadEvent → Option Path
  | .completed p => some p.root
  | .begun .. | .refused .. | .abandoned .. => none

end LoadEvent

/-- What is new about the failures of a folder. -/
inductive News where
  /-- All failures were forgotten. -/
  | cleared
  /-- The folder was loaded. -/
  | loaded
  /-- Loading it failed, and this was recorded. -/
  | failed (key : String) (f : FailedLoad)

namespace Machine

/-- Whether the next step ends a finalization. -/
def clears (m : Machine) : Bool :=
  match m.focus, m.frames with
  | .answered _, .finalization :: _ => true
  | _, _ => false

/-- The failure that the next step records, with its key. -/
def failure? (m : Machine) : Option (String × FailedLoad) :=
  m.loadEvent?.bind fun e => e.2.failure? e.1.registry

/-- The folder whose load the next step completes. -/
def loaded? (m : Machine) : Option Path := m.loadEvent?.bind fun e => e.2.loaded?

/-- The failure that the next step records under a key. -/
def recorded? (m : Machine) (key : String) : Option FailedLoad :=
  (m.failure?.filter (fun f => f.1 == key)).map Prod.snd

/-- What the next step says about a folder. -/
def news? (m : Machine) (root : Path) : Option News :=
  if m.clears then some .cleared
  else
    ((m.loaded?.filter (fun p => p.same root)).map fun _ => .loaded).or
      ((m.failure?.filter (fun f => f.2.root.same root)).map fun f => .failed f.1 f.2)

/-! ## What a step does to the failures -/

/-- The answer to a shutdown ends a finalization. -/
theorem exists_of_clears {m : Machine} (h : m.clears = true) :
    ∃ a F, m.focus = .answered a ∧ m.frames = .finalization :: F := by
  unfold clears at h
  split at h
  · rename_i a F hfocus hframes
    exact ⟨a, F, hfocus, hframes⟩
  · cases h

/-- The end of a finalization is no load event. -/
theorem step_of_clears {m : Machine} (h : m.clears = true) :
    m.step.world = m.world.completeFinalize ∧ m.loadEvent? = none := by
  obtain ⟨a, F, hfocus, hframes⟩ := exists_of_clears h
  obtain ⟨w, focus, frames⟩ := m
  cases hfocus
  cases hframes
  exact ⟨rfl, rfl⟩

/-- Only the end of a finalization takes its frame away. -/
theorem clears_of_frames {m : Machine} {F : List Frame} (h : m.frames = .finalization :: F)
    (hstep : m.step.frames = F) : m.clears = true := by
  obtain ⟨w, focus, frames⟩ := m
  cases h
  -- everything else that can happen below the frame is done on top of it
  have hgrown : ∀ m' : Machine, Onto (.finalization :: F) m' → m'.frames ≠ F := by
    intro m' honto hF
    have hlength := honto.suffix.length_le
    rw [hF, List.length_cons] at hlength
    omega
  cases focus with
  | answered a => rfl
  | starting op => exact absurd hstep (hgrown _ (start_onto w op _))
  | ended r => exact absurd hstep (hgrown _ .same)
  | running id p =>
    cases p with
    | done vs => exact absurd hstep (hgrown _ .same)
    | raise r => exact absurd hstep (hgrown _ .same)
    | ask q next => exact absurd hstep (hgrown _ (ask_onto w id q next _))

/-- A removal before a load leaves the failures as they are. -/
theorem failed_of_removal {w w' : World} {F : List Frame} (h : Removal ⟨w, F⟩ ⟨w', F⟩) :
    w'.registry.failed = w.registry.failed := by
  generalize hs : (⟨w', F⟩ : Situation) = s' at h
  cases h with
  | unload hok =>
    cases hs
    rw [(World.unload_of_ok hok).2.2]
    rfl
  | @clear _ G =>
    -- a finalization would have taken its frame away
    injection hs with _ hframes
    exact absurd hframes (List.cons_ne_self _ _)

/-- The failures after a step: all forgotten, one more, those of a folder forgotten, or as they
were. -/
inductive FailuresAfter (m : Machine) : Dict FailedLoad → Prop where
  | cleared (hclears : m.clears = true) : FailuresAfter m ∅
  | recorded {key : String} {f : FailedLoad} (hclears : m.clears = false)
      (hfailure : m.failure? = some (key, f)) (hloaded : m.loaded? = none) :
      FailuresAfter m (m.world.registry.failed.insert key f)
  | forgotten {root : Path} (hclears : m.clears = false) (hfailure : m.failure? = none)
      (hloaded : m.loaded? = some root) :
      FailuresAfter m (m.world.registry.failed.filter fun _ f => !f.root.same root)
  | same (hclears : m.clears = false) (hfailure : m.failure? = none)
      (hloaded : m.loaded? = none) : FailuresAfter m m.world.registry.failed

/-- **Every step changes the failures in one of these ways.** -/
theorem failuresAfter_step (m : Machine) : FailuresAfter m m.step.world.registry.failed := by
  cases hclears : m.clears with
  | true =>
    have hempty : m.step.world.registry.failed = ∅ := by
      rw [(step_of_clears hclears).1, World.completeFinalize_registry]
      rfl
    rw [hempty]
    exact .cleared hclears
  | false =>
    rcases m.step_cases with
      ⟨hnone, hchanges⟩ | ⟨hnone, hremoval⟩ | ⟨w, e, hevent, hbefore, hloading⟩
    · have hsame : m.step.situation.world.registry.failed = m.world.registry.failed :=
        hchanges.preserve (I := fun s => s.world.registry.failed = m.world.registry.failed)
          (fun _ _ hchange hs => hchange.sameEntries.failed.trans hs) rfl
      rw [show m.step.world.registry.failed = _ from hsame]
      exact .same hclears (by rw [failure?, hnone]; rfl) (by rw [loaded?, hnone]; rfl)
    · have hsame : m.step.world.registry.failed = m.world.registry.failed := by
        generalize hs : m.situation = s at hremoval
        generalize hs' : m.step.situation = s' at hremoval
        cases hremoval with
        | unload hok =>
          have hworld := congrArg Situation.world hs
          have hworld' := congrArg Situation.world hs'
          change m.world = _ at hworld
          change m.step.world = _ at hworld'
          rw [hworld', hworld, (World.unload_of_ok hok).2.2]
          rfl
        | @clear _ F =>
          have hframes : m.frames = .finalization :: F := congrArg Situation.waiting hs
          have hafter : m.step.frames = F := congrArg Situation.waiting hs'
          rw [clears_of_frames hframes hafter] at hclears
          cases hclears
      rw [hsame]
      exact .same hclears (by rw [failure?, hnone]; rfl) (by rw [loaded?, hnone]; rfl)
    · -- a plugin that is reloaded has been removed first, which leaves the failures
      have hkept : w.registry.failed = m.world.registry.failed := by
        rcases hbefore with rfl | hremoval
        · rfl
        · exact failed_of_removal hremoval
      have hfailure : m.failure? = e.failure? w.registry := by rw [failure?, hevent]; rfl
      have hloaded : m.loaded? = e.loaded? := by rw [loaded?, hevent]; rfl
      have hafter : m.step.world = m.step.situation.world := rfl
      rw [hafter]
      generalize m.step.situation = s' at hloading
      generalize m.frames = F at hloading
      cases hloading with
      | begun =>
        show FailuresAfter m w.registry.failed
        rw [hkept]
        exact .same hclears hfailure hloaded
      | refused =>
        show FailuresAfter m (w.registry.failed.insert _ _)
        rw [hkept]
        exact .recorded hclears hfailure hloaded
      | @completed w F p =>
        show FailuresAfter m (w.registry.failed.filter fun _ f => !f.root.same p.root)
        rw [hkept]
        exact .forgotten hclears hfailure hloaded
      | abandoned =>
        show FailuresAfter m (w.registry.failed.insert _ _)
        rw [hkept]
        exact .recorded hclears hfailure hloaded

/-- What is recorded of an attempt is what the attempt is answered with. -/
theorem answered_of_failure? {m : Machine} {key : String} {f : FailedLoad}
    (h : m.failure? = some (key, f)) : m.step.focus = .answered (.error f.reason) := by
  obtain ⟨⟨w, e⟩, hevent, hfailure⟩ := Option.bind_eq_some_iff.1 h
  change e.failure? w.registry = some (key, f) at hfailure
  cases loadNews_of_loadEvent? hevent with
  | ended => cases hfailure
  | raised =>
    cases hfailure
    rfl
  | started hstart hstarted =>
    rcases World.begun_or_refused hstarted with ⟨p, s, rfl⟩ | ⟨key', reason, rfl⟩
    · cases hfailure
    · cases hfailure
      rw [(step_of_loadStart? hstart).2]
      unfold load
      rw [(World.prepareLoad_of_refused hstarted).2]
      rfl

/-- A folder is loaded when its load is answered with the plugin's name. -/
theorem answered_of_loaded? {m : Machine} {root : Path} (h : m.loaded? = some root) :
    ∃ name, m.step.focus = .answered (.ok (.text name)) := by
  obtain ⟨⟨w, e⟩, hevent, hloaded⟩ := Option.bind_eq_some_iff.1 h
  change e.loaded? = some root at hloaded
  cases loadNews_of_loadEvent? hevent with
  | @ended w vs p F => exact ⟨p.manifest.name, rfl⟩
  | raised => cases hloaded
  | started hstart hstarted =>
    rcases World.begun_or_refused hstarted with ⟨p, s, rfl⟩ | ⟨key', reason, rfl⟩ <;> cases hloaded

/-! ## What is kept for a folder -/

/-- No failure of the folder is kept. -/
def ForgottenIn (failed : Dict FailedLoad) (root : Path) : Prop :=
  ∀ key f, failed.get? key = some f → f.root.same root = false

/-- The failure of a folder is kept under its key as long as it is the latest one recorded there;
any later one is of another folder. -/
structure KeptIn (past : List Machine) (failed : Dict FailedLoad) (root : Path) (key : String)
    (f : FailedLoad) : Prop where
  own : f.root.same root = true
  latest : failed.get? key = some f ↔ past.findSome? (·.recorded? key) = some f
  later : ∀ other, past.findSome? (·.recorded? key) = some other →
    other = f ∨ other.root.same root = false

/-- What is kept for a folder after the latest news about it. -/
def KeptAfter (past : List Machine) (failed : Dict FailedLoad) (root : Path) : Option News → Prop
  | some (.failed key f) => KeptIn past failed root key f
  | some .loaded | some .cleared | none => ForgottenIn failed root

section Keeping

variable {past : List Machine} {m : Machine} {failed failed' : Dict FailedLoad} {root : Path}

theorem ForgottenIn.insert (h : ForgottenIn failed root) {key : String} {f : FailedLoad}
    (hroot : f.root.same root = false) : ForgottenIn (failed.insert key f) root := by
  intro key' f' hf'
  rw [Dict.get?_insert] at hf'
  split at hf'
  · cases hf'
    exact hroot
  · exact h key' f' hf'

theorem ForgottenIn.filter (h : ForgottenIn failed root) (p : String → FailedLoad → Bool) :
    ForgottenIn (failed.filter p) root := by
  intro key f hf
  rw [Dict.get?_filter, Option.filter_eq_some_iff] at hf
  exact h key f hf.1

/-- Forgetting the failures of a folder leaves none of it, however it is spelled. -/
theorem forgottenIn_filter {other : Path} (hother : other.same root = true) :
    ForgottenIn (failed.filter fun _ f => !f.root.same other) root := by
  intro key f hf
  rw [Dict.get?_filter, Option.filter_eq_some_iff] at hf
  cases hroot : f.root.same root with
  | false => rfl
  | true =>
    have hsame : f.root.same other = true :=
      Path.same_iff.2 ((Path.same_iff.1 hroot).trans (Path.same_iff.1 hother).symm)
    rw [hsame] at hf
    exact absurd hf.2 Bool.false_ne_true

/-- A step that records nothing under the key and leaves what is there. -/
theorem KeptIn.unchanged {key : String} {f : FailedLoad} (h : KeptIn past failed root key f)
    (hrecorded : m.recorded? key = none)
    (hget : failed'.get? key = some f ↔ failed.get? key = some f) :
    KeptIn (m :: past) failed' root key f := by
  have hlatest : (m :: past).findSome? (·.recorded? key) = past.findSome? (·.recorded? key) := by
    rw [findSome?_step, hrecorded, Option.none_or]
  refine ⟨h.own, ?_, ?_⟩
  · rw [hlatest, hget]
    exact h.latest
  · rw [hlatest]
    exact h.later

/-- A step that records the failure of another folder. -/
theorem KeptIn.recorded {key key' : String} {f f' : FailedLoad} (h : KeptIn past failed root key f)
    (hfailure : m.failure? = some (key', f')) (hroot : f'.root.same root = false) :
    KeptIn (m :: past) (failed.insert key' f') root key f := by
  by_cases hkey : key = key'
  · -- it takes the place of the one that was there
    subst hkey
    have hlatest : (m :: past).findSome? (·.recorded? key) = some f' := by
      rw [findSome?_step]
      simp [recorded?, hfailure]
    refine ⟨h.own, ?_, ?_⟩
    · rw [hlatest, Dict.get?_insert_self]
    · intro other hother
      rw [hlatest] at hother
      cases hother
      exact .inr hroot
  · refine h.unchanged ?_ ?_
    · simp [recorded?, hfailure, Ne.symm hkey]
    · rw [Dict.get?_insert, if_neg hkey]

/-- A step that forgets the failures of another folder. -/
theorem KeptIn.forgotten {key : String} {f : FailedLoad} (h : KeptIn past failed root key f)
    (hfailure : m.failure? = none) {other : Path} (hother : other.same root = false) :
    KeptIn (m :: past) (failed.filter fun _ f => !f.root.same other) root key f := by
  refine h.unchanged (by simp [recorded?, hfailure]) ?_
  have hstays : f.root.same other = false := Path.not_same_of_same h.own hother
  rw [Dict.get?_filter, Option.filter_eq_some_iff]
  exact and_iff_left (by rw [hstays]; rfl)

/-- Without news about the folder it is enough to look at the two cases. -/
theorem KeptAfter.of_no_news {past' : List Machine} {news : Option News}
    (h : KeptAfter past failed root news)
    (hforgotten : ForgottenIn failed root → ForgottenIn failed' root)
    (hkept : ∀ key f, KeptIn past failed root key f → KeptIn past' failed' root key f) :
    KeptAfter past' failed' root news := by
  cases news with
  | none => exact hforgotten h
  | some news =>
    cases news with
    | cleared => exact hforgotten h
    | loaded => exact hforgotten h
    | failed key f => exact hkept key f h

end Keeping

/-- **A step keeps the failures of a folder as the latest news about it have them.** -/
theorem keptAfter_step {past : List Machine} {m : Machine} {root : Path}
    (h : KeptAfter past m.world.registry.failed root (past.findSome? (·.news? root))) :
    KeptAfter (m :: past) m.step.world.registry.failed root
      ((m :: past).findSome? (·.news? root)) := by
  rw [findSome?_step]
  have hafter := failuresAfter_step m
  generalize m.step.world.registry.failed = failed' at hafter ⊢
  cases hafter with
  | cleared hclears =>
    have hnews : m.news? root = some .cleared := if_pos hclears
    rw [hnews]
    exact fun _ _ hf => nomatch hf
  | @recorded key f hclears hfailure hloaded =>
    cases hroot : f.root.same root with
    | true =>
      -- it was an attempt on the folder, and its failure is the latest under the key
      have hnews : m.news? root = some (.failed key f) := by
        simp [news?, hclears, hfailure, hloaded, hroot]
      have hlatest : (m :: past).findSome? (·.recorded? key) = some f := by
        rw [findSome?_step]
        simp [recorded?, hfailure]
      rw [hnews]
      refine ⟨hroot, iff_of_true (Dict.get?_insert_self ..) hlatest, fun other hother => .inl ?_⟩
      exact Option.some.inj (hother.symm.trans hlatest)
    | false =>
      have hnews : m.news? root = none := by simp [news?, hclears, hfailure, hloaded, hroot]
      rw [hnews, Option.none_or]
      exact h.of_no_news (fun hnone => hnone.insert hroot)
        (fun _ _ hkept => hkept.recorded hfailure hroot)
  | @forgotten other hclears hfailure hloaded =>
    cases hother : other.same root with
    | true =>
      have hnews : m.news? root = some .loaded := by
        simp [news?, hclears, hfailure, hloaded, hother]
      rw [hnews]
      exact forgottenIn_filter hother
    | false =>
      have hnews : m.news? root = none := by simp [news?, hclears, hfailure, hloaded, hother]
      rw [hnews, Option.none_or]
      exact h.of_no_news (fun hnone => hnone.filter _)
        (fun _ _ hkept => hkept.forgotten hfailure hother)
  | same hclears hfailure hloaded =>
    have hnews : m.news? root = none := by simp [news?, hclears, hfailure, hloaded]
    rw [hnews, Option.none_or]
    exact h.of_no_news id (fun _ _ hkept => hkept.unchanged (by simp [recorded?, hfailure]) Iff.rfl)

theorem History.keptAfter {past : List Machine} {m : Machine} (h : History past m) (root : Path) :
    KeptAfter past m.world.registry.failed root (past.findSome? (·.news? root)) :=
  h.preserve (I := fun past w =>
      KeptAfter past w.registry.failed root (past.findSome? (·.news? root)))
    (fun _ _ _ _ _ _ hf => nomatch hf) (fun _ _ _ hkept => keptAfter_step hkept)

/-- News of a success are of a step that completed a load of the folder, -/
theorem loaded?_of_news? {m : Machine} {root : Path} (h : m.news? root = some .loaded) :
    ∃ other, m.loaded? = some other ∧ other.same root = true := by
  unfold news? at h
  split at h
  · cases h
  · rcases Option.or_eq_some_iff.1 h with hloaded | ⟨-, hfailed⟩
    · obtain ⟨other, hother, -⟩ := Option.map_eq_some_iff.1 hloaded
      exact ⟨other, Option.filter_eq_some_iff.1 hother⟩
    · obtain ⟨_, -, hnever⟩ := Option.map_eq_some_iff.1 hfailed
      cases hnever

/-- and news of a failure are of a step that recorded it. -/
theorem failure?_of_news? {m : Machine} {root : Path} {key : String} {f : FailedLoad}
    (h : m.news? root = some (.failed key f)) : m.failure? = some (key, f) := by
  unfold news? at h
  split at h
  · cases h
  · rcases Option.or_eq_some_iff.1 h with hloaded | ⟨-, hfailed⟩
    · obtain ⟨_, -, hnever⟩ := Option.map_eq_some_iff.1 hloaded
      cases hnever
    · obtain ⟨f', hf', heq⟩ := Option.map_eq_some_iff.1 hfailed
      cases heq
      exact (Option.filter_eq_some_iff.1 hf').1

/-- **No load failure is lost or left stale**, as far as keys allow it.  In every reachable machine
and for every folder, let the latest news about the folder be the end of an attempt to load it.  If
the attempt succeeded, no failure of the folder is kept.  If it failed, the attempt was answered
with the failure that it recorded, and this failure is kept under its key exactly as long as no
other has been recorded there; a later one is of another folder. -/
theorem History.failure_kept {past : List Machine} {m : Machine} (h : History past m)
    (root : Path) :
    (past.findSome? (·.news? root) = some .loaded →
      (∃ attempt ∈ past, attempt.news? root = some .loaded ∧
        ∃ name, attempt.step.focus = .answered (.ok (.text name))) ∧
      ∀ key f, m.world.registry.failed.get? key = some f → f.root.same root = false) ∧
    (∀ key f, past.findSome? (·.news? root) = some (.failed key f) →
      (∃ attempt ∈ past, attempt.news? root = some (.failed key f) ∧
        attempt.step.focus = .answered (.error f.reason)) ∧
      f.root.same root = true ∧
      (m.world.registry.failed.get? key = some f ↔
        past.findSome? (·.recorded? key) = some f) ∧
      ∀ other, past.findSome? (·.recorded? key) = some other →
        other = f ∨ other.root.same root = false) := by
  have hkept := h.keptAfter root
  refine ⟨fun hnews => ?_, fun key f hnews => ?_⟩
  · obtain ⟨attempt, hmem, hattempt⟩ := List.exists_of_findSome?_eq_some hnews
    obtain ⟨other, hloaded, -⟩ := loaded?_of_news? hattempt
    rw [hnews] at hkept
    exact ⟨⟨attempt, hmem, hattempt, answered_of_loaded? hloaded⟩, hkept⟩
  · obtain ⟨attempt, hmem, hattempt⟩ := List.exists_of_findSome?_eq_some hnews
    have hanswered := answered_of_failure? (failure?_of_news? hattempt)
    rw [hnews] at hkept
    exact ⟨⟨attempt, hmem, hattempt, hanswered⟩, hkept.own, hkept.latest, hkept.later⟩

end Machine

/-- Whether the next step records a failure of the folder under the key, and this is its news. -/
def Machine.fails (m : Machine) (root : Path) (key : String) : Bool :=
  m.failure?.any (fun f => f.1 == key && f.2.root.same root) && !m.clears && m.loaded?.isNone

theorem Machine.news?_of_fails {m : Machine} {root : Path} {key : String}
    (h : m.fails root key = true) :
    ∃ f, m.failure? = some (key, f) ∧ m.news? root = some (.failed key f) := by
  unfold fails at h
  simp only [Bool.and_eq_true, Bool.not_eq_true', Option.isNone_iff_eq_none] at h
  obtain ⟨⟨hany, hclears⟩, hloaded⟩ := h
  obtain ⟨⟨key', f⟩, hfailure, hboth⟩ := (Option.any_eq_true ..).1 hany
  obtain ⟨hkey, hroot⟩ := Bool.and_eq_true_iff.1 hboth
  obtain rfl : key' = key := beq_iff_eq.1 hkey
  have hroot : f.root.same root = true := hroot
  refine ⟨f, hfailure, ?_⟩
  simp [news?, hclears, hfailure, hloaded, hroot]

/-- A folder that cannot be loaded: the failure is kept. -/
theorem missing_kept : ∃ past m f, Machine.History past m ∧
    past.findSome? (·.news? ⟨"b"⟩) = some (.failed "b" f) ∧
    m.world.registry.failed.get? "b" = some f := by
  have hscene : (Scene.machine? [] [] (.load ⟨"b"⟩) 0).any (fun m => m.fails ⟨"b"⟩ "b") = true := by
    decide +kernel
  obtain ⟨m, -, hm, hfails⟩ := Scene.reach hscene
  obtain ⟨past, hpast⟩ := hm.history
  obtain ⟨f, hfailure, hnews⟩ := Machine.news?_of_fails hfails
  have hlatest : (m :: past).findSome? (·.news? ⟨"b"⟩) = some (.failed "b" f) := by
    rw [Machine.findSome?_step, hnews]
    rfl
  have hunder : (m :: past).findSome? (·.recorded? "b") = some f := by
    rw [Machine.findSome?_step]
    simp [Machine.recorded?, hfailure]
  exact ⟨_, _, f, hpast.step, hlatest,
    ((hpast.step.failure_kept ⟨"b"⟩).2 "b" f hlatest).2.2.1.2 hunder⟩

/-- Two folders of one name that have no manifest: the failure of the second takes the place of the
first's.  There is a history in which the latest attempt on a folder failed, with nothing cleared
since, and no failure of the folder is kept. -/
theorem namesakes_displaced : ∃ (past : List Machine) (m : Machine) (key : String)
    (f : FailedLoad), Machine.History past m ∧ m.world.registry.isInitialized = true ∧
    past.findSome? (·.news? ⟨"x/k"⟩) = some (.failed key f) ∧
    ∀ key f, m.world.registry.failed.get? key = some f → f.root.same ⟨"x/k"⟩ = false := by
  have hscene : (Scene.machine? [] [] (.load ⟨"x/k"⟩) 0).any (fun m =>
      let next := Machine.perform m.step.world (.load ⟨"y/k"⟩)
      let failed := next.step.world.registry.failed
      (m.fails ⟨"x/k"⟩ "k" && m.step.answer?.isSome && (next.news? ⟨"x/k"⟩).isNone) &&
        (next.step.world.registry.isInitialized &&
          failed.keys.all fun key =>
            (failed.get? key).all fun f => !f.root.same ⟨"x/k"⟩)) = true := by
    decide +kernel
  obtain ⟨m, -, hm, hq⟩ := Scene.reach hscene
  obtain ⟨hfirst, hsecond⟩ := Bool.and_eq_true_iff.1 hq
  obtain ⟨hattempt, hquiet⟩ := Bool.and_eq_true_iff.1 hfirst
  obtain ⟨hfails, hanswered⟩ := Bool.and_eq_true_iff.1 hattempt
  obtain ⟨hinit, hall⟩ := Bool.and_eq_true_iff.1 hsecond
  obtain ⟨past, hpast⟩ := hm.history
  obtain ⟨f, -, hnews⟩ := Machine.news?_of_fails hfails
  obtain ⟨a, ha⟩ := Option.isSome_iff_exists.1 hanswered
  refine ⟨_, _, "k", f, (hpast.step.next (.load ⟨"y/k"⟩) ha).step, hinit, ?_, fun key f' hf' => ?_⟩
  · rw [Machine.findSome?_step, Option.isNone_iff_eq_none.1 hquiet, Option.none_or,
      Machine.findSome?_step, hnews]
    rfl
  · have hkey := List.all_eq_true.1 hall key (Dict.mem_keys.2 (Dict.contains_iff.2 ⟨f', hf'⟩))
    rw [hf'] at hkey
    simpa using hkey

end EditorPlugins
