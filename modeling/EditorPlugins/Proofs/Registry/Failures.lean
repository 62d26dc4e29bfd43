/-
  Loaded plugins and failed loads.

  A failure is kept under the name of its plugin, or under the name of its folder when the plugin's
  is not known.  The two names may be those of a loaded plugin; what the registry does about it:
  a failure that would be recorded under such a name is recorded under the spelled root of its
  folder instead, and a load that is completed takes the failures of its own folder away.

  So a name can be loaded and failed at a time in two ways.  A load is completed while the failure
  of ANOTHER folder is kept under its name (`keepsFailure`); that failure is deliberately left.  Or
  the root that a failure falls back to is itself spelled like the name of a loaded plugin
  (`fallsOnLoaded`).  Main statement: `Reachable.failures_apart`, that there is no third way, and
  that apart from such spellings a failure under the name of a loaded plugin is never one of the
  plugin's own folder.
-/
import EditorPlugins.Proofs.Registry.LoadOrder

namespace EditorPlugins

/-! ## Keys of the two maps -/

/-- No name is loaded and failed. -/
def Registry.Apart (r : Registry) : Prop :=
  ∀ name, r.plugins.contains name = true → r.failed.contains name = false

namespace Registry

variable {r r' : Registry}

/-- Fewer plugins and the same failures. -/
theorem Apart.of_fewer (hplugins : ∀ name, r'.plugins.contains name = true →
    r.plugins.contains name = true) (hfailed : r'.failed = r.failed) (h : r.Apart) : r'.Apart := by
  intro name hname
  rw [hfailed]
  exact h name (hplugins name hname)

/-- The key under which a failure is recorded. -/
def failureKey (r : Registry) (key : String) (root : Path) : String :=
  if r.plugins.contains key then root.text else key

/-- The key is that of a loaded plugin only when the root is spelled like one, too. -/
theorem contains_failureKey (r : Registry) (key : String) (root : Path) :
    r.plugins.contains (r.failureKey key root)
      = (r.plugins.contains key && r.plugins.contains root.text) := by
  unfold failureKey
  split
  · rename_i hkey
    rw [hkey, Bool.true_and]
  · rename_i hkey
    rw [Bool.not_eq_true] at hkey
    rw [hkey, Bool.false_and]

theorem apart_recordFailure (h : r.Apart) (key : String) (root : Path) (e : Failure) :
    (r.recordFailure key root e).Apart ↔
      (r.plugins.contains key && r.plugins.contains root.text) = false := by
  rw [← contains_failureKey]
  have hfailed : ∀ name, (r.recordFailure key root e).failed.contains name
      = (name == r.failureKey key root || r.failed.contains name) :=
    fun name => Dict.contains_insert ..
  constructor
  · intro hapart
    cases hloaded : r.plugins.contains (r.failureKey key root) with
    | false => rfl
    | true =>
      have hfree := hapart _ hloaded
      rw [hfailed, beq_self_eq_true, Bool.true_or] at hfree
      cases hfree
  · -- a loaded name is not the new key, and under all other keys nothing changes
    intro hfree name hname
    have hne : name ≠ r.failureKey key root := by
      rintro rfl
      rw [show r.plugins.contains _ = true from hname] at hfree
      cases hfree
    rw [hfailed, beq_eq_false_iff_ne.2 hne, Bool.false_or]
    exact h name hname

/-- Of the failures under a name, those of other folders are left. -/
theorem contains_forgetFailures (r : Registry) (root : Path) (name : String) :
    (r.forgetFailures root).failed.contains name
      = (r.failed.get? name).any (fun f => !f.root.same root) := by
  show ((r.failed.filter (fun _ f => !f.root.same root)).get? name).isSome = _
  rw [Dict.get?_filter]
  exact Option.isSome_filter

theorem apart_add (h : r.Apart) (name : String) (record : Record) (root : Path) :
    ((r.add name record).forgetFailures root).Apart ↔
      (r.failed.get? name).any (fun f => !f.root.same root) = false := by
  have hfailed : ∀ other, ((r.add name record).forgetFailures root).failed.contains other
      = (r.failed.get? other).any (fun f => !f.root.same root) :=
    fun other => contains_forgetFailures (r.add name record) root other
  have hplugins : ∀ other, ((r.add name record).forgetFailures root).plugins.contains other
      = (decide (other = name) || r.plugins.contains other) :=
    fun other => Dict.contains_insert ..
  constructor
  · intro hapart
    rw [← hfailed]
    exact hapart name (by rw [hplugins, decide_eq_true rfl, Bool.true_or])
  · intro hown other hother
    rw [hfailed]
    rw [hplugins] at hother
    by_cases hname : other = name
    · rw [hname]
      exact hown
    · rw [decide_eq_false hname, Bool.false_or] at hother
      rw [Dict.contains_eq_false_iff.1 (h other hother)]
      rfl

end Registry

/-! ## How the maps come to share a key -/

namespace LoadEvent

/-- A load is completed while the failure of another folder is kept under its name. -/
def keepsFailure (r : Registry) : LoadEvent → Bool
  | .completed p => (r.failed.get? p.manifest.name).any (fun f => !f.root.same p.root)
  | .begun .. | .refused .. | .abandoned .. => false

/-- A failure would be recorded under the name of a loaded plugin, and the root to which it falls
back is spelled like the name of one, too. -/
def fallsOnLoaded (r : Registry) : LoadEvent → Bool
  | .refused key root _ => r.plugins.contains key && r.plugins.contains root.text
  | .abandoned p _ => r.plugins.contains p.manifest.name && r.plugins.contains p.root.text
  | .begun .. | .completed _ => false

end LoadEvent

namespace Machine

/-- Whether the next step completes a load beside the failure of another folder. -/
def keepsFailure (m : Machine) : Bool := m.loadEvent?.any fun e => e.2.keepsFailure e.1.registry

/-- Whether the next step records a failure under a root that is spelled like a plugin's name. -/
def fallsOnLoaded (m : Machine) : Bool := m.loadEvent?.any fun e => e.2.fallsOnLoaded e.1.registry

end Machine

theorem Change.apart {s s' : Situation} (hs : Change s s') (h : s.world.registry.Apart) :
    s'.world.registry.Apart := by
  refine h.of_fewer (fun name hname => ?_) hs.sameEntries.failed
  rw [← hs.sameEntries.contains]
  exact hname

theorem Removal.apart {s s' : Situation} (hs : Removal s s') (h : s.world.registry.Apart) :
    s'.world.registry.Apart := by
  have hplugins : ∀ name, s'.world.registry.plugins.contains name = true →
      s.world.registry.plugins.contains name = true := by
    intro name hname
    obtain ⟨record, hrecord⟩ := Dict.contains_iff.1 hname
    obtain ⟨old, hold, -⟩ := hs.record_before hrecord
    exact Dict.contains_iff.2 ⟨old, hold⟩
  cases hs with
  | unload hok => exact h.of_fewer hplugins (by rw [(World.unload_of_ok hok).2.2]; rfl)
  | clear =>
    rw [World.completeFinalize_registry]
    exact fun name _ => rfl

/-- A load event keeps the maps apart unless it is one of the two kinds. -/
theorem Loading.apart_iff {s s' : Situation} {e : LoadEvent} (hs : Loading s e s')
    (h : s.world.registry.Apart) : s'.world.registry.Apart ↔
      (e.keepsFailure s.world.registry || e.fallsOnLoaded s.world.registry) = false := by
  rw [Bool.or_eq_false_iff]
  cases hs with
  | begun => exact iff_of_true h ⟨rfl, rfl⟩
  | refused => exact (Registry.apart_recordFailure h _ _ _).trans (and_iff_right rfl).symm
  | completed => exact (Registry.apart_add h _ _ _).trans (and_iff_left rfl).symm
  | abandoned => exact (Registry.apart_recordFailure h _ _ _).trans (and_iff_right rfl).symm

/-- **From maps without a common key, steps of the two kinds and no others lead to maps with
one.** -/
theorem Machine.apart_step_iff {m : Machine} (h : m.world.registry.Apart) :
    m.step.world.registry.Apart ↔ m.keepsFailure = false ∧ m.fallsOnLoaded = false := by
  have hkinds := step_preserve_iff (I := fun s => s.world.registry.Apart)
    (q := fun w e => e.keepsFailure w.registry || e.fallsOnLoaded w.registry)
    (fun _ _ => Change.apart) (fun _ _ => Removal.apart) (fun _ _ _ => Loading.apart_iff) h
  refine hkinds.trans ?_
  unfold keepsFailure fallsOnLoaded
  cases m.loadEvent? with
  | none => exact iff_of_true rfl ⟨rfl, rfl⟩
  | some event => exact Bool.or_eq_false_iff

/-! ## Whose failures they are -/

/-- A failure under the name of a loaded plugin is of another folder than the plugin's, unless it
is there because its root is spelled like that. -/
def Situation.KeepsOthers (s : Situation) : Prop :=
  ∀ name record f, s.record? name = some record → s.world.registry.failed.get? name = some f →
    f.root.text ≠ name → f.root.same (s.world.sandbox record.sandbox).identity.root = false

namespace Situation.KeepsOthers

/-- Fewer records and failures, the same sandboxes. -/
theorem of_fewer {s s' : Situation} (howned : Owned s) (h : s.KeepsOthers)
    (hrecords : ∀ name new, s'.record? name = some new →
      ∃ old, s.record? name = some old ∧ old.Same new)
    (hfailed : ∀ name f, s'.world.registry.failed.get? name = some f →
      s.world.registry.failed.get? name = some f)
    (hsandboxes : s.world.KeepsSandboxes s'.world) : s'.KeepsOthers := by
  intro name new f hnew hf htext
  obtain ⟨old, hold, hsandbox, -⟩ := hrecords name new hnew
  have hlt : old.sandbox < s.world.sandboxes.size := (howned.record name old hold).1
  rw [hsandbox, hsandboxes.identity _ hlt]
  exact h name old f hold (hfailed name f hf) htext

theorem change {s s' : Situation} (hs : Change s s') (howned : Owned s) (h : s.KeepsOthers) :
    s'.KeepsOthers := by
  refine h.of_fewer howned (fun _ _ => hs.record_before) (fun name f hf => ?_) hs.keepsSandboxes
  rw [← hs.sameEntries.failed]
  exact hf

theorem removal {s s' : Situation} (hs : Removal s s') (howned : Owned s) (h : s.KeepsOthers) :
    s'.KeepsOthers := by
  refine h.of_fewer howned (fun _ _ => hs.record_before) (fun name f hf => ?_) hs.keepsSandboxes
  cases hs with
  | unload hok =>
    rw [(World.unload_of_ok hok).2.2] at hf
    exact hf
  | clear =>
    rw [World.completeFinalize_registry] at hf
    cases hf

/-- A new failure stands under a name that is not loaded, or under the spelled root. -/
theorem recordFailure {w : World} {F G : List Frame} (h : KeepsOthers ⟨w, F⟩) (key : String)
    (root : Path) (e : Failure) : KeepsOthers ⟨w.recordFailure key root e, G⟩ := by
  intro name record f hrecord hf htext
  change (w.registry.failed.insert (w.registry.failureKey key root) ⟨root, e⟩).get? name = some f
    at hf
  rw [Dict.get?_insert] at hf
  split at hf
  · -- the new failure: its key was free, or it is the root as it is spelled
    rename_i hname
    cases hf
    have hloaded : w.registry.plugins.contains name = true := Dict.contains_iff.2 ⟨record, hrecord⟩
    unfold Registry.failureKey at hname
    split at hname
    · exact absurd hname.symm htext
    · rename_i hfree
      rw [hname] at hloaded
      exact absurd hloaded hfree
  · exact h name record f hrecord hf htext

theorem loading {s s' : Situation} {e : LoadEvent} (hs : Loading s e s') (howned : Owned s)
    (h : s.KeepsOthers) : s'.KeepsOthers := by
  have hkeeps := hs.keepsSandboxes
  cases hs with
  | begun =>
    exact h.of_fewer howned (fun _ new hnew => ⟨new, hnew, rfl, rfl⟩) (fun _ _ hf => hf) hkeeps
  | refused => exact h.recordFailure _ _ _
  | abandoned => exact h.recordFailure _ _ _
  | @completed w F p =>
    intro name record f hrecord hf htext
    change (w.registry.failed.filter (fun _ f => !f.root.same p.root)).get? name = some f at hf
    rw [Dict.get?_filter, Option.filter_eq_some_iff] at hf
    change (w.registry.plugins.insert p.manifest.name _).get? name = some record at hrecord
    rw [Dict.get?_insert] at hrecord
    split at hrecord
    · -- the plugin that was loaded now: the failures of its folder have just been forgotten
      cases hrecord
      have hidentity : (w.sandbox p.sandbox).identity = World.identityOf p.manifest p.root :=
        (howned.pending p List.mem_cons_self).2
      have hother : f.root.same p.root = false := by simpa using hf.2
      show f.root.same (w.sandbox p.sandbox).identity.root = false
      rw [hidentity]
      exact hother
    · exact h name record f hrecord hf.1 htext

end Situation.KeepsOthers

/-! ## Main result -/

namespace Machine

theorem Reachable.keepsOthers {m : Machine} (hm : m.Reachable) : m.situation.KeepsOthers := by
  refine (hm.invariant (I := fun s => Owned s ∧ s.KeepsOthers) ?_ ?_ ?_ ?_).2
  · intro files profile config isShared
    exact ⟨owned_start files profile config isShared, fun _ _ _ hrecord => nomatch hrecord⟩
  · exact fun s s' hs h => ⟨h.1.change hs, h.2.change hs h.1⟩
  · exact fun s s' hs h => ⟨h.1.removal hs, h.2.removal hs h.1⟩
  · exact fun s e s' hs h => ⟨h.1.loading hs, h.2.loading hs h.1⟩

theorem ReachableAvoiding.apart {m : Machine}
    (h : ReachableAvoiding (fun m => m.keepsFailure = true ∨ m.fallsOnLoaded = true) m) :
    m.world.registry.Apart := by
  refine h.preserve (P := fun w => w.registry.Apart) (fun _ _ _ _ _ _ => rfl) ?_
  intro m _ hgood hapart
  obtain ⟨hkeeps, hfalls⟩ := not_or.1 hgood
  exact (apart_step_iff hapart).2 ⟨Bool.not_eq_true _ ▸ hkeeps, Bool.not_eq_true _ ▸ hfalls⟩

/-- **Loaded and failed names, in every reachable machine.**  The failure under the name of a
loaded plugin is that of another folder than the plugin's, as far as it is not under its own
spelled root.  As far as no failure falls back to a root that is spelled like the name of a loaded
plugin, maps without a common key come to share one exactly when a load is completed beside the
failure of another folder; so along histories without the two they never do. -/
theorem Reachable.failures_apart {m : Machine} (hm : m.Reachable) :
    (∀ name record f, m.situation.record? name = some record →
      m.world.registry.failed.get? name = some f → f.root.text ≠ name →
      f.root.same (m.world.sandbox record.sandbox).identity.root = false) ∧
    (m.world.registry.Apart → m.fallsOnLoaded = false →
      (m.step.world.registry.Apart ↔ m.keepsFailure = false)) ∧
    (ReachableAvoiding (fun m => m.keepsFailure = true ∨ m.fallsOnLoaded = true) m →
      ∀ name ∈ m.world.registry.loadOrder, m.world.registry.failed.contains name = false) := by
  refine ⟨hm.keepsOthers, fun h hfalls => ?_, fun h name hname => ?_⟩
  · rw [apart_step_iff h]
    exact and_iff_left hfalls
  · exact h.apart name ((hm.listed name).1 hname)

end Machine

/-- A load that is completed beside a failure under another name keeps the maps apart. -/
theorem single_apart : ∃ m, Scene.single.machine? [.load ⟨"b"⟩] (.load ⟨"a"⟩) 2 = some m ∧
    m.Reachable ∧ m.world.registry.failed.contains "b" = true ∧
    m.loadEvent?.isSome = true ∧ m.step.world.registry.Apart := by
  have hscene : (Scene.single.machine? [.load ⟨"b"⟩] (.load ⟨"a"⟩) 2).any (fun m =>
      (m.world.registry.failed.contains "b" && m.loadEvent?.isSome) &&
      ((!m.keepsFailure && !m.fallsOnLoaded) && m.world.registry.loadOrder.isEmpty)) = true := by
    decide +kernel
  obtain ⟨m, hmachine, hm, hq⟩ := Scene.reach hscene
  obtain ⟨hends, hplain⟩ := Bool.and_eq_true_iff.1 hq
  obtain ⟨hfailed, hevent⟩ := Bool.and_eq_true_iff.1 hends
  obtain ⟨hkinds, hempty⟩ := Bool.and_eq_true_iff.1 hplain
  obtain ⟨hkeeps, hfalls⟩ := Bool.and_eq_true_iff.1 hkinds
  have hapart : m.world.registry.Apart := by
    intro name hname
    have hlisted := (hm.listed name).2 hname
    rw [List.isEmpty_iff.1 hempty] at hlisted
    cases hlisted
  obtain ⟨-, hstep, -⟩ := hm.failures_apart
  exact ⟨m, hmachine, hm, hfailed, hevent,
    (hstep hapart (by simpa using hfalls)).2 (by simpa using hkeeps)⟩

/-- Two folders of one name; the entry script of the first raises. -/
def Scene.rivals : Scene :=
  [⟨"b", "n", [.array [.text "error", .text "boom"]]⟩, ⟨"w", "n", []⟩]

/-- When the second of the rivals is loaded, the failure of the first is kept: there is a reachable
machine in which a name is loaded and failed. -/
theorem rivals_loaded_and_failed : ∃ m : Machine, m.Reachable ∧
    ∃ name ∈ m.world.registry.loadOrder, m.world.registry.failed.contains name = true := by
  have hscene : (Scene.rivals.machine? [.load ⟨"b"⟩] (.load ⟨"w"⟩) 3).any (fun m =>
      decide (∃ name ∈ m.world.registry.loadOrder, m.world.registry.failed.contains name = true))
      = true := by decide +kernel
  obtain ⟨m, -, hm, hq⟩ := Scene.reach hscene
  exact ⟨m, hm, of_decide_eq_true hq⟩

end EditorPlugins
