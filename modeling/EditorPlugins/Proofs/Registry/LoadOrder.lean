/-
  The load order, and the one way in which it goes wrong.

  The load order should list every loaded plugin once.  It lists the loaded plugins and nothing
  else in every reachable machine.  But a load asks whether its name is free before its entry
  script runs, and takes the name afterwards; when the script has another folder of that name
  loaded meanwhile, the record of that plugin is displaced and its name is listed twice.

  Main statement: `Reachable.loadOrder_exact`.  A step displaces a record exactly when a load is
  completed under a name that is taken (`Machine.displaces`), and only such a step lists a name
  twice; none is ever taken when no two loads of one name are under way at a time.
-/
import EditorPlugins.Proofs.Registry.Ownership
import EditorPlugins.Proofs.Machine.Scene

namespace EditorPlugins

/-! ## The order lists the loaded plugins -/

/-- The names in the load order are those of the loaded plugins. -/
def Registry.Listed (r : Registry) : Prop :=
  ∀ name, name ∈ r.loadOrder ↔ r.plugins.contains name = true

namespace Registry.Listed

variable {r r' : Registry}

theorem of_sameEntries (hsame : r.SameEntries r') (h : r.Listed) : r'.Listed := by
  intro name
  rw [hsame.loadOrder, hsame.contains]
  exact h name

theorem drop (h : r.Listed) (plugin : String) : (r.drop plugin).Listed := by
  intro name
  show name ∈ r.loadOrder.filter (· != plugin) ↔ (r.plugins.erase plugin).contains name = true
  rw [List.mem_filter, h name, Dict.contains_erase]
  by_cases hname : name = plugin
  · simp [hname]
  · simp [hname]

theorem add (h : r.Listed) (name : String) (record : Record) : (r.add name record).Listed := by
  intro other
  show other ∈ r.loadOrder ++ [name] ↔ (r.plugins.insert name record).contains other = true
  rw [List.mem_append, List.mem_singleton, h other, Dict.contains_insert]
  simp [or_comm]

theorem cleared (r : Registry) : r.cleared.Listed := by
  intro name
  show name ∈ ([] : List String) ↔ (∅ : Dict Record).contains name = true
  simp

end Registry.Listed

/-- **The load order lists the loaded plugins and nothing else**, in every reachable machine. -/
theorem Machine.Reachable.listed {m : Machine} (h : m.Reachable) : m.world.registry.Listed := by
  refine h.invariant (I := fun s => s.world.registry.Listed) ?_ ?_ ?_ ?_
  · intro files profile config isShared
    exact .cleared (.empty config isShared)
  · intro s s' hchange hs
    exact hs.of_sameEntries hchange.sameEntries
  · intro s s' hremoval hs
    cases hremoval with
    | unload hok =>
      rw [(World.unload_of_ok hok).2.2]
      exact hs.drop _
    | clear =>
      rw [World.completeFinalize_registry]
      exact .cleared _
  · intro s e s' hloading hs
    cases hloading with
    | completed => exact hs.add _ _
    | begun | refused | abandoned => exact hs

/-! ## Displacement -/

/-- Of the load events, completion alone adds a record; it stores its own. -/
theorem Loading.records {s s' : Situation} {e : LoadEvent} (h : Loading s e s') (name : String) :
    s'.record? name = s.record? name ∨
    ∃ p, e = .completed p ∧ name = p.manifest.name ∧
      s'.record? name = some ⟨p.sandbox, true, none, p.manifest⟩ := by
  cases h with
  | @completed w F p =>
    show (w.registry.plugins.insert p.manifest.name _).get? name
        = w.registry.plugins.get? name ∨ ∃ q, _ ∧ _ ∧
      (w.registry.plugins.insert p.manifest.name _).get? name = some _
    rw [Dict.get?_insert]
    split
    · rename_i hname
      exact .inr ⟨p, rfl, hname, rfl⟩
    · exact .inl rfl
  | begun | refused | abandoned => exact .inl rfl

/-- A load is completed whose name is taken. -/
def LoadEvent.displaces (r : Registry) : LoadEvent → Bool
  | .completed p => r.plugins.contains p.manifest.name
  | .begun .. | .refused .. | .abandoned .. => false

namespace Machine

/-- Whether the next step completes a load whose name is taken. -/
def displaces (m : Machine) : Bool := m.loadEvent?.any fun e => e.2.displaces e.1.registry

/-- The next step puts the record of another load in the place of a loaded plugin's. -/
def ReplacesRecord (m : Machine) : Prop :=
  ∃ name old new, m.situation.record? name = some old ∧
    m.step.situation.record? name = some new ∧ ¬ old.Same new

/-- Two loads of one name are under way. -/
def LoadsTwice (m : Machine) : Prop :=
  ¬ ((Frame.pending m.frames).map (·.manifest.name)).Nodup

/-- A load that is completed was the innermost one under way, in the world as it is. -/
theorem completed_of_loadEvent? {m : Machine} {w : World} {p : PendingLoad}
    (h : m.loadEvent? = some (w, .completed p)) :
    w = m.world ∧ ∃ F, m.frames = .entry p :: F ∧ m.step.situation =
      ⟨m.world.modifyRegistry fun r =>
        (r.add p.manifest.name ⟨p.sandbox, true, none, p.manifest⟩).forgetFailures p.root, F⟩ := by
  obtain ⟨-, hloading⟩ := step_of_loadEvent? h
  rcases ended_or_started h with ⟨rfl, q, F, hframes, hended⟩ | ⟨root, -, hstart⟩
  · rw [hframes] at hloading
    generalize m.step.situation = s' at hloading ⊢
    cases hloading
    exact ⟨rfl, F, hframes, rfl⟩
  · rcases World.begun_or_refused hstart with ⟨_, _, hcontra⟩ | ⟨_, _, hcontra⟩ <;> cases hcontra

theorem displaces_eq_true {m : Machine} (h : m.displaces = true) :
    ∃ p F, m.frames = .entry p :: F ∧
      m.world.registry.plugins.contains p.manifest.name = true ∧
      m.step.situation = ⟨m.world.modifyRegistry fun r =>
        (r.add p.manifest.name ⟨p.sandbox, true, none, p.manifest⟩).forgetFailures p.root, F⟩ := by
  obtain ⟨⟨w, e⟩, hevent, htaken⟩ := (Option.any_eq_true ..).1 h
  cases e with
  | completed p =>
    obtain ⟨rfl, F, hframes, hstep⟩ := completed_of_loadEvent? hevent
    exact ⟨p, F, hframes, htaken, hstep⟩
  | begun | refused | abandoned => cases htaken

/-- A record after a step was there before, unless the step completes its load. -/
theorem record_of_step {m : Machine} {name : String} {new : Record}
    (h : m.step.situation.record? name = some new) :
    (∃ old, m.situation.record? name = some old ∧ old.Same new) ∨
    ∃ p, m.loadEvent? = some (m.world, .completed p) ∧ name = p.manifest.name := by
  rcases m.step_cases with ⟨-, hchanges⟩ | ⟨-, hremoval⟩ | ⟨w, e, hevent, hbefore, hloading⟩
  · exact .inl (hchanges.record_before h)
  · exact .inl (hremoval.record_before h)
  · rcases hloading.records name with hsame | ⟨p, rfl, hname, -⟩
    · rw [hsame] at h
      rcases hbefore with rfl | hremoval
      · exact .inl ⟨new, h, rfl, rfl⟩
      · exact .inl (hremoval.record_before h)
    · obtain ⟨rfl, -⟩ := completed_of_loadEvent? hevent
      exact .inr ⟨p, hevent, hname⟩

/-- **Records are replaced by displacing steps and by no others.** -/
theorem replacesRecord_iff {m : Machine} (hm : m.Reachable) :
    m.ReplacesRecord ↔ m.displaces = true := by
  constructor
  · rintro ⟨name, old, new, hold, hnew, hother⟩
    rcases record_of_step hnew with ⟨old', hold', hsame⟩ | ⟨p, hevent, rfl⟩
    · rw [hold] at hold'
      cases hold'
      exact absurd hsame hother
    · exact (Option.any_eq_true ..).2 ⟨_, hevent, Dict.contains_iff.2 ⟨old, hold⟩⟩
  · intro h
    obtain ⟨p, F, hframes, htaken, hstep⟩ := displaces_eq_true h
    obtain ⟨old, hold⟩ := Dict.contains_iff.1 htaken
    refine ⟨p.manifest.name, old, ⟨p.sandbox, true, none, p.manifest⟩, hold, ?_, ?_⟩
    · rw [hstep]
      show (m.world.registry.plugins.insert p.manifest.name _).get? p.manifest.name = some _
      rw [Dict.get?_insert, if_pos rfl]
    · -- the load under way has a sandbox of its own, so the record cannot be of the same load
      intro hsame
      have hpending : p ∈ Frame.pending m.situation.waiting := by
        show p ∈ Frame.pending m.frames
        rw [hframes]
        exact List.mem_cons_self
      exact hm.owned.apart p hpending _ old hold hsame.1.symm

end Machine

/-! ## Repetition -/

/-- The order lists the loaded plugins, each once. -/
structure Registry.ListedOnce (r : Registry) : Prop where
  listed : r.Listed
  nodup : r.loadOrder.Nodup

namespace Registry.ListedOnce

theorem change {s s' : Situation} (hs : Change s s') (h : s.world.registry.ListedOnce) :
    s'.world.registry.ListedOnce where
  listed := h.listed.of_sameEntries hs.sameEntries
  nodup := by
    rw [hs.sameEntries.loadOrder]
    exact h.nodup

theorem removal {s s' : Situation} (hs : Removal s s') (h : s.world.registry.ListedOnce) :
    s'.world.registry.ListedOnce := by
  cases hs with
  | unload hok =>
    rw [(World.unload_of_ok hok).2.2]
    exact ⟨h.listed.drop _, h.nodup.sublist List.filter_sublist⟩
  | clear =>
    rw [World.completeFinalize_registry]
    exact ⟨.cleared _, List.nodup_nil⟩

/-- Of the load events, those that displace a record repeat a name, and no others. -/
theorem loading_iff {s s' : Situation} {e : LoadEvent} (hs : Loading s e s')
    (h : s.world.registry.ListedOnce) :
    s'.world.registry.ListedOnce ↔ e.displaces s.world.registry = false := by
  cases hs with
  | begun | refused | abandoned => exact iff_of_true ⟨h.listed, h.nodup⟩ rfl
  | @completed w F p =>
    constructor
    · -- a taken name stands in the order already, and the load would add it again
      intro hafter
      have hnodup : (w.registry.loadOrder ++ [p.manifest.name]).Nodup := hafter.nodup
      obtain ⟨-, -, hapart⟩ := List.nodup_append.1 hnodup
      rw [← Bool.not_eq_true]
      intro htaken
      exact hapart _ ((h.listed _).2 htaken) _ List.mem_cons_self rfl
    · intro hfree
      refine ⟨h.listed.add _ _, List.nodup_append.2 ⟨h.nodup, List.pairwise_singleton _ _, ?_⟩⟩
      intro a ha b hb hab
      have hloaded : w.registry.plugins.contains a = true := (h.listed a).1 ha
      rw [hab, List.mem_singleton.1 hb] at hloaded
      rw [show w.registry.plugins.contains _ = false from hfree] at hloaded
      cases hloaded

end Registry.ListedOnce

namespace Machine

/-- **From an order without repetition, displacing steps and no others lead to one with.** -/
theorem nodup_step_iff {m : Machine} (hm : m.Reachable) (h : m.world.registry.loadOrder.Nodup) :
    m.step.world.registry.loadOrder.Nodup ↔ m.displaces = false := by
  have honce : m.step.world.registry.ListedOnce ↔ m.displaces = false :=
    step_preserve_iff (I := fun s => s.world.registry.ListedOnce)
      (q := fun w e => e.displaces w.registry)
      (fun _ _ => .change) (fun _ _ => .removal) (fun _ _ _ => Registry.ListedOnce.loading_iff)
      ⟨hm.listed, h⟩
  rw [← honce]
  exact ⟨fun hnodup => ⟨hm.step.listed, hnodup⟩, fun hafter => hafter.nodup⟩

/-! ## Histories without repetition -/

/-- The order has no repetition as long as nothing was displaced. -/
theorem ReachableAvoiding.loadOrder_nodup {m : Machine}
    (h : ReachableAvoiding (fun m => m.displaces = true) m) :
    m.world.registry.loadOrder.Nodup :=
  h.preserve (P := fun w => w.registry.loadOrder.Nodup) (fun _ _ _ _ => List.nodup_nil)
    (fun _ hm hgood hnodup => (nodup_step_iff hm hnodup).2 (Bool.not_eq_true _ ▸ hgood))

/-- As long as no two loads of one name are under way, the names of those under way are free. -/
theorem ReachableAvoiding.pending_free {m : Machine} (h : ReachableAvoiding LoadsTwice m) :
    ∀ p ∈ Frame.pending m.frames,
      m.world.registry.plugins.contains p.manifest.name = false := by
  refine h.invariant (I := fun s => ∀ p ∈ Frame.pending s.waiting,
    s.world.registry.plugins.contains p.manifest.name = false) ?_ ?_ ?_ ?_
  · intro files profile config isShared p hp
    exact nomatch hp
  · intro s s' hchange hs p hp
    rw [hchange.sameEntries.contains]
    exact hs p (hchange.pending ▸ hp)
  · intro s s' hremoval hs p hp
    rw [hremoval.pending] at hp
    have hfree : s.record? p.manifest.name = none := Dict.contains_eq_false_iff.1 (hs p hp)
    rcases hremoval.records p.manifest.name with hnone | hsame
    · exact Dict.contains_eq_false_iff.2 hnone
    · exact Dict.contains_eq_false_iff.2 (hsame.trans hfree)
  · intro m w e _ hsingle _ hloading hw
    have hframes : ∀ {F : List Frame}, m.frames = F →
        ((Frame.pending F).map (·.manifest.name)).Nodup := by
      rintro F rfl
      exact Classical.not_not.1 hsingle
    generalize m.step.situation = s' at hloading ⊢
    generalize hF : m.frames = F at hloading hw
    cases hloading with
    | @begun _ _ p s hinit hfree hsandbox hidentity =>
      intro q hq
      rcases List.mem_cons.1 hq with rfl | hq
      · exact hfree
      · exact hw q hq
    | refused => exact hw
    | abandoned => exact fun q hq => hw q (List.mem_cons_of_mem _ hq)
    | @completed _ F' p =>
      -- the innermost load takes its name, and no other load under way has that name
      intro q hq
      have hfree := hw q (List.mem_cons_of_mem _ hq)
      have hother : q.manifest.name ≠ p.manifest.name := by
        intro heq
        exact (List.nodup_cons.1 (hframes hF)).1 (List.mem_map.2 ⟨q, hq, heq⟩)
      show (w.registry.plugins.insert p.manifest.name _).contains q.manifest.name = false
      rw [Dict.contains_insert, hfree]
      simp [hother]

/-- Then nothing is displaced. -/
theorem ReachableAvoiding.displaces_eq_false {m : Machine} (h : ReachableAvoiding LoadsTwice m) :
    m.displaces = false := by
  cases hdisplaces : m.displaces with
  | false => rfl
  | true =>
    obtain ⟨p, F, hframes, htaken, -⟩ := displaces_eq_true hdisplaces
    have hfree := h.pending_free p (by rw [hframes]; exact List.mem_cons_self)
    rw [htaken] at hfree
    cases hfree

/-- **The load order in every reachable machine.**  It lists exactly the loaded plugins.  A step
replaces a record when it is displacing and at no other time, and it leads from an order without
repetition to one with repetition when it is displacing and at no other time.  So nothing is listed
twice before something was displaced; and nothing is displaced where no two loads of one name are
ever under way. -/
theorem Reachable.loadOrder_exact {m : Machine} (hm : m.Reachable) :
    (∀ name, name ∈ m.world.registry.loadOrder ↔
      m.world.registry.plugins.contains name = true) ∧
    (m.ReplacesRecord ↔ m.displaces = true) ∧
    (m.world.registry.loadOrder.Nodup →
      (m.step.world.registry.loadOrder.Nodup ↔ m.displaces = false)) ∧
    (ReachableAvoiding (fun m => m.displaces = true) m → m.world.registry.loadOrder.Nodup) ∧
    (ReachableAvoiding LoadsTwice m →
      m.world.registry.loadOrder.Nodup ∧ m.displaces = false) := by
  refine ⟨hm.listed, replacesRecord_iff hm, nodup_step_iff hm, fun h => h.loadOrder_nodup, ?_⟩
  intro h
  have hnothing : ReachableAvoiding (fun m => m.displaces = true) m := by
    refine h.avoiding (fun m hm => ?_)
    rw [hm.displaces_eq_false]
    exact Bool.false_ne_true
  exact ⟨hnothing.loadOrder_nodup, h.displaces_eq_false⟩

end Machine

/-- A load that is completed under a free name is listed, and nothing is listed twice. -/
theorem single_listed_once : ∃ m, Scene.single.machine? [] (.load ⟨"a"⟩) 2 = some m ∧
    m.Reachable ∧ m.loadEvent?.isSome = true ∧ ¬ m.ReplacesRecord ∧
    m.step.world.registry.loadOrder.Nodup := by
  have hscene : (Scene.single.machine? [] (.load ⟨"a"⟩) 2).any (fun m =>
      (m.loadEvent?.isSome && !m.displaces) && m.world.registry.loadOrder.isEmpty) = true := by
    decide +kernel
  obtain ⟨m, hmachine, hm, hq⟩ := Scene.reach hscene
  obtain ⟨hends, hempty⟩ := Bool.and_eq_true_iff.1 hq
  obtain ⟨hevent, hplain⟩ := Bool.and_eq_true_iff.1 hends
  have hplain : m.displaces = false := by simpa using hplain
  obtain ⟨-, hreplaces, hstep, -, -⟩ := hm.loadOrder_exact
  refine ⟨m, hmachine, hm, hevent, fun h => ?_, (hstep ?_).2 hplain⟩
  · rw [hreplaces.1 h] at hplain
    cases hplain
  · rw [List.isEmpty_iff.1 hempty]
    exact List.nodup_nil

/-- Two folders of one name; the entry script of the first has the second loaded. -/
def Scene.twins : Scene :=
  [⟨"p", "n", [Scene.hostActs [("do", .text "load"), ("path", .text "q")]]⟩, ⟨"q", "n", []⟩]

/-- The first of the twins displaces the second: there is a reachable machine whose load order has
a name twice. -/
theorem twins_listed_twice : ∃ m : Machine, m.Reachable ∧
    ¬ m.world.registry.loadOrder.Nodup := by
  have hscene : (Scene.twins.machine? [] (.load ⟨"p"⟩) 8).any (fun m =>
      !decide m.world.registry.loadOrder.Nodup) = true := by decide +kernel
  obtain ⟨m, -, hm, hq⟩ := Scene.reach hscene
  exact ⟨m, hm, by simpa using hq⟩

end EditorPlugins
