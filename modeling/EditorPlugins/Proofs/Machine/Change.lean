/-
  What a step of the machine can change, loads aside.

  An invariant of the machine speaks about the world and about the frames that wait: a `Situation`.
  `Change` lists the basic changes under which every plugin stays loaded, each with the guard under
  which the machine makes it; one step may make several of them (a broadcast that goes on leaves
  one plugin and enters the next), so they form chains, `Changes`.  `Removal` lists the two ways in
  which plugins go; a step removes at most once, and then does nothing else but start a load.

  Main statements: a basic change adds and removes no entry of the registry (`Change.sameEntries`),
  and one lemma for each part of a step: asking (`ask_changes`), announcing an event
  (`announce_changes`), the end of a dispatched function (`endDispatch_changes`), handing over
  results and answers (`deliverResults_changes`, `deliverAnswer_changes`), and the operations that
  run code.  With them an invariant needs one small proof for each kind of change and never looks
  into a step again.
-/
import Mathlib.Logic.Relation
import EditorPlugins.Proofs.Machine.Outcomes
import EditorPlugins.Proofs.World.Confined

namespace EditorPlugins

open Script (Value Raised Program Request)

/-! ## Situations -/

/-- The world, and the frames that wait for something to end, innermost first. -/
structure Situation where
  world : World
  waiting : List Frame

/-- What invariants can say about a machine. -/
def Machine.situation (m : Machine) : Situation := ⟨m.world, m.frames⟩

/-- A frame that neither stands for a plugin's execution, nor for a load, nor for a shutdown. -/
def Frame.isPlain : Frame → Bool
  | .code .. | .module .. | .pluginCall .. | .hostStep .. | .scan .. => true
  | .entry _ | .dispatch .. | .finalization => false

/-! ## Changes -/

/-- A basic change of a situation.  No plugin is loaded or unloaded. -/
inductive Change : Situation → Situation → Prop where
  /-- Something happens that stays within one sandbox. -/
  | act {w w' : World} {F : List Frame} (id : SandboxId) (h : w.ActsWithin id w') :
      Change ⟨w, F⟩ ⟨w', F⟩
  | push {w : World} {F : List Frame} (f : Frame) (h : f.isPlain = true) :
      Change ⟨w, F⟩ ⟨w, f :: F⟩
  | pop {w : World} {F : List Frame} (f : Frame) (h : f.isPlain = true) :
      Change ⟨w, f :: F⟩ ⟨w, F⟩
  /-- Collaborators are attached. -/
  | attach {w : World} {F : List Frame} (h : w.registry.isInitialized = false) :
      Change ⟨w, F⟩ ⟨w.attach.1, F⟩
  /-- A shutdown begins; nothing is executing. -/
  | shutDown {w : World} {F : List Frame} (h : w.registry.active = []) :
      Change ⟨w, F⟩ ⟨w, .finalization :: F⟩
  | enable {w : World} {F : List Frame} (plugin : String) (on : Bool) :
      Change ⟨w, F⟩ ⟨(w.enable plugin on).1, F⟩
  /-- A function of a loaded, enabled plugin that is not executing begins to run. -/
  | enter {w : World} {F : List Frame} {plugin : String} {record : Record} (purpose : Purpose)
      (hactive : plugin ∉ w.registry.active)
      (hrecord : w.registry.plugins.get? plugin = some record) (henabled : record.enabled = true) :
      Change ⟨w, F⟩ ⟨w.modifyRegistry (·.enter plugin), .dispatch plugin purpose :: F⟩
  /-- A dispatched function that raised is remembered. -/
  | blame {w : World} {F : List Frame} (plugin text : String) :
      Change ⟨w, F⟩ ⟨w.modifyRegistry (·.blame plugin text), F⟩
  /-- A dispatched function has ended. -/
  | leave {w : World} {F : List Frame} (plugin : String) (purpose : Purpose) :
      Change ⟨w, .dispatch plugin purpose :: F⟩ ⟨w.modifyRegistry (·.leave plugin), F⟩

/-- A change that takes plugins away. -/
inductive Removal : Situation → Situation → Prop where
  /-- A loaded plugin that is not executing is unloaded. -/
  | unload {w : World} {F : List Frame} {plugin : String} (h : (w.unload plugin).2 = .ok ()) :
      Removal ⟨w, F⟩ ⟨(w.unload plugin).1, F⟩
  /-- The shutdown has been announced, and everything is unloaded. -/
  | clear {w : World} {F : List Frame} : Removal ⟨w, .finalization :: F⟩ ⟨w.completeFinalize, F⟩

/-- Changes one after the other. -/
abbrev Changes : Situation → Situation → Prop := Relation.ReflTransGen Change

/-- What every basic change keeps is kept by all of them together. -/
theorem Changes.preserve {I : Situation → Prop} (hstep : ∀ s s', Change s s' → I s → I s')
    {s s' : Situation} (h : Changes s s') (hs : I s) : I s' := by
  induction h with
  | refl => exact hs
  | tail _ hchange ih => exact hstep _ _ hchange ih

/-- The two registries have plugins of the same names, the same order and the same failures. -/
structure Registry.SameEntries (r r' : Registry) : Prop where
  contains : ∀ name, r'.plugins.contains name = r.plugins.contains name
  loadOrder : r'.loadOrder = r.loadOrder
  failed : r'.failed = r.failed

theorem Registry.SameEntries.of_eq {r r' : Registry} (hplugins : r'.plugins = r.plugins)
    (horder : r'.loadOrder = r.loadOrder) (hfailed : r'.failed = r.failed) : r.SameEntries r' :=
  ⟨fun _ => by rw [hplugins], horder, hfailed⟩

/-- **A basic change adds and removes no entry of the registry.** -/
theorem Change.sameEntries {s s' : Situation} (h : Change s s') :
    s.world.registry.SameEntries s'.world.registry := by
  cases h with
  | act id h =>
    rw [h.registry]
    exact .of_eq rfl rfl rfl
  | attach h =>
    rw [(World.attach_of_not_initialized h).1]
    exact .of_eq rfl rfl rfl
  | enable plugin on =>
    rw [World.enable_eq]
    exact ⟨fun name => Dict.contains_modify .., rfl, rfl⟩
  | blame plugin text => exact ⟨fun name => Dict.contains_modify .., rfl, rfl⟩
  | push | pop | shutDown | enter | leave => exact .of_eq rfl rfl rfl

namespace Machine

/-! ## Dispatch -/

/-- A function that was resolved is entered, or refused because its plugin is executing. -/
theorem dispatch_changes {w : World} {plugin : String} {t : World.Target} {record : Record}
    (hrecord : w.registry.plugins.get? plugin = some record) (henabled : record.enabled = true)
    (args : List Value) (purpose : Purpose) (F : List Frame) :
    Changes ⟨w, F⟩ (dispatch w plugin t args purpose F).situation := by
  unfold dispatch
  split
  · exact .refl
  · rename_i hactive
    exact .single (.enter purpose (by simpa using hactive) hrecord henabled)

/-- Announcing an event enters at most one plugin; the others before it are skipped. -/
theorem announce_changes (w : World) (e : Event) (F : List Frame) (plugins : List String)
    (soFar : Summary) : Changes ⟨w, F⟩ (announce w e F plugins soFar).situation := by
  obtain ⟨m, hannounce, hannounced⟩ := exists_announced w e F plugins soFar
  rw [hannounce]
  cases hannounced with
  | finished soFar => exact .refl
  | delivered hidle hrecord henabled => exact .single (.enter _ hidle hrecord henabled)

theorem endDispatch_changes (w : World) (plugin : String) (purpose : Purpose)
    (r : Except Raised (List Value)) (F : List Frame) :
    Changes ⟨w, .dispatch plugin purpose :: F⟩ (endDispatch w plugin purpose r F).situation := by
  cases r with
  | ok vs =>
    have hleave : Changes ⟨w, .dispatch plugin purpose :: F⟩
        ⟨w.modifyRegistry (·.leave plugin), F⟩ := .single (.leave plugin purpose)
    cases purpose with
    | command => exact hleave
    | function => exact hleave
    | delivery event rest soFar => exact hleave.trans (announce_changes _ event F rest _)
  | error e =>
    -- the error is remembered before the plugin leaves the stack
    have hleave : Changes ⟨w, .dispatch plugin purpose :: F⟩
        ⟨(w.modifyRegistry (·.blame plugin e.message)).modifyRegistry (·.leave plugin), F⟩ :=
      .head (.blame plugin e.message) (.single (.leave plugin purpose))
    cases purpose with
    | command => exact hleave
    | function => exact hleave
    | delivery event rest soFar => exact hleave.trans (announce_changes _ event F rest _)

/-! ## Code -/

theorem pushed_changes (w : World) (F : List Frame) {l : List Frame}
    (h : ∀ f ∈ l, f.isPlain = true) : Changes ⟨w, F⟩ ⟨w, l ++ F⟩ := by
  induction l with
  | nil => exact .refl
  | cons f l ih =>
    exact .tail (ih fun g hg => h g (List.mem_cons_of_mem f hg)) (.push f (h f List.mem_cons_self))

/-- Code that asks acts within its sandbox, or something begins that it waits for. -/
theorem ask_changes (w : World) (id : SandboxId) (q : Request)
    (next : Except Raised (List Value) → Program (List Value)) (F : List Frame) :
    Changes ⟨w, F⟩ (ask w id q next F).situation := by
  cases hserve : w.serve id q with
  | some served =>
    obtain ⟨w', r⟩ := served
    rw [ask_of_serve w id next F hserve]
    exact .single (.act id (World.serve_actsWithin hserve))
  | none =>
    obtain ⟨m, hask, hdeferred⟩ := exists_deferred w id next F hserve
    rw [hask]
    cases hdeferred with
    | resumed r => exact .refl
    | called p waiting hwaiting =>
      refine .head (.push _ rfl) (pushed_changes w _ fun f hf => ?_)
      obtain ⟨name, rfl⟩ := hwaiting f hf
      rfl
    | calledPlugin | hostActs => exact .single (.push _ rfl)

/-! ## Handing over -/

theorem keepModule_actsWithin (w : World) (id : SandboxId) (name : String) (vs : List Value) :
    w.ActsWithin id (keepModule w id name vs).1 :=
  World.modifySandbox_actsWithin w id (fun _ => rfl)

/-- Results go to the innermost frame; those of an entry script are a load event instead. -/
theorem deliverResults_changes (w : World) (r : Except Raised (List Value)) (F : List Frame)
    (hload : ∀ p G, F ≠ .entry p :: G) :
    Changes ⟨w, F⟩ (deliverResults w r F).situation := by
  cases F with
  | nil => exact .refl
  | cons f G =>
    cases f with
    | code depth id next => exact .single (.pop _ rfl)
    | module id name =>
      cases r with
      | ok vs => exact .head (.act id (keepModule_actsWithin w id name vs)) (.single (.pop _ rfl))
      | error e => exact .single (.pop _ rfl)
    | entry p => exact absurd rfl (hload p G)
    | dispatch plugin purpose => exact endDispatch_changes w plugin purpose r G
    | pluginCall id next => exact .refl
    | hostStep id next => exact .refl
    | scan rest loaded => exact .refl
    | finalization => exact .refl

theorem scan_changes (w : World) (F : List Frame) (roots : List Path) (loaded : List String) :
    Changes ⟨w, F⟩ (scan w F roots loaded).situation := by
  cases roots with
  | nil => exact .refl
  | cons root rest => exact .single (.push _ rfl)

/-- Answers go to the innermost frame; one to a shutdown clears everything instead. -/
theorem deliverAnswer_changes (w : World) (a : Answer) (F : List Frame)
    (hshutdown : ∀ G, F ≠ .finalization :: G) :
    Changes ⟨w, F⟩ (deliverAnswer w a F).situation := by
  cases F with
  | nil => exact .refl
  | cons f G =>
    cases f with
    | pluginCall id next => exact .single (.pop _ rfl)
    | hostStep id next =>
      exact .head (.act id (World.observe_actsWithin w id _)) (.single (.pop _ rfl))
    | scan rest loaded =>
      refine .head (.pop _ rfl) ?_
      simp only [deliverAnswer]
      split
      · exact scan_changes w G rest _
      · exact scan_changes w G rest _
    | finalization => exact absurd rfl (hshutdown G)
    | code depth id next => exact .refl
    | module id name => exact .refl
    | entry p => exact .refl
    | dispatch plugin purpose => exact .refl

/-! ## Operations -/

/-- An unload that may have been refused. -/
theorem unload_cases (w : World) (plugin : String) (F : List Frame) :
    (w.unload plugin).1 = w ∨ Removal ⟨w, F⟩ ⟨(w.unload plugin).1, F⟩ := by
  cases h : (w.unload plugin).2 with
  | error e => exact .inl (World.unload_of_error h)
  | ok _ => exact .inr (.unload h)

theorem attach_changes (w : World) (F : List Frame) : Changes ⟨w, F⟩ ⟨w.attach.1, F⟩ := by
  cases h : w.registry.isInitialized with
  | true =>
    have hw : w.attach.1 = w := by
      unfold World.attach
      rw [h]
      rfl
    rw [hw]
  | false => exact .single (.attach h)

theorem execute_changes (w : World) (id : String) (F : List Frame) :
    Changes ⟨w, F⟩ (start w (.execute id) F).situation := by
  simp only [start]
  split
  · exact .refl
  · rename_i plugin t hresolve
    obtain ⟨-, record, -, hrecord, henabled, -, -⟩ := World.resolveCommand_eq_ok hresolve
    exact dispatch_changes hrecord henabled _ _ F

theorem call_changes (w : World) (plugin function : String) (args : List String)
    (F : List Frame) : Changes ⟨w, F⟩ (start w (.call plugin function args) F).situation := by
  simp only [start]
  split
  · exact .refl
  · rename_i t hresolve
    obtain ⟨record, hrecord, henabled, -, -⟩ := World.resolve_eq_ok hresolve
    exact dispatch_changes hrecord henabled _ _ F

theorem finalize_changes (w : World) (F : List Frame) :
    Changes ⟨w, F⟩ (start w .finalize F).situation := by
  simp only [start]
  split
  · exact .refl
  · split
    · exact .refl
    · rename_i hactive
      exact .head (.shutDown hactive) (announce_changes w .shutdown _ _ _)

end Machine

end EditorPlugins
