/-
  The stack of active plugins.

  A plugin is put on the stack when one of its functions is dispatched and taken off when the
  function has ended.  While it is there it cannot be entered again, nor unloaded, and the registry
  cannot be finalized.  It cannot be displaced either: a load begins under a name that is not
  taken, so when its entry script runs no plugin of that name is executing, and one that was loaded
  meanwhile has returned by the time the script ends.

  `Guarded` is the invariant that carries all of this: the stack is what the waiting dispatch frames
  say, and these frames nest in a way that the guards of the registry allow.  Main statement:
  `Reachable.recursionGuarded`.
-/
import EditorPlugins.Proofs.Machine.Nesting
import EditorPlugins.Proofs.Registry.LoadOrder

namespace EditorPlugins

open Script (Value Raised)

namespace Frame

/-- The plugins whose functions are being waited for, innermost first. -/
def executing : List Frame → List String
  | [] => []
  | .dispatch plugin _ :: rest => plugin :: executing rest
  | .code .. :: rest | .module .. :: rest | .entry _ :: rest | .pluginCall .. :: rest
  | .hostStep .. :: rest | .scan .. :: rest | .finalization :: rest => executing rest

/-- What the guards of the registry make of the frames: a dispatched plugin was not executing, nor
was one of the name of a load under way, and a shutdown began with nothing executing. -/
def WellNested : List Frame → Prop
  | [] => True
  | .dispatch plugin _ :: rest => plugin ∉ executing rest ∧ WellNested rest
  | .entry p :: rest => p.manifest.name ∉ executing rest ∧ WellNested rest
  | .finalization :: rest => executing rest = [] ∧ WellNested rest
  | .code .. :: rest | .module .. :: rest | .pluginCall .. :: rest | .hostStep .. :: rest
  | .scan .. :: rest => WellNested rest

theorem executing_of_isPlain {f : Frame} (h : f.isPlain = true) (F : List Frame) :
    executing (f :: F) = executing F := by
  cases f with
  | entry | dispatch | finalization => cases h
  | code | module | pluginCall | hostStep | scan => rfl

theorem wellNested_of_isPlain {f : Frame} (h : f.isPlain = true) (F : List Frame) :
    WellNested (f :: F) ↔ WellNested F := by
  cases f with
  | entry | dispatch | finalization => cases h
  | code | module | pluginCall | hostStep | scan => exact Iff.rfl

/-- No plugin is being waited for twice. -/
theorem WellNested.nodup {F : List Frame} (h : WellNested F) : (executing F).Nodup := by
  induction F with
  | nil => exact List.nodup_nil
  | cons f F ih =>
    cases f with
    | dispatch plugin purpose => exact List.nodup_cons.2 ⟨h.1, ih h.2⟩
    | entry p => exact ih h.2
    | finalization => exact ih h.2
    | code | module | pluginCall | hostStep | scan => exact ih h

end Frame

/-! ## The invariant -/

/-- The stack of active plugins is as the guards mean it to be. -/
structure Guarded (s : Situation) : Prop where
  /-- It lists the plugins being waited for, innermost last. -/
  active : s.world.registry.active = (Frame.executing s.waiting).reverse
  nested : Frame.WellNested s.waiting
  loaded : ∀ plugin ∈ Frame.executing s.waiting, s.world.registry.plugins.contains plugin = true

namespace Guarded

theorem mem_active {s : Situation} (h : Guarded s) {plugin : String} :
    plugin ∈ s.world.registry.active ↔ plugin ∈ Frame.executing s.waiting := by
  rw [h.active, List.mem_reverse]

/-- The stack and the loaded plugins matter, nothing else of the world. -/
theorem of_world {w w' : World} {F : List Frame} (h : Guarded ⟨w, F⟩)
    (hactive : w'.registry.active = w.registry.active)
    (hloaded : ∀ plugin ∈ Frame.executing F, w.registry.plugins.contains plugin = true →
      w'.registry.plugins.contains plugin = true) : Guarded ⟨w', F⟩ where
  active := hactive.trans h.active
  nested := h.nested
  loaded plugin hplugin := hloaded plugin hplugin (h.loaded plugin hplugin)

theorem change {s s' : Situation} (hs : Change s s') (h : Guarded s) : Guarded s' := by
  have hcontains := hs.sameEntries.contains
  cases hs with
  | act id hact =>
    refine h.of_world (by rw [hact.registry]) (fun plugin _ hloaded => ?_)
    exact (hcontains plugin).trans hloaded
  | push f hf =>
    have hsame := Frame.executing_of_isPlain hf
    refine ⟨?_, (Frame.wellNested_of_isPlain hf _).2 h.nested, ?_⟩
    · exact h.active.trans (by rw [hsame])
    · intro plugin hplugin
      exact h.loaded plugin (by rw [hsame] at hplugin; exact hplugin)
  | pop f hf =>
    have hsame := Frame.executing_of_isPlain hf
    refine ⟨?_, (Frame.wellNested_of_isPlain hf _).1 h.nested, ?_⟩
    · exact h.active.trans (by rw [hsame])
    · intro plugin hplugin
      exact h.loaded plugin (by rw [hsame]; exact hplugin)
  | attach hinit =>
    refine h.of_world ?_ (fun plugin _ hloaded => (hcontains plugin).trans hloaded)
    rw [(World.attach_of_not_initialized hinit).1]
  | @shutDown w F hidle =>
    have hnone : Frame.executing F = [] := by
      have hactive := h.active
      rw [show w.registry.active = [] from hidle] at hactive
      exact List.reverse_eq_nil_iff.1 hactive.symm
    exact ⟨h.active, ⟨hnone, h.nested⟩, h.loaded⟩
  | enable plugin on =>
    refine h.of_world ?_ (fun plugin _ hloaded => (hcontains plugin).trans hloaded)
    rw [World.enable_eq]
    rfl
  | @enter w F plugin record purpose hactive hrecord henabled =>
    refine ⟨?_, ⟨fun hmem => hactive (h.mem_active.2 hmem), h.nested⟩, ?_⟩
    · show w.registry.active ++ [plugin] = (plugin :: Frame.executing F).reverse
      rw [List.reverse_cons, show w.registry.active = _ from h.active]
    · intro other hother
      rcases List.mem_cons.1 hother with rfl | hother
      · exact Dict.contains_iff.2 ⟨record, hrecord⟩
      · exact h.loaded other hother
  | blame plugin text =>
    exact h.of_world rfl (fun plugin _ hloaded => (hcontains plugin).trans hloaded)
  | @leave w F plugin purpose =>
    refine ⟨?_, h.nested.2, fun other hother => h.loaded other (List.mem_cons_of_mem _ hother)⟩
    have hactive : w.registry.active = (Frame.executing F).reverse ++ [plugin] := by
      rw [show w.registry.active = _ from h.active, ← List.reverse_cons]
      rfl
    show Registry.eraseLast plugin w.registry.active = (Frame.executing F).reverse
    rw [hactive, Registry.eraseLast_append_singleton]

/-- Nothing is executing when everything is cleared. -/
theorem executing_of_finalization {w : World} {F : List Frame}
    (h : Guarded ⟨w, .finalization :: F⟩) : Frame.executing F = [] := h.nested.1

/-- A removal keeps the records of the plugins on the stack. -/
theorem record_of_removal {s s' : Situation} (hs : Removal s s') (h : Guarded s) {plugin : String}
    (hplugin : plugin ∈ Frame.executing s.waiting) : s'.record? plugin = s.record? plugin := by
  cases hs with
  | @unload w F other hok =>
    obtain ⟨hidle, -, hregistry⟩ := World.unload_of_ok hok
    -- a plugin on the stack is busy, so it is another one that goes
    have hne : plugin ≠ other := by
      rintro rfl
      exact hidle (h.mem_active.2 hplugin)
    show ((w.unload other).1.registry.plugins).get? plugin = w.registry.plugins.get? plugin
    rw [hregistry]
    exact (Dict.get?_erase ..).trans (if_neg hne)
  | clear =>
    rw [show Frame.executing (.finalization :: _) = [] from h.executing_of_finalization] at hplugin
    exact nomatch hplugin

theorem removal {s s' : Situation} (hs : Removal s s') (h : Guarded s) : Guarded s' := by
  have hrecords : ∀ plugin ∈ Frame.executing s.waiting, s'.record? plugin = s.record? plugin :=
    fun _ hplugin => h.record_of_removal hs hplugin
  cases hs with
  | @unload w F other hok =>
    refine h.of_world ?_ (fun plugin hplugin hloaded => ?_)
    · rw [(World.unload_of_ok hok).2.2]
      rfl
    · obtain ⟨record, hrecord⟩ := Dict.contains_iff.1 hloaded
      exact Dict.contains_iff.2 ⟨record, (hrecords plugin hplugin).trans hrecord⟩
  | @clear w F =>
    refine ⟨?_, h.nested.2, ?_⟩
    · rw [World.completeFinalize_registry]
      exact h.active
    · intro plugin hplugin
      rw [h.executing_of_finalization] at hplugin
      exact nomatch hplugin

theorem loading {s s' : Situation} {e : LoadEvent} (hs : Loading s e s') (h : Guarded s) :
    Guarded s' := by
  cases hs with
  | @begun w F p sandbox hinit hfree hsandbox hidentity =>
    refine ⟨h.active, ⟨fun hmem => ?_, h.nested⟩, h.loaded⟩
    -- what is executing is loaded, but the load begins under a name that is free
    have hloaded := h.loaded _ hmem
    rw [show w.registry.plugins.contains _ = false from hfree] at hloaded
    cases hloaded
  | refused => exact h.of_world rfl (fun _ _ hloaded => hloaded)
  | abandoned => exact ⟨h.active, h.nested.2, h.loaded⟩
  | @completed w F p =>
    refine ⟨h.active, h.nested.2, fun plugin hplugin => ?_⟩
    show (w.registry.plugins.insert p.manifest.name _).contains plugin = true
    rw [Dict.contains_insert, h.loaded plugin hplugin]
    simp

end Guarded

theorem Machine.Reachable.guarded {m : Machine} (h : m.Reachable) : Guarded m.situation := by
  refine h.invariant ?_ (fun _ _ => Guarded.change) (fun _ _ => Guarded.removal)
    (fun _ _ _ => Guarded.loading)
  intro files profile config isShared
  exact ⟨rfl, trivial, fun _ hplugin => nomatch hplugin⟩

/-! ## While a plugin is on the stack -/

namespace Machine

/-- A step keeps all sandboxes. -/
theorem step_keepsSandboxes (m : Machine) : m.world.KeepsSandboxes m.step.world :=
  step_preserve (I := fun s => m.world.KeepsSandboxes s.world)
    (fun _ _ hchange h => h.trans hchange.keepsSandboxes)
    (fun _ _ hremoval h => h.trans hremoval.keepsSandboxes)
    (fun _ _ _ hloading h => h.trans hloading.keepsSandboxes) (.of_eq rfl)

/-- A dispatch is under way at the end of so many steps, or its function has ended before. -/
theorem dispatch_lasts_steps {m : Machine} {plugin : String} {purpose : Purpose} {F : List Frame}
    (h : .dispatch plugin purpose :: F <:+ m.frames) (n : Nat) :
    .dispatch plugin purpose :: F <:+ (steps n m).frames ∨
    ∃ k < n, (steps k m).frames = .dispatch plugin purpose :: F ∧
      (∃ r, (steps k m).focus = .ended r) ∧
      ∀ j ≤ k, .dispatch plugin purpose :: F <:+ (steps j m).frames := by
  induction n generalizing m with
  | zero => exact .inl h
  | succ n ih =>
    -- after the first step the frame is there still, or its function had ended at once
    rcases dispatch_lasts h with hstep | ⟨hframes, hended⟩
    · rcases ih hstep with hlast | ⟨k, hk, hframes, hended, hbefore⟩
      · exact .inl hlast
      · refine .inr ⟨k + 1, Nat.succ_lt_succ hk, hframes, hended, fun j hj => ?_⟩
        cases j with
        | zero => exact h
        | succ j => exact hbefore j (Nat.le_of_succ_le_succ hj)
    · refine .inr ⟨0, Nat.succ_pos n, hframes, hended, fun j hj => ?_⟩
      rw [Nat.le_zero.1 hj]
      exact h

theorem steps_succ (n : Nat) (m : Machine) : steps (n + 1) m = (steps n m).step := by
  induction n generalizing m with
  | zero => rfl
  | succ n ih => exact ih m.step

end Machine

end EditorPlugins
