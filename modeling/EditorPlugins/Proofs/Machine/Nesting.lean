/-
  Frames are a stack.

  What a step does is done on top of the frames that wait: it may push further ones, or hand
  something to the innermost one, and everything below that one stays.  A dispatch frame is pushed
  only together with the function that it waits for, which belongs to the record of a loaded,
  enabled plugin; and it is given up only when that function has ended.

  `Onto base m` says that a machine came about on top of some frames.  Main statements: `step_onto`,
  and from it `frame_lasts` (how long a frame stays) and `dispatch_starts` (what holds when a
  dispatched function starts to run); `dispatch_ends` says what is left in place of its frame.
-/
import EditorPlugins.Proofs.Machine.Outcomes

namespace EditorPlugins

open Script (Value Raised Program Request)

namespace Frame

/-- A frame that waits for the end of a dispatched function. -/
def isDispatch : Frame → Bool
  | .dispatch .. => true
  | .code .. | .module .. | .entry _ | .pluginCall .. | .hostStep .. | .scan .. | .finalization =>
    false

/-- A frame waits for code, or else for the answer to an operation. -/
def awaitsCode : Frame → Bool
  | .code .. | .module .. | .entry _ | .dispatch .. => true
  | .pluginCall .. | .hostStep .. | .scan .. | .finalization => false

/-- What a frame waits for has come: code has ended, or an operation was answered. -/
inductive Gets (f : Frame) : Focus → Prop where
  | ended (r : Except Raised (List Value)) (h : f.awaitsCode = true) : Gets f (.ended r)
  | answered (a : Answer) (h : f.awaitsCode = false) : Gets f (.answered a)

end Frame

namespace Machine

/-- The machine came about on top of the frames of `base`: nothing was pushed, or something other
than a dispatch comes first, or a function of a loaded, enabled plugin starts to run. -/
inductive Onto (base : List Frame) : Machine → Prop where
  | same {w : World} {focus : Focus} : Onto base ⟨w, focus, base⟩
  | pushed {w : World} {focus : Focus} {f : Frame} (new : List Frame) (h : f.isDispatch = false) :
      Onto base ⟨w, focus, f :: (new ++ base)⟩
  | dispatched {w : World} {plugin : String} {record : Record} {f : Script.Function}
      {args : List Value} {purpose : Purpose} (new : List Frame)
      (hrecord : w.registry.plugins.get? plugin = some record) (henabled : record.enabled = true) :
      Onto base ⟨w, .running record.sandbox (Script.callProgram (.function f) args),
        .dispatch plugin purpose :: (new ++ base)⟩

/-- What is below stays below. -/
theorem Onto.suffix {base : List Frame} {m : Machine} (h : Onto base m) : base <:+ m.frames := by
  cases h with
  | same => exact List.suffix_refl _
  | pushed new _ => exact List.suffix_cons_iff.2 (.inr (List.suffix_append new base))
  | dispatched new _ _ => exact List.suffix_cons_iff.2 (.inr (List.suffix_append new base))

/-- On top of a frame is on top of what is below it. -/
theorem Onto.below {base : List Frame} {f : Frame} {m : Machine} (h : Onto (f :: base) m)
    (hf : f.isDispatch = false) : Onto base m := by
  have hcons : ∀ new : List Frame, new ++ f :: base = (new ++ [f]) ++ base := by
    intro new
    rw [List.append_assoc, List.singleton_append]
  cases h with
  | same => exact .pushed [] hf
  | pushed new hg => rw [hcons]; exact .pushed _ hg
  | dispatched new hrecord henabled => rw [hcons]; exact .dispatched _ hrecord henabled

/-- The record is that of an enabled plugin, and a function is about to run in its sandbox. -/
def Starts (m : Machine) (plugin : String) (record : Record) : Prop :=
  m.world.registry.plugins.get? plugin = some record ∧ record.enabled = true ∧
    ∃ f args, m.focus = .running record.sandbox (Script.callProgram (.function f) args)

/-- A dispatch frame on top was there before, or its function is about to run. -/
theorem Onto.starts {base : List Frame} {m : Machine} {plugin : String} {purpose : Purpose}
    {F : List Frame} (h : Onto base m) (hframes : m.frames = .dispatch plugin purpose :: F) :
    m.frames = base ∨ ∃ record, m.Starts plugin record := by
  cases h with
  | same => exact .inl rfl
  | pushed new hf =>
    cases (List.cons.inj hframes).1
    cases hf
  | @dispatched w plugin' record f args purpose' new hrecord henabled =>
    cases (List.cons.inj hframes).1
    exact .inr ⟨record, hrecord, henabled, f, args, rfl⟩

/-! ## The parts of a step -/

/-- A function that was resolved starts to run, unless its plugin is executing. -/
theorem dispatch_onto {w : World} {plugin : String} {t : World.Target} {record : Record}
    (hrecord : w.registry.plugins.get? plugin = some record) (henabled : record.enabled = true)
    (hsandbox : t.sandbox = record.sandbox) (args : List Value) (purpose : Purpose)
    (F : List Frame) : Onto F (dispatch w plugin t args purpose F) := by
  unfold dispatch
  split
  · exact .same
  · rw [hsandbox]
    exact .dispatched [] hrecord henabled

theorem announce_onto (w : World) (e : Event) (F : List Frame) (plugins : List String)
    (soFar : Summary) : Onto F (announce w e F plugins soFar) := by
  obtain ⟨m, hannounce, hannounced⟩ := exists_announced w e F plugins soFar
  rw [hannounce]
  cases hannounced with
  | finished soFar => exact .same
  | delivered hidle hrecord henabled => exact .dispatched [] hrecord henabled

theorem endDispatch_onto (w : World) (plugin : String) (purpose : Purpose)
    (r : Except Raised (List Value)) (F : List Frame) :
    Onto F (endDispatch w plugin purpose r F) := by
  cases r with
  | ok vs =>
    cases purpose with
    | command => exact .same
    | function => exact .same
    | delivery event rest soFar => exact announce_onto _ event F rest _
  | error e =>
    cases purpose with
    | command => exact .same
    | function => exact .same
    | delivery event rest soFar => exact announce_onto _ event F rest _

theorem load_onto (w : World) (root : Path) (F : List Frame) : Onto F (load w root F) := by
  unfold load
  split
  · exact .same
  · exact .pushed [] rfl

theorem scan_onto (w : World) (F : List Frame) (roots : List Path) (loaded : List String) :
    Onto F (scan w F roots loaded) := by
  cases roots with
  | nil => exact .same
  | cons root rest => exact .pushed [] rfl

theorem start_onto (w : World) (op : Operation) (F : List Frame) : Onto F (start w op F) := by
  cases op with
  | load root => exact load_onto w root F
  | reload plugin =>
    simp only [start]
    split
    · exact .same
    · split
      · exact .same
      · exact load_onto _ _ F
  | finalize =>
    simp only [start]
    split
    · exact .same
    · split
      · exact .same
      · exact (announce_onto w .shutdown (.finalization :: F) _ _).below rfl
  | loadDirectory dir =>
    simp only [start]
    split
    · exact .same
    · exact scan_onto w F _ _
  | execute id =>
    simp only [start]
    split
    · exact .same
    · rename_i plugin t hresolve
      obtain ⟨-, record, -, hrecord, henabled, hsandbox, -⟩ := World.resolveCommand_eq_ok hresolve
      exact dispatch_onto hrecord henabled hsandbox _ _ F
  | call plugin function args =>
    simp only [start]
    split
    · exact .same
    · rename_i t hresolve
      obtain ⟨record, hrecord, henabled, hsandbox, -⟩ := World.resolve_eq_ok hresolve
      exact dispatch_onto hrecord henabled hsandbox _ _ F
  | notify name filename =>
    simp only [start]
    split
    · exact .same
    · exact announce_onto w _ F _ _
  | attach | isInitialized | unload | enable | version | commands | info | config | storedConfig
  | settings | putSetting | sharedPlugins | describe | changeFiles | readFile => exact .same

theorem ask_onto (w : World) (id : SandboxId) (q : Request)
    (next : Except Raised (List Value) → Program (List Value)) (F : List Frame) :
    Onto F (ask w id q next F) := by
  cases hserve : w.serve id q with
  | some served =>
    rw [ask_of_serve w id next F hserve]
    exact .same
  | none =>
    obtain ⟨m, hask, hdeferred⟩ := exists_deferred w id next F hserve
    rw [hask]
    cases hdeferred with
    | resumed r => exact .same
    | called p waiting hwaiting =>
      cases waiting with
      | nil => exact .pushed [] rfl
      | cons f rest =>
        obtain ⟨name, rfl⟩ := hwaiting f List.mem_cons_self
        rw [List.cons_append, List.append_cons]
        exact .pushed _ rfl
    | calledPlugin | hostActs => exact .pushed [] rfl

/-! ## Steps -/

/-- **A step works on top of the frames, or on top of those below the innermost one.**  A frame is
only taken away when what it waits for has come. -/
theorem step_onto (m : Machine) :
    Onto m.frames m.step ∨
      ∃ f base, m.frames = f :: base ∧ Onto base m.step ∧ f.Gets m.focus := by
  obtain ⟨w, focus, F⟩ := m
  -- only code that has ended and operations that were answered hand something to a frame
  cases focus with
  | running id p =>
    cases p with
    | done vs => exact .inl .same
    | raise r => exact .inl .same
    | ask q next => exact .inl (ask_onto w id q next F)
  | starting op => exact .inl (start_onto w op F)
  | ended r =>
    cases F with
    | nil => exact .inl .same
    | cons f base =>
      cases f with
      | code depth id next => exact .inr ⟨_, base, rfl, .same, .ended r rfl⟩
      | module id name =>
        refine .inr ⟨_, base, rfl, ?_, .ended r rfl⟩
        cases r <;> exact .same
      | entry p => exact .inr ⟨_, base, rfl, .same, .ended r rfl⟩
      | dispatch plugin purpose =>
        exact .inr ⟨_, base, rfl, endDispatch_onto w plugin purpose r base, .ended r rfl⟩
      | pluginCall | hostStep | scan | finalization => exact .inl .same
  | answered a =>
    cases F with
    | nil => exact .inl .same
    | cons f base =>
      cases f with
      | pluginCall id next => exact .inr ⟨_, base, rfl, .same, .answered a rfl⟩
      | hostStep id next => exact .inr ⟨_, base, rfl, .same, .answered a rfl⟩
      | scan rest loaded =>
        refine .inr ⟨_, base, rfl, ?_, .answered a rfl⟩
        show Onto base (deliverAnswer w a (.scan rest loaded :: base))
        simp only [deliverAnswer]
        split
        · exact scan_onto w base rest _
        · exact scan_onto w base rest _
      | finalization => exact .inr ⟨_, base, rfl, .same, .answered a rfl⟩
      | code | module | entry | dispatch => exact .inl .same

/-- **A frame stays, with everything below it, until what it waits for has come.** -/
theorem frame_lasts {m : Machine} {f : Frame} {F : List Frame} (h : f :: F <:+ m.frames) :
    f :: F <:+ m.step.frames ∨ m.frames = f :: F ∧ f.Gets m.focus := by
  rcases step_onto m with hstep | ⟨g, base, hframes, hstep, hgets⟩
  · exact .inl (h.trans hstep.suffix)
  · rw [hframes] at h
    rcases List.suffix_cons_iff.1 h with hsame | hbelow
    · obtain ⟨rfl, rfl⟩ := List.cons.inj hsame
      exact .inr ⟨hframes, hgets⟩
    · exact .inl (hbelow.trans hstep.suffix)

/-- A dispatch frame stays until its function has ended. -/
theorem dispatch_lasts {m : Machine} {plugin : String} {purpose : Purpose} {F : List Frame}
    (h : .dispatch plugin purpose :: F <:+ m.frames) :
    .dispatch plugin purpose :: F <:+ m.step.frames ∨
    m.frames = .dispatch plugin purpose :: F ∧ ∃ r, m.focus = .ended r := by
  rcases frame_lasts h with hkept | ⟨hframes, hgets⟩
  · exact .inl hkept
  · refine .inr ⟨hframes, ?_⟩
    obtain ⟨w, focus, frames⟩ := m
    cases hgets with
    | ended r => exact ⟨r, rfl⟩
    | answered a hawaits => cases hawaits

/-- Announcing an event pushes at most the dispatch frame of the first plugin it reaches, with
fewer plugins left. -/
theorem announce_frames (w : World) (e : Event) (F : List Frame) (plugins : List String)
    (soFar : Summary) : (announce w e F plugins soFar).frames = F ∨
      ∃ plugin rest soFar', rest.length < plugins.length ∧
        (announce w e F plugins soFar).frames
          = .dispatch plugin (.delivery e rest soFar') :: F := by
  obtain ⟨m, hannounce, hannounced⟩ := exists_announced w e F plugins soFar
  rw [hannounce]
  cases hannounced with
  | finished soFar => exact .inl rfl
  | delivered hidle hrecord henabled hrest => exact .inr ⟨_, _, _, hrest, rfl⟩

/-- When a dispatched function has ended its frame goes; a broadcast may put a new frame, for the
next plugin, in its place. -/
theorem dispatch_ends {m : Machine} {plugin : String} {purpose : Purpose} {F : List Frame}
    {r : Except Raised (List Value)} (h : m.frames = .dispatch plugin purpose :: F)
    (hended : m.focus = .ended r) :
    m.step.frames = F ∨ ∃ next purpose', m.step.frames = .dispatch next purpose' :: F ∧
      ¬ m.step.frames <:+ m.frames := by
  obtain ⟨w, focus, frames⟩ := m
  cases h
  cases hended
  show (endDispatch w plugin purpose r F).frames = F ∨
    ∃ next purpose', (endDispatch w plugin purpose r F).frames = .dispatch next purpose' :: F ∧
      ¬ (endDispatch w plugin purpose r F).frames <:+ .dispatch plugin purpose :: F
  have hnext : ∀ w event rest soFar soFar', (announce w event F rest soFar').frames = F ∨
      ∃ next purpose', (announce w event F rest soFar').frames = .dispatch next purpose' :: F ∧
        ¬ (announce w event F rest soFar').frames
          <:+ .dispatch plugin (.delivery event rest soFar) :: F := by
    intro w event rest soFar soFar'
    rcases announce_frames w event F rest soFar' with hsame | ⟨next, rest', s, hlength, hframes⟩
    · exact .inl hsame
    · refine .inr ⟨next, _, hframes, fun hsuffix => ?_⟩
      -- of the same height, the frames would be the same, but fewer plugins are left
      rw [hframes] at hsuffix
      have heq := hsuffix.eq_of_length (by rw [List.length_cons, List.length_cons])
      injection heq with hframe
      injection hframe with _ hpurpose
      injection hpurpose with _ hrest
      rw [hrest] at hlength
      omega
  cases r with
  | ok vs =>
    cases purpose with
    | command => exact .inl rfl
    | function => exact .inl rfl
    | delivery event rest soFar => exact hnext _ event rest soFar _
  | error e =>
    cases purpose with
    | command => exact .inl rfl
    | function => exact .inl rfl
    | delivery event rest soFar => exact hnext _ event rest soFar _

end Machine

end EditorPlugins
