/-
  What the parts of a step lead to.

  A request of code is answered on the spot, or the code has to wait: for other code of its sandbox,
  for a function of another plugin, or for the embedding application.  `Deferred` lists what the
  machine does when there is no answer on the spot.  An event that is announced to plugins reaches
  the first of them that has a handler and is not executing, or none: `Announced`.

  Main statements: `exists_deferred` and `exists_announced`, that these lists are complete.  Proofs
  about a step go by their cases, and look neither into requests nor into handlers.
-/
import EditorPlugins.Machine.Step
import EditorPlugins.Proofs.World.Operations

namespace EditorPlugins

open Script (Value Raised Program Request)

namespace Machine

/-! ## Requests -/

/-- What comes of a request that is not answered on the spot; the world stays as it is. -/
inductive Deferred (w : World) (id : SandboxId)
    (next : Except Raised (List Value) → Program (List Value)) (F : List Frame) : Machine → Prop
  /-- The code goes on, since it is refused what it asks for. -/
  | resumed (r : Except Raised (List Value)) : Deferred w id next F ⟨w, .running id (next r), F⟩
  /-- Other code of the sandbox runs first, possibly that of a module. -/
  | called (p : Program (List Value)) (waiting : List Frame)
      (h : ∀ f ∈ waiting, ∃ name, f = .module id name) :
      Deferred w id next F
        ⟨w, .running id p, waiting ++ .code (Frame.depth F + 1) id next :: F⟩
  | calledPlugin (plugin function : String) (args : List String) :
      Deferred w id next F
        ⟨w, .starting (.call plugin function args), .pluginCall id next :: F⟩
  | hostActs (op : Operation) :
      Deferred w id next F ⟨w, .starting op, .hostStep id next :: F⟩

section Asking

variable (w : World) (id : SandboxId) (next : Except Raised (List Value) → Program (List Value))
  (F : List Frame)

theorem callCode_deferred (p : Program (List Value)) {waiting : List Frame}
    (h : ∀ f ∈ waiting, ∃ name, f = .module id name) :
    Deferred w id next F (callCode w id p waiting next F) := by
  unfold callCode
  dsimp only
  split
  · exact .resumed _
  · exact .called p waiting h

theorem require_deferred (module : Value) :
    Deferred w id next F (require w id module next F) := by
  unfold require
  dsimp only
  split
  · exact .resumed _
  · split
    · exact .resumed _
    · split
      · exact .resumed _
      · split
        · exact .resumed _
        · exact callCode_deferred w id next F _ fun f hf => ⟨_, List.mem_singleton.1 hf⟩

theorem runFile_deferred (file : Value) :
    Deferred w id next F (runFile w id file next F) := by
  unfold runFile
  dsimp only
  split
  · exact .resumed _
  · split
    · exact .resumed _
    · exact callCode_deferred w id next F _ (List.forall_mem_nil _)

theorem callLibrary_deferred (name : String) (args : List Value) :
    Deferred w id next F (callLibrary w id name args next F) := by
  unfold callLibrary
  split
  · exact callCode_deferred w id next F _ (List.forall_mem_nil _)
  · split
    · exact runFile_deferred w id next F _
    · exact .resumed _

theorem ask_of_serve {q : Request} {w' : World} {r : Except Raised (List Value)}
    (h : w.serve id q = some (w', r)) :
    ask w id q next F = ⟨w', .running id (next r), F⟩ := by
  unfold ask
  rw [h]
  rfl

/-- **A request that is not answered on the spot is refused or waited for.** -/
theorem exists_deferred {q : Request} (h : w.serve id q = none) :
    ∃ m, ask w id q next F = m ∧ Deferred w id next F m := by
  refine ⟨_, rfl, ?_⟩
  unfold ask
  rw [h]
  dsimp only
  split
  · exact callCode_deferred w id next F _ (List.forall_mem_nil _)
  · exact callLibrary_deferred w id next F _ _
  · split
    · exact .calledPlugin ..
    · exact .resumed _
  · exact require_deferred w id next F _
  · exact .hostActs _
  · exact .resumed _

theorem ask_world {q : Request} (h : w.serve id q = none) : (ask w id q next F).world = w := by
  obtain ⟨m, hask, hdeferred⟩ := exists_deferred w id next F h
  rw [hask]
  cases hdeferred <;> rfl

end Asking

/-! ## Announcements -/

/-- What comes of announcing an event to plugins: none of them is reached, or a handler of one
starts to run, which is loaded, enabled and not executing; fewer plugins are left then. -/
inductive Announced (w : World) (e : Event) (F : List Frame) (plugins : List String) :
    Machine → Prop
  | finished (soFar : Summary) :
      Announced w e F plugins ⟨w, .answered (.ok (.summary (some soFar))), F⟩
  | delivered {plugin : String} {rest : List String} {soFar : Summary} {record : Record}
      {f : Script.Function} (hidle : plugin ∉ w.registry.active)
      (hrecord : w.registry.plugins.get? plugin = some record) (henabled : record.enabled = true)
      (hrest : rest.length < plugins.length) :
      Announced w e F plugins ⟨w.modifyRegistry (·.enter plugin),
        .running record.sandbox (Script.callProgram (.function f) (eventArguments e)),
        .dispatch plugin (.delivery e rest soFar) :: F⟩

/-- What comes of fewer plugins comes of more. -/
theorem Announced.cons {w : World} {e : Event} {F : List Frame} {plugins : List String}
    {m : Machine} (h : Announced w e F plugins m) (plugin : String) :
    Announced w e F (plugin :: plugins) m := by
  cases h with
  | finished soFar => exact .finished soFar
  | delivered hidle hrecord henabled hrest =>
    exact .delivered hidle hrecord henabled (Nat.lt_succ_of_lt hrest)

/-- **Announcing an event reaches the first plugin that can be reached, or none.** -/
theorem exists_announced (w : World) (e : Event) (F : List Frame) (plugins : List String)
    (soFar : Summary) :
    ∃ m, announce w e F plugins soFar = m ∧ Announced w e F plugins m := by
  refine ⟨_, rfl, ?_⟩
  induction plugins generalizing soFar with
  | nil => exact .finished soFar
  | cons plugin rest ih =>
    simp only [announce]
    split
    · exact (ih _).cons plugin
    · rename_i hactive
      split
      · exact (ih _).cons plugin
      · rename_i t ht
        obtain ⟨record, hrecord, henabled, hsandbox, -⟩ := World.resolve_eq_ok ht
        unfold dispatch
        rw [if_neg hactive, hsandbox]
        exact .delivered (by simpa using hactive) hrecord henabled (Nat.lt_succ_self _)

end Machine

end EditorPlugins
