/-
  Calls from one plugin to another.

  Code that calls `plugin.call` waits for a function of another plugin.  The call takes two steps to
  reach the function, and two steps to come back when the function has ended: the first of these
  remembers an error and takes the callee off the stack, the second gives the calling code one
  string.  The code is given a string in any case, so no failure of the callee is raised in it.

  Main statement: `CallsPlugin.steps_of_ends`.  What the function itself does between is whatever
  `EndsAbove` says of it; `endsAbove_of_script` says it for a script function that ends without
  asking for anything.
-/
import EditorPlugins.Proofs.Machine.Broadcast

namespace EditorPlugins

open Script (Value Raised Program)

namespace World

/-- A plugin that is not executing, with its record and one of its global functions. -/
structure Offers (w : World) (plugin function : String) (record : Record) (f : Script.Function) :
    Prop where
  idle : plugin ∉ w.registry.active
  loaded : w.registry.plugins.get? plugin = some record
  enabled : record.enabled = true
  function : (w.sandbox record.sandbox).globalFunction? function = some f

variable {w : World} {plugin function : String}

theorem Offers.resolve {record : Record} {f : Script.Function}
    (h : w.Offers plugin function record f) :
    w.resolveFunction plugin function = .ok ⟨record.sandbox, f⟩ := by
  simp only [resolveFunction, World.resolve, h.loaded, h.enabled, h.function, Bool.not_true,
    Bool.false_eq_true, if_false]

/-- A function that is found in a plugin that is not executing can be called. -/
theorem offers_of_resolve {t : Target} (hidle : plugin ∉ w.registry.active)
    (h : w.resolveFunction plugin function = .ok t) :
    ∃ record, w.Offers plugin function record t.function := by
  obtain ⟨record, hrecord, henabled, -, hfunction⟩ := resolve_eq_ok h
  exact ⟨record, hidle, hrecord, henabled, hfunction⟩

end World

namespace Machine

/-- The text that a call gives to the code that asked for it. -/
def callText : Except Raised (List Value) → String
  | .ok vs => resultText vs
  | .error _ => ""

/-- Code of a sandbox asks for a function of a plugin, with some texts as its arguments. -/
inductive CallsPlugin (m : Machine) (id : SandboxId)
    (next : Except Raised (List Value) → Program (List Value)) (callee function : String)
    (texts : List String) : Prop where
  | intro {args : List Value}
      (hfocus : m.focus
        = .running id (.ask (.call (.function (.capability .pluginCall)) args) next))
      (haction : World.requestedAction (m.world.sandbox id) .pluginCall args
        = .ok (.callPlugin callee function texts))

section Calls

variable {m : Machine} {id : SandboxId}
  {next : Except Raised (List Value) → Program (List Value)} {callee function : String}
  {texts : List String}

/-- Whether code asks for that function of that plugin, with those texts. -/
def callsPlugin (m : Machine) (callee function : String) (texts : List String) : Bool :=
  match m.focus with
  | .running id (.ask (.call (.function (.capability .pluginCall)) args) _) =>
    match World.requestedAction (m.world.sandbox id) .pluginCall args with
    | .ok (.callPlugin c f ts) => c == callee && (f == function && ts == texts)
    | _ => false
  | _ => false

/-- The code waits while the registry looks for the function. -/
theorem CallsPlugin.step_eq (h : m.CallsPlugin id next callee function texts) :
    m.step = ⟨m.world, .starting (.call callee function texts), .pluginCall id next :: m.frames⟩ := by
  obtain @⟨args, hfocus, haction⟩ := h
  obtain ⟨w, focus, F⟩ := m
  cases hfocus
  change World.requestedAction (w.sandbox id) .pluginCall args = _ at haction
  have hserve : w.serve id (.call (.function (.capability .pluginCall)) args) = none := by
    simp only [World.serve, haction]
  show ask w id (.call (.function (.capability .pluginCall)) args) next F = _
  simp only [ask, hserve, haction]

/-- The frames that wait while the function runs. -/
def calling (m : Machine) (id : SandboxId)
    (next : Except Raised (List Value) → Program (List Value)) (callee : String) : List Frame :=
  .dispatch callee .function :: .pluginCall id next :: m.frames

/-- The function is about to run, in the sandbox of its plugin. -/
theorem CallsPlugin.steps_of_offers (h : m.CallsPlugin id next callee function texts)
    {record : Record} {f : Script.Function} (hoffers : m.world.Offers callee function record f) :
    steps 2 m = ⟨m.world.modifyRegistry (·.enter callee),
      .running record.sandbox (Script.callProgram (.function f) (texts.map .text)),
      m.calling id next callee⟩ := by
  have hactive : ¬ m.world.registry.active.contains callee = true := by simpa using hoffers.idle
  show m.step.step = _
  rw [h.step_eq]
  show start m.world (.call callee function texts) (.pluginCall id next :: m.frames) = _
  simp only [start, hoffers.resolve, dispatch, if_neg hactive]
  rfl

/-- **A call comes back to the code that asked for it.**  When the function has ended, with results
or an error, the code goes on above the frames that waited before the call, with one string. -/
theorem steps_of_ends {n : Nat} {r : Except Raised (List Value)} {w : World}
    (hends : EndsAbove (m.calling id next callee) (steps 2 m) n r w) :
    steps (n + 4) m
      = ⟨w.handled callee r, .running id (next (.ok [.text (callText r)])), m.frames⟩ := by
  have hended : steps (n + 2) m = ⟨w, .ended r, m.calling id next callee⟩ := by
    rw [Nat.add_comm, steps_add]
    exact hends.ended
  have hback : steps 2 ⟨w, .ended r, m.calling id next callee⟩
      = ⟨w.handled callee r, .running id (next (.ok [.text (callText r)])), m.frames⟩ := by
    cases r <;> rfl
  rw [show n + 4 = (n + 2) + 2 from rfl, steps_add, hended, hback]

end Calls

/-! ## Functions that ask for nothing -/

/-- What a program that asks for nothing ends with. -/
def settled : Except Raised (List Value) → Program (List Value)
  | .ok vs => .done vs
  | .error e => .raise e

/-- The first call above a dispatch finds room in every sandbox. -/
theorem refusal?_dispatch (limit : UInt64) (plugin : String) (purpose : Purpose) (F : List Frame) :
    refusal? limit (Frame.depth (.dispatch plugin purpose :: F) + 1) = none := by
  show refusal? limit 1 = none
  unfold refusal?
  have hroom : ¬ (limit ≠ 0 ∧ (1 - shallow) * bytesPerCall > limit.toNat) := by
    rintro ⟨-, hroom⟩
    rw [show (1 - shallow) * bytesPerCall = 0 from rfl] at hroom
    exact Nat.not_lt_zero _ hroom
  have hdeep : ¬ 1 ≥ tooDeep := by decide
  rw [if_neg hroom, if_neg hdeep]

/-- **A dispatched script function that asks for nothing ends after four steps**, in the world in
which it started. -/
theorem endsAbove_of_script {plugin : String} {purpose : Purpose} {F : List Frame} {w : World}
    {id : SandboxId} {n : Script.ObjectId} {body : Script.Block} {args : List Value}
    {r : Except Raised (List Value)} (hbody : body.program args = settled r) :
    EndsAbove (.dispatch plugin purpose :: F)
      ⟨w, .running id (Script.callProgram (.function (.script n body)) args),
        .dispatch plugin purpose :: F⟩ 4 r w := by
  let base : List Frame := .dispatch plugin purpose :: F
  let back : Except Raised (List Value) → Program (List Value) := fun
    | .ok vs => .done vs
    | .error e => .raise e
  -- the call is on top of the dispatch, the function ends, and so does the call
  have hcalled : steps 1 ⟨w, .running id (Script.callProgram (.function (.script n body)) args),
      base⟩ = ⟨w, .running id (settled r), .code 1 id back :: base⟩ := by
    show callCode w id (Script.Block.program body args) [] back base = _
    rw [hbody]
    unfold callCode
    simp only [base, refusal?_dispatch]
    rfl
  have hended : steps 2 ⟨w, .running id (Script.callProgram (.function (.script n body)) args),
      base⟩ = ⟨w, .ended r, .code 1 id back :: base⟩ := by
    rw [steps_succ, hcalled]
    cases r <;> rfl
  have hresumed : steps 3 ⟨w, .running id (Script.callProgram (.function (.script n body)) args),
      base⟩ = ⟨w, .running id (back r), base⟩ := by
    rw [steps_succ, hended]
    rfl
  have hlast : steps 4 ⟨w, .running id (Script.callProgram (.function (.script n body)) args),
      base⟩ = ⟨w, .ended r, base⟩ := by
    rw [steps_succ, hresumed]
    cases r <;> rfl
  have hstays : ∀ {m m' : Machine}, m = m' → base <:+ m'.frames → base <:+ m.frames := by
    rintro m _ rfl hsuffix
    exact hsuffix
  refine ⟨fun j hj => ?_, hlast⟩
  obtain rfl | rfl | rfl | rfl | rfl : j = 0 ∨ j = 1 ∨ j = 2 ∨ j = 3 ∨ j = 4 := by omega
  · exact List.suffix_refl _
  · exact hstays hcalled (List.suffix_cons _ _)
  · exact hstays hended (List.suffix_cons _ _)
  · exact hstays hresumed (List.suffix_refl _)
  · exact hstays hlast (List.suffix_refl _)

end Machine

end EditorPlugins
