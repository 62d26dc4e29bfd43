/-
  What it does to the world that a request is answered.

  A request that is answered on the spot reads, shows something, works on the heap of its sandbox,
  or calls a capability; then the action that was asked for is carried out, if the call is not
  refused, and the results are put into the heap.  Whatever is kept by showing things, by work on
  heaps and by the actions in question is kept by every request: proofs about requests go by
  `serve_carriesOut` and look at the requests themselves no more.

  Main statements: `serve_carriesOut` and, for requests that have to wait, `asked_of_not_served`.
-/
import EditorPlugins.Proofs.Capability.Actions

namespace EditorPlugins

open Script (Request Heap)

/-- The action that a request asks for. -/
def Sandbox.requested? (s : Sandbox) : Request → Option Action
  | .call (.function (.capability c)) args => (World.requestedAction s c args).toOption
  | _ => none

/-- Only calls of capabilities ask for an action. -/
theorem Sandbox.requested?_eq_some {s : Sandbox} {q : Request} {a : Action}
    (h : s.requested? q = some a) : ∃ c args,
      q = .call (.function (.capability c)) args ∧ World.requestedAction s c args = .ok a := by
  unfold requested? at h
  split at h
  · rename_i c args
    exact ⟨c, args, rfl, Except.eq_ok_of_toOption h⟩
  · cases h

namespace World

/-- A world after a request that asks for some action, or for none: the action is carried out, and
the heap of the sandbox may change. -/
inductive CarriesOut (w : World) (id : SandboxId) (asked : Option Action) : World → Prop where
  | same (h : asked = none) : CarriesOut w id asked w
  | observed (o : Observation) (h : asked = none) : CarriesOut w id asked (w.observe o)
  | worked (f : Sandbox → Heap) (h : asked = none) :
      CarriesOut w id asked (w.modifySandbox id fun s => { s with heap := f s })
  | acted {a : Action} (heap : Heap) (h : asked = some a) :
      CarriesOut w id asked ((a.run w id).1.modifySandbox id fun s => { s with heap := heap })

variable {w w' : World} {id : SandboxId} {q : Request} {r : Results}

/-- **A request that is answered on the spot carries out the action that it asks for.** -/
theorem serve_carriesOut (h : w.serve id q = some (w', r)) :
    w.CarriesOut id ((w.sandbox id).requested? q) w' := by
  cases q with
  | readGlobal | lookUp | field | length | concat | «replicate» => cases h; exact .same rfl
  | writeGlobal name v => cases h; exact .worked (fun s => s.heap.setGlobal name v) rfl
  | makeTable items fields =>
    simp only [serve] at h
    split at h
    · cases h; exact .worked (fun _ => _) rfl
    · cases h; exact .same rfl
  | makeCycle | makeFunction | makeThread | makeUserdata => cases h; exact .worked (fun _ => _) rfl
  | «show» v => cases h; exact .observed _ rfl
  | showOutcome r => cases r <;> (cases h; exact .observed _ rfl)
  | require module => cases h
  | host op => cases h
  | call f args =>
    cases f with
    | function f =>
      cases f with
      | library name =>
        unfold serve callLibrary at h
        dsimp only at h
        split at h
        · cases h; exact .observed _ rfl
        · obtain ⟨a, -, ha⟩ := Option.map_eq_some_iff.1 h
          have hw : (w.onHeap id a.on).1 = w' := by rw [ha]
          exact hw ▸ .worked (fun _ => _) rfl
      | script n body => cases h
      | capability c =>
        simp only [serve] at h
        split at h
        · rename_i e he
          cases h
          exact .worked (fun _ => _) (congrArg Except.toOption he)
        · cases h
        · rename_i a _ ha
          cases h
          exact .acted _ (congrArg Except.toOption ha)
    | _ => cases h; exact .same rfl

/-- A request that is not answered on the spot asks for no action, or calls a plugin. -/
theorem asked_of_not_served (h : w.serve id q = none) :
    (w.sandbox id).requested? q = none ∨ ∃ plugin function texts,
      (w.sandbox id).requested? q = some (.callPlugin plugin function texts) := by
  cases q with
  | call f args =>
    cases f with
    | function f =>
      cases f with
      | capability c =>
        simp only [serve] at h
        split at h
        · cases h
        · rename_i plugin function texts ha
          exact .inr ⟨plugin, function, texts, congrArg Except.toOption ha⟩
        · cases h
      | library | script => exact .inl rfl
    | _ => exact .inl rfl
  | _ => exact .inl rfl

end World

end EditorPlugins
