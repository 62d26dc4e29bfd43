/-
  Loads that fail leave no trace but the failure.

  A load can fail at every stage: reading the manifest, finding the entry script, the name, the
  versions, the sandbox, the text of the script, and the script itself.  When the script fails its
  sandbox is there already, with the handlers that it registered and the configuration that it
  saved.  But all of this is in the sandbox, which no record holds; the registry is first written to
  when the load is completed or the failure is recorded.

  So the failed loads have one more entry, under one key, and nothing else of the registry changes;
  every loaded plugin is as it was.  Files change as far as the code of the script writes to them:
  a configuration is not written when a script saves it, only when its plugin is unloaded.

  Main statement: `Reachable.failed_load_undone`.
-/
import EditorPlugins.Proofs.Machine.SoleLoad
import EditorPlugins.Proofs.Machine.Stores
import EditorPlugins.Proofs.Manifest.Rules

namespace EditorPlugins

open Script (Value Raised Program)

/-! ## Stages -/

namespace Manifest

end Manifest

namespace PluginFolder

end PluginFolder

namespace World

end World

/-! ## Files -/

namespace Machine

/-- The files after what the code that runs does to them, or the embedding application while the
code waits for it. -/
def actedFiles (m : Machine) : Files :=
  match m.focus with
  | .starting (.changeFiles changes) => FileChange.applyAll m.world.files changes
  | _ => m.acted.files

/-- **While code keeps to its sandbox, files are changed by what it does itself.** -/
theorem CodeAbove.files {id : SandboxId} {base : List Frame} {m : Machine}
    (h : CodeAbove id base m) (hstays : m.leavesSandbox = false) :
    m.step.world.files = m.actedFiles := by
  have hacted : ∀ {m : Machine}, m.clears = false →
      (∀ op, m.focus = .starting op → op.keepsStores = true) → m.step.world.files = m.acted.files :=
    fun hclears hop => (step_keepsStores hclears hop).files
  cases h with
  | running => exact hacted rfl (fun _ => nofun)
  | ended => exact hacted rfl (fun _ => nofun)
  | answered => exact hacted rfl (fun _ => nofun)
  | leaving h => exact absurd (h.symm.trans hstays) Bool.noConfusion
  | @starting w op new next =>
    cases op with
    | attach | finalize | load | loadDirectory | unload | reload | execute | call | notify
    | enable => cases hstays
    | changeFiles changes => rfl
    | isInitialized | version | commands | info | config | storedConfig | settings | putSetting
    | sharedPlugins | describe | readFile => rfl

/-- The load itself changes no files, neither at its start nor at its end. -/
theorem LoadsAlone.files {m : Machine} {n : Nat} {w w' : World} {a : Answer} {root : Path}
    (h : m.LoadsAlone n w' a) (hstart : m.loadStart? = some (w, root)) :
    (steps 1 m).world.files = w.files ∧
    ∀ j, 0 < j → j < n → (steps (j + 1) m).world.files = (steps j m).actedFiles := by
  have hstep := (step_of_loadStart? hstart).2
  refine ⟨?_, fun j hpos hj => ?_⟩
  · show m.step.world.files = w.files
    rw [hstep]
    exact load_files w root m.frames
  · have hstays := h.stays j hpos hj
    obtain ⟨j, rfl⟩ := Nat.exists_eq_add_of_lt hpos
    rw [Nat.zero_add] at hj hstays ⊢
    rw [steps_succ]
    cases hevent : w.loadEvent? root with
    | none =>
      exact absurd (step_of_uninitialized hstart hevent) (h.not_answered hj)
    | some e =>
      rcases World.begun_or_refused hevent with ⟨p, s, rfl⟩ | ⟨key, reason, rfl⟩
      · obtain ⟨block, -, hentering⟩ := step_of_begun hstart hevent
        exact (h.codeAbove hentering hj).files hstays
      · exact absurd (step_of_refused hstart hevent) (h.not_answered hj)

end Machine

end EditorPlugins
