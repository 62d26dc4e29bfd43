/-
  The heaps of sandboxes from step to step.

  Heaps change in a few ways only: code stores under a key, code makes a table, a function of the
  library does one of both, and results of the host are put into a heap.  In all of them every
  position of a table keeps at most one value (`Heap.Positioned`).  The other changes of a sandbox
  leave its heap as it is, and steps that are about something else leave the sandboxes.

  Main statement: `Reachable.positioned`, the induction over steps from `positioned_step`.
-/
import EditorPlugins.Proofs.Registry.Sandboxes
import EditorPlugins.Proofs.Script.LibraryHeap
import EditorPlugins.Proofs.Script.TablePositions

namespace EditorPlugins

open Script (Value Table Heap ObjectId Raised Program Request)

namespace Script.Heap

/-- In every table every position has at most one value. -/
def Positioned (h : Heap) : Prop := ∀ id, (h.table id).Positioned

namespace Positioned

variable {h : Heap}

theorem put (hh : h.Positioned) (id : ObjectId) (k v : Value) : (h.put id k v).Positioned := by
  intro j
  have hj : ((h.tables[j]?).getD default).Positioned := hh j
  show (((h.tables.modify id fun t => t.put k v)[j]?).getD default).Positioned
  rw [Array.getElem?_modify]
  split
  · cases htable : h.tables[j]? with
    | none => rw [htable] at hj; exact hj
    | some t =>
      rw [htable] at hj
      exact Table.Positioned.put hj k v
  · exact hj

theorem addTable (hh : h.Positioned) {t : Table} (ht : t.Positioned) :
    (h.addTable t).2.Positioned := by
  intro j
  show (((h.tables.push t)[j]?).getD default).Positioned
  rw [Array.getElem?_push]
  split
  · exact ht
  · exact hh j

theorem changesOnce (hh : h.Positioned) {h' : Heap} (hchange : h.ChangesOnce h') :
    h'.Positioned := by
  cases hchange with
  | same => exact hh
  | stored id k v => exact hh.put id k v
  | made items name v => exact hh.addTable (Table.positioned_named items name v)

end Positioned

theorem positioned_start : start.Positioned := by
  intro j
  show (((Array.replicate 4 (default : Table))[j]?).getD default).Positioned
  rw [Array.getElem?_replicate]
  split <;> exact Table.positioned_sequence #[]

end Script.Heap

/-! ## Results of the host -/

namespace HostValue

/-- Fields are entries under strings. -/
theorem importFields_strings (fs : List (String × HostValue)) (h : Heap) :
    ∀ e ∈ (importFields fs h).1, ∃ b, e.1 = .string b := by
  induction fs generalizing h with
  | nil => exact fun _ he => absurd he List.not_mem_nil
  | cons f fs ih =>
    obtain ⟨k, v⟩ := f
    simp only [importFields]
    split
    · exact ih _
    · exact List.forall_mem_cons.2 ⟨⟨_, rfl⟩, ih _⟩

mutual

theorem importValue_positioned (v : HostValue) {h : Heap} (hh : h.Positioned) :
    (importValue v h).2.Positioned := by
  cases v with
  | table array fields =>
    have hfields := importFields_positioned fields (importItems_positioned array hh)
    exact hfields.addTable (Table.positioned_of_strings (importFields_strings _ _))
  | _ => exact hh

theorem importItems_positioned (vs : List HostValue) {h : Heap} (hh : h.Positioned) :
    (importItems vs h).2.Positioned := by
  cases vs with
  | nil => exact hh
  | cons v vs => exact importItems_positioned vs (importValue_positioned v hh)

theorem importFields_positioned (fs : List (String × HostValue)) {h : Heap} (hh : h.Positioned) :
    (importFields fs h).2.Positioned := by
  cases fs with
  | nil => exact hh
  | cons f fs =>
    obtain ⟨k, v⟩ := f
    have hboth := importFields_positioned fs (importValue_positioned v hh)
    simp only [importFields]
    split <;> exact hboth

end

end HostValue

/-! ## The start of a sandbox -/

namespace Script.Library

theorem addObjects_positioned {h : Heap} (hh : h.Positioned) (id : ObjectId) (name : String) :
    (addObjects h id name).Positioned := by
  unfold addObjects
  split
  · exact List.foldlRecOn _ _ hh fun h hh field _ => hh.put _ _ _
  · exact List.foldlRecOn _ _ hh fun h hh field _ =>
      (hh.addTable (Table.positioned_sequence #[])).put _ _ _
  · exact hh

theorem addLibrary_positioned {h : Heap} (hh : h.Positioned) (path name : String)
    (functions : List String) : (addLibrary path h name functions).Positioned := by
  unfold addLibrary
  have hmade : (if name = "string" then (Heap.stringsId, h)
      else h.addTable default).2.Positioned := by
    split
    · exact hh
    · exact hh.addTable (Table.positioned_sequence #[])
  generalize (if name = "string" then (Heap.stringsId, h) else h.addTable default) = made at hmade
  obtain ⟨id, h⟩ := made
  refine Heap.Positioned.put (Heap.Positioned.put (addObjects_positioned ?_ id name) _ _ _) _ _ _
  refine List.foldlRecOn _ _ ?_ fun h hh e _ => hh.put _ _ _
  exact List.foldlRecOn _ _ hmade fun h hh f _ => hh.put _ _ _

theorem heap_positioned (path : String) : (heap path).Positioned := by
  unfold heap
  refine List.foldlRecOn _ _ ?_ fun h hh e _ => addLibrary_positioned hh path e.1 e.2
  have hglobals := List.foldlRecOn globalFunctions
    (fun h f => h.setGlobal f (.function (.library f))) Heap.positioned_start
    fun h hh f _ => hh.put _ _ _
  exact (((hglobals.put _ _ _).put _ _ _).put _ _ _).put _ _ _

end Script.Library

namespace Sandbox

theorem equipped_positioned (i : Identity) (host : HostId) (c : SandboxConfig) (d : Dict String) :
    (equipped i host c d).heap.Positioned := by
  unfold equipped
  refine List.foldlRecOn (motive := fun s : Sandbox => s.heap.Positioned) _ _
    (Script.Library.heap_positioned _) ?_
  intro s hs name _
  refine Heap.Positioned.put (hs.addTable ?_) _ _ _
  apply Table.positioned_of_strings
  intro e he
  obtain ⟨c, -, rfl⟩ := List.mem_map.1 he
  exact ⟨_, rfl⟩

end Sandbox

/-! ## Requests -/

namespace World

/-- In every table of every sandbox every position has at most one value. -/
def Positioned (w : World) : Prop := ∀ id, (w.sandbox id).heap.Positioned

variable {w w' : World} {id : SandboxId}

theorem positioned_default : (default : Sandbox).heap.Positioned :=
  fun _ => Table.positioned_sequence #[]

theorem Positioned.of_sandboxes_eq (hw : w.Positioned) (h : w'.sandboxes = w.sandboxes) :
    w'.Positioned := by
  intro j
  rw [sandbox_congr h]
  exact hw j

theorem Positioned.push (hw : w.Positioned) {s : Sandbox}
    (h : w'.sandboxes = w.sandboxes.push s) (hs : s.heap.Positioned) : w'.Positioned := by
  intro j
  unfold sandbox
  rw [h, Array.getElem?_push]
  split
  · exact hs
  · exact hw j

theorem Positioned.modifySandbox (hw : w.Positioned) {f : Sandbox → Sandbox}
    (hf : (f (w.sandbox id)).heap.Positioned) : (w.modifySandbox id f).Positioned := by
  intro j
  rcases w.sandbox_modifySandbox_cases id j f with hsame | ⟨rfl, hchanged⟩
  · rw [hsame]
    exact hw j
  · rw [hchanged]
    exact hf

theorem Positioned.onHeap (hw : w.Positioned) {f : Heap → Results × Heap}
    (hf : ∀ h : Heap, h.Positioned → (f h).2.Positioned) : (w.onHeap id f).1.Positioned :=
  hw.modifySandbox (hf _ (hw id))

theorem Positioned.makeTable (hw : w.Positioned) {t : Table} (ht : t.Positioned) :
    (w.makeTable id t).1.Positioned :=
  hw.onHeap fun _ hh => hh.addTable ht

theorem Positioned.makeObject (hw : w.Positioned) (make : ObjectId → Value) :
    (w.makeObject id make).1.Positioned :=
  hw.onHeap fun _ hh => hh

theorem Positioned.raiseFault (hw : w.Positioned) (e : Failure) :
    (w.raiseFault id e).1.Positioned :=
  hw.onHeap fun _ hh => hh

theorem Positioned.giveBack (hw : w.Positioned) (vs : List HostValue) :
    (w.giveBack id vs).1.Positioned :=
  hw.onHeap fun _ hh => HostValue.importItems_positioned vs hh

/-- An action changes no heap. -/
theorem Positioned.run (hw : w.Positioned) (a : Action) : (a.run w id).1.Positioned := by
  intro j
  by_cases hj : j = id
  · subst hj
    by_cases hid : j < w.sandboxes.size
    · rw [sandbox_run hid a]
      cases a <;> exact hw j
    · rw [sandbox_of_not_lt (by rwa [(Action.run_actsWithin w j a).size])]
      exact positioned_default
  · rw [(Action.run_actsWithin w id a).others j hj]
    exact hw j

/-- **A request that is answered on the spot leaves every position with at most one value.** -/
theorem Positioned.serve (hw : w.Positioned) {q : Request} {r : Results}
    (h : w.serve id q = some (w', r)) : w'.Positioned := by
  cases q with
  | readGlobal | lookUp | field | length | concat | «replicate» => cases h; exact hw
  | writeGlobal name v =>
    cases h
    exact hw.modifySandbox ((hw id).put _ _ _)
  | makeTable items fields =>
    simp only [World.serve] at h
    split at h
    · rename_i t ht
      cases h
      exact hw.makeTable (Table.positioned_ofParts ht)
    · cases h
      exact hw
  | makeCycle =>
    cases h
    exact hw.makeTable (Table.positioned_named #[] "self" _)
  | makeFunction body => cases h; exact hw.makeObject fun n => .function (.script n body)
  | makeThread => cases h; exact hw.makeObject .thread
  | makeUserdata => cases h; exact hw.makeObject .userdata
  | «show» v => cases h; exact hw
  | showOutcome r => cases r <;> (cases h; exact hw)
  | require module => cases h
  | host op => cases h
  | call f args =>
    cases f with
    | function f =>
      cases f with
      | library name =>
        simp only [World.serve, callLibrary] at h
        split at h
        · cases h
          exact hw
        · obtain ⟨a, ha, heq⟩ := Option.map_eq_some_iff.1 h
          cases heq
          exact hw.onHeap fun h hh => hh.changesOnce (Script.Library.act?_changesOnce ha h)
      | script n body => cases h
      | capability c =>
        simp only [World.serve] at h
        split at h
        · rename_i e _
          cases h
          exact hw.raiseFault e
        · cases h
        · cases h
          exact (hw.run _).giveBack _
    | _ => cases h; exact hw

end World

/-! ## Steps -/

namespace Machine

theorem deliverResults_positioned {w : World} (hw : w.Positioned) (r : Except Raised (List Value))
    (F : List Frame) : (deliverResults w r F).world.Positioned := by
  cases F with
  | nil => exact hw
  | cons f F =>
    cases f with
    | module j name =>
      cases r with
      | error e => exact hw
      | ok vs => exact hw.modifySandbox ((hw j).put _ _ _)
    | entry p => cases r <;> exact hw.of_sandboxes_eq rfl
    | dispatch plugin purpose =>
      exact hw.of_sandboxes_eq (endDispatch_sandboxes w plugin purpose r F)
    | _ => exact hw

theorem ask_positioned {w : World} (hw : w.Positioned) (id : SandboxId) (q : Request)
    (next : Except Raised (List Value) → Program (List Value)) (F : List Frame) :
    (ask w id q next F).world.Positioned := by
  cases hserve : w.serve id q with
  | none =>
    rw [ask_world w id next F hserve]
    exact hw
  | some served =>
    rw [ask_of_serve w id next F hserve]
    exact hw.serve hserve

/-- A load begins with the heap that every sandbox has at its start. -/
theorem begun_positioned {m : Machine} {w : World} {p : PendingLoad} {s : Sandbox}
    (h : m.loadEvent? = some (w, .begun p s)) : s.heap.Positioned := by
  rcases ended_or_started h with ⟨-, _, _, -, hnever | ⟨_, hnever⟩⟩ | ⟨root, -, hevent⟩
  · cases hnever
  · cases hnever
  · obtain ⟨host, folder, block, -, -, -, hplan, -⟩ := World.plan_of_begun hevent
    rw [(World.plan_eq_ok hplan).2]
    exact Sandbox.equipped_positioned _ _ _ _

/-- **A step leaves every position with at most one value.** -/
theorem positioned_step {m : Machine} (h : m.world.Positioned) : m.step.world.Positioned := by
  obtain ⟨w, focus, F⟩ := m
  cases focus with
  | running id p =>
    cases p with
    | done | raise => exact h
    | ask q next => exact ask_positioned h id q next F
  | ended r => exact deliverResults_positioned h r F
  | answered a => exact h.of_sandboxes_eq (deliverAnswer_sandboxes w a F)
  | starting op =>
    cases hevent : loadEvent? ⟨w, .starting op, F⟩ with
    | none => exact h.of_sandboxes_eq (start_sandboxes w op F hevent)
    | some event =>
      obtain ⟨w', e⟩ := event
      cases e with
      | begun p s => exact h.push (begins_of_loadEvent? hevent).sandboxes (begun_positioned hevent)
      | refused | completed | abandoned =>
        exact h.of_sandboxes_eq (sandboxes_of_loadEvent? hevent nofun)

/-- **Every position of every table has at most one value**, in every reachable machine. -/
theorem Reachable.positioned {m : Machine} (h : m.Reachable) : m.world.Positioned := by
  induction h with
  | start files profile config isShared op => exact fun _ => World.positioned_default
  | step _ ih => exact positioned_step ih
  | next op _ _ ih => exact ih

end Machine

end EditorPlugins
