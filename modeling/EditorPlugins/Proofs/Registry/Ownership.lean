/-
  Whose sandbox is whose.

  A record holds the number of its sandbox, and so does a load whose entry script is still running.
  Two records are of the same load when sandbox and manifest agree (`Record.Same`); whether the
  plugin is enabled and what its last error was may differ.

  Main statements:
  * `Change.records`, `Removal.records` — basic changes keep the record of every plugin, removals
    keep it or take it away; only the completion of a load can put another one in its place;
  * `Reachable.owned` — in every reachable machine each loaded plugin and each load under way has
    a sandbox to itself, and that sandbox carries the identity it was loaded with.
-/
import EditorPlugins.Proofs.Machine.Reachable

namespace EditorPlugins

/-! ## Records -/

/-- The second record is of the same load as the first. -/
def Record.Same (a b : Record) : Prop := b.sandbox = a.sandbox ∧ b.manifest = a.manifest

/-- The record of a plugin in a situation. -/
def Situation.record? (s : Situation) (name : String) : Option Record :=
  s.world.registry.plugins.get? name

theorem rel_same_refl (r : Option Record) : Option.Rel Record.Same r r := by
  cases r with
  | none => exact .none
  | some record => exact .some ⟨rfl, rfl⟩

theorem rel_same_trans {a b c : Option Record} (h₁ : Option.Rel Record.Same a b)
    (h₂ : Option.Rel Record.Same b c) : Option.Rel Record.Same a c := by
  cases h₁ with
  | none => exact h₂
  | some h₁ =>
    cases h₂ with
    | some h₂ => exact .some ⟨h₂.1.trans h₁.1, h₂.2.trans h₁.2⟩

/-- Changing a record without its sandbox and manifest leaves every record of the same load. -/
theorem rel_same_modify (d : Dict Record) (plugin name : String) {f : Record → Record}
    (hf : ∀ r : Record, r.Same (f r)) :
    Option.Rel Record.Same (d.get? name) ((d.modify plugin f).get? name) := by
  rw [Dict.get?_modify]
  split
  · rename_i hname
    rw [hname]
    cases d.get? plugin with
    | none => exact .none
    | some record => exact .some (hf record)
  · exact rel_same_refl _

/-- **A basic change keeps the record of every plugin.** -/
theorem Change.records {s s' : Situation} (h : Change s s') (name : String) :
    Option.Rel Record.Same (s.record? name) (s'.record? name) := by
  unfold Situation.record?
  cases h with
  | act id h => rw [h.registry]; exact rel_same_refl _
  | push f h => exact rel_same_refl _
  | pop f h => exact rel_same_refl _
  | attach h => rw [(World.attach_of_not_initialized h).1]; exact rel_same_refl _
  | shutDown h => exact rel_same_refl _
  | enable plugin on => rw [World.enable_eq]; exact rel_same_modify _ _ _ (fun _ => ⟨rfl, rfl⟩)
  | enter purpose _ _ _ => exact rel_same_refl _
  | blame plugin text => exact rel_same_modify _ _ _ (fun _ => ⟨rfl, rfl⟩)
  | leave plugin purpose => exact rel_same_refl _

theorem Changes.records {s s' : Situation} (h : Changes s s') (name : String) :
    Option.Rel Record.Same (s.record? name) (s'.record? name) := by
  induction h with
  | refl => exact rel_same_refl _
  | tail _ hchange ih => exact rel_same_trans ih (hchange.records name)

/-- **A removal keeps the record of a plugin or takes it away.** -/
theorem Removal.records {s s' : Situation} (h : Removal s s') (name : String) :
    s'.record? name = none ∨ s'.record? name = s.record? name := by
  unfold Situation.record?
  cases h with
  | @unload w F plugin h =>
    rw [(World.unload_of_ok h).2.2]
    show (w.registry.plugins.erase plugin).get? name = none ∨
      (w.registry.plugins.erase plugin).get? name = w.registry.plugins.get? name
    rw [Dict.get?_erase]
    split
    · exact .inl rfl
    · exact .inr rfl
  | clear => rw [World.completeFinalize_registry]; exact .inl rfl

/-- What is related to a record is a record of the same load. -/
theorem exists_of_rel_same {old : Option Record} {new : Record}
    (h : Option.Rel Record.Same old (some new)) :
    ∃ record, old = some record ∧ record.Same new := by
  cases h with
  | some hsame => exact ⟨_, rfl, hsame⟩

/-- A record after basic changes was there before, -/
theorem Changes.record_before {s s' : Situation} (h : Changes s s') {name : String} {new : Record}
    (hnew : s'.record? name = some new) :
    ∃ old, s.record? name = some old ∧ old.Same new :=
  exists_of_rel_same (hnew ▸ h.records name)

theorem Change.record_before {s s' : Situation} (h : Change s s') {name : String} {new : Record}
    (hnew : s'.record? name = some new) :
    ∃ old, s.record? name = some old ∧ old.Same new :=
  exists_of_rel_same (hnew ▸ h.records name)

/-- and so was a record after a removal. -/
theorem Removal.record_before {s s' : Situation} (h : Removal s s') {name : String} {new : Record}
    (hnew : s'.record? name = some new) :
    ∃ old, s.record? name = some old ∧ old.Same new := by
  rcases h.records name with hnone | hsame
  · rw [hnone] at hnew
    cases hnew
  · exact ⟨new, hsame ▸ hnew, rfl, rfl⟩

/-! ## Loads under way -/

namespace Frame

/-- The loads whose entry scripts have not ended, innermost first. -/
def pending : List Frame → List PendingLoad
  | [] => []
  | .entry p :: rest => p :: pending rest
  | .code .. :: rest | .module .. :: rest | .dispatch .. :: rest | .pluginCall .. :: rest
  | .hostStep .. :: rest | .scan .. :: rest | .finalization :: rest => pending rest

theorem pending_of_isPlain {f : Frame} (h : f.isPlain = true) (F : List Frame) :
    pending (f :: F) = pending F := by
  cases f with
  | entry | dispatch | finalization => cases h
  | code | module | pluginCall | hostStep | scan => rfl

end Frame

/-- Basic changes begin and end no load. -/
theorem Change.pending {s s' : Situation} (h : Change s s') :
    Frame.pending s'.waiting = Frame.pending s.waiting := by
  cases h with
  | push f h => exact Frame.pending_of_isPlain h _
  | pop f h => exact (Frame.pending_of_isPlain h _).symm
  | act | attach | shutDown | enable | enter | blame | leave => rfl

theorem Removal.pending {s s' : Situation} (h : Removal s s') :
    Frame.pending s'.waiting = Frame.pending s.waiting := by
  cases h <;> rfl

/-! ## Sandboxes -/

/-- No sandbox is lost, and none changes hands. -/
structure World.KeepsSandboxes (w w' : World) : Prop where
  size : w.sandboxes.size ≤ w'.sandboxes.size
  identity : ∀ id, id < w.sandboxes.size → (w'.sandbox id).identity = (w.sandbox id).identity

theorem World.KeepsSandboxes.of_eq {w w' : World} (h : w'.sandboxes = w.sandboxes) :
    w.KeepsSandboxes w' := by
  refine ⟨Nat.le_of_eq (by rw [h]), fun id _ => ?_⟩
  rw [World.sandbox_congr h]

theorem World.KeepsSandboxes.trans {w w₁ w₂ : World} (h₁ : w.KeepsSandboxes w₁)
    (h₂ : w₁.KeepsSandboxes w₂) : w.KeepsSandboxes w₂ where
  size := Nat.le_trans h₁.size h₂.size
  identity id hid :=
    (h₂.identity id (Nat.lt_of_lt_of_le hid h₁.size)).trans (h₁.identity id hid)

theorem World.addSandbox_keepsSandboxes (w : World) (s : Sandbox) :
    w.KeepsSandboxes (w.addSandbox s).1 where
  size := by
    show w.sandboxes.size ≤ (w.sandboxes.push s).size
    rw [Array.size_push]
    exact Nat.le_succ _
  identity id hid := by
    show (((w.sandboxes.push s)[id]?).getD default).identity = _
    rw [Array.getElem?_push, if_neg (Nat.ne_of_lt hid)]
    rfl

theorem World.sandbox_addSandbox (w : World) (s : Sandbox) :
    (w.addSandbox s).1.sandbox w.sandboxes.size = s := by
  show ((w.sandboxes.push s)[w.sandboxes.size]?).getD default = s
  rw [Array.getElem?_push, if_pos rfl]
  rfl

theorem Change.keepsSandboxes {s s' : Situation} (h : Change s s') :
    s.world.KeepsSandboxes s'.world := by
  cases h with
  | act id h => exact ⟨Nat.le_of_eq h.size.symm, fun j _ => h.identity_eq j⟩
  | attach h => exact .of_eq (World.attach_of_not_initialized h).2
  | enable plugin on => rw [World.enable_eq]; exact .of_eq rfl
  | push | pop | shutDown | enter | blame | leave => exact .of_eq rfl

theorem Removal.keepsSandboxes {s s' : Situation} (h : Removal s s') :
    s.world.KeepsSandboxes s'.world := by
  cases h with
  | unload h => exact .of_eq (World.unload_sandboxes _ _)
  | clear => exact .of_eq (World.completeFinalize_sandboxes _)

theorem Loading.keepsSandboxes {s s' : Situation} {e : LoadEvent} (h : Loading s e s') :
    s.world.KeepsSandboxes s'.world := by
  cases h with
  | begun => exact World.addSandbox_keepsSandboxes _ _
  | refused | completed | abandoned => exact .of_eq rfl

/-! ## Ownership -/

/-- Every loaded plugin and every load under way has a sandbox to itself. -/
structure Owned (s : Situation) : Prop where
  /-- A record's sandbox is there, under the identity of the record. -/
  record : ∀ name record, s.record? name = some record →
    record.sandbox < s.world.sandboxes.size ∧ record.manifest.name = name ∧
    ∃ root, (s.world.sandbox record.sandbox).identity = World.identityOf record.manifest root
  /-- So is the sandbox of a load under way. -/
  pending : ∀ p ∈ Frame.pending s.waiting, p.sandbox < s.world.sandboxes.size ∧
    (s.world.sandbox p.sandbox).identity = World.identityOf p.manifest p.root
  /-- No two plugins share a sandbox. -/
  injective : ∀ a b ra rb, s.record? a = some ra → s.record? b = some rb →
    ra.sandbox = rb.sandbox → a = b
  /-- A plugin and a load under way do not share one either, -/
  apart : ∀ p ∈ Frame.pending s.waiting, ∀ name record, s.record? name = some record →
    record.sandbox ≠ p.sandbox
  /-- nor do two loads under way. -/
  nodup : ((Frame.pending s.waiting).map PendingLoad.sandbox).Nodup

/-- Fewer records and loads, the same sandboxes: ownership stays. -/
theorem Owned.of_fewer {s s' : Situation} (h : Owned s)
    (hrecords : ∀ name new, s'.record? name = some new →
      ∃ old, s.record? name = some old ∧ old.Same new)
    (hpending : (Frame.pending s'.waiting).Sublist (Frame.pending s.waiting))
    (hsandboxes : s.world.KeepsSandboxes s'.world) : Owned s' where
  record name new hnew := by
    obtain ⟨old, hold, hsandbox, hmanifest⟩ := hrecords name new hnew
    obtain ⟨hlt, hname, root, hidentity⟩ := h.record name old hold
    rw [hsandbox, hmanifest]
    exact ⟨Nat.lt_of_lt_of_le hlt hsandboxes.size, hname, root,
      (hsandboxes.identity _ hlt).trans hidentity⟩
  pending p hp := by
    obtain ⟨hlt, hidentity⟩ := h.pending p (hpending.subset hp)
    exact ⟨Nat.lt_of_lt_of_le hlt hsandboxes.size, (hsandboxes.identity _ hlt).trans hidentity⟩
  injective a b ra rb ha hb hab := by
    obtain ⟨oa, hoa, hsa, -⟩ := hrecords a ra ha
    obtain ⟨ob, hob, hsb, -⟩ := hrecords b rb hb
    exact h.injective a b oa ob hoa hob (hsa.symm.trans (hab.trans hsb))
  apart p hp name new hnew := by
    obtain ⟨old, hold, hsandbox, -⟩ := hrecords name new hnew
    rw [hsandbox]
    exact h.apart p (hpending.subset hp) name old hold
  nodup := h.nodup.sublist (hpending.map _)

theorem Owned.change {s s' : Situation} (hs : Change s s') (h : Owned s) : Owned s' :=
  h.of_fewer (fun _ _ => hs.record_before) (hs.pending ▸ .refl _) hs.keepsSandboxes

theorem Owned.removal {s s' : Situation} (hs : Removal s s') (h : Owned s) : Owned s' :=
  h.of_fewer (fun _ _ => hs.record_before) (hs.pending ▸ .refl _) hs.keepsSandboxes

/-- A load that begins takes a new sandbox; one that is completed hands its own to the record. -/
theorem Owned.loading {s s' : Situation} {e : LoadEvent} (hs : Loading s e s') (h : Owned s) :
    Owned s' := by
  have hkeeps := hs.keepsSandboxes
  cases hs with
  | refused => exact h.of_fewer (fun _ new hnew => ⟨new, hnew, rfl, rfl⟩) (.refl _) hkeeps
  | abandoned =>
    exact h.of_fewer (fun _ new hnew => ⟨new, hnew, rfl, rfl⟩) (List.sublist_cons_self ..) hkeeps
  | @begun w F p sandbox hinit hfree hsandbox hidentity =>
    have hold : Owned ⟨(w.addSandbox sandbox).1, F⟩ :=
      h.of_fewer (fun _ new hnew => ⟨new, hnew, rfl, rfl⟩) (.refl _) hkeeps
    have hnew : p.sandbox < (w.addSandbox sandbox).1.sandboxes.size ∧
        ((w.addSandbox sandbox).1.sandbox p.sandbox).identity
          = World.identityOf p.manifest p.root := by
      rw [hsandbox, World.sandbox_addSandbox]
      refine ⟨?_, hidentity⟩
      show w.sandboxes.size < (w.sandboxes.push sandbox).size
      rw [Array.size_push]
      exact Nat.lt_succ_self _
    refine ⟨hold.record, ?_, hold.injective, ?_, ?_⟩
    · intro q hq
      rcases List.mem_cons.1 hq with rfl | hq
      · exact hnew
      · exact hold.pending q hq
    · intro q hq name record hrecord
      rcases List.mem_cons.1 hq with rfl | hq
      · -- the new sandbox has the next number, which no record can have yet
        have hlt := (h.record name record hrecord).1
        rw [hsandbox]
        exact Nat.ne_of_lt hlt
      · exact hold.apart q hq name record hrecord
    · refine List.nodup_cons.2 ⟨fun hmem => ?_, hold.nodup⟩
      obtain ⟨q, hq, heq⟩ := List.mem_map.1 hmem
      have hlt := (h.pending q hq).1
      rw [heq, hsandbox] at hlt
      exact Nat.lt_irrefl _ hlt
  | @completed w F p =>
    obtain ⟨hlt, hidentity⟩ := h.pending p List.mem_cons_self
    obtain ⟨hfresh, hnodup⟩ := List.nodup_cons.1 h.nodup
    -- a record afterwards is the one the load leaves, or one that was there before
    have hcases : ∀ name record,
        (w.registry.plugins.insert p.manifest.name ⟨p.sandbox, true, none, p.manifest⟩).get? name
          = some record →
        (name = p.manifest.name ∧ record.sandbox = p.sandbox ∧ record.manifest = p.manifest) ∨
        w.registry.plugins.get? name = some record := by
      intro name record hrecord
      rw [Dict.get?_insert] at hrecord
      split at hrecord
      · rename_i hname
        cases hrecord
        exact .inl ⟨hname, rfl, rfl⟩
      · exact .inr hrecord
    refine ⟨?_, ?_, ?_, ?_, hnodup⟩
    · intro name record hrecord
      rcases hcases name record hrecord with ⟨hname, hsandbox, hmanifest⟩ | hrecord
      · rw [hsandbox, hmanifest]
        exact ⟨hlt, hname.symm, p.root, hidentity⟩
      · exact h.record name record hrecord
    · intro q hq
      exact h.pending q (List.mem_cons_of_mem p hq)
    · intro a b ra rb ha hb hab
      rcases hcases a ra ha with ⟨hname, hsandbox, -⟩ | ha
      · rcases hcases b rb hb with ⟨hname', -, -⟩ | hb
        · exact hname.trans hname'.symm
        · exact absurd (hab.symm.trans hsandbox) (h.apart p List.mem_cons_self b rb hb)
      · rcases hcases b rb hb with ⟨-, hsandbox, -⟩ | hb
        · exact absurd (hab.trans hsandbox) (h.apart p List.mem_cons_self a ra ha)
        · exact h.injective a b ra rb ha hb hab
    · intro q hq name record hrecord
      rcases hcases name record hrecord with ⟨-, hsandbox, -⟩ | hrecord
      · intro heq
        rw [hsandbox] at heq
        exact hfresh (List.mem_map.2 ⟨q, hq, heq.symm⟩)
      · exact h.apart q (List.mem_cons_of_mem p hq) name record hrecord

theorem owned_start (files : Files) (profile : HostProfile) (config : HostConfig)
    (isShared : Bool) : Owned ⟨.start files profile config isShared, []⟩ where
  record _ _ h := nomatch h
  pending _ h := nomatch h
  injective _ _ _ _ h := nomatch h
  apart _ h := nomatch h
  nodup := List.nodup_nil

/-- **Every loaded plugin and every load under way has a sandbox to itself**, in every reachable
machine. -/
theorem Machine.Reachable.owned {m : Machine} (h : m.Reachable) : Owned m.situation :=
  h.invariant owned_start (fun _ _ => Owned.change) (fun _ _ => Owned.removal)
    (fun _ _ _ => Owned.loading)

end EditorPlugins
