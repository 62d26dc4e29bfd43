/-
  What the registry's own operations do to the world, one lemma for each.

  Attaching, unloading, clearing and looking up a handler run no code.  The machine calls them, and
  proofs about the machine cite these lemmas instead of looking into the operations.  The central
  fact about unloading is a dichotomy: it is refused and nothing changes, or the plugin was loaded
  and not executing and is gone afterwards.
-/
import EditorPlugins.World.Plugins

namespace EditorPlugins

/-- What ends well has begun well. -/
theorem Except.bind_eq_ok {ε α β : Type} {x : Except ε α} {f : α → Except ε β} {b : β} :
    (x >>= f) = .ok b ↔ ∃ a, x = .ok a ∧ f a = .ok b := by
  cases x with
  | error e => exact ⟨(nomatch ·), fun ⟨_, h, _⟩ => nomatch h⟩
  | ok a =>
    refine ⟨fun h => ⟨a, rfl, h⟩, ?_⟩
    rintro ⟨a', ha, hf⟩
    cases ha
    exact hf

theorem Except.eq_ok_of_toOption {ε α : Type} {x : Except ε α} {a : α} (h : x.toOption = some a) :
    x = .ok a := by
  cases x with
  | error e => cases h
  | ok b => cases h; rfl

theorem Except.map_eq_ok {ε α β : Type} {x : Except ε α} {f : α → β} {b : β} :
    x.map f = .ok b ↔ ∃ a, x = .ok a ∧ f a = b := by
  cases x <;> simp [Except.map]

theorem Except.map_map {ε α β γ : Type} (x : Except ε α) (f : α → β) (g : β → γ) :
    (x.map f).map g = x.map (g ∘ f) := by
  cases x <;> rfl

namespace Registry

/-- Leaving undoes entering. -/
theorem eraseLast_append_singleton (l : List String) (name : String) :
    eraseLast name (l ++ [name]) = l := by
  show ((l ++ [name]).reverse.erase name).reverse = l
  rw [List.reverse_append, List.reverse_singleton, List.singleton_append, List.erase_cons_head,
    List.reverse_reverse]

end Registry

namespace World

/-! ## Initialization and unloading -/

theorem attach_of_not_initialized {w : World} (h : w.registry.isInitialized = false) :
    w.attach.1.registry = { w.registry with host := some w.hosts.size } ∧
    w.attach.1.sandboxes = w.sandboxes := by
  unfold attach
  rw [h]
  exact ⟨rfl, rfl⟩

theorem unload_sandboxes (w : World) (name : String) :
    (w.unload name).1.sandboxes = w.sandboxes := by
  unfold unload
  split
  · rfl
  · split <;> rfl

theorem unload_of_error {w : World} {name : String} {e : Failure}
    (h : (w.unload name).2 = .error e) : (w.unload name).1 = w := by
  unfold unload at h ⊢
  split
  · rfl
  · rename_i hactive
    rw [if_neg hactive] at h
    split
    · rfl
    · rename_i record hrecord
      rw [hrecord] at h
      cases h

/-- Only a loaded plugin that is not executing is unloaded, and then it is gone. -/
theorem unload_of_ok {w : World} {name : String} (h : (w.unload name).2 = .ok ()) :
    name ∉ w.registry.active ∧ w.registry.plugins.contains name = true ∧
    (w.unload name).1.registry = w.registry.drop name := by
  unfold unload at h ⊢
  split at h
  · cases h
  · rename_i hactive
    split at h
    · cases h
    · rename_i record hrecord
      refine ⟨by simpa using hactive, Dict.contains_iff.2 ⟨record, hrecord⟩, ?_⟩
      rw [if_neg hactive]
      rfl

/-- The registry after an unload that may have been refused. -/
theorem unload_registry (w : World) (name : String) :
    (w.unload name).1.registry = w.registry ∨
    (w.unload name).1.registry = w.registry.drop name := by
  cases h : (w.unload name).2 with
  | error e => exact .inl (by rw [unload_of_error h])
  | ok _ => exact .inr (unload_of_ok h).2.2

/-- A record that is there after an unload was there before. -/
theorem get?_of_unload {w : World} {name other : String} {record : Record}
    (h : (w.unload name).1.registry.plugins.get? other = some record) :
    w.registry.plugins.get? other = some record := by
  rcases unload_registry w name with hsame | hdropped
  · rw [hsame] at h
    exact h
  · rw [hdropped] at h
    have herased : (w.registry.plugins.erase name).get? other = some record := h
    rw [Dict.get?_erase] at herased
    split at herased
    · cases herased
    · exact herased

/-- Unloading plugins one after the other and clearing the rest leaves what clearing alone does. -/
theorem foldl_unload_cleared (names : List String) (w : World) :
    (names.foldl (fun w name => (w.unload name).1) w).registry.cleared = w.registry.cleared ∧
    (names.foldl (fun w name => (w.unload name).1) w).sandboxes = w.sandboxes := by
  induction names generalizing w with
  | nil => exact ⟨rfl, rfl⟩
  | cons name rest ih =>
    obtain ⟨hcleared, hsandboxes⟩ := ih (w.unload name).1
    refine ⟨hcleared.trans ?_, hsandboxes.trans (unload_sandboxes w name)⟩
    rcases unload_registry w name with h | h
    · rw [h]
    · rw [h]; rfl

theorem completeFinalize_registry (w : World) :
    w.completeFinalize.registry = w.registry.cleared :=
  (foldl_unload_cleared w.registry.loadOrder w).1

theorem completeFinalize_sandboxes (w : World) : w.completeFinalize.sandboxes = w.sandboxes :=
  (foldl_unload_cleared w.registry.loadOrder w).2

/-- Enabling or disabling a plugin that is not loaded changes nothing, like any change of it. -/
theorem enable_eq (w : World) (name : String) (on : Bool) :
    (w.enable name on).1 = w.modifyRegistry fun r =>
      { r with plugins := r.plugins.modify name fun record => { record with enabled := on } } := by
  unfold enable
  split
  · rfl
  · rename_i hnot
    have hnone : w.registry.plugins.get? name = none :=
      Dict.contains_eq_false_iff.1 (by simpa using hnot)
    have hsame := Dict.modify_of_get?_eq_none hnone
      (fun record : Record => { record with enabled := on })
    show w = { w with registry := { w.registry with
      plugins := w.registry.plugins.modify name (fun record => { record with enabled := on }) } }
    rw [hsame]

/-! ## Handlers -/

/-- What is resolved belongs to the record of a loaded, enabled plugin. -/
theorem resolve_eq_ok {w : World} {plugin : String} {find : Sandbox → Option Script.Function}
    {missing : Failure} {t : Target} (h : w.resolve plugin find missing = .ok t) :
    ∃ record, w.registry.plugins.get? plugin = some record ∧ record.enabled = true ∧
      t.sandbox = record.sandbox ∧ find (w.sandbox record.sandbox) = some t.function := by
  unfold resolve at h
  split at h
  · cases h
  · rename_i record hrecord
    split at h
    · cases h
    · rename_i henabled
      split at h
      · rename_i f hf
        cases h
        exact ⟨record, hrecord, by simpa using henabled, rfl, hf⟩
      · cases h

/-- A command is resolved to the handler under its second part in the plugin of its first part. -/
theorem resolveCommand_eq_ok {w : World} {id plugin : String} {t : Target}
    (h : w.resolveCommand id = .ok (plugin, t)) :
    ∃ command record, CommandId.split? id = some (plugin, command) ∧
      w.registry.plugins.get? plugin = some record ∧ record.enabled = true ∧
      t.sandbox = record.sandbox ∧
      ((w.sandbox record.sandbox).commands.get? command).map CommandHandler.function
        = some t.function := by
  unfold resolveCommand at h
  split at h
  · cases h
  · rename_i plugin' command hsplit
    cases hresolve : w.resolve plugin'
        (fun s => (s.commands.get? command).map CommandHandler.function) (.commandNotFound id) with
    | error e => rw [hresolve] at h; cases h
    | ok t' =>
      rw [hresolve] at h
      cases h
      obtain ⟨record, hrecord, henabled, hsandbox, hf⟩ := resolve_eq_ok hresolve
      exact ⟨command, record, hsplit, hrecord, henabled, hsandbox, hf⟩

end World

end EditorPlugins
