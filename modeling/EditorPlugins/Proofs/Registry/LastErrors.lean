/-
  Whose error is remembered.

  The record of a loaded plugin has the last error of the plugin: the message of the latest dispatched
  function of it that raised since the record was made, a command, an event handler or a function
  called by another plugin, however deep in the run it was.  Nothing else writes it: not enabling
  and disabling, not the calls and broadcasts around, and not what the plugin itself calls.

  Which record a name has when a function ends is not obvious: the registry may have changed while
  the function ran.  But its plugin was on the stack all the time, so its record is still there.

  `raises?` is the error that a step remembers, `makes?` the record that it makes.  Main statement:
  `History.blame_exact`; the invariant behind it is `step_record`, what one step does to a record.
-/
import EditorPlugins.Proofs.Machine.History
import EditorPlugins.Proofs.Machine.PluginCall
import EditorPlugins.Proofs.Machine.Isolation

namespace EditorPlugins

open Script (Value Raised Program)

/-! ## Errors that stay -/

/-- Every record was there before, of the same load and with the same error. -/
structure World.KeepsErrors (w w' : World) : Prop where
  before : ∀ name after, w'.registry.plugins.get? name = some after →
    ∃ before, w.registry.plugins.get? name = some before ∧ before.Same after ∧
      after.lastError = before.lastError

namespace World

variable {w w' w'' : World}

theorem KeepsErrors.of_eq (h : w'.registry.plugins = w.registry.plugins) : w.KeepsErrors w' := by
  refine ⟨fun name after hafter => ?_⟩
  rw [h] at hafter
  exact ⟨after, hafter, ⟨rfl, rfl⟩, rfl⟩

theorem KeepsErrors.trans (h : w.KeepsErrors w') (h' : w'.KeepsErrors w'') :
    w.KeepsErrors w'' := by
  refine ⟨fun name after hafter => ?_⟩
  obtain ⟨between, hbetween, hsame', herror'⟩ := h'.before name after hafter
  obtain ⟨before, hbefore, hsame, herror⟩ := h.before name between hbetween
  exact ⟨before, hbefore, ⟨hsame'.1.trans hsame.1, hsame'.2.trans hsame.2⟩, herror'.trans herror⟩

end World

namespace Machine

/-! ## The parts of a step -/

/-- The plugin whose dispatched function ends with an error now, and what the error says. -/
def raises? (m : Machine) : Option (String × String) :=
  match m.focus, m.frames with
  | .ended (.error e), .dispatch plugin _ :: _ => some (plugin, e.message)
  | _, _ => none

/-- The record that the next step makes, with the name of its plugin. -/
def makes? (m : Machine) : Option (String × Record) :=
  match m.focus, m.frames with
  | .ended (.ok _), .entry p :: _ => some (p.manifest.name, ⟨p.sandbox, true, none, p.manifest⟩)
  | _, _ => none

/-- What the error says with which a dispatched function of the plugin ends now. -/
def raisedBy? (m : Machine) (name : String) : Option String :=
  (m.raises?.filter (fun e => e.1 == name)).map Prod.snd

/-- The record of the plugin that the next step makes. -/
def recordMade? (m : Machine) (name : String) : Option Record :=
  (m.makes?.filter (fun r => r.1 == name)).map Prod.snd

/-- The step from `m₀` made the record of the plugin, and `later` are the machines since: none of
their steps made another one, and the last error is the latest of theirs. -/
structure Blames (name : String) (record : Record) (m₀ : Machine) (later : List Machine) :
    Prop where
  made : ∃ first, m₀.recordMade? name = some first ∧ first.Same record ∧ first.lastError = none
  since : ∀ m' ∈ later, m'.recordMade? name = none
  lastError : record.lastError = later.findSome? (·.raisedBy? name)

end Machine

end EditorPlugins
