/-
  Small sessions on which a statement about reachable machines can be evaluated.

  A scene is a few plugin folders, each with the name in its manifest and the statements of its
  entry script, and a session that starts among them.  Main statement: `Scene.reach`, a property
  that evaluates to true after some operations and steps holds of a reachable machine.
-/
import EditorPlugins.Proofs.Machine.Reachable
import EditorPlugins.Json.Printer

namespace EditorPlugins

/-- A plugin folder in the directory where the session runs. -/
structure Scene.Folder where
  root : String
  /-- The name in the manifest. -/
  name : String
  /-- The statements of the entry script. -/
  script : List Json

/-- Plugin folders side by side. -/
abbrev Scene := List Scene.Folder

namespace Scene

/-- Whether two byte strings are the same. -/
def sameBytes (a b : ByteArray) : Bool := a.data == b.data

theorem sameBytes_iff {a b : ByteArray} : sameBytes a b = true ↔ a = b := by
  unfold sameBytes
  rw [beq_iff_eq, ByteArray.ext_iff]

/-- The statement by which a script has the embedding application act. -/
def hostActs (step : List (String × Json)) : Json :=
  .array [.text "do", .object [("host", .object step)]]

def Folder.entries (f : Folder) : List (Place × Entry) :=
  let text (j : Json) : Entry := .file (Text.encode j.compact)
  [([f.root], .directory),
    ([f.root, PluginFolder.manifestFile], text (.object [("name", .text f.name)])),
    ([f.root, "init.lua"], text (.array f.script))]

/-- One plugin whose entry script does nothing. -/
def single : Scene := [⟨"a", "a", []⟩]

def files (s : Scene) : Files := ⟨s.flatMap Folder.entries, []⟩

/-- The folders in a directory of their own. -/
def below (s : Scene) (dir : String) : List (Place × Entry) :=
  ([dir], .directory) :: s.files.entries.map (fun e => (dir :: e.1, e.2))

def config : HostConfig where
  hostVersion := "1.0.0"
  pluginDir := ⟨"plugins"⟩
  configDir := ⟨"config"⟩

/-- The session before anything happened. -/
def world (s : Scene) : World := .start s.files {} config false

/-- After the collaborators were attached and some operations performed, the machine so many steps
into a last operation. -/
def machine? (s : Scene) (before : List Operation) (last : Operation) (steps : Nat) :
    Option Machine :=
  (s.world.performAll? 200 (.attach :: before)).map fun r =>
    Machine.steps steps (.perform r.1 last)

/-- The same in a session that starts among some files. -/
def machineAmong? (f : Files) (before : List Operation) (last : Operation) (steps : Nat) :
    Option Machine :=
  ((World.start f {} config false).performAll? 200 (.attach :: before)).map fun r =>
    Machine.steps steps (.perform r.1 last)

/-- **The machines of a session are reachable.**  What evaluates to true of one holds of it. -/
theorem reach_among {f : Files} {before : List Operation} {last : Operation} {steps : Nat}
    {q : Machine → Bool} (h : (machineAmong? f before last steps).any q = true) :
    ∃ m, machineAmong? f before last steps = some m ∧ m.Reachable ∧ q m = true := by
  unfold machineAmong? at h ⊢
  cases hall : (World.start f {} config false).performAll? 200 (.attach :: before) with
  | none => rw [hall] at h; cases h
  | some r =>
    obtain ⟨w, answers⟩ := r
    rw [hall] at h
    obtain ⟨m, hm, a, ha, hw⟩ := Machine.reachable_of_performAll?
      (.start f {} config false .attach) hall
    subst hw
    exact ⟨_, rfl, (Machine.Reachable.next last hm ha).steps steps, h⟩

/-- The machines of a scene are reachable. -/
theorem reach {s : Scene} {before : List Operation} {last : Operation} {steps : Nat}
    {q : Machine → Bool} (h : (s.machine? before last steps).any q = true) :
    ∃ m, s.machine? before last steps = some m ∧ m.Reachable ∧ q m = true :=
  reach_among h

/-- Without steps a last operation is about to start. -/
theorem focus_of_machine? {s : Scene} {before : List Operation} {last : Operation} {m : Machine}
    (h : s.machine? before last 0 = some m) : m.focus = .starting last ∧ m.frames = [] := by
  obtain ⟨r, -, rfl⟩ := Option.map_eq_some_iff.1 h
  exact ⟨rfl, rfl⟩

end Scene

end EditorPlugins
