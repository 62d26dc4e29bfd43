/-
  Code that has nothing to do with files and hosts.

  A quiet script registers handlers, writes log messages, calls other plugins and asks who it is,
  but it touches neither files nor hosts, loads no modules and saves no configuration.  While quiet
  scripts run, two worlds that differ in files and hosts alone take the same steps (`step_onGround`),
  if the folders that they load look the same in both (`Alike`).  So files and hosts stay as they
  are until the registry is cleared.
-/
import EditorPlugins.Proofs.CommandLine.Trail
import EditorPlugins.Proofs.Machine.Stores

namespace EditorPlugins

open Script (Value Raised Program Request)
open World (Results)

/-! ## Quiet code -/

/-- Actions that touch neither files nor hosts, and save no configuration. -/
def Action.isQuiet : Action → Bool
  | .describePlugin | .getConfig | .getRootPath | .registerCommand .. | .registerEvent ..
  | .callPlugin .. | .log .. | .message .. | .baseName _ | .joinPaths _ => true
  | _ => false

/-- Whether a request from a sandbox is quiet. -/
def Sandbox.asksQuietly (s : Sandbox) (q : Request) : Bool :=
  match q with
  | .call (.function (.library name)) _ => name != "dofile"
  | .require _ | .host _ => false
  | _ => (s.requested? q).all Action.isQuiet

/-- Whether the code that runs asks for nothing but quiet things. -/
def Machine.isQuiet (m : Machine) : Bool :=
  match m.focus with
  | .running id (.ask q _) => (m.world.sandbox id).asksQuietly q
  | _ => true

theorem Action.changesStores_of_isQuiet {a : Action} (h : a.isQuiet = true) :
    a.changesStores = false := by
  cases a <;> first | rfl | cases h

theorem Sandbox.isQuiet_of_asksQuietly {s : Sandbox} {q : Request} {a : Action}
    (h : s.asksQuietly q = true) (ha : s.requested? q = some a) : a.isQuiet = true := by
  obtain ⟨c, args, rfl, -⟩ := requested?_eq_some ha
  have hall : (s.requested? (.call (.function (.capability c)) args)).all Action.isQuiet = true := h
  rw [ha] at hall
  exact hall

/-! ## Other files and hosts -/

/-- The same world with other files and hosts. -/
def World.onGround (w : World) (f : Files) (hosts : Array Host) : World :=
  { w with files := f, hosts := hosts }

/-- The same machine with other files and hosts. -/
def Machine.onGround (m : Machine) (f : Files) (hosts : Array Host) : Machine :=
  { m with world := m.world.onGround f hosts }

/-- A folder looks the same in two file systems: its manifest, and the entry script and the
configuration of the plugin that it names. -/
structure PluginFolder.Alike (c : PluginConfigs) (f g : Files) (root : Path) : Prop where
  manifest : readManifest g root = readManifest f root
  folder : ∀ m, readManifest f root = .ok m → withManifest g root m = withManifest f root m
  script : ∀ m p, readManifest f root = .ok m → withManifest f root m = .ok p →
    World.readScript g p.entry = World.readScript f p.entry
  config : ∀ m, readManifest f root = .ok m → c.load g m.name = c.load f m.name

variable {w : World} {g : Files} {hosts : Array Host}

namespace World

/-- A quiet action does the same. -/
theorem run_onGround (w : World) (id : SandboxId) {a : Action} (ha : a.isQuiet = true)
    (g : Files) (hosts : Array Host) :
    a.run (w.onGround g hosts) id = ((a.run w id).1.onGround g hosts, (a.run w id).2) := by
  cases a with
  | describePlugin | getConfig | getRootPath | registerCommand | registerEvent | callPlugin | log
  | message | baseName | joinPaths => rfl
  | _ => cases ha

/-- A quiet request is answered in the same way. -/
theorem serve_onGround {id : SandboxId} {q : Request}
    (hq : (w.sandbox id).asksQuietly q = true) (g : Files) (hosts : Array Host) :
    (w.onGround g hosts).serve id q
      = (w.serve id q).map (fun served => (served.1.onGround g hosts, served.2)) := by
  cases q with
  | readGlobal | writeGlobal | lookUp | makeCycle | makeFunction | makeThread | makeUserdata | field
  | length | concat | «replicate» | «show» => rfl
  | require | host => cases hq
  | makeTable items fields =>
    simp only [serve]
    cases Script.Table.ofParts items fields <;> rfl
  | showOutcome r => cases r <;> rfl
  | call f args =>
    cases f with
    | function f =>
      cases f with
      | script n body => rfl
      | library name =>
        simp only [serve, callLibrary]
        split
        · rfl
        · show (Script.Library.act? (w.sandbox id).memoryLimit name args).map _ = _
          cases Script.Library.act? (w.sandbox id).memoryLimit name args <;> rfl
      | capability c =>
        have hquiet : ((requestedAction (w.sandbox id) c args).toOption).all Action.isQuiet = true :=
          hq
        have hsandbox : (w.onGround g hosts).sandbox id = w.sandbox id := rfl
        simp only [serve, hsandbox]
        cases haction : requestedAction (w.sandbox id) c args with
        | error e => rfl
        | ok a =>
          rw [haction] at hquiet
          have hrun := run_onGround w id (a := a) hquiet g hosts
          cases a with
          | describePlugin | getConfig | getRootPath | registerCommand | registerEvent | callPlugin
          | log | message | baseName | joinPaths => rfl
          | _ => cases hquiet
    | _ => rfl

/-- A folder that looks the same is loaded in the same way, up to its entry script. -/
theorem prepareLoad_onGround {root : Path}
    (h : PluginFolder.Alike w.registry.configs w.files g root) (hosts : Array Host) :
    (w.onGround g hosts).prepareLoad root
      = ((w.prepareLoad root).1.onGround g hosts, (w.prepareLoad root).2) := by
  have hregistry : (w.onGround g hosts).registry = w.registry := rfl
  have hfiles : (w.onGround g hosts).files = g := rfl
  unfold prepareLoad
  rw [hregistry, hfiles]
  cases w.registry.host with
  | none => rfl
  | some host =>
    dsimp only
    rw [h.manifest]
    cases hmanifest : PluginFolder.readManifest w.files root with
    | error e => rfl
    | ok m =>
      dsimp only
      rw [h.folder m hmanifest]
      cases hfolder : PluginFolder.withManifest w.files root m with
      | error e => rfl
      | ok p =>
        have hplan : (w.onGround g hosts).plan host p = w.plan host p := by
          have hm := (PluginFolder.withManifest_eq_ok hfolder).1
          unfold plan
          rw [hregistry, hfiles, h.script m p hmanifest hfolder, hm, h.config m hmanifest]
          rfl
        dsimp only [Except.bind]
        rw [hplan]
        cases w.plan host p <;> rfl

end World

namespace Machine

/-! ## The parts of a step -/

theorem dispatch_onGround (plugin : String) (t : World.Target) (args : List Value)
    (purpose : Purpose) (F : List Frame) :
    dispatch (w.onGround g hosts) plugin t args purpose F
      = (dispatch w plugin t args purpose F).onGround g hosts := by
  have hregistry : (w.onGround g hosts).registry = w.registry := rfl
  unfold dispatch
  rw [hregistry]
  split <;> rfl

theorem announce_onGround (e : Event) (F : List Frame) (plugins : List String) (soFar : Summary) :
    announce (w.onGround g hosts) e F plugins soFar
      = (announce w e F plugins soFar).onGround g hosts := by
  have hregistry : (w.onGround g hosts).registry = w.registry := rfl
  have hresolve : ∀ plugin, (w.onGround g hosts).resolveEvent plugin e.name
      = w.resolveEvent plugin e.name := fun _ => rfl
  induction plugins generalizing soFar with
  | nil => rfl
  | cons plugin rest ih =>
    simp only [announce, hregistry, hresolve]
    split
    · exact ih _
    · cases w.resolveEvent plugin e.name with
      | error e => exact ih _
      | ok t => exact dispatch_onGround ..

theorem endDispatch_onGround (plugin : String) (purpose : Purpose)
    (r : Except Raised (List Value)) (F : List Frame) :
    endDispatch (w.onGround g hosts) plugin purpose r F
      = (endDispatch w plugin purpose r F).onGround g hosts := by
  cases r with
  | ok vs =>
    cases purpose with
    | command | function => rfl
    | delivery event rest soFar =>
      exact announce_onGround (w := w.modifyRegistry (·.leave plugin)) ..
  | error e =>
    cases purpose with
    | command | function => rfl
    | delivery event rest soFar =>
      exact announce_onGround
        (w := (w.modifyRegistry (·.blame plugin e.message)).modifyRegistry (·.leave plugin)) ..

theorem callCode_onGround (id : SandboxId) (p : Program (List Value)) (waiting : List Frame)
    (next : Except Raised (List Value) → Program (List Value)) (F : List Frame) :
    callCode (w.onGround g hosts) id p waiting next F
      = (callCode w id p waiting next F).onGround g hosts := by
  have hsandbox : (w.onGround g hosts).sandbox id = w.sandbox id := rfl
  unfold callCode
  rw [hsandbox]
  dsimp only
  split <;> rfl

/-- Code that asks quietly. -/
theorem ask_onGround {id : SandboxId} {q : Request} (hq : (w.sandbox id).asksQuietly q = true)
    (next : Except Raised (List Value) → Program (List Value)) (F : List Frame) :
    ask (w.onGround g hosts) id q next F = (ask w id q next F).onGround g hosts := by
  have hsandbox : (w.onGround g hosts).sandbox id = w.sandbox id := rfl
  unfold ask
  rw [World.serve_onGround hq]
  cases w.serve id q with
  | some served => rfl
  | none =>
    dsimp only [Option.map]
    split
    · exact callCode_onGround ..
    · rename_i name args
      have hname : name ≠ "dofile" := by simpa using (show (name != "dofile") = true from hq)
      unfold callLibrary
      split
      · exact callCode_onGround ..
      · rw [if_neg hname, if_neg hname]
        rfl
    · rw [hsandbox]
      split <;> rfl
    · cases hq
    · cases hq
    · rfl

theorem load_onGround {root : Path}
    (h : PluginFolder.Alike w.registry.configs w.files g root) (F : List Frame) :
    load (w.onGround g hosts) root F = (load w root F).onGround g hosts := by
  unfold load
  rw [World.prepareLoad_onGround h]
  obtain ⟨w', loaded⟩ := w.prepareLoad root
  cases loaded <;> rfl

theorem scan_onGround (F : List Frame) (roots : List Path) (loaded : List String) :
    scan (w.onGround g hosts) F roots loaded = (scan w F roots loaded).onGround g hosts := by
  cases roots <;> rfl

/-- An operation of a run, when the folders look the same. -/
theorem start_onGround {closing : Bool} {dir : Path} {op : Operation} {F : List Frame}
    (hop : op.Proceeds closing dir (PluginFolder.Alike w.registry.configs w.files g) w F)
    (hroots : World.pluginRoots g dir = World.pluginRoots w.files dir) :
    start (w.onGround g hosts) op F = (start w op F).onGround g hosts := by
  have hregistry : (w.onGround g hosts).registry = w.registry := rfl
  cases hop with
  | load h => exact load_onGround h F
  | call plugin function args =>
    have hresolve : (w.onGround g hosts).resolveFunction plugin function
        = w.resolveFunction plugin function := rfl
    simp only [start, hresolve]
    split
    · rfl
    · exact dispatch_onGround ..
  | scan =>
    have hfiles : (w.onGround g hosts).files = g := rfl
    simp only [start, hregistry, hfiles, hroots]
    split
    · rfl
    · exact scan_onGround ..
  | execute id =>
    have hresolve : (w.onGround g hosts).resolveCommand id = w.resolveCommand id := rfl
    simp only [start, hresolve]
    split
    · rfl
    · exact dispatch_onGround ..
  | notify name filename =>
    simp only [start, hregistry]
    split
    · rfl
    · exact announce_onGround ..
  | finalize =>
    simp only [start, hregistry]
    split
    · rfl
    · split
      · rfl
      · exact announce_onGround ..

theorem deliverResults_onGround (r : Except Raised (List Value)) (F : List Frame) :
    deliverResults (w.onGround g hosts) r F = (deliverResults w r F).onGround g hosts := by
  cases F with
  | nil => rfl
  | cons f F =>
    cases f with
    | module id name => cases r <;> rfl
    | entry p => cases r <;> rfl
    | dispatch plugin purpose => exact endDispatch_onGround ..
    | _ => rfl

theorem deliverAnswer_onGround (a : Answer) {F : List Frame}
    (hshutdown : ∀ G, F ≠ .finalization :: G) :
    deliverAnswer (w.onGround g hosts) a F = (deliverAnswer w a F).onGround g hosts := by
  cases F with
  | nil => rfl
  | cons f F =>
    cases f with
    | finalization => exact absurd rfl (hshutdown F)
    | scan rest loaded =>
      simp only [deliverAnswer]
      split
      · exact scan_onGround ..
      · exact scan_onGround ..
    | _ => rfl

/-! ## Steps -/

/-- **A step of a quiet run does not depend on files and hosts**, where the folders that are loaded
look the same. -/
theorem step_onGround {m : Machine} {closing : Bool} {dir : Path} (hquiet : m.isQuiet = true)
    (hclears : m.clears = false)
    (hproceeds : m.Proceeds closing dir
      (PluginFolder.Alike m.world.registry.configs m.world.files g))
    (hroots : World.pluginRoots g dir = World.pluginRoots m.world.files dir)
    (hosts : Array Host) :
    (m.onGround g hosts).step = m.step.onGround g hosts := by
  obtain ⟨w, focus, F⟩ := m
  cases focus with
  | running id p =>
    cases p with
    | done | raise => rfl
    | ask q next => exact ask_onGround hquiet next F
  | ended r => exact deliverResults_onGround r F
  | starting op => exact start_onGround (hproceeds.op op rfl) hroots
  | answered a =>
    refine deliverAnswer_onGround a ?_
    rintro G rfl
    cases hclears

/-- **A step of a quiet run leaves files and hosts as they are.** -/
theorem keepsStores_of_isQuiet {m : Machine} {closing : Bool} {dir : Path} {kind : Path → Prop}
    (hquiet : m.isQuiet = true) (hclears : m.clears = false)
    (hproceeds : m.Proceeds closing dir kind) :
    m.world.KeepsStores m.step.world := by
  have hacted : m.world.KeepsStores m.acted := by
    obtain ⟨w, focus, F⟩ := m
    cases focus with
    | running id p =>
      cases p with
      | done | raise => exact .refl w
      | ask q next =>
        show w.KeepsStores (w.afterAction id ((w.sandbox id).requested? q))
        cases ha : (w.sandbox id).requested? q with
        | none => exact .refl w
        | some a =>
          exact World.run_keepsStores w id (Action.changesStores_of_isQuiet
            (Sandbox.isQuiet_of_asksQuietly hquiet ha))
    | _ => exact .refl w
  exact hacted.trans (step_keepsStores hclears fun op hop => (hproceeds.op op hop).keepsStores)

/-- While quiet code runs nobody else acts. -/
theorem hostActs_of_isQuiet {m : Machine} (hquiet : m.isQuiet = true) : m.hostActs = false := by
  unfold hostActs
  split
  · rename_i hfocus
    unfold isQuiet at hquiet
    rw [hfocus] at hquiet
    cases hquiet
  · rfl

/-- Quiet code saves no configuration. -/
theorem savedTable?_of_isQuiet {m : Machine} (hquiet : m.isQuiet = true) (id : SandboxId) :
    m.savedTable? id = none := by
  have hsaves : ∀ {s : Sandbox} {q : Request}, s.asksQuietly q = true → s.savedBy? q = none := by
    intro s q hq
    cases hsaved : s.savedBy? q with
    | none => rfl
    | some t =>
      unfold Sandbox.savedBy? at hsaved
      split at hsaved
      · rename_i args
        have haction : s.requested? (.call (.function (.capability .pluginSaveConfig)) args)
            = some (.saveConfig t.toDict) := by
          show (World.requestedAction s .pluginSaveConfig args).toOption = _
          rw [World.requestedAction_of_savedTable? hsaved]
          rfl
        cases Sandbox.isQuiet_of_asksQuietly hq haction
      · cases hsaved
  unfold isQuiet at hquiet
  unfold savedTable?
  split
  · rename_i j q next hfocus
    rw [hfocus] at hquiet
    split
    · rename_i hj
      subst hj
      exact hsaves hquiet
    · rfl
  · rfl

end Machine

end EditorPlugins
