/-
  A run of the program: set up a host, load the plugins of a directory, announce `ready`, run
  commands, announce events, report, shut down.

  A run starts from files and environment variables and leaves files; how the operations of a
  registry are carried out is the machine's matter.  The only bound is the number of steps that
  each operation is granted.
-/
import EditorPlugins.CommandLine.EnvFile
import EditorPlugins.CommandLine.Options
import EditorPlugins.CommandLine.Report
import EditorPlugins.Machine.Step

namespace EditorPlugins

/-! ## Outcomes -/

/-- Why a run ends before its report. -/
inductive RunFault where
  | unknownEvent (name : String)
  /-- The plugin directory could not be gone through. -/
  | scan (dir : Path)
  | registry (e : Failure)
deriving DecidableEq

def RunFault.message : RunFault → String
  | unknownEvent name => "unknown event '" ++ name ++ "'"
  | scan dir => "failed to scan " ++ dir.text
  | registry e => e.message

/-- What a run of the program comes to. -/
inductive Outcome where
  /-- The environment could not be set up. -/
  | aborted
  | help
  | misused (f : UsageFault)
  | failed (f : RunFault)
  /-- A report, behind what the plugins printed. -/
  | reported (asJson : Bool) (printed : List String) (r : Report)

namespace Report

/-- The number of commands that failed. -/
def failures (r : Report) : Nat := (r.runs.filter (fun c => c.error.isSome)).length

end Report

namespace Outcome

def exitCode : Outcome → Nat
  | aborted => 101
  | help => 0
  | misused _ => 2
  | failed _ => 1
  | reported _ _ r => if r.failures = 0 then 0 else 1

/-- What is printed. -/
def output : Outcome → String
  | help => Options.help
  | aborted | misused _ | failed _ => ""
  | reported asJson printed r =>
    String.join (printed.map (· ++ "\n"))
      ++ (if asJson then r.toJson.pretty ++ "\n" else r.toText)

/-- What is complained about, if anything. -/
def complaint? : Outcome → Option String
  | aborted | help => none
  | misused f => some f.message
  | failed f => some ("Error: " ++ f.message)
  | reported _ _ r =>
    if r.failures = 0 then none
    else some ("Error: " ++ toString r.failures ++ " command(s) failed")

end Outcome

namespace CommandLine

/-! ## Events -/

/-- The event that an argument names, the file behind the first colon. -/
def parseEvent (arg : String) : Except RunFault Event :=
  let (name, file) := match Text.cut ':' arg with
    | some (name, file) => (name, some file)
    | none => (arg, none)
  match Event.ofName? name file with
  | some e => .ok e
  | none => .error (.unknownEvent name)

/-! ## The host -/

/-- The set-up of the host: options before variables, variables before defaults. -/
def hostConfig (env : Environment) (o : Options) : HostConfig := o.configure env.hostConfig

/-- The collaborators: nobody is there to answer, and the settings lie in the configuration
directory. -/
def hostProfile (c : HostConfig) (o : Options) : HostProfile where
  prompting := .defaults o.yes
  settingsFile := some (c.configDir / "settings.json")

/-- A registry with its collaborators, and nothing loaded. -/
def prepare (f : Files) (env : Environment) (o : Options) : World :=
  let c := hostConfig env o
  (World.start f (hostProfile c o) c false).attach.1

/-! ## The report -/

/-- The operation that announces an event. -/
def announcement (e : Event) : Operation := .notify e.name e.filename?

def commandRun (id : String) (a : Answer) : CommandRun :=
  ⟨id, match a with
    | .ok _ => none
    | .error e => some e.message⟩

def eventRun (e : Event) (a : Answer) : EventRun :=
  ⟨e.name, match a with
    | .ok (.summary (some s)) => s
    | _ => {}⟩

/-- The report on a world, after commands and events with these outcomes. -/
def report (w : World) (runs : List CommandRun) (events : List EventRun) : Report where
  loaded := w.registry.loadOrder.filterMap w.info
  failed := w.registry.failed.map (fun f => f.reason.message)
  commands := w.commands
  runs := runs
  events := events

/-- The lines that plugins printed in a world. -/
def printed (w : World) : List String :=
  w.trace.reverse.filterMap fun
    | .printed line => some line
    | _ => none

/-! ## Runs -/

/-- Load, announce, run and report; the world before the shutdown. -/
def session? (steps : Nat) (f : Files) (env : Environment) (o : Options) (events : List Event) :
    Option (World × Except RunFault Report) := do
  let dir := (hostConfig env o).pluginDir
  let (w, scanned) ← (prepare f env o).perform? steps (.loadDirectory dir)
  match scanned with
  | .error _ => some (w, .error (.scan dir))
  | .ok _ =>
    let (w, ready) ← w.perform? steps (announcement .ready)
    let (w, ran) ← w.performAll? steps (o.commands.map .execute)
    let (w, announced) ← w.performAll? steps (events.map announcement)
    some (w, .ok (report w (o.commands.zipWith commandRun ran)
      (eventRun .ready ready :: events.zipWith eventRun announced)))

/-- A run with the options and events of its arguments. -/
def runSession? (steps : Nat) (f : Files) (env : Environment) (o : Options)
    (events : List Event) : Option (World × Outcome) := do
  let (w, reported) ← session? steps f env o events
  match reported with
  | .error e => some (w, .failed e)
  | .ok r =>
    let (w, closed) ← w.perform? steps .finalize
    match closed with
    | .error e => some (w, .failed (.registry e))
    | .ok _ => some (w, .reported o.json (printed w) r)

/-- A run of the program in the current directory, with its variables: what it comes to and the
files it leaves.  It has no result when an operation does not end within so many steps. -/
def runWith? (steps : Nat) (f : Files) (env : Environment) (args : List String) :
    Option (Outcome × Files) :=
  match Options.read args with
  | .error e => some (.misused e, f)
  | .ok .help => some (.help, f)
  | .ok (.run o) =>
    match o.events.mapM parseEvent with
    | .error e => some (.failed e, f)
    | .ok events => (runSession? steps f env o events).map (fun p => (p.2, p.1.files))

/-- A run of the program in the current directory.  The file of variables is read before
anything else. -/
def run? (steps : Nat) (f : Files) (env : Environment) (args : List String) :
    Option (Outcome × Files) :=
  match EnvFile.load? f env with
  | none => some (.aborted, f)
  | some env => runWith? steps f env args

end CommandLine

end EditorPlugins
