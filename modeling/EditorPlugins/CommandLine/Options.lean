/-
  The options of the command line.

  An option is written with two hyphens and its name, or with one hyphen and its letter.  A value
  follows as the next argument, after `=`, or directly after the letter; letters of options
  without a value may stand in front of it behind the same hyphen.  An argument that itself looks
  like an option is no value.  Nothing but options is accepted.
-/
import EditorPlugins.Configuration

namespace EditorPlugins

/-- What the command line asks for. -/
structure Options where
  plugins : Option Path := none
  configDir : Option Path := none
  hostVersion : Option String := none
  /-- The commands to run, in order. -/
  commands : List String := []
  /-- The events to announce, in order. -/
  events : List String := []
  yes : Bool := false
  json : Bool := false
deriving DecidableEq, Repr, Inhabited

/-- What the arguments of a program come to. -/
inductive Invocation where
  | run (o : Options)
  | help
deriving DecidableEq, Repr

/-- The options that take a value. -/
inductive ValueOption where
  | plugins
  | configDir
  | hostVersion
  | command
  | event
deriving DecidableEq, Repr

/-- The options that take none. -/
inductive Switch where
  | yes
  | json
  | help
deriving DecidableEq, Repr

/-- What is wrong with the arguments of a program. -/
inductive UsageFault where
  | unknown (arg : String)
  | unexpected (arg : String)
  | missingValue (arg : String)
  | emptyValue (arg : String)
  | unneededValue (arg : String)
  | repeated (arg : String)
deriving DecidableEq, Repr

def UsageFault.message : UsageFault → String
  | unknown arg | unexpected arg => "error: unexpected argument '" ++ arg ++ "' found"
  | missingValue arg | emptyValue arg =>
    "error: a value is required for '" ++ arg ++ "' but none was supplied"
  | unneededValue arg => "error: unexpected value for '" ++ arg ++ "' found; no more were expected"
  | repeated arg => "error: the argument '" ++ arg ++ "' cannot be used multiple times"

namespace Options

/-! ## Names -/

/-- The option of a name. -/
def ofName? (name : String) : Option (ValueOption ⊕ Switch) :=
  match name with
  | "plugins" => some (.inl .plugins)
  | "config-dir" => some (.inl .configDir)
  | "host-version" => some (.inl .hostVersion)
  | "command" => some (.inl .command)
  | "event" => some (.inl .event)
  | "yes" => some (.inr .yes)
  | "json" => some (.inr .json)
  | "help" => some (.inr .help)
  | _ => none

/-- The option of a letter. -/
def ofLetter? (c : Char) : Option (ValueOption ⊕ Switch) :=
  match c with
  | 'p' => some (.inl .plugins)
  | 'c' => some (.inl .command)
  | 'e' => some (.inl .event)
  | 'y' => some (.inr .yes)
  | 'h' => some (.inr .help)
  | _ => none

/-- How to call the program, line by line. -/
def helpLines : List String :=
  ["Run editor plugins without the editor",
    "",
    "Usage: nnp-plugin-host [OPTIONS]",
    "",
    "Options:",
    "  -p, --plugins <PLUGINS>            Directory holding one sub-directory per plugin",
    "      --config-dir <CONFIG_DIR>      Directory for plugin config files and host settings",
    "      --host-version <HOST_VERSION>  Host version checked against plugin version ranges",
    "  -c, --command <COMMANDS>           Command to run, as <plugin>.<command> (repeatable)",
    "  -e, --event <EVENTS>               Event to broadcast, as <name>[:<file>] (repeatable)",
    "  -y, --yes                          Answer every confirmation prompt with yes",
    "      --json                         Print the report as JSON",
    "  -h, --help                         Print help"]

/-- How to call the program. -/
def help : String := String.join (helpLines.map (· ++ "\n"))

/-! ## One option -/

/-- A directory that is given at most once and has a name. -/
def putPath (old : Option Path) (arg value : String) : Except UsageFault (Option Path) :=
  if old.isSome then .error (.repeated arg)
  else if value.isEmpty then .error (.emptyValue arg)
  else .ok (some ⟨value⟩)

/-- Take in a value; `arg` is what the option was written as. -/
def put (o : Options) (v : ValueOption) (arg value : String) : Except UsageFault Options :=
  match v with
  | .plugins => (putPath o.plugins arg value).map fun p => { o with plugins := p }
  | .configDir => (putPath o.configDir arg value).map fun p => { o with configDir := p }
  | .hostVersion =>
    if o.hostVersion.isSome then .error (.repeated arg)
    else .ok { o with hostVersion := some value }
  | .command => .ok { o with commands := o.commands ++ [value] }
  | .event => .ok { o with events := o.events ++ [value] }

/-- What one argument leads to. -/
inductive Reading where
  | done (o : Options)
  | help
  /-- The next argument is the value of an option. -/
  | awaits (v : ValueOption) (arg : String) (o : Options)

/-- Turn on an option without a value. -/
def turnOn (o : Options) (s : Switch) (arg : String) : Except UsageFault Reading :=
  match s with
  | .help => .ok .help
  | .yes => if o.yes then .error (.repeated arg) else .ok (.done { o with yes := true })
  | .json => if o.json then .error (.repeated arg) else .ok (.done { o with json := true })

/-- An option written by its name, with or without a value after `=`. -/
def readName (o : Options) (arg name : String) (value : Option String) :
    Except UsageFault Reading :=
  match ofName? name, value with
  | none, _ => .error (.unknown arg)
  | some (.inl v), some value => (o.put v arg value).map .done
  | some (.inl v), none => .ok (.awaits v arg o)
  | some (.inr _), some _ => .error (.unneededValue arg)
  | some (.inr s), none => o.turnOn s arg

/-- The letters behind one hyphen. -/
def readLetters (arg : String) : List Char → Options → Except UsageFault Reading
  | [], o => .ok (.done o)
  | c :: rest, o =>
    match ofLetter? c with
    | none => .error (.unknown arg)
    | some (.inl v) =>
      match rest with
      | [] => .ok (.awaits v arg o)
      | '=' :: value => (o.put v arg (String.ofList value)).map .done
      | value => (o.put v arg (String.ofList value)).map .done
    | some (.inr s) => do
      match ← o.turnOn s arg with
      | .done o => readLetters arg rest o
      | reading => .ok reading

/-- Whether an argument looks like an option; a single hyphen does not. -/
def isOption (arg : String) : Bool :=
  match arg.toList with
  | '-' :: _ :: _ => true
  | _ => false

/-- Read one argument. -/
def readArgument (o : Options) (arg : String) : Except UsageFault Reading :=
  match arg.toList with
  | '-' :: '-' :: name =>
    match Text.cutChars '=' name with
    | some (name, value) => o.readName arg (String.ofList name) (some (String.ofList value))
    | none => o.readName arg (String.ofList name) none
  | '-' :: c :: letters => readLetters arg (c :: letters) o
  | _ => .error (.unexpected arg)

/-! ## All arguments -/

/-- Read arguments from the left, possibly with an option that awaits its value; after `--`
nothing may follow. -/
def readAll : List String → Option (ValueOption × String) → Options →
    Except UsageFault Invocation
  | [], none, o => .ok (.run o)
  | [], some (_, arg), _ => .error (.missingValue arg)
  | value :: rest, some (v, arg), o =>
    if isOption value then .error (.missingValue arg)
    else do readAll rest none (← o.put v arg value)
  | arg :: rest, none, o =>
    if arg = "--" then
      match rest with
      | [] => .ok (.run o)
      | extra :: _ => .error (.unexpected extra)
    else do
      match ← o.readArgument arg with
      | .help => .ok .help
      | .done o => readAll rest none o
      | .awaits v arg o => readAll rest (some (v, arg)) o

/-- What the arguments of a program come to. -/
def read (args : List String) : Except UsageFault Invocation := readAll args none {}

/-! ## The host -/

/-- The set-up of the host when options speak before it.  The configuration directory is a
setting of its own: it does not follow a plugin directory that an option names. -/
def configure (o : Options) (c : HostConfig) : HostConfig :=
  { c with
    pluginDir := o.plugins.getD c.pluginDir
    configDir := o.configDir.getD c.configDir
    hostVersion := o.hostVersion.getD c.hostVersion }

example : (read ["-yp=a", "--command", "x.y", "-cz", "--event=ready"]).toOption =
    some (.run
      { plugins := some ⟨"a"⟩, commands := ["x.y", "z"], events := ["ready"], yes := true }) := by
  decide
example : (read ["-p", "-y"]).toOption = none := by decide
example : (read ["-y", "--yes"]).toOption = none := by decide

end Options

end EditorPlugins
