/-
  What the registry does in one step, without running any code: preparing and completing a load,
  unloading, looking up handlers, listing.
-/
import EditorPlugins.World.Basic
import EditorPlugins.CommandId
import EditorPlugins.Compatibility

namespace EditorPlugins

open Script (Function)

/-- A load whose entry script has still to run. -/
structure PendingLoad where
  manifest : Manifest
  root : Path
  sandbox : SandboxId
deriving Inhabited

namespace World

/-! ## Initialization -/

/-- Attach new collaborators. -/
def attach (w : World) : World × Answer :=
  if w.registry.isInitialized then (w, .error .alreadyInitialized)
  else
    let id := w.hosts.size
    ({ w with hosts := w.hosts.push (w.profile.attach w.files) }.modifyRegistry
      (fun r => { r with host := some id }), .ok .nothing)

/-! ## Loading -/

def recordFailure (w : World) (key : String) (root : Path) (e : Failure) : World :=
  w.modifyRegistry (·.recordFailure key root e)

/-- Refuse a plugin whose name is taken or that does not accept the host. -/
def checkAdmission (w : World) (m : Manifest) : Except Failure Unit :=
  if w.registry.plugins.contains m.name then .error (.alreadyLoaded m.name)
  else
    match m.compatibleVersions with
    | some range =>
      let host := w.registry.config.hostVersion
      if Compatibility.admits range host then .ok () else .error (.incompatible range host)
    | none => .ok ()

/-- The statements of a script file. -/
def readScript (f : Files) (p : Path) : Except ScriptFault Script.Block :=
  match f.readText p with
  | .error e => .error (.unreadable p e)
  | .ok text =>
    match Script.parse? text with
    | some b => .ok b
    | none => .error (.syntaxError p)

/-- The statements of a module's file, which may have a heading. -/
def readModule (f : Files) (p : Path) : Except ScriptFault Script.Block :=
  match f.read p with
  | .error e => .error (.unreadable p e)
  | .ok b =>
    match Script.parse? (Script.sourceText b) with
    | some b => .ok b
    | none => .error (.syntaxError p)

def identityOf (m : Manifest) (root : Path) : Identity :=
  ⟨m.name, m.version, m.description, m.author, root⟩

/-- The sandbox of a plugin and its entry script, when nothing stands against them. -/
def plan (w : World) (host : HostId) (p : PluginFolder) :
    Except Failure (Sandbox × Script.Block) := do
  w.checkAdmission p.manifest
  let config := w.registry.configs.load w.files p.manifest.name
  if !Sandbox.fits w.registry.config.sandbox then
    .error (.sandboxRefused Script.Raised.outOfMemory.message)
  else
    match readScript w.files p.entry with
    | .error e => .error (.scriptUnloadable e)
    | .ok block =>
      .ok (Sandbox.equipped (identityOf p.manifest p.root) host w.registry.config.sandbox config,
        block)

/-- Everything of a load that comes before its entry script.  A failure is recorded under the
plugin's name, or under its folder when the name is not known yet. -/
def prepareLoad (w : World) (root : Path) :
    World × Except Failure (PendingLoad × Script.Block) :=
  match w.registry.host with
  | none => (w, .error .notInitialized)
  | some host =>
    match PluginFolder.readManifest w.files root with
    | .error e => (w.recordFailure (PluginFolder.key root) root e, .error e)
    | .ok m =>
      match (PluginFolder.withManifest w.files root m).bind (w.plan host) with
      | .error e => (w.recordFailure m.name root e, .error e)
      | .ok (s, block) =>
        let (w, id) := w.addSandbox s
        (w, .ok (⟨m, root, id⟩, block))

/-- Everything of a load that comes after its entry script. -/
def completeLoad (w : World) (p : PendingLoad) (r : Except Script.Raised α) : World × Answer :=
  match r with
  | .ok _ =>
    let record : Record := ⟨p.sandbox, true, none, p.manifest⟩
    (w.modifyRegistry fun reg => (reg.add p.manifest.name record).forgetFailures p.root,
      .ok (.text p.manifest.name))
  | .error e =>
    let e := Failure.scriptRaised e.message
    (w.recordFailure p.manifest.name p.root e, .error e)

/-- The folders directly below a directory, in increasing order. -/
def pluginRoots (f : Files) (dir : Path) : List Path :=
  match f.list dir with
  | .ok names => (names.map (fun n => dir / n)).filter f.isDirectory
  | .error _ => []

/-! ## Unloading -/

/-- Take a plugin away and write its configuration.  That the writing fails does not matter. -/
def unload (w : World) (name : String) : World × Except Failure Unit :=
  if w.registry.active.contains name then (w, .error (.pluginBusy name))
  else
    match w.registry.plugins.get? name with
    | none => (w, .error (.pluginNotFound name))
    | some record =>
      let config := (w.sandbox record.sandbox).config
      let (files, _) := w.registry.configs.save w.files name config
      ({ w with files := files }.modifyRegistry (·.drop name), .ok ())

/-- Unload every plugin and detach the collaborators. -/
def completeFinalize (w : World) : World :=
  let w := w.registry.loadOrder.foldl (fun w name => (w.unload name).1) w
  w.modifyRegistry Registry.cleared

/-! ## Handlers -/

/-- A function to run, with the sandbox it belongs to. -/
structure Target where
  sandbox : SandboxId
  function : Function

/-- Find a function in a loaded, enabled plugin. -/
def resolve (w : World) (plugin : String) (find : Sandbox → Option Function) (missing : Failure) :
    Except Failure Target :=
  match w.registry.plugins.get? plugin with
  | none => .error (.pluginNotFound plugin)
  | some record =>
    if !record.enabled then .error (.pluginDisabled plugin)
    else
      match find (w.sandbox record.sandbox) with
      | some f => .ok ⟨record.sandbox, f⟩
      | none => .error missing

/-- The handler of a qualified command id, with its plugin. -/
def resolveCommand (w : World) (id : String) : Except Failure (String × Target) :=
  match CommandId.split? id with
  | none => .error (.invalidCommandId id)
  | some (plugin, command) =>
    (w.resolve plugin (fun s => (s.commands.get? command).map CommandHandler.function)
      (.commandNotFound id)).map (fun t => (plugin, t))

/-- A global function of a plugin. -/
def resolveFunction (w : World) (plugin function : String) : Except Failure Target :=
  w.resolve plugin (fun s => s.globalFunction? function)
    (.functionNotFound (plugin ++ "." ++ function))

/-- The handler of an event in a plugin. -/
def resolveEvent (w : World) (plugin event : String) : Except Failure Target :=
  w.resolve plugin (fun s => s.events.get? event) (.functionNotFound event)

/-! ## Asking -/

/-- The commands of one plugin: the declared ones in the order of the manifest, then those that
are only registered. -/
def commandsOf (name : String) (m : Manifest) (s : Sandbox) : List CommandInfo :=
  let declared := m.commands.map fun c =>
    let handler := s.commands.get? c.id
    (⟨CommandId.qualify name c.id, name, (handler.map CommandHandler.title).getD c.title, true,
      handler.isSome⟩ : CommandInfo)
  let others := s.commands.entries.filter (fun e => !m.commands.any (fun c => c.id == e.1))
  declared ++ others.map fun e => ⟨CommandId.qualify name e.1, name, e.2.title, false, true⟩

/-- The commands of all plugins in load order. -/
def commands (w : World) : List CommandInfo :=
  w.registry.loadOrder.flatMap fun name =>
    match w.registry.plugins.get? name with
    | some record => commandsOf name record.manifest (w.sandbox record.sandbox)
    | none => []

def info (w : World) (name : String) : Option PluginInfo :=
  (w.registry.plugins.get? name).map fun record =>
    let s := w.sandbox record.sandbox
    ⟨s.identity, record.enabled, record.lastError, record.sandbox, s.config, s.commands.keys,
      s.events.keys, record.manifest⟩

/-- Enable or disable a plugin. -/
def enable (w : World) (name : String) (on : Bool) : World × Answer :=
  if w.registry.plugins.contains name then
    (w.modifyRegistry fun r =>
      { r with plugins := r.plugins.modify name (fun rec => { rec with enabled := on }) },
      .ok .nothing)
  else (w, .error (.pluginNotFound name))

/-- A list of quoted names between brackets. -/
def quotedList (l : List String) : String := "[" ++ ", ".intercalate (l.map Text.quoted) ++ "]"

/-- One line about the registry. -/
def describe (r : Registry) : String :=
  "PluginRegistry \x7b initialized: " ++ (if r.isInitialized then "true" else "false")
    ++ ", loaded: " ++ quotedList r.loadOrder ++ ", failed: " ++ toString r.failed.size
    ++ ", .. \x7d"

end World

end EditorPlugins
