/-
  Carrying out what a capability is asked to do.

  An action sees the sandbox it was called in and the world; it gives results and cannot raise.
  Calls of other plugins are not carried out here: they go through the registry.
-/
import EditorPlugins.Capability.Check
import EditorPlugins.World.Basic

namespace EditorPlugins

/-! ## Log messages -/

/-- The most characters of a log message. -/
def maxLogLength : Nat := 2048

/-- A log message without control characters other than line ends and tabs, cut to the most
characters; a message that was longer, the dropped characters counted, is marked. -/
def sanitizeLog (s : String) : String :=
  let kept := (s.toList.filter
    (fun c => !Text.isControl c || c = '\n' || c = '\t')).take maxLogLength
  let cut := String.ofList kept
  if s.toList.length > maxLogLength then cut ++ "… (truncated)" else cut

/-! ## Settings -/

/-- The key in the host's settings for a plugin's key. -/
def Sandbox.settingsKey (s : Sandbox) (key : String) : String :=
  match s.scope with
  | .shared => key
  | .perPlugin => s.identity.name ++ "." ++ key

namespace World

/-- The settings of a host. -/
def settingsOf (w : World) (id : HostId) : Dict String :=
  match (w.host id).settings with
  | .memory => w.settings
  | .file s => s.values

/-- Store a setting; whether that succeeded. -/
def setSetting (w : World) (id : HostId) (key value : String) : World × Bool :=
  match (w.host id).settings with
  | .memory => ({ w with settings := w.settings.insert key value }, true)
  | .file s =>
    let (s, files, ok) := s.set w.files key value
    (({ w with files := files }).modifyHost id (fun h => { h with settings := .file s }), ok)

/-- Forget a setting; whether there was one and that succeeded. -/
def removeSetting (w : World) (id : HostId) (key : String) : World × Bool :=
  match (w.host id).settings with
  | .memory => ({ w with settings := w.settings.erase key }, w.settings.contains key)
  | .file s =>
    let (s, files, ok) := s.remove w.files key
    (({ w with files := files }).modifyHost id (fun h => { h with settings := .file s }), ok)

end World

/-! ## Paths -/

/-- A path as a plugin means it: relative ones are taken from its root. -/
def Sandbox.resolve (s : Sandbox) (path : String) : Path := s.identity.root / path

/-- The directory of a path: that of the place it leads to, or else that of its spelling. -/
def directoryOf (f : Files) (resolved : Path) (path : String) : String :=
  match (f.canonical resolved).toOption.bind Path.parent? with
  | some parent => parent.text
  | none => (((Path.mk path).parent?).map Path.text).getD ""

/-! ## Actions -/

namespace Action

/-- Change the files; whether that succeeded. -/
def changeFiles (w : World) (r : Except FileFault Files) : World × List HostValue :=
  match r with
  | .ok f => ({ w with files := f }, [.boolean true])
  | .error _ => (w, [.boolean false])

/-- The fields that tell a script who it is. -/
def describe (i : Identity) : HostValue :=
  .table [] [("author", .text i.author), ("description", .text i.description),
    ("name", .text i.name), ("rootPath", .text i.root.text), ("version", .text i.version)]

/-- Carry out an action for a sandbox: the world afterwards and the results. -/
def run (w : World) (id : SandboxId) (a : Action) : World × List HostValue :=
  let s := w.sandbox id
  let host := w.host s.host
  match a with
  | describePlugin => (w, [describe s.identity])
  | getConfig => (w, [(HostTable.ofDict s.config).toValue])
  | saveConfig config =>
    (w.modifySandbox id (fun s => { s with config := config }), [.boolean true])
  | getRootPath => (w, [.text s.identity.root.text])
  | registerCommand command title f =>
    (w.modifySandbox id (fun s => s.registerCommand command title f), [])
  | registerEvent name f => (w.modifySandbox id (fun s => s.registerEvent name f), [])
  | callPlugin _ _ _ => (w, [.text ""])
  | log isError text => (w.observe (.logged isError s.identity.name (sanitizeLog text)), [])
  | message title text => (w.observe (.message title text), [])
  | confirm title text =>
    (w.observe (.confirm title text), [.boolean host.prompting.confirm])
  | input label default =>
    (w.observe (.input label default), [.ofText? (host.prompting.input default)])
  | select items index =>
    (w.observe (.select items index), [.ofText? (host.prompting.select items index)])
  | getClipboard => (w, [.text host.clipboard])
  | setClipboard text =>
    let (clipboard, ok) := host.prompting.setClipboard host.clipboard text
    ((w.observe (.setClipboard text)).modifyHost s.host
      (fun h => { h with clipboard := clipboard }), [.boolean ok])
  | read path =>
    (w, [match w.files.read (s.resolve path) with
      | .ok b => .ofBytes b
      | .error _ => .absent])
  | write path bytes => changeFiles w (w.files.write (s.resolve path) bytes)
  | append path bytes => changeFiles w (w.files.append (s.resolve path) bytes)
  | «exists» path => (w, [.boolean (w.files.exists? (s.resolve path))])
  | isFile path => (w, [.boolean (w.files.isFile (s.resolve path))])
  | isDirectory path => (w, [.boolean (w.files.isDirectory (s.resolve path))])
  | makeDirectory path =>
    let (f, e) := w.files.makeDirectories (s.resolve path)
    ({ w with files := f }, [.boolean e.isNone])
  | list path =>
    (w, [match w.files.list (s.resolve path) with
      | .ok names => (HostTable.ofTexts names).toValue
      | .error _ => .absent])
  | realPath path =>
    (w, [.text (match w.files.canonical (s.resolve path) with
      | .ok p => p.text
      | .error _ => "")])
  | baseName path => (w, [.text ((Path.mk path).fileName?.getD "")])
  | dirName path => (w, [.text (directoryOf w.files (s.resolve path) path)])
  | joinPaths parts => (w, [.text ("/".intercalate parts)])
  | getSetting key => (w, [.ofText? ((w.settingsOf s.host).get? (s.settingsKey key))])
  | setSetting key value =>
    let (w, ok) := w.setSetting s.host (s.settingsKey key) value
    (w, [.boolean ok])
  | hasSetting key =>
    (w, [.boolean ((w.settingsOf s.host).contains (s.settingsKey key))])
  | removeSetting key =>
    let (w, ok) := w.removeSetting s.host (s.settingsKey key)
    (w, [.boolean ok])
  | currentFile =>
    (w, [.ofText? ((host.editor.bind Editor.file).map Path.text)])
  | openFile path =>
    match host.editor with
    | none => (w, [.boolean false])
    | some _ =>
      ((w.observe (.opened path)).modifyHost s.host
        (fun h => { h with editor := h.editor.map (fun e => { e with file := some path }) }),
        [.boolean true])
  | saveFile =>
    match host.editor with
    | none => (w, [.boolean false])
    | some e =>
      ((w.observe (.saved (e.saves + 1))).modifyHost s.host
        (fun h => { h with editor := some { e with saves := e.saves + 1 } }),
        [.boolean e.file.isSome])
  | closeFile path =>
    match host.editor with
    | none => (w, [.boolean false])
    | some e =>
      let (e, ok) := e.close path
      ((w.observe (.closed path)).modifyHost s.host (fun h => { h with editor := some e }),
        [.boolean ok])

end Action

end EditorPlugins
