/-
  One step of the machine, and runs of it.

  `step` is total and does not recurse; a run is a number of steps.
-/
import EditorPlugins.Machine.Request

namespace EditorPlugins

open Script (Value Raised Program Request complain)

namespace Machine

/-! ## Going on -/

/-- Code goes on with an answer. -/
def resume (w : World) (id : SandboxId) (next : Except Raised (List Value) → Program (List Value))
    (r : Except Raised (List Value)) (frames : List Frame) : Machine :=
  ⟨w, .running id (next r), frames⟩

def answer (w : World) (a : Answer) (frames : List Frame) : Machine := ⟨w, .answered a, frames⟩

/-! ## Calls -/

/-- Calls are nested less deep than this. -/
def tooDeep : Nat := 190000

/-- So many open calls find room in what a sandbox has at its start. -/
def shallow : Nat := 1000

/-- The memory that every further open call takes. -/
def bytesPerCall : Nat := 200

/-- Why no further call is possible inside so many, if so. -/
def refusal? (limit : UInt64) (depth : Nat) : Option Raised :=
  if limit ≠ 0 ∧ (depth - shallow) * bytesPerCall > limit.toNat then some .outOfMemory
  else if depth ≥ tooDeep then some (complain "stack overflow")
  else none

/-- Run code whose results other code of the sandbox waits for; `waiting` are frames that are to
see the results first. -/
def callCode (w : World) (id : SandboxId) (p : Program (List Value)) (waiting : List Frame)
    (next : Except Raised (List Value) → Program (List Value)) (frames : List Frame) : Machine :=
  let depth := Frame.depth frames + 1
  match refusal? (w.sandbox id).memoryLimit depth with
  | some r => resume w id next (.error r) frames
  | none => ⟨w, .running id p, waiting ++ .code depth id next :: frames⟩

/-! ## Dispatch -/

/-- Run a function of a plugin, with the plugin on the stack of active ones.  A plugin that is
already there is not entered again. -/
def dispatch (w : World) (plugin : String) (t : World.Target) (args : List Value)
    (purpose : Purpose) (frames : List Frame) : Machine :=
  if w.registry.active.contains plugin then
    answer w (.error (.reentrantCall plugin)) frames
  else
    ⟨w.modifyRegistry (·.enter plugin),
      .running t.sandbox (Script.callProgram (.function t.function) args),
      .dispatch plugin purpose :: frames⟩

/-- The arguments of the handlers of an event. -/
def eventArguments (e : Event) : List Value :=
  match e.filename? with
  | some f => [.text f]
  | none => []

/-- Announce an event to the plugins of a list.  Plugins that are active, not loaded, disabled or
without a handler are skipped; the first of the others is run. -/
def announce (w : World) (e : Event) (frames : List Frame) : List String → Summary → Machine
  | [], soFar => answer w (.ok (.summary (some soFar))) frames
  | plugin :: rest, soFar =>
    let skip := announce w e frames rest { soFar with skipped := soFar.skipped ++ [plugin] }
    if w.registry.active.contains plugin then skip
    else
      match w.resolveEvent plugin e.name with
      | .error _ => skip
      | .ok t => dispatch w plugin t (eventArguments e) (.delivery e rest soFar) frames

/-- The text of a function's first result: strings and numbers have one. -/
def resultText (vs : List Value) : String :=
  match vs.headD .nil with
  | .string b => Text.decodeLossy b
  | v => (v.numberText?).getD ""

/-- A dispatched function has ended: the plugin leaves the stack, an error is remembered, and the
result goes to whom it belongs. -/
def endDispatch (w : World) (plugin : String) (purpose : Purpose)
    (r : Except Raised (List Value)) (frames : List Frame) : Machine :=
  let w := match r with
    | .ok _ => w
    | .error e => w.modifyRegistry (·.blame plugin e.message)
  let w := w.modifyRegistry (·.leave plugin)
  match purpose, r with
  | .command, .ok _ => answer w (.ok .nothing) frames
  | .function, .ok vs => answer w (.ok (.text (resultText vs))) frames
  | .command, .error e => answer w (.error (.scriptRaised e.message)) frames
  | .function, .error e => answer w (.error (.scriptRaised e.message)) frames
  | .delivery event rest soFar, .ok _ =>
    announce w event frames rest { soFar with delivered := soFar.delivered ++ [plugin] }
  | .delivery event rest soFar, .error _ =>
    announce w event frames rest { soFar with failed := soFar.failed ++ [plugin] }

/-! ## Operations -/

/-- Load a folder: its entry script runs next, unless something stands against it. -/
def load (w : World) (root : Path) (frames : List Frame) : Machine :=
  match w.prepareLoad root with
  | (w, .error e) => answer w (.error e) frames
  | (w, .ok (p, block)) =>
    ⟨w, .running p.sandbox (Script.Block.program block []), .entry p :: frames⟩

/-- Load the folders of a directory one after the other. -/
def scan (w : World) (frames : List Frame) : List Path → List String → Machine
  | [], loaded => answer w (.ok (.texts loaded)) frames
  | root :: rest, loaded => ⟨w, .starting (.load root), .scan rest loaded :: frames⟩

/-- Begin an operation. -/
def start (w : World) (op : Operation) (frames : List Frame) : Machine :=
  let r := w.registry
  match op with
  | .attach => let (w, a) := w.attach; answer w a frames
  | .isInitialized => answer w (.ok (.flag r.isInitialized)) frames
  | .finalize =>
    if !r.isInitialized then answer w (.error .notInitialized) frames
    else
      match r.active with
      | plugin :: _ => answer w (.error (.pluginBusy plugin)) frames
      | [] => announce w .shutdown (.finalization :: frames) r.loadOrder {}
  | .load root => load w root frames
  | .loadDirectory dir =>
    if !r.isInitialized then answer w (.error .notInitialized) frames
    else scan w frames (World.pluginRoots w.files dir) []
  | .unload plugin =>
    let (w, a) := w.unload plugin
    answer w (a.map (fun _ => .nothing)) frames
  | .reload plugin =>
    match r.plugins.get? plugin with
    | none => answer w (.error (.pluginNotFound plugin)) frames
    | some record =>
      match w.unload plugin with
      | (w', .error e) => answer w' (.error e) frames
      | (w', .ok ()) => load w' (w.sandbox record.sandbox).identity.root frames
  | .execute id =>
    match w.resolveCommand id with
    | .error e => answer w (.error e) frames
    | .ok (plugin, t) => dispatch w plugin t [] .command frames
  | .call plugin function args =>
    match w.resolveFunction plugin function with
    | .error e => answer w (.error e) frames
    | .ok t => dispatch w plugin t (args.map .text) .function frames
  | .notify name filename =>
    match Event.ofName? name filename with
    | none => answer w (.ok (.summary none)) frames
    | some e => announce w e frames r.loadOrder {}
  | .enable plugin on => let (w, a) := w.enable plugin on; answer w a frames
  | .version plugin =>
    answer w (.ok (.optionalText ((w.info plugin).map (fun i => i.identity.version)))) frames
  | .commands => answer w (.ok (.commands w.commands)) frames
  | .info plugin => answer w (.ok (.info (w.info plugin))) frames
  | .config => answer w (.ok (.config r.config)) frames
  | .storedConfig plugin => answer w (.ok (.dict (r.configs.load w.files plugin))) frames
  | .settings => answer w (.ok (.dict w.settings)) frames
  | .putSetting key value =>
    answer { w with settings := w.settings.insert key value } (.ok (.flag true)) frames
  | .sharedPlugins => answer w (.ok (.texts (if r.isShared then r.loadOrder else []))) frames
  | .describe => answer w (.ok (.text (World.describe r))) frames
  | .changeFiles changes =>
    answer { w with files := FileChange.applyAll w.files changes } (.ok .nothing) frames
  | .readFile path => answer w (.ok (.bytes (w.files.read path).toOption)) frames

/-! ## Code -/

/-- Run a module's code, unless it was loaded before.  The name ends at its first NUL; the code is
told the whole of it, and where it was found. -/
def require (w : World) (id : SandboxId) (module : Value)
    (next : Except Raised (List Value) → Program (List Value)) (frames : List Frame) : Machine :=
  let s := w.sandbox id
  let refuse (text : String) : Machine := resume w id next (.error (complain text)) frames
  match module.stringBytes? with
  | none => refuse "bad argument #1 to 'require' (string expected)"
  | some bytes =>
    let name := Text.decodeLossy (Script.untilNul bytes)
    let value := s.heap.loaded name
    if value.isTrue then resume w id next (.ok [value]) frames
    else
      match Sandbox.findModule w.files s.identity.root name with
      | none => refuse ("module '" ++ name ++ "' not found")
      | some file =>
        match World.readModule w.files file with
        | .error e => refuse ("error loading module '" ++ name ++ "': " ++ e.message)
        | .ok block =>
          callCode w id (Script.Block.program block [.string bytes, .text file.text])
            [.module id name] next frames

/-- What a module's code leaves: its value, or true when it has none. -/
def keepModule (w : World) (id : SandboxId) (name : String) (vs : List Value) :
    World × List Value :=
  let v := match vs.headD .nil with
    | .nil => Value.bool true
    | v => v
  (w.modifySandbox id (fun s => { s with heap := s.heap.setLoaded name v }), [v])

/-- Run the code in a file. -/
def runFile (w : World) (id : SandboxId) (file : Value)
    (next : Except Raised (List Value) → Program (List Value)) (frames : List Frame) : Machine :=
  let refuse (text : String) : Machine := resume w id next (.error (complain text)) frames
  match file.stringBytes? with
  | none => refuse "bad argument #1 to 'dofile' (string expected)"
  | some bytes =>
    let path : Path := ⟨Text.decodeLossy (Script.untilNul bytes)⟩
    match World.readModule w.files path with
    | .error _ => refuse ("cannot open " ++ path.text)
    | .ok block => callCode w id (Script.Block.program block []) [] next frames

/-- Call a function of the language's own library that runs other code. -/
def callLibrary (w : World) (id : SandboxId) (name : String) (args : List Value)
    (next : Except Raised (List Value) → Program (List Value)) (frames : List Frame) : Machine :=
  match Script.Library.program? name args with
  | some p => callCode w id p [] next frames
  | none =>
    if name = "dofile" then runFile w id (args.headD .nil) next frames
    else resume w id next (.error (complain ("'" ++ name ++ "' is not available"))) frames

/-- Code asks for something. -/
def ask (w : World) (id : SandboxId) (q : Request)
    (next : Except Raised (List Value) → Program (List Value)) (frames : List Frame) : Machine :=
  match w.serve id q with
  | some (w, r) => resume w id next r frames
  | none =>
    match q with
    | .call (.function (.script _ body)) args =>
      callCode w id (Script.Block.program body args) [] next frames
    | .call (.function (.library name)) args => callLibrary w id name args next frames
    | .call (.function (.capability c)) args =>
      match World.requestedAction (w.sandbox id) c args with
      | .ok (.callPlugin plugin function texts) =>
        ⟨w, .starting (.call plugin function texts), .pluginCall id next :: frames⟩
      | _ => resume w id next (.ok []) frames
    | .require module => require w id module next frames
    | .host op => ⟨w, .starting op, .hostStep id next :: frames⟩
    | _ => resume w id next (.ok []) frames

/-! ## Steps -/

/-- Code has ended and hands its results to the innermost frame. -/
def deliverResults (w : World) (r : Except Raised (List Value)) : List Frame → Machine
  | .code _ id next :: frames => resume w id next r frames
  | .module id name :: frames =>
    match r with
    | .ok vs => let (w, vs) := keepModule w id name vs; ⟨w, .ended (.ok vs), frames⟩
    | .error e => ⟨w, .ended (.error e), frames⟩
  | .entry p :: frames => let (w, a) := w.completeLoad p r; answer w a frames
  | .dispatch plugin purpose :: frames => endDispatch w plugin purpose r frames
  | frames => ⟨w, .ended r, frames⟩

/-- An operation hands its answer to the innermost frame. -/
def deliverAnswer (w : World) (a : Answer) : List Frame → Machine
  | .pluginCall id next :: frames =>
    let text := match a with
      | .ok (.text s) => s
      | _ => ""
    resume w id next (.ok [.text text]) frames
  | .hostStep id next :: frames => resume (w.observe (.hostActed a)) id next (.ok [.nil]) frames
  | .scan rest loaded :: frames =>
    match a with
    | .ok (.text name) => scan w frames rest (loaded ++ [name])
    | _ => scan w frames rest loaded
  | .finalization :: frames => answer w.completeFinalize (.ok .nothing) frames
  | frames => answer w a frames

/-- One step. -/
def step (m : Machine) : Machine :=
  match m.focus with
  | .running _ (.done vs) => { m with focus := .ended (.ok vs) }
  | .running _ (.raise r) => { m with focus := .ended (.error r) }
  | .running id (.ask q next) => ask m.world id q next m.frames
  | .ended r => deliverResults m.world r m.frames
  | .starting op => start m.world op m.frames
  | .answered a => deliverAnswer m.world a m.frames

/-! ## Runs -/

/-- So many steps. -/
def steps : Nat → Machine → Machine
  | 0, m => m
  | n + 1, m => steps n m.step

/-- Steps until nothing is left to do, at most so many. -/
def run : Nat → Machine → Machine
  | 0, m => m
  | n + 1, m => if m.isDone then m else run n m.step

end Machine

/-- The world after an operation and the answer to it, if it ends within so many steps. -/
def World.perform? (steps : Nat) (w : World) (op : Operation) : Option (World × Answer) :=
  let m := Machine.run steps (.perform w op)
  m.answer?.map (fun a => (m.world, a))

/-- The same for operations one after the other. -/
def World.performAll? (steps : Nat) : World → List Operation → Option (World × List Answer)
  | w, [] => some (w, [])
  | w, op :: ops => do
    let (w, a) ← w.perform? steps op
    let (w, answers) ← w.performAll? steps ops
    some (w, a :: answers)

/-- The machines that operations and steps lead to, from a session in which nothing happened. -/
inductive Machine.Reachable : Machine → Prop where
  | start (files : Files) (profile : HostProfile) (config : HostConfig) (isShared : Bool)
      (op : Operation) : Reachable (.perform (.start files profile config isShared) op)
  | step {m : Machine} : Reachable m → Reachable m.step
  | next {m : Machine} {a : Answer} (op : Operation) :
      Reachable m → m.answer? = some a → Reachable (.perform m.world op)

end EditorPlugins
