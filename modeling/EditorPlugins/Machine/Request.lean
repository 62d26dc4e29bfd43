/-
  Answering what code asks for without leaving its sandbox.

  Calls of script functions, of other plugins, of modules and of the embedding application are
  not answered here; the machine turns them into frames.
-/
import EditorPlugins.Machine.Basic
import EditorPlugins.Capability.Action

namespace EditorPlugins

open Script (Value Raised Request Table Heap Snapshot complain)

namespace World

/-- Results of a request, or what it raises. -/
abbrev Results := Except Raised (List Value)

/-! ## The heap -/

/-- Work on the heap of a sandbox. -/
def onHeap (w : World) (id : SandboxId) (f : Heap → Results × Heap) : World × Results :=
  let (r, h) := f (w.sandbox id).heap
  (w.modifySandbox id (fun s => { s with heap := h }), r)

/-- Put a host's results into a sandbox. -/
def giveBack (w : World) (id : SandboxId) (vs : List HostValue) : World × Results :=
  w.onHeap id fun h => let (vs, h) := HostValue.importItems vs h; (.ok vs, h)

/-- A new table in a sandbox. -/
def makeTable (w : World) (id : SandboxId) (t : Table) : World × Results :=
  w.onHeap id fun h => let (n, h) := h.addTable t; (.ok [.table n], h)

/-- A new object that is not a table. -/
def makeObject (w : World) (id : SandboxId) (make : Script.ObjectId → Value) : World × Results :=
  w.onHeap id fun h => let (n, h) := h.addObject; (.ok [make n], h)

/-- Raise an error as a new object. -/
def raiseFault (w : World) (id : SandboxId) (e : Failure) : World × Results :=
  w.onHeap id fun h => let (n, h) := h.addObject; (.error (.value (.fault n e)), h)

/-! ## Functions that are not scripts -/

/-- The line that `print` writes. -/
def printedLine (args : List Value) : String :=
  "\t".intercalate (args.map (fun v => Text.decodeLossy v.display))

/-- Call a function of the language's own library; nothing when it runs other code. -/
def callLibrary (w : World) (id : SandboxId) (name : String) (args : List Value) :
    Option (World × Results) :=
  if name = "print" then some (w.observe (.printed (printedLine args)), .ok [])
  else
    (Script.Library.act? (w.sandbox id).memoryLimit name args).map (fun a => w.onHeap id a.on)

/-- Take arguments out of a sandbox. -/
def exportArguments (s : Sandbox) (args : List Value) : Except ArgumentFault (List HostValue) :=
  args.mapM (HostValue.exportValue s.heap)

/-- What a capability is asked to do by a call from a sandbox. -/
def requestedAction (s : Sandbox) (c : Capability) (args : List Value) :
    Except Failure Action :=
  match (exportArguments s args).bind c.check with
  | .ok a => .ok a
  | .error e => .error (.invalidArgument e)

/-! ## Requests -/

/-- The text of what was raised, as a session shows it. -/
def raisedText (r : Raised) : ByteArray := r.caught.display

/-- Answer a request that stays in its sandbox; nothing for the others. -/
def serve (w : World) (id : SandboxId) (q : Request) : Option (World × Results) :=
  let s := w.sandbox id
  match q with
  | .readGlobal name => some (w, .ok [s.global name])
  | .writeGlobal name v => some (w.modifySandbox id (·.setGlobal name v), .ok [])
  | .lookUp name => some (w, (s.heap.lookUp name).map ([·]))
  | .makeTable items fields =>
    match Table.ofParts items fields with
    | .ok t => some (w.makeTable id t)
    | .error r => some (w, .error r)
  | .makeCycle =>
    some (w.makeTable id ⟨#[], [(.text "self", .table s.heap.tables.size)]⟩)
  | .makeFunction body => some (w.makeObject id (fun n => .function (.script n body)))
  | .makeThread => some (w.makeObject id .thread)
  | .makeUserdata => some (w.makeObject id .userdata)
  | .field t k => some (w, (s.heap.index t k).map ([·]))
  | .length v => some (w, (s.heap.length v).map ([·]))
  | .concat vs => some (w, (Value.concat s.memoryLimit vs).map ([·]))
  | .replicate v n => some (w, (Value.replicate s.memoryLimit v n).map ([·]))
  | .show v => some (w.observe (.shown (Snapshot.of s.heap v)), .ok [])
  | .showOutcome (.ok v) => some (w.observe (.succeeded (Snapshot.of s.heap v)), .ok [])
  | .showOutcome (.error r) => some (w.observe (.raised (raisedText r)), .ok [])
  | .call (.function (.library name)) args => w.callLibrary id name args
  | .call (.function (.capability c)) args =>
    match requestedAction s c args with
    | .error e => some (w.raiseFault id e)
    | .ok (.callPlugin _ _ _) => none
    | .ok a =>
      let (w, results) := a.run w id
      some (w.giveBack id results)
  | .call (.function (.script _ _)) _ => none
  | .call v _ => some (w, .error (complain ("attempt to call a " ++ v.typeName ++ " value")))
  | .require _ => none
  | .host _ => none

end World

end EditorPlugins
