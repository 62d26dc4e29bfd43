/-
  The machine that runs plugins.

  Operations start scripts, scripts start operations, and a broadcast starts one script after the
  other; all of this nests.  The machine makes the nesting explicit: its focus is what happens
  now, its frames are what waits, innermost first.  One step changes a little; everything that can
  be observed between two steps is in the world.
-/
import EditorPlugins.World.Plugins
import EditorPlugins.Script.Meaning

namespace EditorPlugins

open Script (Value Raised Program)

/-- What becomes of the result of a dispatched function. -/
inductive Purpose where
  /-- A command was run; its results do not matter. -/
  | command
  /-- A function was called; its first result is the answer. -/
  | function
  /-- An event was delivered; the broadcast goes on with the remaining plugins. -/
  | delivery (event : Event) (rest : List String) (soFar : Summary)

/-- What waits for something to end. -/
inductive Frame where
  /-- Code waits for the results of a call; `depth` calls have been made one inside the other. -/
  | code (depth : Nat) (sandbox : SandboxId)
    (next : Except Raised (List Value) → Program (List Value))
  /-- The results of a module's code are to be kept. -/
  | module (sandbox : SandboxId) (name : String)
  /-- A load waits for its entry script. -/
  | entry (load : PendingLoad)
  /-- A dispatched function of an active plugin is running. -/
  | dispatch (plugin : String) (purpose : Purpose)
  /-- Code waits for the answer of a call of another plugin. -/
  | pluginCall (sandbox : SandboxId) (next : Except Raised (List Value) → Program (List Value))
  /-- Code waits for the embedding application. -/
  | hostStep (sandbox : SandboxId) (next : Except Raised (List Value) → Program (List Value))
  /-- A directory is being loaded: the folders still to come, the plugins loaded so far. -/
  | scan (rest : List Path) (loaded : List String)
  /-- The shutdown is being announced before everything is unloaded. -/
  | finalization

/-- How many calls are open one inside the other in the code that the innermost frames wait for. -/
def Frame.depth : List Frame → Nat
  | .code depth _ _ :: _ => depth
  | .module _ _ :: rest => depth rest
  | _ => 0

/-- What happens now. -/
inductive Focus where
  /-- Code of a sandbox runs. -/
  | running (sandbox : SandboxId) (p : Program (List Value))
  /-- Code has ended. -/
  | ended (r : Except Raised (List Value))
  /-- An operation is about to start. -/
  | starting (op : Operation)
  /-- An operation has been answered. -/
  | answered (a : Answer)

/-- The state of the machine. -/
structure Machine where
  world : World
  focus : Focus
  frames : List Frame

namespace Machine

/-- The machine before an operation. -/
def perform (w : World) (op : Operation) : Machine := ⟨w, .starting op, []⟩

/-- The answer, once nothing waits for it any more. -/
def answer? (m : Machine) : Option Answer :=
  match m.focus, m.frames with
  | .answered a, [] => some a
  | _, _ => none

/-- Whether nothing is left to do. -/
def isDone (m : Machine) : Bool :=
  match m.focus, m.frames with
  | .answered _, [] | .ended _, [] => true
  | _, _ => false

end Machine

end EditorPlugins
