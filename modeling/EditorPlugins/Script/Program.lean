/-
  Running code, as the tree of what it asks for.

  A `Program` is finished, has raised, or asks its surroundings for something and goes on with the
  answer.  What a script means is such a tree (`Script/Meaning`); who answers is another matter.
  So a statement about everything that a plugin's code can do is a statement about all trees.
-/
import EditorPlugins.Script.Value

namespace EditorPlugins.Script

/-- What running code can ask for. -/
inductive Request where
  | readGlobal (name : String)
  | writeGlobal (name : String) (v : Value)
  /-- The value of a global, or of a field of one. -/
  | lookUp (name : String)
  | makeTable (items : List Value) (fields : List (Value × Value))
  /-- A table that contains itself. -/
  | makeCycle
  | makeFunction (body : Block)
  | makeThread
  | makeUserdata
  | field (table key : Value)
  | length (v : Value)
  | concat (vs : List Value)
  | «replicate» (s count : Value)
  | call (f : Value) (args : List Value)
  | require (module : Value)
  /-- The embedding application acts. -/
  | host (op : Operation)
  | «show» (v : Value)
  /-- Show what became of an attempt. -/
  | showOutcome (r : Except Raised Value)

/-- Code that ends with an `α`, raises, or asks and goes on. -/
inductive Program (α : Type) where
  | done (a : α)
  | raise (r : Raised)
  | ask (q : Request) (next : Except Raised (List Value) → Program α)

namespace Program

/-- Go on with what a program ends with. -/
def bind : Program α → (α → Program β) → Program β
  | done a, f => f a
  | raise r, _ => raise r
  | ask q next, f => ask q (fun x => (next x).bind f)

instance : Monad Program where
  pure := done
  bind := bind

/-- Run a program to its end, whether it raises or not. -/
def attempt : Program α → Program (Except Raised α)
  | done a => done (.ok a)
  | raise r => done (.error r)
  | ask q next => ask q (fun x => (next x).attempt)

/-- Ask, and raise what the answer raises. -/
def request (q : Request) : Program (List Value) :=
  ask q fun
    | .ok vs => done vs
    | .error r => raise r

/-- The first of some values; nil when there is none. -/
def first (vs : List Value) : Value := vs.headD .nil

/-- Ask for one value. -/
def value (q : Request) : Program Value := do return first (← request q)

def ofExcept : Except Raised α → Program α
  | .ok a => done a
  | .error r => raise r

theorem bind_done (p : Program α) : p.bind done = p := by
  induction p with
  | done => rfl
  | raise => rfl
  | ask q next ih => simp [bind, ih]

theorem bind_assoc (p : Program α) (f : α → Program β) (g : β → Program γ) :
    (p.bind f).bind g = p.bind (fun a => (f a).bind g) := by
  induction p with
  | done => rfl
  | raise => rfl
  | ask q next ih => simp [bind, ih]

end Program

end EditorPlugins.Script
