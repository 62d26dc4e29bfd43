/-
  What scripts mean: the program of a block.

  Operands are evaluated from left to right.  A block ends with the values of the first `return`
  that is reached, or without any.
-/
import EditorPlugins.Script.Operators
import EditorPlugins.Script.Program

namespace EditorPlugins.Script

open Program (value request first ofExcept)

mutual

/-- The value of an expression in a function called with `args`. -/
def Expr.eval (args : List Value) : Expr → Program Value
  | .nil => return .nil
  | .bool b => return .bool b
  | .integer n => return .integer n
  | .float x => return .float x
  | .string b => return .string b
  | .table items entries => do
    let vs ← evalAll args items
    let kvs ← evalEntries args entries
    value (.makeTable vs kvs)
  | .function body => value (.makeFunction body)
  | .argument position => return (if position = 0 then .nil else args.getD (position - 1) .nil)
  | .argumentCount => return .integer (Int64.ofNat args.length)
  | .global name => value (.readGlobal name)
  | .capability name => value (.lookUp name)
  | .call name es => do
    let f ← value (.lookUp name)
    value (.call f (← evalAll args es))
  | .resultCount name es => do
    let f ← value (.lookUp name)
    let vs ← request (.call f (← evalAll args es))
    return .integer (Int64.ofNat vs.length)
  | .caught name es => do
    let f ← value (.lookUp name)
    let vs ← evalAll args es
    match ← (request (.call f vs)).attempt with
    | .ok vs => return first vs
    | .error r => return r.caught
  | .invoke e es => do
    let f ← e.eval args
    value (.call f (← evalAll args es))
  | .index t k => do
    let t ← t.eval args
    value (.field t (← k.eval args))
  | .concat es => do value (.concat (← evalAll args es))
  | .add l r => do
    let l ← l.eval args
    ofExcept (l.add (← r.eval args))
  | .or l r => do
    let v ← l.eval args
    if v.isTrue then return v else r.eval args
  | .eq l r => do
    let l ← l.eval args
    return .bool (l.same (← r.eval args))
  | .typeOf e => do return .text (← e.eval args).typeName
  | .length e => do value (.length (← e.eval args))
  | .replicate s n => do
    let s ← s.eval args
    value (.replicate s (← n.eval args))
  | .require e => do value (.require (← e.eval args))
  | .host op => value (.host op)
  | .cycle => value .makeCycle
  | .thread => value .makeThread
  | .userdata => value .makeUserdata

def evalAll (args : List Value) : List Expr → Program (List Value)
  | [] => return []
  | e :: r => do
    let v ← e.eval args
    return v :: (← evalAll args r)

def evalEntries (args : List Value) : List (Expr × Expr) → Program (List (Value × Value))
  | [] => return []
  | (k, e) :: r => do
    let k ← k.eval args
    let v ← e.eval args
    return (k, v) :: (← evalEntries args r)

end

mutual

/-- Run a statement; the values when it returns. -/
def Stmt.run (args : List Value) : Stmt → Program (Option (List Value))
  | .set name e => do
    let _ ← request (.writeGlobal name (← e.eval args))
    return none
  | .evaluate e => do
    let _ ← e.eval args
    return none
  | .show e => do
    let _ ← request (.show (← e.eval args))
    return none
  | .try e => do
    let _ ← request (.showOutcome (← (e.eval args).attempt))
    return none
  | .return es => do return some (← evalAll args es)
  | .error e => do .raise (.value (← e.eval args))
  | .branch c yes no => do
    if (← c.eval args).isTrue then runAll args yes else runAll args no

/-- Run statements in order until one returns. -/
def runAll (args : List Value) : Block → Program (Option (List Value))
  | [] => return none
  | s :: r => do
    match ← s.run args with
    | some vs => return some vs
    | none => runAll args r

end

/-- The program of a function called with `args`. -/
def Block.program (body : Block) (args : List Value) : Program (List Value) := do
  return (← runAll args body).getD []

/-- The program that calls a value. -/
def callProgram (f : Value) (args : List Value) : Program (List Value) := request (.call f args)

end EditorPlugins.Script
