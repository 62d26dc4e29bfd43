/-
  Calls of the functions of the language's own library, and what these make of their arguments.

  A function of the library is an `Act`: it may look into the heap and change it, and it may raise.
-/
import EditorPlugins.Script.Heap
import EditorPlugins.Script.Operators

namespace EditorPlugins.Script.Library

/-- What a function does to the heap of its sandbox. -/
abbrev Act (α : Type) := ExceptT Raised (StateM Heap) α

/-- Do something with a heap: the result and the heap afterwards. -/
def Act.on (a : Act α) (h : Heap) : Except Raised α × Heap := StateT.run (ExceptT.run a) h

/-- A new table. -/
def newTable (t : Table) : Act Value := do
  let (id, h) := (← get).addTable t
  set h
  return .table id

/-- A new error object. -/
def newFault (f : Failure) : Act Value := do
  let (id, h) := (← get).addObject
  set h
  return .fault id f

/-- A call of a function, by the name that messages give it. -/
structure Call where
  function : String
  args : List Value

namespace Call

/-! ## Complaints -/

/-- A complaint about an argument, counted from one. -/
def bad (c : Call) (n : Nat) (what : String) : Raised :=
  complain ("bad argument #" ++ toString n ++ " to '" ++ c.function ++ "' (" ++ what ++ ")")

/-- The argument at a position, counted from one. -/
def arg? (c : Call) (n : Nat) : Option Value := c.args[n - 1]?

/-- The type of the argument at a position. -/
def typeAt (c : Call) (n : Nat) : String := ((c.arg? n).map Value.typeName).getD "no value"

def mismatch (c : Call) (n : Nat) (expected : String) : Raised :=
  c.bad n (expected ++ " expected, got " ++ c.typeAt n)

/-! ## Arguments -/

/-- The argument at a position; nil when there is none. -/
def argD (c : Call) (n : Nat) : Value := (c.arg? n).getD .nil

/-- An argument that must be there. -/
def any (c : Call) (n : Nat) : Act Value :=
  match c.arg? n with
  | some v => return v
  | none => throw (c.bad n "value expected")

/-- The number of a table. -/
def table (c : Call) (n : Nat) : Act ObjectId :=
  match c.arg? n with
  | some (.table id) => return id
  | _ => throw (c.mismatch n "table")

/-- The bytes of a string or number. -/
def string (c : Call) (n : Nat) : Act ByteArray :=
  match (c.arg? n).bind Value.stringBytes? with
  | some b => return b
  | none => throw (c.mismatch n "string")

/-- A number, or a string that spells one. -/
def number (c : Call) (n : Nat) : Act Number :=
  match (c.arg? n).bind Value.asNumber? with
  | some x => return x
  | none => throw (c.mismatch n "number")

/-- A number with a whole value. -/
def integer (c : Call) (n : Nat) : Act Int := do
  match (← c.number n).toInt64? with
  | some i => return i.toInt
  | none => throw (c.bad n "number has no integer representation")

/-- The same, with a value for an argument that is missing or nil. -/
def integerD (c : Call) (n : Nat) (default : Int) : Act Int :=
  match c.argD n with
  | .nil => return default
  | _ => c.integer n

end Call

/-- Whole numbers as values. -/
def ofInt (i : Int) : Value := .integer (Int64.ofInt i)

def ofNat (n : Nat) : Value := .integer (Int64.ofNat n)

end EditorPlugins.Script.Library
