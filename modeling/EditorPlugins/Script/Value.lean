/-
  The values of scripts.

  Tables, functions, coroutines, userdata and errors are known by a number that is unique in their
  sandbox; what a table holds is found in the heap of the sandbox (`Script/Heap`).
-/
import EditorPlugins.Failure
import EditorPlugins.Script.Capability
import EditorPlugins.Script.Numeral
import EditorPlugins.Decimal.Notation

namespace EditorPlugins.Script

/-- The number of an object in its sandbox. -/
abbrev ObjectId := Nat

/-- What can be called. -/
inductive Function where
  | script (id : ObjectId) (body : Block)
  | capability (c : Capability)
  /-- A function of the language's own library. -/
  | library (name : String)
deriving Inhabited

/-- A value of a script. -/
inductive Value where
  | nil
  | bool (b : Bool)
  | integer (n : Int64)
  | float (x : Binary64)
  | string (bytes : ByteArray)
  | table (id : ObjectId)
  | function (f : Function)
  | thread (id : ObjectId)
  | userdata (id : ObjectId)
  /-- The error that one call of a capability raised, as a value. -/
  | fault (id : ObjectId) (f : Failure)
deriving Inhabited

/-- How code can end without a value. -/
inductive Raised where
  | value (v : Value)
  | outOfMemory
deriving Inhabited

namespace Value

def text (s : String) : Value := .string (Text.encode s)

/-- Everything but nil and false counts as true. -/
def isTrue : Value → Bool
  | nil | bool false => false
  | _ => true

/-! ## Names of types -/

/-- The type of a value as a script sees it. -/
def typeName : Value → String
  | nil => "nil"
  | bool _ => "boolean"
  | integer _ | float _ => "number"
  | string _ => "string"
  | table _ => "table"
  | function _ => "function"
  | thread _ => "thread"
  | userdata _ | fault _ _ => "userdata"

/-- The type of a value as the host sees it. -/
def hostTypeName : Value → String
  | integer _ => "integer"
  | fault _ _ => "error"
  | v => v.typeName

/-! ## Texts of values -/

/-- The text of a floating-point number: one that looks whole is given a fraction. -/
def floatText (x : Binary64) : String :=
  let s := x.general
  if s.toList.all (fun c => Json.isDigit c || c = '-') then s ++ ".0" else s

/-- The text of a number. -/
def numberText? : Value → Option String
  | integer n => some (toString n.toInt)
  | float x => some (floatText x)
  | _ => none

/-- The bytes that a value is shown as. -/
def display : Value → ByteArray
  | nil => Text.encode "nil"
  | bool b => Text.encode (if b then "true" else "false")
  | integer n => Text.encode (toString n.toInt)
  | float x => Text.encode (floatText x)
  | string b => b
  | table id => Text.encode ("table: " ++ toString id)
  | function (.script id _) => Text.encode ("function: " ++ toString id)
  | function _ => Text.encode "function: builtin"
  | thread id => Text.encode ("thread: " ++ toString id)
  | userdata id => Text.encode ("userdata: " ++ toString id)
  | fault _ f => Text.encode f.message

/-- The bytes of a string, and of a number in its written form. -/
def stringBytes? (v : Value) : Option ByteArray :=
  match v with
  | string b => some b
  | _ => v.numberText?.map Text.encode

/-! ## Equality -/

def sameFunction : Function → Function → Bool
  | .script a _, .script b _ => a == b
  | .capability a, .capability b => a == b
  | .library a, .library b => a == b
  | _, _ => false

/-- Equality as a script sees it: numbers by value, objects by identity. -/
def same : Value → Value → Bool
  | nil, nil => true
  | bool a, bool b => a == b
  | integer a, integer b => a == b
  | float a, float b => a.sameValue b
  | integer a, float b => b.toInt? == some a.toInt
  | float a, integer b => a.toInt? == some b.toInt
  | string a, string b => a == b
  | table a, table b => a == b
  | function f, function g => sameFunction f g
  | thread a, thread b => a == b
  | userdata a, userdata b => a == b
  | fault a _, fault b _ => a == b
  | _, _ => false

/-! ## Numbers -/

/-- A number as a value. -/
def ofNumber : Number → Value
  | .integer n => integer n
  | .float x => float x

/-- A value as a number: numbers, and strings that spell one. -/
def asNumber? : Value → Option Number
  | integer n => some (.integer n)
  | float x => some (.float x)
  | string b => (Text.decode? b).bind (fun s => Numeral.read? s.toList)
  | _ => none

/-- A value as a 64-bit integer: a number, or a string that spells one, with such a value. -/
def asInteger? (v : Value) : Option Int64 := v.asNumber?.bind Number.toInt64?

end Value

/-! ## What was raised -/

/-- An error that the language itself raises. -/
def complain (s : String) : Raised := .value (.text s)

/-- What a script that catches sees. -/
def Raised.caught : Raised → Value
  | value v => v
  | outOfMemory => .text "not enough memory"

/-- The bytes before the first NUL. -/
def untilNul (b : ByteArray) : ByteArray := ⟨(b.data.toList.takeWhile (· ≠ 0)).toArray⟩

/-- What the host is told of an error that no script caught: the error of a capability speaks for
itself, anything else is shown as a text. -/
def Raised.message : Raised → String
  | value (.fault _ f) => f.message
  | value v => "runtime error: " ++ Text.decodeLossy (untilNul v.display)
  | outOfMemory => "memory error: not enough memory"

end EditorPlugins.Script
