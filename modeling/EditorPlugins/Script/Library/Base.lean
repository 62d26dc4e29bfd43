/-
  The functions of the language's own library that are globals, as far as they run no code.
-/
import EditorPlugins.Script.Library.Call

namespace EditorPlugins.Script.Library

/-! ## Errors -/

/-- All arguments, when the first counts as true; else the second is raised. -/
def assert (c : Call) : Act (List Value) := do
  if (← c.any 1).isTrue then return c.args
  else throw (.value (c.args.getD 1 (.text "assertion failed!")))

/-! ## Numbers -/

/-- The number that the first argument is or spells, in the base that the second tells. -/
def toNumber (c : Call) : Act (List Value) := do
  match c.argD 2 with
  | .nil => return [((← c.any 1).asNumber?.map Value.ofNumber).getD .nil]
  | _ =>
    let radix ← c.integer 2
    match c.arg? 1 with
    | some (.string b) =>
      if radix < 2 ∨ 36 < radix then throw (c.bad 2 "base out of range")
      else
        let read := (Text.decode? b).bind (fun s => Numeral.readIn? radix.toNat s.toList)
        return [(read.map Value.integer).getD .nil]
    | _ => throw (c.mismatch 1 "string")

/-! ## Arguments -/

/-- The number of the arguments behind the first when that begins with `#`; else those arguments
from a position on, counted from the end when it is negative. -/
def select (c : Call) : Act (List Value) := do
  let count := c.args.length
  let counts : Bool := match c.arg? 1 with
    | some (.string b) => b.data[0]? == some 0x23
    | _ => false
  if counts then return [ofNat (count - 1)]
  else
    let i ← c.integer 1
    let i := if i < 0 then (count : Int) + i else i
    if i < 1 then throw (c.bad 1 "index out of range")
    else return c.args.drop i.toNat

/-! ## Tables -/

/-- The length of a table or string. -/
def rawLength (c : Call) : Act (List Value) := do
  match c.arg? 1 with
  | some (.table id) => return [ofNat ((← get).table id).length]
  | some (.string b) => return [ofNat b.size]
  | _ => throw (c.mismatch 1 "table or string")

/-- The value under a key of a table. -/
def rawGet (c : Call) : Act (List Value) := do
  let id ← c.table 1
  let k ← c.any 2
  return [((← get).table id).get k]

/-- Store under a key of a table. -/
def rawSet (c : Call) : Act (List Value) := do
  let id ← c.table 1
  let k ← c.any 2
  let v ← c.any 3
  ofExcept (Table.checkKey k)
  modify (fun h => h.put id k v)
  return [.table id]
where
  ofExcept (r : Except Raised Unit) : Act Unit :=
    match r with
    | .ok () => return ()
    | .error e => throw e

/-- The entry that comes after the one under a key; the first one after nil. -/
def nextEntry (c : Call) : Act (List Value) := do
  let entries := ((← get).table (← c.table 1)).pairs
  let rest ← match c.argD 2 with
    | .nil => pure entries
    | k =>
      match entries.dropWhile (fun e => !e.1.same (Table.storedKey k)) with
      | _ :: rest => pure rest
      | [] => throw (complain "invalid key to 'next'")
  match rest with
  | (k, v) :: _ => return [k, v]
  | [] => return [.nil]

/-- The position after a position of a sequence, and its value. -/
def nextItem (c : Call) : Act (List Value) := do
  let i := ofInt ((← c.integer 2) + 1)
  match (← get).index (c.argD 1) i with
  | .error e => throw e
  | .ok .nil => return [.nil]
  | .ok v => return [i, v]

/-- What a value's behaviour is taken from; only strings have such a table. -/
def behaviour (c : Call) : Act (List Value) := do
  match ← c.any 1 with
  | .string _ => return [.table Heap.stringBehaviourId]
  | _ => return [.nil]

/-- Behaviour of tables is not modelled: the table stays as it is. -/
def setBehaviour (c : Call) : Act (List Value) := do
  let id ← c.table 1
  match c.arg? 2 with
  | some .nil | some (.table _) => return [.table id]
  | _ => throw (c.mismatch 2 "nil or table")

/-! ## Memory -/

/-- What asking the collector of unused memory answers; there is none. -/
def collector (c : Call) : Act (List Value) := do
  let option ← match c.argD 1 with
    | .nil => pure "collect"
    | _ => do pure (Text.decodeLossy (← c.string 1))
  match option with
  | "collect" | "stop" | "restart" => return [ofInt 0]
  | "count" => return [.float .zero]
  | "step" | "isrunning" => return [.bool true]
  | "setpause" => return [ofInt 200]
  | "setstepmul" => return [ofInt 100]
  | "generational" | "incremental" => return [.text "incremental"]
  | _ => throw (c.bad 1 ("invalid option '" ++ option ++ "'"))

/-! ## All of them -/

/-- What a global function of the library does. -/
def base? (c : Call) : Option (Act (List Value)) :=
  match c.function with
  | "assert" => some (assert c)
  | "collectgarbage" => some (collector c)
  | "error" => some (throw (.value (c.argD 1)))
  | "getmetatable" => some (behaviour c)
  | "ipairs" => some do return [.function (.library "inext"), ← c.any 1, ofInt 0]
  | "inext" => some (nextItem c)
  | "next" => some (nextEntry c)
  | "pairs" => some do return [.function (.library "next"), ← c.any 1, .nil]
  | "rawequal" => some do return [.bool ((← c.any 1).same (← c.any 2))]
  | "rawget" => some (rawGet c)
  | "rawlen" => some (rawLength c)
  | "rawset" => some (rawSet c)
  | "select" => some (select c)
  | "setmetatable" => some (setBehaviour c)
  | "tonumber" => some (toNumber c)
  | "tostring" => some do return [.string (← c.any 1).display]
  | "type" => some do return [.text (← c.any 1).typeName]
  | "warn" => some do
    let _ ← c.string 1
    return []
  | _ => none

end EditorPlugins.Script.Library
