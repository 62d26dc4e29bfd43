/-
  The functions of the language's own library for strings.

  A string is its bytes; positions count from one, and from the end when they are negative.
-/
import EditorPlugins.Script.Library.Call

namespace EditorPlugins.Script.Library

/-! ## Positions -/

/-- The position where a piece of a string of the given length begins, at least one. -/
def pieceStart (length : Nat) (i : Int) : Nat :=
  if i > 0 then i.toNat else if i = 0 then 1 else ((length : Int) + i + 1).toNat.max 1

/-- The position where a piece of a string of the given length ends, at most the length. -/
def pieceEnd (length : Nat) (j : Int) : Nat :=
  if j ≥ 0 then j.toNat.min length else ((length : Int) + j + 1).toNat

/-- The bytes from one position to another. -/
def piece (b : ByteArray) (i j : Int) : List UInt8 :=
  let first := pieceStart b.size i
  let last := pieceEnd b.size j
  (b.data.toList.drop (first - 1)).take (last + 1 - first)

/-! ## Functions -/

def ofBytes (bs : List UInt8) : Value := .string ⟨bs.toArray⟩

/-- The numbers of the bytes from one position to another. -/
def byteNumbers (c : Call) : Act (List Value) := do
  let b ← c.string 1
  let i ← c.integerD 2 1
  let j ← c.integerD 3 i
  return (piece b i j).map (fun b => ofNat b.toNat)

/-- The string of bytes with the given numbers. -/
def ofByteNumbers (c : Call) : Act (List Value) := do
  let bs ← (List.range c.args.length).mapM fun i => do
    let n ← c.integer (i + 1)
    if n < 0 ∨ 255 < n then throw (c.bad (i + 1) "value out of range")
    else return n.toNat.toUInt8
  return [ofBytes bs]

def lowerByte (b : UInt8) : UInt8 := if 0x41 ≤ b ∧ b ≤ 0x5a then b + 0x20 else b

def upperByte (b : UInt8) : UInt8 := if 0x61 ≤ b ∧ b ≤ 0x7a then b - 0x20 else b

/-- A string with every byte changed. -/
def mapBytes (f : UInt8 → UInt8) (c : Call) : Act (List Value) := do
  return [ofBytes ((← c.string 1).data.toList.map f)]

/-- A string so many times over, another one in between. -/
def repeated (limit : UInt64) (c : Call) : Act (List Value) := do
  let b ← c.string 1
  let times := (← c.integer 2).toNat
  let gap ← match c.argD 3 with
    | .nil => pure ByteArray.empty
    | _ => c.string 3
  if Value.exceeds limit (b.size * times + gap.size * (times - 1)) then throw .outOfMemory
  else if times = 0 then return [.string ByteArray.empty]
  else return [.string (Value.replicateBytes (b ++ gap) (times - 1) ++ b)]

/-- What a function for strings does. -/
def strings? (limit : UInt64) (c : Call) : Option (Act (List Value)) :=
  match c.function with
  | "byte" => some (byteNumbers c)
  | "char" => some (ofByteNumbers c)
  | "len" => some do return [ofNat (← c.string 1).size]
  | "lower" => some (mapBytes lowerByte c)
  | "upper" => some (mapBytes upperByte c)
  | "rep" => some (repeated limit c)
  | "reverse" => some do return [ofBytes (← c.string 1).data.toList.reverse]
  | "sub" => some do
    let b ← c.string 1
    let i ← c.integer 2
    return [ofBytes (piece b i (← c.integerD 3 (-1)))]
  | _ => none

end EditorPlugins.Script.Library
