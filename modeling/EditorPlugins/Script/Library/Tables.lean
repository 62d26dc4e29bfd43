/-
  The functions of the language's own library for sequences.
-/
import EditorPlugins.Script.Library.Call

namespace EditorPlugins.Script.Library

/-- The values of a table from one position to another. -/
def itemsBetween (t : Table) (i j : Int) : List Value :=
  (List.range (j - i + 1).toNat).map (fun (n : Nat) => t.get (ofInt (i + n)))

/-- So many values are more than one call can take or give. -/
def tooMany : Int := 1000000

/-- The items of a table from one position to another as one string, a separator in between. -/
def joined (limit : UInt64) (c : Call) : Act (List Value) := do
  let t := (← get).table (← c.table 1)
  let gap ← match c.argD 2 with
    | .nil => pure ByteArray.empty
    | _ => c.string 2
  let i ← c.integerD 3 1
  let j ← c.integerD 4 t.length
  if j - i ≥ tooMany then throw .outOfMemory
  let items := itemsBetween t i j
  match items.findIdx? (fun v => v.stringBytes?.isNone) with
  | some n =>
    throw (complain ("invalid value (at index " ++ toString (i + n) ++ ") in table for 'concat'"))
  | none =>
    match Value.concat limit (items.intersperse (.string gap)) with
    | .ok v => return [v]
    | .error e => throw e

/-- The items of a table from one position to another. -/
def unpacked (c : Call) : Act (List Value) := do
  let t := (← get).table (← c.table 1)
  let i ← c.integerD 2 1
  let j ← c.integerD 3 t.length
  if j - i ≥ tooMany then throw (complain "too many results to unpack")
  else return itemsBetween t i j

/-- A table of all arguments, their number under `n`. -/
def packed (c : Call) : Act (List Value) := do
  return [← newTable ⟨c.args.toArray, [(.text "n", ofNat c.args.length)]⟩]

/-- What a function for sequences does. -/
def tables? (limit : UInt64) (c : Call) : Option (Act (List Value)) :=
  match c.function with
  | "concat" => some (joined limit c)
  | "pack" => some (packed c)
  | "unpack" => some (unpacked c)
  | _ => none

end EditorPlugins.Script.Library
