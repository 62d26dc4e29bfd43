/-
  What the operators of the language do to values, as far as they need no heap.

  A string that an operator makes is at most as long as the sandbox has memory.
-/
import EditorPlugins.Script.Value

namespace EditorPlugins.Script.Value

/-! ## Arithmetic -/

/-- The sum of two values that are numbers or spell one. -/
def add (a b : Value) : Except Raised Value :=
  match a.asNumber?, b.asNumber? with
  | some x, some y => .ok (ofNumber (x.add y))
  | none, _ => .error (complain ("attempt to perform arithmetic on a " ++ a.typeName ++ " value"))
  | _, none => .error (complain ("attempt to perform arithmetic on a " ++ b.typeName ++ " value"))

/-! ## Strings -/

/-- No string has so many bytes. -/
def tooLong : Nat := 0x100000000

/-- Whether a string of so many bytes is more than a sandbox may hold; a limit of zero is none. -/
def exceeds (limit : UInt64) (size : Nat) : Bool :=
  size ≥ tooLong || (limit ≠ 0 && size > limit.toNat)

/-- The strings and numbers one after the other. -/
def concat (limit : UInt64) (vs : List Value) : Except Raised Value := do
  let parts ← vs.mapM fun v =>
    match v.stringBytes? with
    | some b => .ok b
    | none => .error (complain ("attempt to concatenate a " ++ v.typeName ++ " value"))
  if exceeds limit (parts.foldl (fun n b => n + b.size) 0) then .error .outOfMemory
  else .ok (.string (parts.foldl (· ++ ·) ByteArray.empty))

/-- Bytes so many times over. -/
def replicateBytes (b : ByteArray) (count : Nat) : ByteArray :=
  if b.size = 0 then ByteArray.empty
  else if b.size = 1 then ⟨Array.replicate count (b.get! 0)⟩
  else count.fold (fun _ _ acc => acc ++ b) ByteArray.empty

/-- A string so many times over; no more than the sandbox may hold. -/
def «replicate» (limit : UInt64) (s count : Value) : Except Raised Value :=
  match s.stringBytes?, count.asInteger? with
  | some b, some n =>
    let times := n.toInt.toNat
    if exceeds limit (b.size * times) then .error .outOfMemory
    else .ok (.string (replicateBytes b times))
  | none, _ =>
    .error (complain ("bad argument #1 to 'rep' (string expected, got " ++ s.typeName ++ ")"))
  | _, none =>
    .error (complain ("bad argument #2 to 'rep' (number expected, got " ++ count.typeName ++ ")"))

end EditorPlugins.Script.Value
