/-
  The functions of the language's own library for numbers.
-/
import EditorPlugins.Script.Library.Call

namespace EditorPlugins.Script.Library

/-- The whole number next to a number on one side of it, `round` on floating-point numbers. -/
def rounded (round : Float → Float) (x : Number) : Value :=
  match x with
  | .integer n => .integer n
  | .float x =>
    let y := Binary64.ofFloat (round x.toFloat)
    match (Number.float y).toInt64? with
    | some n => .integer n
    | none => .float y

def absolute : Number → Value
  | .integer n => .integer (if n < 0 then -n else n)
  | .float x => .float (if x.isNegative then x.negate else x)

/-- Whether a number is whole by its kind, not by its value. -/
def kindOf : Value → Value
  | .integer _ => .text "integer"
  | .float _ => .text "float"
  | _ => .nil

/-- What a function for numbers does. -/
def numbers? (c : Call) : Option (Act (List Value)) :=
  match c.function with
  | "abs" => some do return [absolute (← c.number 1)]
  | "ceil" => some do return [rounded Float.ceil (← c.number 1)]
  | "floor" => some do return [rounded Float.floor (← c.number 1)]
  | "tointeger" => some do return [((← c.any 1).asInteger?.map Value.integer).getD .nil]
  | "type" => some do return [kindOf (← c.any 1)]
  | _ => none

end EditorPlugins.Script.Library
