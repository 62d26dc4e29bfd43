/-
  64-bit binary floating-point numbers, as their bits.

  Two numbers are equal here when their bits are, so `Binary64` has decidable equality and tells
  `0.0` from `-0.0`.  What a finite number stands for is read off its fields exactly:
  `significand · 2 ^ exponent`, with integers only.  Arithmetic that rounds goes through `Float`.
-/

namespace EditorPlugins

/-- A 64-bit binary floating-point number. -/
structure Binary64 where
  bits : UInt64
deriving DecidableEq, Inhabited

namespace Binary64

/-! ## Fields -/

def isNegative (x : Binary64) : Bool := x.bits >>> 63 == 1

/-- The eleven bits of the exponent. -/
def exponentField (x : Binary64) : Nat := ((x.bits >>> 52) &&& 0x7ff).toNat

/-- The fifty-two bits of the fraction. -/
def fractionField (x : Binary64) : Nat := (x.bits &&& 0xfffffffffffff).toNat

def isFinite (x : Binary64) : Bool := x.exponentField != 0x7ff

def isNaN (x : Binary64) : Bool := x.exponentField == 0x7ff && x.fractionField != 0

def isInfinite (x : Binary64) : Bool := x.exponentField == 0x7ff && x.fractionField == 0

/-- The whole number that the magnitude of a finite number is a power of two times. -/
def significand (x : Binary64) : Nat :=
  if x.exponentField = 0 then x.fractionField else x.fractionField + 0x10000000000000

/-- The power of two that belongs to `significand`. -/
def exponent (x : Binary64) : Int := (max x.exponentField 1 : Nat) - 1075

/-! ## Exact reading -/

/-- The magnitude of a finite number, when it is whole. -/
def wholeMagnitude? (x : Binary64) : Option Nat :=
  match x.exponent with
  | .ofNat e => some (x.significand * Nat.pow 2 e)
  | .negSucc e =>
    let unit := Nat.pow 2 (e + 1)
    if x.significand % unit = 0 then some (x.significand / unit) else none

/-- The value of a finite number, when it is whole. -/
def toInt? (x : Binary64) : Option Int :=
  if x.isFinite then
    x.wholeMagnitude?.map (fun m => if x.isNegative then -(m : Int) else (m : Int))
  else none

/-- A whole number as a 64-bit integer; beyond either end, the end. -/
def clampInt64 (i : Int) : Int64 :=
  if i < Int64.minValue.toInt then Int64.minValue
  else if i > Int64.maxValue.toInt then Int64.maxValue
  else Int64.ofInt i

/-! ## Rounded arithmetic -/

def ofFloat (f : Float) : Binary64 := ⟨f.toBits⟩

def toFloat (x : Binary64) : Float := Float.ofBits x.bits

/-- The number nearest to a 64-bit integer. -/
def ofInt64 (i : Int64) : Binary64 := ofFloat i.toFloat

def add (x y : Binary64) : Binary64 := ofFloat (x.toFloat + y.toFloat)

/-- Equality of values: zeros of both signs agree and a NaN differs from itself. -/
def sameValue (x y : Binary64) : Bool := x.toFloat == y.toFloat

def zero : Binary64 := ⟨0⟩

def negativeZero : Binary64 := ⟨0x8000000000000000⟩

example : (⟨0x4045000000000000⟩ : Binary64).toInt? = some 42 := by decide
example : (⟨0x3ff8000000000000⟩ : Binary64).toInt? = none := by decide
example : (⟨0x43e0000000000000⟩ : Binary64).toInt? = some 0x8000000000000000 := by decide
example : negativeZero.toInt? = some 0 := by decide +kernel

end Binary64

end EditorPlugins
