/-
  The floating-point number nearest to a ratio of natural numbers.

  A number is its significand times a unit that is a power of two.  `unitExponent` picks the unit
  in which a ratio has fifty-three binary digits, `roundDiv` counts the units, and the two together
  are the bits of the result: a count that reaches `2 ^ 53` carries into the exponent as it should.
-/
import EditorPlugins.Binary64

namespace EditorPlugins

/-- Division rounded to nearest, an exact half going to the even neighbour. -/
def roundDiv (n d : Nat) : Nat :=
  let q := n / d
  let r := n % d
  if 2 * r < d then q else if 2 * r > d then q + 1 else q + q % 2

namespace Binary64

def infinity : Binary64 := ⟨0x7ff0000000000000⟩

def negate (x : Binary64) : Binary64 := ⟨x.bits ^^^ 0x8000000000000000⟩

/-- The exponent of the smallest unit. -/
def leastExponent : Int := -1074

/-- Numerator and denominator of `n / d` counted in units of `2 ^ e`. -/
def inUnits (n d : Nat) (e : Int) : Nat × Nat :=
  if e < 0 then (n <<< e.natAbs, d) else (n, d <<< e.toNat)

/-- The exponent of the unit in which the positive ratio `n / d` has fifty-three binary digits, or
that of the smallest unit. -/
def unitExponent (n d : Nat) : Int :=
  let e : Int := (n.log2 : Int) - d.log2 - 53
  let (n', d') := inUnits n d e
  max (if n' / d' < 0x20000000000000 then e else e + 1) leastExponent

/-- The number nearest to `n / d`, a tie going to the even significand. -/
def ofRatio (n d : Nat) : Binary64 :=
  if n = 0 then zero
  else
    let e := unitExponent n d
    let (n', d') := inUnits n d e
    let bits := (e - leastExponent).toNat * 0x10000000000000 + roundDiv n' d'
    if bits < infinity.bits.toNat then ⟨bits.toUInt64⟩ else infinity

/-- No finite number is as large as `2 ^ maxPower`, none but zero as small as `2 ^ -maxPower`. -/
def maxPower : Nat := 1200

/-- The number nearest to `m · base ^ e`. -/
def ofScaled (m base : Nat) (e : Int) : Binary64 :=
  if m = 0 then zero
  else if e ≥ 0 then
    if e.toNat > maxPower then infinity else ofRatio (m * Nat.pow base e.toNat) 1
  else if e.natAbs > m.log2 + maxPower then zero
  else ofRatio m (Nat.pow base e.natAbs)

example : ofRatio 1 1 = ⟨0x3ff0000000000000⟩ := by decide +kernel
example : ofRatio 1 3 = ⟨0x3fd5555555555555⟩ := by decide +kernel
example : ofScaled 49 10 (-325) = ⟨1⟩ := by decide +kernel
example : ofScaled 24 10 (-325) = zero := by decide +kernel
example : ofScaled 17976931348623158 10 292 = ⟨0x7fefffffffffffff⟩ := by decide +kernel
example : ofScaled 2 10 308 = infinity := by decide +kernel

end Binary64

end EditorPlugins
