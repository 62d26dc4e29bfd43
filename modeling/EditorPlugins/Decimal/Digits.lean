/-
  Decimal digits of a binary number.

  Every finite 64-bit number is a WHOLE number of units of `10 ^ -1076`, and so is the midpoint
  between it and either neighbour.  On that grid all questions about decimal digits become
  questions about natural numbers: the shortest decimal that reads back is the coarsest grid with
  a point inside the rounding interval, and rounding to a given count of digits is one division.
-/
import EditorPlugins.Binary64.Nearest

namespace EditorPlugins

/-- The decimal number `coefficient · 10 ^ power`. -/
structure Decimal where
  coefficient : Nat
  power : Int
deriving DecidableEq

namespace Decimal

/-! ## The common grid -/

/-- The grid is `10 ^ -gridPower`. -/
def gridPower : Nat := 1076

/-- `m · 2 ^ (e - 2)` on the grid; `e ≥ -1074`, so the exponent of two is never below the grid's. -/
def onGrid (m : Nat) (e : Int) : Nat :=
  let shift := (e - 2 + gridPower).toNat
  m * Nat.pow 2 shift * Nat.pow 5 gridPower

/-- The count of decimal digits of a number; zero has none. -/
def digitCount (n : Nat) : Nat := if n = 0 then 0 else (Nat.toDigits 10 n).length

/-- Without the zeros at the end; at most `fuel` of them. -/
def dropZeros : Nat → Nat → Int → Decimal
  | 0, c, p => ⟨c, p⟩
  | fuel + 1, c, p => if c ≠ 0 ∧ c % 10 = 0 then dropZeros fuel (c / 10) (p + 1) else ⟨c, p⟩

/-! ## The shortest decimal that reads back -/

/-- The numbers on the grid that round to one binary number. -/
structure Interval where
  low : Nat
  high : Nat
  closed : Bool

def Interval.contains (i : Interval) (n : Nat) : Bool :=
  if i.closed then i.low ≤ n && n ≤ i.high else i.low < n && n < i.high

/-- The numbers that round to `x`: up to the midpoints to the neighbours, which belong to it when
its significand is even.  Below a power of two the neighbours lie half as far apart. -/
def Interval.around (x : Binary64) : Interval :=
  let m := x.significand
  let below := if x.fractionField = 0 ∧ 1 < x.exponentField then 1 else 2
  ⟨onGrid (4 * m - below) x.exponent, onGrid (4 * m + 2) x.exponent, m % 2 == 0⟩

/-- Where a number goes that lies halfway between two candidates. -/
inductive Tie where
  /-- To the one whose last digit is even. -/
  | toEven
  /-- To the larger magnitude. -/
  | up
deriving DecidableEq

/-- Of the multiples `below` and `below + 1` of `step` the one that is nearer to `v`, which lies
between them. -/
def nearer (tie : Tie) (v step below : Nat) : Nat :=
  let r := v % step
  if 2 * r < step then below
  else if 2 * r > step then below + 1
  else match tie with
    | .toEven => below + below % 2
    | .up => below + 1

/-- The multiple of `step` in the interval that is nearest to `v`, tried on the two multiples
around `v`. -/
def nearestMultiple (tie : Tie) (i : Interval) (v step : Nat) : Option Nat :=
  let below := v / step
  let inBelow := i.contains (below * step)
  let inAbove := i.contains ((below + 1) * step)
  if inBelow && inAbove then some (nearer tie v step below)
  else if inBelow then some below
  else if inAbove then some (below + 1)
  else none

/-- Try ever finer grids, from `n` digits below the leading one of a number of `length` digits. -/
def shortestFrom (tie : Tie) (i : Interval) (v length : Nat) : Nat → Nat → Decimal
  | 0, _ => ⟨v, -(gridPower : Int)⟩
  | fuel + 1, n =>
    match nearestMultiple tie i v (Nat.pow 10 (length - n)) with
    | some c => dropZeros 20 c ((length - n : Nat) - (gridPower : Int))
    | none => shortestFrom tie i v length fuel (n + 1)

/-- The decimal with the fewest digits that reads back as the magnitude of `x`, the nearest of
those with that many; `x` is finite and not zero.  Seventeen digits always suffice. -/
def shortest (tie : Tie) (x : Binary64) : Decimal :=
  let v := onGrid (4 * x.significand) x.exponent
  shortestFrom tie (Interval.around x) v (digitCount v) 17 1

/-! ## A given count of digits -/

/-- The magnitude of `x` rounded to `count` digits, with the exponent of the leading one. -/
def rounded (x : Binary64) (count : Nat) : Nat × Int :=
  let v := onGrid (4 * x.significand) x.exponent
  let length := digitCount v
  let c := roundDiv v (Nat.pow 10 (length - count))
  let lead := (length : Int) - 1 - gridPower
  if c = Nat.pow 10 count then (Nat.pow 10 (count - 1), lead + 1) else (c, lead)

/-- The digits of a number, leading one first. -/
def digits (n : Nat) : List Char := Nat.toDigits 10 n

end Decimal

end EditorPlugins
