/-
  Numerals: the strings that scripts take for numbers.

  A numeral is decimal or, behind `0x`, hexadecimal; it may have a sign, a fraction and an exponent
  (`e` in powers of ten, `p` in powers of two), and blanks around it.  Without fraction and
  exponent it is a whole number: a hexadecimal one wraps at 64 bits, a decimal one that does not
  fit becomes a floating-point number.
-/
import EditorPlugins.Script.Syntax
import EditorPlugins.Binary64.Nearest

namespace EditorPlugins.Script

/-- A number of a script. -/
inductive Number where
  | integer (n : Int64)
  | float (x : Binary64)
deriving DecidableEq

namespace Number

def toFloat : Number → Binary64
  | integer n => .ofInt64 n
  | float x => x

/-- The sum: whole numbers wrap at 64 bits, all others are added as floating-point numbers. -/
def add : Number → Number → Number
  | integer m, integer n => .integer (m + n)
  | x, y => .float (x.toFloat.add y.toFloat)

/-- The number as a 64-bit integer, when it is one. -/
def toInt64? : Number → Option Int64
  | integer n => some n
  | float x => x.toInt?.bind int64?

end Number

namespace Numeral

/-! ## Bases -/

/-- A way of writing numbers. -/
structure Base where
  digit? : Char → Option Nat
  radix : Nat
  /-- The letters in front of an exponent. -/
  marks : List Char
  /-- What an exponent counts the powers of. -/
  scale : Nat
  /-- By how much the exponent falls with every digit of the fraction. -/
  placeExponent : Nat
  /-- Whether whole numbers wrap at 64 bits. -/
  wraps : Bool

def decimal : Base where
  digit? c := if Json.isDigit c then some (Json.digitValue c) else none
  radix := 10
  marks := ['e', 'E']
  scale := 10
  placeExponent := 1
  wraps := false

def hexadecimal : Base where
  digit? := Json.hexValue?
  radix := 16
  marks := ['p', 'P']
  scale := 2
  placeExponent := 4
  wraps := true

namespace Base

def isDigit (b : Base) (c : Char) : Bool := (b.digit? c).isSome

/-- The number that digits stand for. -/
def valueOf (b : Base) (ds : List Char) : Nat :=
  ds.foldl (fun n c => n * b.radix + (b.digit? c).getD 0) 0

/-- A numeral of digits alone. -/
def whole? (b : Base) (cs : List Char) : Option Nat :=
  if cs.isEmpty || !cs.all b.isDigit then none else some (b.valueOf cs)

end Base

/-- A sign at the beginning, and the rest. -/
def signed : List Char → Bool × List Char
  | '-' :: r => (true, r)
  | '+' :: r => (false, r)
  | r => (false, r)

/-- An exponent up to the end; none is zero. -/
def Base.exponent? (b : Base) : List Char → Option Int
  | [] => some 0
  | c :: r =>
    if b.marks.contains c then
      let (negative, r) := signed r
      (decimal.whole? r).map (fun n => if negative then -(n : Int) else n)
    else none

/-- A numeral that may have a fraction and an exponent. -/
def Base.magnitude? (b : Base) (cs : List Char) : Option Binary64 :=
  let whole := cs.takeWhile b.isDigit
  let (fraction, rest) := match cs.dropWhile b.isDigit with
    | '.' :: r => (r.takeWhile b.isDigit, r.dropWhile b.isDigit)
    | r => ([], r)
  if whole.isEmpty && fraction.isEmpty then none
  else
    (b.exponent? rest).map fun e =>
      Binary64.ofScaled (b.valueOf (whole ++ fraction)) b.scale
        (e - (b.placeExponent * fraction.length : Nat))

/-! ## Numerals -/

/-- A numeral without the blanks that may stand around it. -/
def trim (cs : List Char) : List Char := Text.trimBy Text.isAsciiBlank cs

/-- The base of a numeral without sign, and its digits. -/
def split : List Char → Base × List Char
  | '0' :: 'x' :: r | '0' :: 'X' :: r => (hexadecimal, r)
  | r => (decimal, r)

/-- The number that a numeral stands for. -/
def read? (cs : List Char) : Option Number :=
  let (negative, cs) := signed (trim cs)
  let (base, cs) := split cs
  let inexact : Option Number :=
    (base.magnitude? cs).map fun x => .float (if negative then x.negate else x)
  match base.whole? cs with
  | none => inexact
  | some n =>
    let n : Int := if negative then -(n : Int) else n
    if base.wraps then some (.integer (Int64.ofInt n))
    else
      match int64? n with
      | some n => some (.integer n)
      | none => inexact

/-- The whole number that a text of letters and digits spells in a base of at most thirty-six; it
wraps at 64 bits. -/
def readIn? (radix : Nat) (cs : List Char) : Option Int64 :=
  let digit? (c : Char) : Option Nat :=
    if Json.isDigit c then some (Json.digitValue c)
    else if c.isAlpha then some (c.toUpper.toNat - 0x41 + 10)
    else none
  let base : Base :=
    ⟨fun c => (digit? c).filter (fun d => d < radix), radix, [], radix, 1, true⟩
  let (negative, cs) := signed (trim cs)
  (base.whole? cs).map fun n => Int64.ofInt (if negative then -(n : Int) else n)

example : read? " -0x10 ".toList = some (.integer (-16)) := by decide +kernel
example : read? "1e+-2".toList = none := by decide +kernel
example : read? "0x.8p1".toList = some (.float ⟨0x3ff0000000000000⟩) := by decide +kernel
example : read? "9223372036854775808".toList = some (.float ⟨0x43e0000000000000⟩) := by
  decide +kernel
example : readIn? 16 "ff".toList = some 255 := by decide +kernel

end Numeral

end EditorPlugins.Script
