/-
  The written forms of numbers.

  * `Binary64.positional`: shortest digits, a tie going up, never an exponent (`1e21` is written
    out in full);
  * `Binary64.scientific`: shortest digits, a tie going to the even one, positional between
    `10 ^ -5` and `10 ^ 16`, always with a fraction or a signed exponent;
  * `Binary64.general`: fourteen significant digits without trailing zeros, an exponent of at
    least two digits when it is below -4 or above 13.
-/
import EditorPlugins.Decimal.Digits

namespace EditorPlugins.Binary64

/-! ## Pieces -/

private def zeros (n : Nat) : List Char := List.replicate n '0'

private def signed (x : Binary64) (cs : List Char) : String :=
  String.ofList (if x.isNegative then '-' :: cs else cs)

/-- The digits with a point after the first `n` of them; `n` is at least one and below their
count. -/
private def pointAfter (n : Nat) (ds : List Char) : List Char := ds.take n ++ '.' :: ds.drop n

/-- An exponent with its sign, written with at least `width` digits. -/
private def exponentText (width : Nat) (e : Int) : List Char :=
  let ds := Decimal.digits e.natAbs
  (if e < 0 then '-' else '+') :: zeros (width - ds.length) ++ ds

/-! ## Positional -/

/-- The shortest decimal, written out without an exponent. -/
def positional (x : Binary64) : String :=
  if x.isNaN then "NaN"
  else if x.isInfinite then signed x "inf".toList
  else if x.significand = 0 then signed x ['0']
  else
    let d := Decimal.shortest .up x
    let ds := Decimal.digits d.coefficient
    let point := (ds.length : Int) + d.power
    signed x <|
      if d.power ≥ 0 then ds ++ zeros d.power.toNat
      else if point > 0 then pointAfter point.toNat ds
      else '0' :: '.' :: zeros (-point).toNat ++ ds

/-! ## Scientific -/

/-- The shortest decimal, with an exponent when it is very large or very small. -/
def scientific (x : Binary64) : String :=
  if x.significand = 0 then signed x "0.0".toList
  else
    let d := Decimal.shortest .toEven x
    let ds := Decimal.digits d.coefficient
    let point := (ds.length : Int) + d.power
    signed x <|
      if d.power ≥ 0 ∧ point ≤ 16 then ds ++ zeros d.power.toNat ++ ['.', '0']
      else if 0 < point ∧ point ≤ 16 then pointAfter point.toNat ds
      else if -5 < point ∧ point ≤ 0 then '0' :: '.' :: zeros (-point).toNat ++ ds
      else
        let mantissa := if ds.length ≤ 1 then ds else pointAfter 1 ds
        mantissa ++ 'e' :: exponentText 1 (point - 1)

/-! ## General -/

private def dropTrailingZeros (ds : List Char) : List Char :=
  (ds.reverse.dropWhile (· = '0')).reverse

/-- Fourteen significant digits, trailing zeros dropped. -/
def general (x : Binary64) : String :=
  if x.isNaN then signed x "nan".toList
  else if x.isInfinite then signed x "inf".toList
  else if x.significand = 0 then signed x ['0']
  else
    let (c, lead) := Decimal.rounded x 14
    let ds := Decimal.digits c
    signed x <|
      if lead < -4 ∨ lead ≥ 14 then
        let significant := dropTrailingZeros ds
        let mantissa := if significant.length ≤ 1 then significant else pointAfter 1 significant
        mantissa ++ 'e' :: exponentText 2 lead
      else if lead ≥ 0 then
        let whole := ds.take (lead.toNat + 1)
        let fraction := dropTrailingZeros (ds.drop (lead.toNat + 1))
        if fraction.isEmpty then whole else whole ++ '.' :: fraction
      else
        '0' :: '.' :: zeros (lead.natAbs - 1) ++ dropTrailingZeros ds

end EditorPlugins.Binary64
