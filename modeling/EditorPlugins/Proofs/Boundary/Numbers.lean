/-
  Numbers that cross the boundary, and what they stand for.

  A finite floating-point number stands for a rational number, its significand times a power of two
  (`Binary64.value?`).  The host gives such a number to a script as an integer when it is whole and
  lies within 64 bits, and reads a whole number as an integer where a capability wants one.

    program   `HostValue.importNumber`, `Arguments.integer?`
    spec      the number that arrives stands for the number that was sent
    crux      the largest 64-bit integer is no floating-point number; the bound that the program
              compares with is the next one, `2 ^ 63`, and a number is clamped without a word

  What is sent arrives with its value, with the one exception of `2 ^ 63`, which arrives as one
  less.  What is read as an integer is the argument if that lies within 64 bits, and else the end of
  the range next to it.

  Main statement: `numbers_cross`; `two63_altered` is a number that does not arrive.
-/
import Mathlib.Algebra.Order.Field.Basic
import Mathlib.Data.Rat.Cast.Order
import EditorPlugins.Boundary.Arguments

namespace EditorPlugins

open Script (Value Heap)

namespace Binary64

/-! ## What a number stands for -/

/-- The magnitude of a finite number. -/
def magnitude (x : Binary64) : ℚ := x.significand * (2 : ℚ) ^ x.exponent

/-- The rational number that a finite number stands for. -/
def value? (x : Binary64) : Option ℚ :=
  if x.isFinite then some (if x.isNegative then -x.magnitude else x.magnitude) else none

theorem magnitude_of_ofNat {x : Binary64} {e : Nat} (h : x.exponent = .ofNat e) :
    x.magnitude = (x.significand * Nat.pow 2 e : Nat) := by
  have hpow : (2 : ℚ) ^ (Int.ofNat e) = (Nat.pow 2 e : Nat) := by
    rw [Int.ofNat_eq_natCast, zpow_natCast]
    exact (Nat.cast_pow 2 e).symm
  unfold magnitude
  rw [h, hpow, Nat.cast_mul]

theorem magnitude_of_negSucc {x : Binary64} {e : Nat} (h : x.exponent = .negSucc e) :
    x.magnitude * (Nat.pow 2 (e + 1) : Nat) = x.significand := by
  have hpow : (2 : ℚ) ^ (Int.negSucc e) * (Nat.pow 2 (e + 1) : Nat) = 1 := by
    have hcast : ((Nat.pow 2 (e + 1) : Nat) : ℚ) = (2 : ℚ) ^ (e + 1) := Nat.cast_pow 2 (e + 1)
    have hne : (2 : ℚ) ^ (e + 1) ≠ 0 := pow_ne_zero _ two_ne_zero
    rw [zpow_negSucc, hcast]
    exact inv_mul_cancel₀ hne
  unfold magnitude
  rw [h, mul_assoc, hpow, mul_one]

/-- The whole magnitude is read exactly. -/
theorem wholeMagnitude?_eq_some {x : Binary64} {m : Nat} :
    x.wholeMagnitude? = some m ↔ x.magnitude = m := by
  unfold wholeMagnitude?
  cases hexponent : x.exponent with
  | ofNat e =>
    rw [magnitude_of_ofNat hexponent]
    dsimp only
    rw [Option.some_inj, Nat.cast_inj]
  | negSucc e =>
    have hunit : 0 < Nat.pow 2 (e + 1) := Nat.pow_pos (by decide)
    have hcast : ((Nat.pow 2 (e + 1) : Nat) : ℚ) ≠ 0 := Nat.cast_ne_zero.2 (Nat.ne_of_gt hunit)
    -- counted in units, both sides are whole
    have hcount : x.magnitude = m ↔ x.significand = m * Nat.pow 2 (e + 1) := by
      rw [← mul_left_inj' hcast, magnitude_of_negSucc hexponent, ← Nat.cast_mul, Nat.cast_inj]
    rw [hcount]
    dsimp only
    constructor
    · intro h
      split at h
      · rename_i hdivides
        cases h
        exact (Nat.div_mul_cancel (Nat.dvd_of_mod_eq_zero hdivides)).symm
      · cases h
    · intro h
      rw [h, if_pos (Nat.mul_mod_left m _), Nat.mul_div_cancel m hunit]

theorem magnitude_nonneg (x : Binary64) : 0 ≤ x.magnitude :=
  mul_nonneg (Nat.cast_nonneg _) (zpow_nonneg (by decide) _)

/-- A number that stands for a whole one has a whole magnitude. -/
theorem magnitude_of_value? {x : Binary64} {z : ℤ} (h : x.value? = some (z : ℚ)) :
    x.magnitude = z.natAbs := by
  have hnonneg := x.magnitude_nonneg
  have hsigned : x.magnitude = (z : ℚ) ∨ x.magnitude = ((-z : ℤ) : ℚ) := by
    unfold value? at h
    split at h
    · split at h
      · exact .inr (by rw [Int.cast_neg, ← Option.some.inj h, neg_neg])
      · exact .inl (Option.some.inj h)
    · cases h
  rcases hsigned with hz | hz
  · rw [hz] at hnonneg ⊢
    have habs : (z.natAbs : ℤ) = z := Int.natAbs_of_nonneg (Int.cast_nonneg_iff.1 hnonneg)
    rw [← Int.cast_natCast, habs]
  · rw [hz] at hnonneg ⊢
    have habs : (z.natAbs : ℤ) = -z := by
      have hle : 0 ≤ -z := Int.cast_nonneg_iff.1 hnonneg
      omega
    rw [← Int.cast_natCast, habs]

/-- **A whole number is read exactly**, and nothing else is read as one. -/
theorem toInt?_eq_some {x : Binary64} {z : ℤ} : x.toInt? = some z ↔ x.value? = some (z : ℚ) := by
  cases hwhole : x.wholeMagnitude? with
  | none =>
    refine iff_of_false (fun h => ?_) (fun h => ?_)
    · unfold toInt? at h
      rw [hwhole] at h
      split at h <;> cases h
    · rw [wholeMagnitude?_eq_some.2 (magnitude_of_value? h)] at hwhole
      cases hwhole
  | some m =>
    unfold toInt? value?
    rw [hwhole, wholeMagnitude?_eq_some.1 hwhole]
    cases x.isFinite with
    | false => exact iff_of_false nofun nofun
    | true =>
      rw [if_pos rfl, if_pos rfl]
      have hcast : (if x.isNegative = true then -(m : ℚ) else (m : ℚ))
          = ((if x.isNegative = true then -(m : ℤ) else (m : ℤ) : ℤ) : ℚ) := by
        cases x.isNegative with
        | true => exact ((Int.cast_neg _).trans (congrArg _ (Int.cast_natCast m))).symm
        | false => exact (Int.cast_natCast m).symm
      rw [hcast, Option.some_inj, Int.cast_inj]
      exact Option.some_inj

/-- A number within 64 bits is itself, and one beyond is the end of the range on its side. -/
theorem toInt_clampInt64 (z : ℤ) :
    (clampInt64 z).toInt = max Int64.minValue.toInt (min z Int64.maxValue.toInt) := by
  unfold clampInt64
  have hmin : Int64.minValue.toInt = -9223372036854775808 := rfl
  have hmax : Int64.maxValue.toInt = 9223372036854775807 := rfl
  split
  · omega
  · split
    · omega
    · rw [Int64.toInt_ofInt_of_le (by omega) (by omega)]
      omega

/-! ## The number that is no 64-bit integer -/

/-- The number `2 ^ 63`, one more than the largest 64-bit integer. -/
def two63 : Binary64 := ⟨0x43e0000000000000⟩

theorem toNat_exponentField (x : Binary64) :
    x.exponentField = x.bits.toNat / 0x10000000000000 % 2048 := by
  unfold exponentField
  rw [UInt64.toNat_and, UInt64.toNat_shiftRight]
  show x.bits.toNat >>> 52 &&& 2 ^ 11 - 1 = _
  rw [Nat.and_two_pow_sub_one_eq_mod, Nat.shiftRight_eq_div_pow]

theorem toNat_fractionField (x : Binary64) :
    x.fractionField = x.bits.toNat % 0x10000000000000 := by
  unfold fractionField
  rw [UInt64.toNat_and]
  show x.bits.toNat &&& 2 ^ 52 - 1 = _
  rw [Nat.and_two_pow_sub_one_eq_mod]

theorem isNegative_iff (x : Binary64) :
    x.isNegative = true ↔ x.bits.toNat / 0x8000000000000000 = 1 := by
  have hshift : (x.bits >>> 63).toNat = x.bits.toNat / 0x8000000000000000 := by
    rw [UInt64.toNat_shiftRight]
    exact Nat.shiftRight_eq_div_pow _ _
  unfold isNegative
  rw [← hshift, beq_iff_eq, ← UInt64.toNat_inj]
  rfl

/-- **The bits of a number are those of its fields.** -/
theorem toNat_bits (x : Binary64) : x.bits.toNat = (if x.isNegative then 0x8000000000000000 else 0)
    + x.exponentField * 0x10000000000000 + x.fractionField := by
  have hbits : x.bits.toNat < 0x10000000000000000 := x.bits.toNat_lt
  rw [x.toNat_exponentField, x.toNat_fractionField]
  split
  · rename_i hsign
    have hhigh := x.isNegative_iff.1 hsign
    omega
  · rename_i hsign
    have hlow := mt x.isNegative_iff.2 hsign
    omega

theorem fractionField_lt (x : Binary64) : x.fractionField < 0x10000000000000 := by
  rw [x.toNat_fractionField]
  omega

/-- A significand has fifty-three binary digits at most, -/
theorem significand_lt (x : Binary64) : x.significand < 0x20000000000000 := by
  have hfraction := x.fractionField_lt
  unfold significand
  split <;> omega

/-- and, where the unit is one or more, as many. -/
theorem significand_eq_of_ofNat {x : Binary64} {e : Nat} (h : x.exponent = .ofNat e) :
    x.exponentField = e + 1075 ∧ x.significand = x.fractionField + 0x10000000000000 := by
  unfold exponent at h
  rw [Int.ofNat_eq_natCast] at h
  have hfield : x.exponentField = e + 1075 := by omega
  unfold significand
  rw [if_neg (by omega)]
  exact ⟨hfield, rfl⟩

/-- Only one magnitude is `2 ^ 63`. -/
theorem fields_of_wholeMagnitude? {x : Binary64}
    (h : x.wholeMagnitude? = some 0x8000000000000000) :
    x.exponentField = 1086 ∧ x.fractionField = 0 := by
  have hlt := x.significand_lt
  unfold wholeMagnitude? at h
  cases hexponent : x.exponent with
  | negSucc e =>
    -- a significand that is divided is too small
    rw [hexponent] at h
    dsimp only at h
    split at h
    · have hquotient := Nat.div_le_self x.significand (Nat.pow 2 (e + 1))
      rw [Option.some.inj h] at hquotient
      omega
    · cases h
  | ofNat e =>
    obtain ⟨hfield, hsignificand⟩ := significand_eq_of_ofNat hexponent
    rw [hexponent] at h
    have hproduct : x.significand * Nat.pow 2 e = 0x8000000000000000 := Option.some.inj h
    rcases Nat.lt_trichotomy e 11 with hless | rfl | hmore
    · have hpow : Nat.pow 2 e ≤ Nat.pow 2 10 := Nat.pow_le_pow_right (by decide) (by omega)
      have hbound := Nat.mul_le_mul_left x.significand hpow
      rw [hproduct, show Nat.pow 2 10 = 1024 from rfl] at hbound
      omega
    · rw [show Nat.pow 2 11 = 2048 from rfl] at hproduct
      omega
    · have hpow : Nat.pow 2 12 ≤ Nat.pow 2 e := Nat.pow_le_pow_right (by decide) (by omega)
      have hbound := Nat.mul_le_mul_left x.significand hpow
      rw [hproduct, show Nat.pow 2 12 = 4096 from rfl] at hbound
      omega

/-- What is read as whole has a whole magnitude, and its sign. -/
theorem exists_of_toInt? {x : Binary64} {z : ℤ} (h : x.toInt? = some z) :
    ∃ m, x.wholeMagnitude? = some m ∧ z = if x.isNegative then -(m : ℤ) else m := by
  unfold toInt? at h
  split at h
  · cases hwhole : x.wholeMagnitude? with
    | none => rw [hwhole] at h; cases h
    | some m =>
      rw [hwhole] at h
      exact ⟨m, rfl, (Option.some.inj h).symm⟩
  · cases h

/-- **`2 ^ 63` is one number only.** -/
theorem toInt?_eq_two63 {x : Binary64} : x.toInt? = some 0x8000000000000000 ↔ x = two63 := by
  constructor
  · intro h
    obtain ⟨m, hwhole, hsigned⟩ := exists_of_toInt? h
    cases hsign : x.isNegative with
    | true =>
      rw [hsign, if_pos rfl] at hsigned
      omega
    | false =>
      rw [hsign, if_neg Bool.false_ne_true] at hsigned
      obtain rfl : m = 0x8000000000000000 := by omega
      obtain ⟨hexponent, hfraction⟩ := fields_of_wholeMagnitude? hwhole
      have hbits := x.toNat_bits
      rw [hsign, hexponent, hfraction] at hbits
      have hsame : x.bits = 0x43e0000000000000 := UInt64.toNat_inj.1 hbits
      exact congrArg Binary64.mk hsame
  · rintro rfl
    decide

end Binary64

/-! ## What arrives -/

/-- What a number of a script stands for. -/
def Script.Value.number? : Value → Option ℚ
  | .integer n => some n.toInt
  | .float x => x.value?
  | _ => none

namespace HostValue

/-- What a number of the host stands for. -/
def number? : HostValue → Option ℚ
  | .integer n => some n.toInt
  | .number x => x.value?
  | _ => none

/-- **A number that is given to a script** stands for what it stood for, but for `2 ^ 63`. -/
theorem number?_importNumber (x : Binary64) :
    (importNumber x).number? = x.value? ↔ x ≠ Binary64.two63 := by
  have hmin : Int64.minValue.toInt = -9223372036854775808 := rfl
  have hmax : Int64.maxValue.toInt = 9223372036854775807 := rfl
  unfold importNumber
  cases hwhole : x.toInt? with
  | none =>
    refine iff_of_true rfl fun htwo63 => ?_
    rw [Binary64.toInt?_eq_two63.2 htwo63] at hwhole
    cases hwhole
  | some z =>
    have hexception : x = Binary64.two63 ↔ z = 0x8000000000000000 := by
      rw [← Binary64.toInt?_eq_two63, hwhole, Option.some_inj]
    rw [Ne, hexception]
    dsimp only
    split
    · rename_i hwithin
      have hvalue : x.value? = some (z : ℚ) := Binary64.toInt?_eq_some.1 hwhole
      have hclamped := Binary64.toInt_clampInt64 z
      unfold Script.Value.number?
      rw [hvalue, Option.some_inj, Int.cast_inj]
      omega
    · rename_i hbeyond
      refine iff_of_true rfl ?_
      omega

end HostValue

namespace Arguments

/-- **A number that is read as an integer** has to be whole; one beyond 64 bits is taken for the end
of the range. -/
theorem integer?_of_number {a : Arguments} {n : Nat} (what : String) {v : HostValue}
    (hget : a.get? n = some v) (hnumber : v.typeName = "number") :
    (∀ z : ℤ, v.number? = some (z : ℚ) → ∃ i, a.integer? n what = .ok (some i) ∧
      i.toInt = max Int64.minValue.toInt (min z Int64.maxValue.toInt)) ∧
    ((∀ z : ℤ, v.number? ≠ some (z : ℚ)) →
      a.integer? n what = .error (a.mismatch n what "integer")) := by
  unfold integer?
  rw [hget]
  cases v with
  | integer i =>
    refine ⟨fun z hz => ⟨i, rfl, ?_⟩, fun hnone => absurd rfl (hnone i.toInt)⟩
    have hi : i.toInt = z := Int.cast_inj.1 (Option.some.inj hz)
    have hlow := i.minValue_le_toInt
    have hhigh := i.toInt_le
    omega
  | number x =>
    dsimp only
    constructor
    · intro z hz
      rw [Binary64.toInt?_eq_some.2 hz]
      exact ⟨_, rfl, Binary64.toInt_clampInt64 z⟩
    · intro hnone
      cases hwhole : x.toInt? with
      | none => rfl
      | some z => exact absurd (Binary64.toInt?_eq_some.1 hwhole) (hnone z)
  | _ => simp [HostValue.typeName] at hnumber

end Arguments

/-! ## Both ways -/

/-- **Numbers that cross the boundary.**  A number of the host, given to a script, stands for what
it stood for if and only if it is not `2 ^ 63`.  A number that a capability reads as an integer is
read if and only if it is whole, and is read exactly if and only if it lies within 64 bits; beyond them
the integer is the end of the range that is next to it. -/
theorem numbers_cross (x : Binary64) (h : Heap) (a : Arguments) (n : Nat) (what : String) :
    (((HostValue.number x).importValue h).1.number? = x.value? ↔ x ≠ Binary64.two63) ∧
    ∀ v, a.get? n = some v → v.typeName = "number" →
      (∀ z : ℤ, v.number? = some (z : ℚ) → ∃ i, a.integer? n what = .ok (some i) ∧
        (i.toInt = z ↔ Int64.minValue.toInt ≤ z ∧ z ≤ Int64.maxValue.toInt) ∧
        i.toInt = max Int64.minValue.toInt (min z Int64.maxValue.toInt)) ∧
      ((∀ z : ℤ, v.number? ≠ some (z : ℚ)) →
        a.integer? n what = .error (a.mismatch n what "integer")) := by
  refine ⟨HostValue.number?_importNumber x, fun v hget hnumber => ?_⟩
  obtain ⟨hwhole, hother⟩ := Arguments.integer?_of_number what hget hnumber
  refine ⟨fun z hz => ?_, hother⟩
  obtain ⟨i, hi, hclamped⟩ := hwhole z hz
  have hmin : Int64.minValue.toInt = -9223372036854775808 := rfl
  have hmax : Int64.maxValue.toInt = 9223372036854775807 := rfl
  exact ⟨i, hi, by omega, hclamped⟩

/-- A choice is asked for with the number three as its default, and with one and a half. -/
theorem three_crosses :
    let three : Binary64 := ⟨0x4008000000000000⟩
    let half : Binary64 := ⟨0x3ff8000000000000⟩
    let a : Arguments := ⟨"ui.select", [.number three, .number half]⟩
    ((HostValue.number three).importValue default).1.number? = three.value? ∧
      three.value? = some ((3 : ℤ) : ℚ) ∧
      (∃ i, a.integer? 1 "default" = .ok (some i) ∧ i.toInt = 3) ∧
      a.integer? 2 "default" = .error (a.mismatch 2 "default" "integer") := by
  intro three half a
  obtain ⟨hgiven, hfirst⟩ := numbers_cross three default a 1 "default"
  obtain ⟨-, hsecond⟩ := numbers_cross half default a 2 "default"
  have hthree : three.value? = some ((3 : ℤ) : ℚ) := Binary64.toInt?_eq_some.1 (by decide)
  have hhalf : half.toInt? = none := by decide
  obtain ⟨hwhole, -⟩ := hfirst (.number three) rfl rfl
  obtain ⟨-, hother⟩ := hsecond (.number half) rfl rfl
  obtain ⟨i, hi, hexact, -⟩ := hwhole 3 hthree
  refine ⟨hgiven.2 (by decide), hthree, ⟨i, hi, hexact.2 (by decide)⟩, ?_⟩
  refine hother fun z hz => ?_
  rw [Binary64.toInt?_eq_some.2 hz] at hhalf
  cases hhalf

/-- **One more than the largest 64-bit integer does not cross.**  A script gets one less, and a
capability that wants an integer takes it for one less, too. -/
theorem two63_altered :
    let a : Arguments := ⟨"ui.select", [.number Binary64.two63]⟩
    Binary64.two63.value? = some ((9223372036854775808 : ℤ) : ℚ) ∧
      ((HostValue.number Binary64.two63).importValue default).1.number?
        = some ((9223372036854775807 : ℤ) : ℚ) ∧
      a.integer? 1 "default" = .ok (some Int64.maxValue) ∧
      Int64.maxValue.toInt = 9223372036854775807 := by
  intro a
  have hwhole : Binary64.two63.toInt? = some 0x8000000000000000 := by decide
  have hgiven : HostValue.importNumber Binary64.two63 = .integer Int64.maxValue := rfl
  have hread : a.integer? 1 "default" = .ok (some Int64.maxValue) := rfl
  exact ⟨Binary64.toInt?_eq_some.1 hwhole, congrArg Script.Value.number? hgiven, hread, rfl⟩

end EditorPlugins
