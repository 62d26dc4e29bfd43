/-
  The order of texts is the order of their bytes.

  Texts are compared character by character, by code points; keys are promised in the order of their
  bytes.  UTF-8 is made so that both are the same.  The first byte tells how many follow, and more
  for a greater one; among encodings of one length the bytes are the digits of the code point, the
  highest first.  So of two characters the smaller has the smaller encoding, whatever comes after
  the two (`encodeChar_lt`), and the first characters that differ decide in both orders.

  Main statement: `lt_iff_bytes_lt`.
-/
import Mathlib.Tactic.SplitIfs
import EditorPlugins.Text.Utf8

namespace EditorPlugins.Text

theorem data_encode (s : String) :
    (encode s).data.toList = s.toList.flatMap String.utf8EncodeChar := by
  show s.toByteArray.data.toList = _
  rw [← String.utf8Encode_toList]
  exact congrArg Array.toList (List.data_toByteArray)

/-! ## Characters -/

/-- The first bytes that differ decide. -/
theorem cons_ofNat_lt {a b : Nat} {as bs : List UInt8} (hb : b < 256)
    (h : a < b ∨ a = b ∧ as < bs) : UInt8.ofNat a :: as < UInt8.ofNat b :: bs := by
  rcases h with hlt | ⟨rfl, hrest⟩
  · refine List.cons_lt_cons_iff.2 (.inl (UInt8.lt_iff_toNat_lt.2 ?_))
    rwa [UInt8.toNat_ofNat_of_lt' (Nat.lt_trans hlt hb), UInt8.toNat_ofNat_of_lt' hb]
  · exact List.cons_lt_cons_iff.2 (.inr ⟨rfl, hrest⟩)

/-- Of two numbers with the same digits above one, the greater has the greater digit there, or the
same and is greater below. -/
theorem cons_digit_lt {v w size base lead : Nat} {as bs : List UInt8} (h : v < w)
    (habove : v / size / base = w / size / base) (hbase : 0 < base) (hlead : base + lead ≤ 256)
    (hbelow : v / size = w / size → as < bs) :
    UInt8.ofNat (v / size % base + lead) :: as < UInt8.ofNat (w / size % base + lead) :: bs := by
  have hle : v / size ≤ w / size := Nat.div_le_div_right (Nat.le_of_lt h)
  have hdigit : w / size % base < base := Nat.mod_lt _ hbase
  have hv := Nat.div_add_mod (v / size) base
  have hw := Nat.div_add_mod (w / size) base
  rw [habove] at hv
  refine cons_ofNat_lt (by omega) ?_
  rcases Nat.lt_or_eq_of_le hle with hlt | heq
  · exact .inl (by omega)
  · exact .inr ⟨by rw [heq], hbelow heq⟩

/-- The lowest digit decides if those above are the same. -/
theorem cons_lowest_lt {v w : Nat} {as bs : List UInt8} (h : v < w) (habove : v / 64 = w / 64) :
    UInt8.ofNat (v % 64 + 128) :: as < UInt8.ofNat (w % 64 + 128) :: bs :=
  cons_ofNat_lt (by omega) (.inl (by omega))

/-- **Of two characters the smaller has the smaller encoding**, and not as a beginning of the other
one. -/
theorem encodeChar_lt {c d : Char} (h : c < d) (after after' : List UInt8) :
    String.utf8EncodeChar c ++ after < String.utf8EncodeChar d ++ after' := by
  have hlt : c.val.toNat < d.val.toNat := UInt32.lt_iff_toNat_lt.1 h
  have hd : d.val.toNat < 1114112 := by
    rcases d.valid with hlow | ⟨-, hhigh⟩
    · exact Nat.lt_trans hlow (by decide)
    · exact hhigh
  unfold String.utf8EncodeChar
  generalize c.val.toNat = v at hlt
  generalize d.val.toNat = w at hlt hd
  dsimp only
  -- a longer encoding has a greater first byte, and none is shorter than that of the smaller one
  split_ifs <;> first
    | omega
    | exact cons_ofNat_lt (by omega) (.inl (by omega))
    | skip
  · -- two bytes each
    refine cons_digit_lt hlt (by omega) (by decide) (by decide) fun hfirst => ?_
    exact cons_lowest_lt hlt hfirst
  · -- three
    refine cons_digit_lt hlt (by omega) (by decide) (by decide) fun hfirst => ?_
    refine cons_digit_lt hlt (by omega) (by decide) (by decide) fun hsecond => ?_
    exact cons_lowest_lt hlt hsecond
  · -- four
    refine cons_digit_lt hlt (by omega) (by decide) (by decide) fun hfirst => ?_
    refine cons_digit_lt hlt (by omega) (by decide) (by decide) fun hsecond => ?_
    refine cons_digit_lt hlt (by omega) (by decide) (by decide) fun hthird => ?_
    exact cons_lowest_lt hlt hthird

/-! ## Texts -/

theorem flatMap_lt {l m : List Char} (h : l < m) :
    l.flatMap String.utf8EncodeChar < m.flatMap String.utf8EncodeChar := by
  induction h with
  | @nil c m =>
    rw [List.flatMap_nil, List.flatMap_cons]
    cases hc : String.utf8EncodeChar c with
    | nil => exact absurd hc String.utf8EncodeChar_ne_nil
    | cons b rest => exact List.nil_lt_cons b _
  | @rel c l d m hcd =>
    rw [List.flatMap_cons, List.flatMap_cons]
    exact encodeChar_lt hcd _ _
  | @cons c l m _ ih =>
    rw [List.flatMap_cons, List.flatMap_cons]
    exact List.append_left_lt ih

/-- **Texts are in the order of their bytes.** -/
theorem lt_iff_bytes_lt {a b : String} :
    a < b ↔ (encode a).data.toList < (encode b).data.toList := by
  rw [data_encode, data_encode]
  constructor
  · exact fun h => flatMap_lt h
  · intro h
    rcases Std.lt_trichotomy a b with hlt | rfl | hgt
    · exact hlt
    · exact absurd h (List.lt_irrefl _)
    · exact absurd (flatMap_lt hgt) (List.lt_asymm h)

end EditorPlugins.Text
