/-
  Reading bytes as text.

  `decode?` accepts valid UTF-8 only.  `decodeLossy` reads every byte string: each maximal run of
  bytes that begins a character but does not finish it, and each byte that begins none, is read
  as the replacement character U+FFFD.  On valid bytes the two agree (`decodeLossy_of_decode?`).
-/

namespace EditorPlugins.Text

/-- The text that the bytes encode, if they are valid UTF-8. -/
def decode? (b : ByteArray) : Option String := String.fromUTF8? b

/-- The bytes of a text. -/
def encode (s : String) : ByteArray := s.toUTF8

/-- A text is read back from its bytes. -/
theorem decode?_encode (s : String) : decode? (encode s) = some s := dif_pos s.isValidUTF8

/-! ## Reading with replacement -/

/-- A character that has begun: the bits read so far, the number of continuation bytes still to
come, and the range of the next one. -/
structure Pending where
  value : Nat
  remaining : Nat
  low : UInt8
  high : UInt8

/-- The character that stands for bytes which encode none. -/
def replacement : Char := '\uFFFD'

/-- Start a character: either it is complete (or unreadable), or it has to be continued.  The
ranges of the second byte exclude overlong forms, surrogates and values above U+10FFFF. -/
def Pending.start (b : UInt8) : Char ⊕ Pending :=
  let n := b.toNat
  if n < 0x80 then .inl (Char.ofNat n)
  else if 0xc2 ≤ n ∧ n ≤ 0xdf then .inr ⟨n - 0xc0, 1, 0x80, 0xbf⟩
  else if n = 0xe0 then .inr ⟨0, 2, 0xa0, 0xbf⟩
  else if n = 0xed then .inr ⟨0xd, 2, 0x80, 0x9f⟩
  else if 0xe1 ≤ n ∧ n ≤ 0xef then .inr ⟨n - 0xe0, 2, 0x80, 0xbf⟩
  else if n = 0xf0 then .inr ⟨0, 3, 0x90, 0xbf⟩
  else if 0xf1 ≤ n ∧ n ≤ 0xf3 then .inr ⟨n - 0xf0, 3, 0x80, 0xbf⟩
  else if n = 0xf4 then .inr ⟨4, 3, 0x80, 0x8f⟩
  else .inl replacement

/-- Read the rest of the bytes, with or without a character in progress. -/
def decodeFrom : Option Pending → List UInt8 → List Char
  | none, [] => []
  | some _, [] => [replacement]
  | none, b :: r =>
    match Pending.start b with
    | .inl c => c :: decodeFrom none r
    | .inr p => decodeFrom (some p) r
  | some p, b :: r =>
    if p.low ≤ b ∧ b ≤ p.high then
      let value := p.value * 64 + (b.toNat - 0x80)
      if p.remaining ≤ 1 then Char.ofNat value :: decodeFrom none r
      else decodeFrom (some ⟨value, p.remaining - 1, 0x80, 0xbf⟩) r
    else
      match Pending.start b with
      | .inl c => replacement :: c :: decodeFrom none r
      | .inr p' => replacement :: decodeFrom (some p') r

/-- The bytes as text, with U+FFFD in place of what is not valid UTF-8. -/
def decodeLossy (b : ByteArray) : String :=
  match decode? b with
  | some s => s
  | none => String.ofList (decodeFrom none b.data.toList)

theorem decodeLossy_of_decode? {b : ByteArray} {s : String} (h : decode? b = some s) :
    decodeLossy b = s := by simp [decodeLossy, h]

theorem decodeLossy_encode (s : String) : decodeLossy (encode s) = s :=
  decodeLossy_of_decode? (decode?_encode s)

example : decodeFrom none [0x61, 0xe2, 0x82, 0x62, 0xff, 0xe2, 0x82, 0xac]
    = ['a', '\uFFFD', 'b', '\uFFFD', '€'] := by decide

end EditorPlugins.Text
