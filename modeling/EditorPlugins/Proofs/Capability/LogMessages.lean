/-
  Log messages and the mark of what was cut off.

  A message is cleaned, control characters other than line ends and tabs are taken away, and what
  is left is cut to the most characters.  That something was cut off is told by a mark at the end,
  but whether to put it there is decided by the length of the message as it came.  So there are
  three kinds of messages.  A short one is short when it is cleaned; one that is too long even then
  is cut and marked; and one that is too long only for the characters that are taken away keeps all
  others and is marked nevertheless.

  Main statement: `sanitizeLog_exact`; `crlf_marked` is a message of the third kind.
-/
import EditorPlugins.Capability.Action

namespace EditorPlugins

namespace LogMessage

/-- The characters that a message does not keep. -/
def IsStripped (c : Char) : Prop := Text.isControl c = true ∧ c ≠ '\n' ∧ c ≠ '\t'

instance (c : Char) : Decidable (IsStripped c) := inferInstanceAs (Decidable (_ ∧ _ ∧ _))

/-- The characters that a message keeps, if it is short enough. -/
def cleaned (s : String) : List Char := s.toList.filter (¬ IsStripped ·)

/-- The mark of what was cut off. -/
def mark : String := "… (truncated)"

/-- What there should be of a cleaned message: all of it, or as much as is allowed and the mark. -/
def shortened (cs : List Char) : String :=
  if cs.length ≤ maxLogLength then String.ofList cs
  else String.ofList (cs.take maxLogLength) ++ mark

theorem length_cleaned_le (s : String) : (cleaned s).length ≤ s.length := by
  rw [← String.length_toList]
  exact List.length_filter_le _ _

/-- A mark makes a message another one. -/
theorem ne_append_mark (s : String) : s ++ mark ≠ s := by
  intro h
  have hlength := congrArg String.length h
  rw [String.length_append] at hlength
  have hmark : mark.length = 13 := by decide
  omega

end LogMessage

open LogMessage

theorem sanitizeLog_eq (s : String) : sanitizeLog s
    = if s.length ≤ maxLogLength then String.ofList ((cleaned s).take maxLogLength)
      else String.ofList ((cleaned s).take maxLogLength) ++ mark := by
  have hkept : s.toList.filter (fun c => !Text.isControl c || c = '\n' || c = '\t')
      = cleaned s := by
    refine List.filter_congr fun c _ => ?_
    rw [Bool.eq_iff_iff]
    simp only [IsStripped, Bool.or_eq_true, Bool.not_eq_true', decide_eq_true_eq, not_and,
      Decidable.not_not]
    by_cases hline : c = '\n' <;> by_cases htab : c = '\t' <;> simp [hline, htab]
  unfold sanitizeLog
  rw [hkept, String.length_toList]
  by_cases hshort : s.length ≤ maxLogLength
  · rw [if_pos hshort]
    exact if_neg (Nat.not_lt.2 hshort)
  · rw [if_neg hshort]
    exact if_pos (Nat.lt_of_not_le hshort)

/-- **What becomes of a message.**  It is what it should be, the cleaned message, cut and marked if
and only if it is too long, unless the message was too long and is not when it is cleaned.  Then
nothing is cut off and the mark is there all the same. -/
theorem sanitizeLog_exact (s : String) :
    (sanitizeLog s = shortened (cleaned s) ↔
      s.length ≤ maxLogLength ∨ maxLogLength < (cleaned s).length) ∧
    (maxLogLength < s.length → (cleaned s).length ≤ maxLogLength →
      sanitizeLog s = String.ofList (cleaned s) ++ mark) := by
  have hle := length_cleaned_le s
  have hmarked : maxLogLength < s.length → (cleaned s).length ≤ maxLogLength →
      sanitizeLog s = String.ofList (cleaned s) ++ mark := by
    intro hlong hkept
    rw [sanitizeLog_eq, if_neg (Nat.not_le.2 hlong), List.take_of_length_le hkept]
  refine ⟨⟨fun heq => ?_, ?_⟩, hmarked⟩
  · refine Decidable.byContradiction fun hneither => ?_
    obtain ⟨hlong, hkept⟩ := not_or.1 hneither
    have hkept := Nat.not_lt.1 hkept
    rw [hmarked (Nat.lt_of_not_le hlong) hkept, shortened, if_pos hkept] at heq
    exact ne_append_mark _ heq
  · rintro (hshort | hcut)
    · have hkept := Nat.le_trans hle hshort
      rw [sanitizeLog_eq, if_pos hshort, shortened, if_pos hkept, List.take_of_length_le hkept]
    · have hlong := Nat.lt_of_lt_of_le hcut hle
      rw [sanitizeLog_eq, if_neg (Nat.not_le.2 hlong), shortened, if_neg (Nat.not_le.2 hcut)]

/-- As many characters as are allowed, and a carriage return. -/
def LogMessage.crlf : String := String.ofList (List.replicate maxLogLength 'x' ++ ['\r'])

/-- Nothing is cut off, and the message is marked. -/
theorem crlf_marked : (cleaned crlf).length = maxLogLength ∧
    sanitizeLog crlf = String.ofList (cleaned crlf) ++ mark ∧
    sanitizeLog crlf ≠ shortened (cleaned crlf) := by
  have hcleaned : cleaned crlf = List.replicate maxLogLength 'x' := by
    unfold cleaned crlf
    rw [String.toList_ofList, List.filter_append, List.filter_replicate,
      if_pos (by decide), List.filter_cons_of_neg (by decide), List.filter_nil, List.append_nil]
  have hlength : (cleaned crlf).length = maxLogLength := by
    rw [hcleaned, List.length_replicate]
  have hlong : ¬ crlf.length ≤ maxLogLength := by
    unfold crlf
    rw [← String.length_toList, String.toList_ofList, List.length_append, List.length_replicate]
    exact Nat.not_succ_le_self _
  have hmarked : sanitizeLog crlf = String.ofList (cleaned crlf) ++ mark := by
    rw [sanitizeLog_eq, if_neg hlong, List.take_of_length_le (Nat.le_of_eq hlength)]
  refine ⟨hlength, hmarked, ?_⟩
  rw [hmarked, shortened, if_pos (Nat.le_of_eq hlength)]
  exact ne_append_mark _

end EditorPlugins
