/-
  Objects of texts read back as they were written.

  What is written for a text is escaped character by character; the reader undoes it character by
  character, whatever follows.  The fields of an object come one a line, and the reader passes over
  the line breaks.  The fuel of the reader counts characters, so there is always enough of it.

  Main statement: `parse_pretty_ofDict`, for dictionaries with any keys and any texts.
-/
import EditorPlugins.Json.Parser
import EditorPlugins.Json.Printer

namespace EditorPlugins

namespace Json

/-! ## Texts -/

theorem hexValue?_hexDigit {n : Nat} (h : n < 16) : hexValue? (hexDigit n) = some n := by
  revert n
  decide

/-- A character that is escaped with a number is below the first printing one. -/
theorem readCodePoint_hexDigits {c : Char} (h : c.toNat < 0x20) (r : List Char) :
    readCodePoint ('0' :: '0' :: hexDigit (c.toNat / 16) :: hexDigit (c.toNat % 16) :: r)
      = .ok (c, r) := by
  have hhigh : hexValue? (hexDigit (c.toNat / 16)) = some (c.toNat / 16) :=
    hexValue?_hexDigit (by omega)
  have hlow : hexValue? (hexDigit (c.toNat % 16)) = some (c.toNat % 16) :=
    hexValue?_hexDigit (by omega)
  have hzero : hexValue? '0' = some 0 := by decide
  have hvalue : ((0 * 16 + 0) * 16 + c.toNat / 16) * 16 + c.toNat % 16 = c.toNat := by omega
  have hread : readHex ('0' :: '0' :: hexDigit (c.toNat / 16) :: hexDigit (c.toNat % 16) :: r)
      = .ok (c.toNat, r) := by
    simp only [readHex, hzero, hhigh, hlow, hvalue]
  have hsmall : ¬ (0xdc00 ≤ c.toNat ∧ c.toNat ≤ 0xdfff) := by omega
  have hsmall' : ¬ (0xd800 ≤ c.toNat ∧ c.toNat ≤ 0xdbff) := by omega
  simp only [readCodePoint, hread, if_neg hsmall, if_neg hsmall', Char.ofNat_toNat]

/-- A character is written as an escape that reads back, or it stands for itself. -/
theorem escapeChar_cases (c : Char) :
    (∃ e, escapeChar c = '\\' :: e ∧ ∀ r, readEscape (e ++ r) = .ok (c, r)) ∨
    (escapeChar c = [c] ∧ c ≠ '"' ∧ c ≠ '\\' ∧ ¬ c.toNat < 0x20) := by
  -- seven characters have an escape of their own
  by_cases hquote : c = '"'
  · subst hquote; exact .inl ⟨['"'], rfl, fun _ => rfl⟩
  by_cases hbackslash : c = '\\'
  · subst hbackslash; exact .inl ⟨['\\'], rfl, fun _ => rfl⟩
  by_cases hb : c = '\x08'
  · subst hb; exact .inl ⟨['b'], rfl, fun _ => rfl⟩
  by_cases ht : c = '\t'
  · subst ht; exact .inl ⟨['t'], rfl, fun _ => rfl⟩
  by_cases hn : c = '\n'
  · subst hn; exact .inl ⟨['n'], rfl, fun _ => rfl⟩
  by_cases hf : c = '\x0c'
  · subst hf; exact .inl ⟨['f'], rfl, fun _ => rfl⟩
  by_cases hr : c = '\r'
  · subst hr; exact .inl ⟨['r'], rfl, fun _ => rfl⟩
  by_cases hsmall : c.toNat < 0x20
  · refine .inl ⟨['u', '0', '0', hexDigit (c.toNat / 16), hexDigit (c.toNat % 16)], ?_, ?_⟩
    · simp only [escapeChar, if_neg hquote, if_neg hbackslash, if_neg hb, if_neg ht, if_neg hn,
        if_neg hf, if_neg hr, if_pos hsmall]
    · exact fun r => readCodePoint_hexDigits hsmall r
  · refine .inr ⟨?_, hquote, hbackslash, hsmall⟩
    simp only [escapeChar, if_neg hquote, if_neg hbackslash, if_neg hb, if_neg ht, if_neg hn,
      if_neg hf, if_neg hr, if_neg hsmall]

/-- **One character of a text reads back**, whatever follows it. -/
theorem readText_escapeChar (c : Char) (fuel : Nat) (acc r : List Char) :
    readText (fuel + 1) acc (escapeChar c ++ r) = readText fuel (c :: acc) r := by
  rcases escapeChar_cases c with ⟨e, hescape, hread⟩ | ⟨hplain, hquote, hbackslash, hlarge⟩
  · rw [hescape, List.cons_append]
    simp only [readText, hread]
  · rw [hplain, List.singleton_append]
    simp only [readText, if_neg hlarge]

theorem length_le_flatMap_escapeChar (cs : List Char) :
    cs.length ≤ (cs.flatMap escapeChar).length := by
  induction cs with
  | nil => exact Nat.le_refl _
  | cons c cs ih =>
    have hpos : 0 < (escapeChar c).length := by
      rcases escapeChar_cases c with ⟨e, hescape, -⟩ | ⟨hplain, -⟩
      · rw [hescape]; exact Nat.succ_pos _
      · rw [hplain]; exact Nat.succ_pos _
    rw [List.flatMap_cons, List.length_append, List.length_cons]
    omega

theorem readText_flatMap (cs : List Char) {fuel : Nat} (hfuel : cs.length < fuel)
    (acc r : List Char) :
    readText fuel acc (cs.flatMap escapeChar ++ '"' :: r)
      = .ok (String.ofList (acc.reverse ++ cs), r) := by
  induction cs generalizing fuel acc with
  | nil =>
    obtain ⟨fuel, rfl⟩ := Nat.exists_eq_succ_of_ne_zero (Nat.ne_of_gt hfuel)
    rw [List.append_nil]
    rfl
  | cons c cs ih =>
    obtain ⟨fuel, rfl⟩ := Nat.exists_eq_succ_of_ne_zero (Nat.ne_of_gt (Nat.zero_lt_of_lt hfuel))
    rw [List.flatMap_cons, List.append_assoc, readText_escapeChar,
      ih (Nat.lt_of_succ_lt_succ hfuel)]
    rw [List.reverse_cons, List.append_assoc, List.singleton_append]

/-- **A text reads back**, with the fuel that the reader takes for what is left. -/
theorem readText_writeText (s : String) (r : List Char) :
    ∃ body, writeText s ++ r = '"' :: body ∧ readText (body.length + 1) [] body = .ok (s, r) := by
  refine ⟨s.toList.flatMap escapeChar ++ '"' :: r, ?_, ?_⟩
  · show '"' :: ((s.toList.flatMap escapeChar ++ ['"']) ++ r) = _
    rw [List.append_assoc, List.singleton_append]
  · rw [readText_flatMap, List.reverse_nil, List.nil_append, String.ofList_toList]
    have hlength := length_le_flatMap_escapeChar s.toList
    rw [List.length_append]
    omega

/-! ## Fields -/

theorem skipGap_lineBreak (depth : Nat) (cs : List Char) :
    skipGap (lineBreak depth ++ cs) = skipGap cs := by
  have hblanks : ∀ n, skipGap (List.replicate n ' ' ++ cs) = skipGap cs := by
    intro n
    induction n with
    | zero => rfl
    | succ n ih => exact ih
  exact hblanks (2 * depth)

theorem readValue_writeText (s : String) (fuel depth : Nat) (r : List Char) :
    readValue (fuel + 1) depth (' ' :: (writeText s ++ r)) = .ok (.text s, r) := by
  obtain ⟨body, hbody, hread⟩ := readText_writeText s r
  have hgap : skipGap (' ' :: '"' :: body) = '"' :: body := rfl
  rw [hbody]
  simp only [readValue, hgap, hread]
  rfl

/-- The fields of an object of texts. -/
def textFields (l : List (String × String)) : List (String × Json) :=
  l.map (fun e => (e.1, .text e.2))

/-- What stands between one field and the end of the object: the fields that follow, each after a
comma. -/
def fieldsAfter (depth : Nat) (l : List (String × String)) : List Char :=
  if l.isEmpty then [] else ',' :: layOutFields depth (textFields l)

theorem layOutFields_cons (depth : Nat) (k s : String) (l : List (String × String)) :
    layOutFields depth (textFields ((k, s) :: l))
      = lineBreak depth ++ (writeText k ++ ':' :: ' ' :: (writeText s ++ fieldsAfter depth l)) := by
  cases l with
  | nil => simp [textFields, layOutFields, layOut, writeScalar, fieldsAfter]
  | cons e l => simp [textFields, layOutFields, layOut, writeScalar, fieldsAfter]

theorem fieldsAfter_cons (depth : Nat) (k s : String) (l : List (String × String))
    (close : List Char) : fieldsAfter depth ((k, s) :: l) ++ close = ',' :: (lineBreak depth ++
      (writeText k ++ ':' :: ' ' :: (writeText s ++ (fieldsAfter depth l ++ close)))) := by
  rw [show fieldsAfter depth ((k, s) :: l) = ',' :: layOutFields depth (textFields ((k, s) :: l))
    from rfl, layOutFields_cons]
  simp only [List.cons_append, List.append_assoc]

theorem layOut_cons (k s : String) (l : List (String × String)) :
    layOut 0 (.object (textFields ((k, s) :: l))) = '\x7b' :: (lineBreak 1 ++ (writeText k ++
      ':' :: ' ' :: (writeText s ++ (fieldsAfter 1 l ++ (lineBreak 0 ++ ['\x7d']))))) := by
  rw [show layOut 0 (.object (textFields ((k, s) :: l)))
    = '\x7b' :: layOutFields 1 (textFields ((k, s) :: l)) ++ lineBreak 0 ++ ['\x7d'] from rfl,
    layOutFields_cons]
  simp only [List.cons_append, List.append_assoc]

/-- One field reads back, the first one of its object -/
theorem readFields_first (k s : String) (at_ fuel depth : Nat) (acc : List (String × Json))
    (r : List Char) :
    readFields (fuel + 2) depth true acc
        (lineBreak at_ ++ (writeText k ++ ':' :: ' ' :: (writeText s ++ r)))
      = readFields (fuel + 1) depth false ((k, .text s) :: acc) r := by
  obtain ⟨body, hbody, hkey⟩ := readText_writeText k (':' :: ' ' :: (writeText s ++ r))
  have hgap : skipGap (lineBreak at_ ++ '"' :: body) = '"' :: body := skipGap_lineBreak at_ _
  have hcolon : skipGap (':' :: ' ' :: (writeText s ++ r)) = ':' :: ' ' :: (writeText s ++ r) := rfl
  have hquote : ¬ '"' = '\x7d' := by decide
  rw [hbody, readFields]
  simp only [hgap, if_neg hquote, if_true, hkey, hcolon, readValue_writeText]

/-- or one behind others. -/
theorem readFields_next (k s : String) (at_ fuel depth : Nat) (acc : List (String × Json))
    (r : List Char) :
    readFields (fuel + 2) depth false acc
        (',' :: (lineBreak at_ ++ (writeText k ++ ':' :: ' ' :: (writeText s ++ r))))
      = readFields (fuel + 1) depth false ((k, .text s) :: acc) r := by
  obtain ⟨body, hbody, hkey⟩ := readText_writeText k (':' :: ' ' :: (writeText s ++ r))
  have hgap : skipGap (lineBreak at_ ++ '"' :: body) = '"' :: body := skipGap_lineBreak at_ _
  have hcomma : ∀ cs, skipGap (',' :: cs) = ',' :: cs := fun _ => rfl
  have hcolon : skipGap (':' :: ' ' :: (writeText s ++ r)) = ':' :: ' ' :: (writeText s ++ r) := rfl
  have hend : ¬ ',' = '\x7d' := by decide
  rw [hbody, readFields]
  simp only [hcomma, hgap, if_neg hend, Bool.false_eq_true, if_false, if_true, hkey, hcolon,
    readValue_writeText]

/-- **The fields that follow one another read back.**  The induction is on the fields that are still
to come; those already read are kept in reverse. -/
theorem readFields_fieldsAfter (l : List (String × String)) (at_ depth fuel : Nat)
    (hfuel : l.length < fuel) (acc : List (String × Json)) (close r : List Char)
    (hclose : skipGap close = '\x7d' :: r) :
    readFields fuel depth false acc (fieldsAfter at_ l ++ close)
      = .ok (.object (acc.reverse ++ textFields l), r) := by
  induction l generalizing fuel acc with
  | nil =>
    obtain ⟨fuel, rfl⟩ := Nat.exists_eq_succ_of_ne_zero (Nat.ne_of_gt hfuel)
    rw [show fieldsAfter at_ [] ++ close = close from rfl, readFields]
    simp only [hclose, if_true]
    rw [show textFields [] = [] from rfl, List.append_nil]
  | cons e l ih =>
    obtain ⟨k, s⟩ := e
    obtain ⟨fuel, rfl⟩ : ∃ n, fuel = n + 2 := ⟨fuel - 2, by rw [List.length_cons] at hfuel; omega⟩
    rw [fieldsAfter_cons, readFields_next, ih _ (Nat.lt_of_succ_lt_succ hfuel)]
    rw [List.reverse_cons, List.append_assoc, List.singleton_append]
    rfl

/-- The text of an object of texts is an opening brace and what `readFields` takes apart. -/
theorem readValue_layOut (l : List (String × String)) (fuel depth : Nat)
    (hfuel : l.length + 1 < fuel) (hdepth : 1 < depth) :
    readValue fuel depth (layOut 0 (.object (textFields l)))
      = .ok (.object (textFields l), []) := by
  obtain ⟨fuel, rfl⟩ : ∃ n, fuel = n + 1 := ⟨fuel - 1, by omega⟩
  have hopen : ∀ cs, skipGap ('\x7b' :: cs) = '\x7b' :: cs := fun _ => rfl
  cases l with
  | nil =>
    obtain ⟨fuel, rfl⟩ : ∃ n, fuel = n + 1 := ⟨fuel - 1, by omega⟩
    have hdeep : ¬ depth ≤ 1 := Nat.not_le.2 hdepth
    rw [show layOut 0 (.object (textFields [])) = ['\x7b', '\x7d'] from rfl, readValue]
    simp only [hopen, if_neg hdeep]
    rfl
  | cons e l =>
    obtain ⟨k, s⟩ := e
    obtain ⟨fuel, rfl⟩ : ∃ n, fuel = n + 2 := ⟨fuel - 2, by rw [List.length_cons] at hfuel; omega⟩
    have hdeep : ¬ depth ≤ 1 := Nat.not_le.2 hdepth
    have hclose : skipGap (lineBreak 0 ++ ['\x7d']) = ['\x7d'] := skipGap_lineBreak 0 _
    rw [layOut_cons, readValue]
    simp only [hopen, if_neg hdeep]
    rw [readFields_first, readFields_fieldsAfter l 1 _ _ (by rw [List.length_cons] at hfuel; omega)
      _ _ [] hclose]
    rfl

/-! ## Dictionaries -/

theorem length_le_fieldsAfter (depth : Nat) (l : List (String × String)) :
    l.length ≤ (fieldsAfter depth l).length := by
  induction l with
  | nil => exact Nat.le_refl _
  | cons e l ih =>
    obtain ⟨k, s⟩ := e
    have hcons := fieldsAfter_cons depth k s l []
    rw [List.append_nil, List.append_nil] at hcons
    have hlength := congrArg List.length hcons
    simp only [List.length_cons, List.length_append] at hlength ⊢
    omega

theorem length_le_layOut (l : List (String × String)) :
    l.length ≤ (layOut 0 (.object (textFields l))).length := by
  cases l with
  | nil => exact Nat.zero_le _
  | cons e l =>
    obtain ⟨k, s⟩ := e
    have hlength := congrArg List.length (layOut_cons k s l)
    have hafter := length_le_fieldsAfter 1 l
    simp only [List.length_cons, List.length_append] at hlength ⊢
    omega

/-- **A dictionary of texts reads back as it was written.** -/
theorem parse_pretty_ofDict (d : Dict String) : parse (pretty (ofDict d)) = .ok (ofDict d) := by
  have hfields : ofDict d = .object (textFields d.entries) := rfl
  have hlength := length_le_layOut d.entries
  have hread := readValue_layOut d.entries
    (2 * (layOut 0 (.object (textFields d.entries))).length + 4) defaultDepth (by omega) (by decide)
  rw [parse, parseWithin, pretty, String.toList_ofList, hfields]
  simp only [hread]
  rfl

end Json

end EditorPlugins
