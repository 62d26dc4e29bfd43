/-
  Cutting a text at a separator character: once, at the first occurrence, or everywhere.
-/

namespace EditorPlugins.Text

/-! ## Once -/

/-- What stands before and after the first `sep`; nothing when there is none. -/
def cutChars (sep : Char) : List Char → Option (List Char × List Char)
  | [] => none
  | c :: r => if c = sep then some ([], r) else (cutChars sep r).map (fun p => (c :: p.1, p.2))

/-- What stands before and after the first `sep`; nothing when there is none. -/
def cut (sep : Char) (s : String) : Option (String × String) :=
  (cutChars sep s.toList).map (fun p => (String.ofList p.1, String.ofList p.2))

/-- The two parts and the separator between them are the text, and the first part is free of
the separator. -/
theorem eq_of_cutChars {sep : Char} {s a b : List Char} (h : cutChars sep s = some (a, b)) :
    s = a ++ sep :: b ∧ sep ∉ a := by
  induction s generalizing a with
  | nil => simp [cutChars] at h
  | cons c r ih =>
    unfold cutChars at h
    split at h
    · rename_i hc
      simp only [Option.some.injEq, Prod.mk.injEq] at h
      obtain ⟨rfl, rfl⟩ := h
      simp [hc]
    · rename_i hc
      obtain ⟨⟨a', b'⟩, hp, he⟩ := Option.map_eq_some_iff.1 h
      simp only [Prod.mk.injEq] at he
      obtain ⟨rfl, rfl⟩ := he
      obtain ⟨hr, hn⟩ := ih hp
      exact ⟨by simp [hr], by simp [hn, Ne.symm hc]⟩

/-- A text put together around a separator is cut there again. -/
theorem cutChars_append {sep : Char} {a b : List Char} (h : sep ∉ a) :
    cutChars sep (a ++ sep :: b) = some (a, b) := by
  induction a with
  | nil => simp [cutChars]
  | cons c r ih =>
    simp only [List.mem_cons, not_or] at h
    simp [cutChars, Ne.symm h.1, ih h.2]

/-! ## Everywhere -/

/-- The pieces between the separators: one more than there are separators. -/
def piecesChars (sep : Char) : List Char → List (List Char)
  | [] => [[]]
  | c :: r =>
    if c = sep then [] :: piecesChars sep r
    else match piecesChars sep r with
      | p :: ps => (c :: p) :: ps
      | [] => [[c]]

/-- The pieces between the separators: one more than there are separators. -/
def pieces (sep : Char) (s : String) : List String :=
  (piecesChars sep s.toList).map String.ofList

/-- The number of pieces is one more than the number of separators. -/
theorem length_piecesChars (sep : Char) (s : List Char) :
    (piecesChars sep s).length = s.count sep + 1 := by
  induction s with
  | nil => rfl
  | cons c r ih =>
    unfold piecesChars
    split
    · rename_i h; simp [ih, h]
    · rename_i h
      split
      · rename_i p ps hp
        rw [hp] at ih
        simpa [List.count_cons, h] using ih
      · rename_i hp
        rw [hp] at ih
        simp at ih

example : cut '.' "a.b.c" = some ("a", "b.c") := by decide
example : pieces ',' "a,,b" = ["a", "", "b"] := by decide

end EditorPlugins.Text
