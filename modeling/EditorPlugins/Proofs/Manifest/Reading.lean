/-
  How a manifest is read.

  The fields come one after the other, but those that the host reads and the others do not meet:
  a field of another name is put behind the others of its kind, whatever was read before.  So the
  reading splits into that of the host's own fields and a list that is kept as it is.  The tests
  that follow take away commands and nothing else.

  Main statement: `foldlM_readField`.
-/
import EditorPlugins.Proofs.World.Operations

namespace EditorPlugins

namespace Manifest

/-! ## The tests -/

/-- What the tests of a manifest require, and what they leave of it. -/
theorem checked_eq_ok {m m' : Manifest} (h : m.checked = .ok m') :
    checkName m.name = .ok () ∧ (∀ entry, m.entry = some entry → checkEntry entry = .ok ()) ∧
      m' = { m with commands := m.commands.filter fun c => !c.id.isEmpty && !c.title.isEmpty } := by
  obtain ⟨⟨⟩, hname, hrest⟩ := Except.bind_eq_ok.1 h
  dsimp only at hrest
  split at hrest
  · rename_i entry hentry
    obtain ⟨⟨⟩, hchecked, hkept⟩ := Except.bind_eq_ok.1 hrest
    cases hkept
    refine ⟨hname, ?_, rfl⟩
    intro entry' hentry'
    rw [hentry] at hentry'
    cases hentry'
    exact hchecked
  · rename_i hentry
    obtain ⟨-, -, hkept⟩ := Except.bind_eq_ok.1 hrest
    cases hkept
    refine ⟨hname, ?_, rfl⟩
    intro entry' hentry'
    rw [hentry] at hentry'
    cases hentry'

/-- A manifest passes as it is when none of its commands lacks anything. -/
theorem checked_of_complete {m : Manifest} (hname : checkName m.name = .ok ())
    (hentry : ∀ entry, m.entry = some entry → checkEntry entry = .ok ())
    (hcommands : ∀ c ∈ m.commands, (!c.id.isEmpty && !c.title.isEmpty) = true) :
    m.checked = .ok m := by
  have hfilter := List.filter_eq_self.2 hcommands
  unfold checked
  rw [hname, hfilter]
  obtain ⟨name, version, description, author, entry, versions, commands, extra⟩ := m
  cases entry with
  | none => rfl
  | some entry =>
    simp only [hentry entry rfl]
    rfl

/-! ## The fields -/

/-- The names of the fields that the host reads. -/
def hostFields : List String :=
  ["name", "version", "description", "author", "entry", "nnp-compatible-versions", "commands"]

def isHostField (key : String) : Bool := hostFields.contains key

theorem isHostField_cases {key : String} (h : isHostField key = true) :
    key = "name" ∨ key = "version" ∨ key = "description" ∨ key = "author" ∨ key = "entry" ∨
      key = "nnp-compatible-versions" ∨ key = "commands" := by
  simpa [isHostField, hostFields] using h

theorem ne_of_not_isHostField {key : String} (h : isHostField key = false) :
    key ≠ "name" ∧ key ≠ "version" ∧ key ≠ "description" ∧ key ≠ "author" ∧ key ≠ "entry" ∧
      key ≠ "nnp-compatible-versions" ∧ key ≠ "commands" := by
  simpa [isHostField, hostFields] using h

/-- A field that the host does not read is kept behind the others of its kind, -/
theorem readField_extra {key : String} (hkey : isHostField key = false) (m : Manifest) (j : Json) :
    readField m (key, j) = .ok { m with extra := m.extra ++ [(key, j)] } := by
  simp [readField, ne_of_not_isHostField hkey]

/-- and one that it reads has nothing to do with them. -/
theorem readField_host {key : String} (hkey : isHostField key = true) (m : Manifest)
    (extra : List (String × Json)) (j : Json) :
    readField { m with extra } (key, j)
      = (readField m (key, j)).map fun m' => { m' with extra } := by
  rcases isHostField_cases hkey with rfl | rfl | rfl | rfl | rfl | rfl | rfl <;>
    simp [readField, Except.map_map, Function.comp_def]

/-- **The host's fields are read as if there were no others, and the others are kept as they come.**
The induction is on the fields; what was kept before is a list that no step looks at. -/
theorem foldlM_readField (fields : List (String × Json)) (m : Manifest)
    (extra : List (String × Json)) :
    fields.foldlM readField { m with extra }
      = ((fields.filter fun e => isHostField e.1).foldlM readField m).map fun m' =>
        { m' with extra := extra ++ fields.filter fun e => !isHostField e.1 } := by
  induction fields generalizing m extra with
  | nil => simp [pure, Except.pure, Except.map]
  | cons field fields ih =>
    obtain ⟨key, j⟩ := field
    cases hkey : isHostField key with
    | false =>
      rw [List.foldlM_cons, readField_extra hkey]
      show fields.foldlM readField { m with extra := extra ++ [(key, j)] } = _
      rw [ih]
      simp [hkey]
    | true =>
      rw [List.foldlM_cons, readField_host hkey]
      cases hread : readField m (key, j) with
      | error fault => simp [hkey, hread, Except.map, bind, Except.bind]
      | ok m' =>
        show fields.foldlM readField { m' with extra } = _
        rw [ih]
        simp [hkey, hread, bind, Except.bind]

/-- What a manifest was read from: the fields in increasing order, each name once. -/
theorem ofJson?_eq_ok {j : Json} {m : Manifest} (h : ofJson? j = .ok m) :
    ∃ fields m₀, j.sorted = .object fields ∧ fields.foldlM readField {} = .ok m₀ ∧
      m₀.checked = .ok m := by
  unfold ofJson? at h
  split at h
  · rename_i fields hsorted
    split at h
    · rename_i m₀ hfields
      exact ⟨fields, m₀, hsorted, hfields, h⟩
    · cases h
  · cases h

theorem parse_eq_ok {text : String} {m : Manifest} (h : parse text = .ok m) :
    ∃ j, Json.parse text = .ok j ∧ ofJson? j = .ok m := by
  unfold parse at h
  split at h
  · rename_i j hj
    exact ⟨j, hj, h⟩
  · cases h

end Manifest

end EditorPlugins
