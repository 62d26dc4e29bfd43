/-
  The rules for manifests.

  Once its fields are read a manifest is tested: first the name, then the entry, and the commands
  that lack an id or a title are taken away.  The rules are about the texts alone; the tests search
  for what breaks them, one after the other, and answer with the first that they find.

  Main statement: `checked_cases`.
-/
import EditorPlugins.Manifest.Basic

namespace EditorPlugins

namespace Manifest

/-! ## The rules -/

def OnlyBlanks (name : String) : Prop := ∀ c ∈ name.toList, Text.isBlank c = true

/-- The rules: the name has a character that is not blank and none that is forbidden, and the entry,
if one is given, is relative and never steps up. -/
structure KeepsRules (name : String) (entry : Option String) : Prop where
  named : ∃ c ∈ name.toList, Text.isBlank c = false
  plain : ∀ c ∈ name.toList, c ≠ '.' ∧ c ≠ '/' ∧ c ≠ '\\'
  entry : ∀ s, entry = some s →
    (Path.mk s).isAbsolute = false ∧ Path.Component.parent ∉ (Path.mk s).components

/-! ## The tests -/

theorem not_onlyBlanks_iff {name : String} :
    ¬ OnlyBlanks name ↔ ∃ c ∈ name.toList, Text.isBlank c = false := by
  simp [OnlyBlanks]

theorem mem_forbiddenInName {c : Char} :
    forbiddenInName.contains c = true ↔ c = '.' ∨ c = '/' ∨ c = '\\' := by
  simp [forbiddenInName]

/-- The name is tested for blanks first. -/
theorem checkName_cases (name : String) :
    (checkName name = .ok () ∧ ¬ OnlyBlanks name ∧
      ∀ c ∈ name.toList, c ≠ '.' ∧ c ≠ '/' ∧ c ≠ '\\') ∨
    (checkName name = .error .emptyName ∧ OnlyBlanks name) ∨
    (∃ fault, checkName name = .error (.malformedManifest fault)) ∧ ¬ OnlyBlanks name ∧
      ¬ ∀ c ∈ name.toList, c ≠ '.' ∧ c ≠ '/' ∧ c ≠ '\\' := by
  have hblank : Text.isBlankText name = true ↔ OnlyBlanks name := List.all_eq_true
  unfold checkName
  by_cases hname : Text.isBlankText name = true
  · exact .inr (.inl ⟨if_pos hname, hblank.1 hname⟩)
  · rw [if_neg hname]
    cases hfind : name.toList.find? forbiddenInName.contains with
    | some c =>
      refine .inr (.inr ⟨⟨_, rfl⟩, fun h => hname (hblank.2 h), fun hplain => ?_⟩)
      have hforbidden := mem_forbiddenInName.1 (List.find?_some hfind)
      have hallowed := hplain c (List.mem_of_find?_eq_some hfind)
      rcases hforbidden with rfl | rfl | rfl
      · exact hallowed.1 rfl
      · exact hallowed.2.1 rfl
      · exact hallowed.2.2 rfl
    | none =>
      refine .inl ⟨rfl, fun h => hname (hblank.2 h), fun c hc => ?_⟩
      have hnot := List.find?_eq_none.1 hfind c hc
      rw [mem_forbiddenInName] at hnot
      exact ⟨fun h => hnot (.inl h), fun h => hnot (.inr (.inl h)),
        fun h => hnot (.inr (.inr h))⟩

/-- A name passes when it keeps its rules. -/
theorem checkName_eq_ok_iff {name : String} : checkName name = .ok () ↔
    ¬ OnlyBlanks name ∧ ∀ c ∈ name.toList, c ≠ '.' ∧ c ≠ '/' ∧ c ≠ '\\' := by
  rcases checkName_cases name with ⟨hname, hkeeps⟩ | ⟨hname, hblank⟩ |
    ⟨⟨fault, hname⟩, -, hforbidden⟩
  · exact iff_of_true hname hkeeps
  · rw [hname]
    exact iff_of_false nofun fun hkeeps => hkeeps.1 hblank
  · rw [hname]
    exact iff_of_false nofun fun hkeeps => hforbidden hkeeps.2

theorem checkEntry_cases (entry : String) :
    (checkEntry entry = .ok () ∧ (Path.mk entry).isAbsolute = false ∧
      Path.Component.parent ∉ (Path.mk entry).components) ∨
    (∃ fault, checkEntry entry = .error (.malformedManifest fault)) ∧
      ¬ ((Path.mk entry).isAbsolute = false ∧
        Path.Component.parent ∉ (Path.mk entry).components) := by
  have hparent : (Path.mk entry).hasParentStep = true ↔
      Path.Component.parent ∈ (Path.mk entry).components := List.contains_iff_mem
  unfold checkEntry
  dsimp only
  by_cases habsolute : (Path.mk entry).isAbsolute = true
  · rw [if_pos habsolute]
    refine .inr ⟨⟨_, rfl⟩, ?_⟩
    rintro ⟨hrelative, -⟩
    rw [hrelative] at habsolute
    cases habsolute
  · rw [if_neg habsolute]
    by_cases hup : (Path.mk entry).hasParentStep = true
    · rw [if_pos hup]
      exact .inr ⟨⟨_, rfl⟩, fun h => h.2 (hparent.1 hup)⟩
    · rw [if_neg hup]
      exact .inl ⟨rfl, Bool.eq_false_iff.2 habsolute, fun h => hup (hparent.2 h)⟩

/-- The commands that have an id and a title. -/
def complete (commands : List DeclaredCommand) : List DeclaredCommand :=
  commands.filter fun c => c.id ≠ "" ∧ c.title ≠ ""

theorem filter_eq_complete (commands : List DeclaredCommand) :
    commands.filter (fun c => !c.id.isEmpty && !c.title.isEmpty) = complete commands := by
  refine List.filter_congr fun c _ => ?_
  rw [Bool.eq_iff_iff]
  simp

/-- **The tests keep the rules**, and a blank name is answered before anything else. -/
theorem checked_cases (m : Manifest) :
    (∃ m', m.checked = .ok m' ∧ m'.commands = complete m.commands ∧ KeepsRules m.name m.entry) ∨
    (m.checked = .error .emptyName ∧ OnlyBlanks m.name) ∨
    (∃ fault, m.checked = .error (.malformedManifest fault)) ∧ ¬ KeepsRules m.name m.entry ∧
      ¬ OnlyBlanks m.name := by
  unfold checked
  rcases checkName_cases m.name with ⟨hname, hnamed, hplain⟩ | ⟨hname, hblank⟩ |
    ⟨⟨fault, hname⟩, hnamed, hforbidden⟩
  · rw [hname, filter_eq_complete]
    cases hentry : m.entry with
    | none =>
      exact .inl ⟨_, rfl, rfl, not_onlyBlanks_iff.1 hnamed, hplain, fun s hs => nomatch hs⟩
    | some entry =>
      rcases checkEntry_cases entry with ⟨hchecked, hrelative⟩ | ⟨⟨fault, hchecked⟩, hbad⟩
      · refine .inl ⟨{ m with commands := complete m.commands }, ?_, rfl,
          not_onlyBlanks_iff.1 hnamed, hplain, ?_⟩
        · simp only [hchecked, hentry]
          rfl
        · intro s hs
          cases hs
          exact hrelative
      · refine .inr (.inr ⟨⟨fault, ?_⟩, fun hrules => hbad (hrules.entry entry rfl), hnamed⟩)
        simp only [hchecked]
        rfl
  · rw [hname]
    exact .inr (.inl ⟨rfl, hblank⟩)
  · rw [hname]
    exact .inr (.inr ⟨⟨fault, rfl⟩, fun hrules => hforbidden hrules.plain, hnamed⟩)

end Manifest

end EditorPlugins
