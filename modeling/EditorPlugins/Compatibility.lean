/-
  Which host versions a plugin accepts.

  A range is written `[min, max]`.  Its bounds are compared with the host version AS TEXTS, so
  `10.0.0` comes before `2.0.0`.  Anything that is not of this form admits every host.  When all
  three versions are semantic versions whose order gives another answer, `disagrees` says so and
  the host logs a warning; the answer stays that of the texts.
-/
import EditorPlugins.SemVer
import EditorPlugins.Text.Blank

namespace EditorPlugins.Compatibility

/-- The bounds of a range, blanks around them dropped; nothing for an unconstrained one. -/
def bounds? (range : String) : Option (String × String) :=
  match range.toList with
  | '[' :: r =>
    if r.getLast? = some ']' then
      match Text.piecesChars ',' r.dropLast with
      | [min, max] =>
        some (String.ofList (Text.trimChars min), String.ofList (Text.trimChars max))
      | _ => none
    else none
  | _ => none

/-- Whether the host version lies between the bounds in the order of texts. -/
def betweenTexts (min max host : String) : Bool := min ≤ host && host ≤ max

/-- Whether the host version lies between the bounds in the order of versions, when all three
are versions. -/
def betweenVersions? (min max host : String) : Option Bool := do
  some (SemVer.isBetween (← SemVer.parse? min) (← SemVer.parse? max) (← SemVer.parse? host))

/-- Whether a range admits a host version. -/
def admits (range host : String) : Bool :=
  match bounds? range with
  | some (min, max) => betweenTexts min max host
  | none => true

/-- Whether the order of versions answers otherwise than the order of texts. -/
def disagrees (range host : String) : Bool :=
  match bounds? range with
  | some (min, max) =>
    match betweenVersions? min max host with
    | some b => b != betweenTexts min max host
    | none => false
  | none => false

/-- A range that is not two bounds in brackets constrains nothing. -/
theorem admits_of_bounds?_eq_none {range : String} (h : bounds? range = none) (host : String) :
    admits range host = true := by simp [admits, h]

example : admits "[1.0.0, 2.0.0]" "10.0.0" = true := by decide +kernel
example : disagrees "[1.0.0, 2.0.0]" "10.0.0" = true := by decide +kernel

end EditorPlugins.Compatibility
