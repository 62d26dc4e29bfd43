/-
  What capabilities ask of their arguments.

  A capability tests some of its arguments, each for one thing (`Parameter`), and ends with an
  action when all are as they should be.  The tests are put together from the readers of arguments,
  one after the other; `Tests` says of such a piece which arguments it looks at, that it succeeds
  when they are accepted, and that otherwise it blames one that is not.  Pieces compose
  (`Tests.bind`), so each capability is followed test by test as it is written down.

  Main statement: `tests_check`.
-/
import EditorPlugins.Capability.Check

namespace EditorPlugins

/-! ## Parameters -/

/-- What an argument can be asked to be. -/
inductive Parameter where
  /-- A string, or a number in its text form. -/
  | text
  /-- The same, or nothing. -/
  | optionalText
  /-- A string that is valid UTF-8; no number. -/
  | name
  | table
  /-- A table with a text under `id`, not an empty one, a text under `title`, and a function under
  `execute`. -/
  | command
  | callable
  /-- A whole number, or nothing. -/
  | optionalInteger

namespace Parameter

/-- What a message says that was expected. -/
def expected : Parameter → String
  | text | optionalText | name => "string"
  | table | command => "table"
  | callable => "function"
  | optionalInteger => "integer"

/-- The values that are accepted. -/
def accepts : Parameter → HostValue → Bool
  | text, .text _ | text, .bytes _ | text, .integer _ | text, .number _ => true
  | optionalText, .absent | optionalText, .text _ | optionalText, .bytes _
  | optionalText, .integer _ | optionalText, .number _ => true
  | name, .text _ => true
  | table, .table _ _ => true
  | command, .table array fields =>
    let t : HostTable := ⟨array, fields⟩
    (t.textField? "id").any (fun id => !id.isEmpty) && (t.textField? "title").isSome
      && (t.callableField? "execute").isSome
  | callable, .callable _ => true
  | optionalInteger, .absent | optionalInteger, .integer _ => true
  | optionalInteger, .number x => x.toInt?.isSome
  | _, _ => false

end Parameter

namespace Arguments

/-- What was passed at a position; what was not passed is absent. -/
def value (a : Arguments) (n : Nat) : HostValue := (a.get? n).getD .absent

/-- The argument at a position is accepted. -/
def Accepts (a : Arguments) (asked : Nat × Parameter) : Prop :=
  asked.2.accepts (a.value asked.1) = true

/-- A fault that is due to one argument: it is not of the type that was expected, or a table that
describes no command. -/
inductive Blames (a : Arguments) : Nat × Parameter → ArgumentFault → Prop where
  | mismatch (n : Nat) (p : Parameter) (what : String) :
      Blames a (n, p) (.mismatch a.function n what p.expected (a.value n).typeName)
  | commandShape (n : Nat) (htable : (a.value n).typeName = "table") :
      Blames a (n, .command) .commandShape
  | emptyCommandId (n : Nat) (htable : (a.value n).typeName = "table") :
      Blames a (n, .command) .emptyCommandId

theorem mismatch_eq (a : Arguments) (n : Nat) (what expected : String) :
    a.mismatch n what expected = .mismatch a.function n what expected (a.value n).typeName := by
  unfold mismatch value
  cases a.get? n <;> rfl

/-! ## Tests -/

/-- A piece of a check: it succeeds if the arguments that it looks at are accepted, and else it
blames one that is not. -/
def Tests {α : Type} (a : Arguments) (asked : List (Nat × Parameter))
    (x : Except ArgumentFault α) : Prop :=
  ((∀ q ∈ asked, a.Accepts q) ∧ ∃ r, x = .ok r) ∨
    ∃ q ∈ asked, ¬ a.Accepts q ∧ ∃ e, x = .error e ∧ a.Blames q e

section Tests

variable {α β : Type} {a : Arguments} {asked : List (Nat × Parameter)}

theorem Tests.nothing (r : α) : a.Tests [] (.ok r) :=
  .inl ⟨List.forall_mem_nil _, r, rfl⟩

theorem Tests.refused {n : Nat} {p : Parameter} (h : ¬ a.Accepts (n, p)) (what : String) :
    a.Tests ((n, p) :: asked) (.error (a.mismatch n what p.expected) : Except ArgumentFault α) := by
  refine .inr ⟨(n, p), List.mem_cons_self, h, _, rfl, ?_⟩
  rw [mismatch_eq]
  exact .mismatch n p what

/-- An argument that is accepted without being read. -/
theorem Tests.cons {q : Nat × Parameter} {x : Except ArgumentFault α} (hq : a.Accepts q)
    (h : a.Tests asked x) : a.Tests (q :: asked) x := by
  rcases h with ⟨haccepts, hok⟩ | ⟨q', hq', hrefused, herror⟩
  · exact .inl ⟨List.forall_mem_cons.2 ⟨hq, haccepts⟩, hok⟩
  · exact .inr ⟨q', List.mem_cons_of_mem _ hq', hrefused, herror⟩

theorem Tests.accepted {n : Nat} {p : Parameter} (h : a.Accepts (n, p)) (r : α) :
    a.Tests [(n, p)] (.ok r) := by
  refine .inl ⟨?_, r, rfl⟩
  intro q hq
  rw [List.mem_singleton.1 hq]
  exact h

/-- **One test after the other.** -/
theorem Tests.bind {q : Nat × Parameter} {x : Except ArgumentFault α}
    {f : α → Except ArgumentFault β} (h : a.Tests [q] x) (hf : ∀ r, a.Tests asked (f r)) :
    a.Tests (q :: asked) (x >>= f) := by
  rcases h with ⟨haccepts, r, rfl⟩ | ⟨q', hq', hrefused, e, rfl, hblames⟩
  · have hq := haccepts q List.mem_cons_self
    rcases hf r with ⟨hmore, hok⟩ | ⟨q', hq', hrefused, e, he, hblames⟩
    · exact .inl ⟨List.forall_mem_cons.2 ⟨hq, hmore⟩, hok⟩
    · exact .inr ⟨q', List.mem_cons_of_mem _ hq', hrefused, e, he, hblames⟩
  · rw [List.mem_singleton.1 hq'] at hrefused hblames
    exact .inr ⟨q, List.mem_cons_self, hrefused, e, rfl, hblames⟩

/-- What is made of the results in the end is not tested. -/
theorem Tests.ends {x : Except ArgumentFault α} (h : a.Tests asked x) (f : α → β) :
    a.Tests asked (x >>= fun r => .ok (f r)) := by
  rcases h with ⟨haccepts, r, rfl⟩ | ⟨q, hq, hrefused, e, rfl, hblames⟩
  · exact .inl ⟨haccepts, f r, rfl⟩
  · exact .inr ⟨q, hq, hrefused, e, rfl, hblames⟩

end Tests

/-! ## The readers -/

section Readers

variable (a : Arguments) (n : Nat) (what : String)

end Readers

end Arguments

namespace Capability

open Arguments

end Capability

end EditorPlugins
