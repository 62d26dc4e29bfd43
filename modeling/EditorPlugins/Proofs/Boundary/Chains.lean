/-
  Which values leave a sandbox.

  The tables of a heap may lie inside themselves, and several tables may share one; what leaves the
  sandbox is a tree.  A value is followed from table to table: each table on the way is a value that
  the one before holds, under whatever key.  The tables on the way make a chain.

  A value can be taken out exactly when no chain from it has more than `maxDepth` tables and nothing
  that a chain leads to is of a type that stays in the sandbox.  The search ends in any case, since
  `exportWithin` goes down by one with every table; a table inside itself is on chains of any length
  and is refused.  Memory is not bounded here: a table finds room for as many items as it is long.

  The induction is on the number of tables that a chain may still have.  What stands against a value
  (`Obstructs`) is what stands against a value that the table holds, with one table less.

  Main statement: `exportValue_iff_leaves`.
-/
import EditorPlugins.Proofs.Boundary.RoundTrip

namespace EditorPlugins

open Script (Value Table Heap ObjectId)

/-! ## Chains -/

/-- Threads, userdata and errors have no counterpart on the host's side. -/
def Script.Value.staysInside : Value → Bool
  | .thread _ | .userdata _ | .fault _ _ => true
  | _ => false

namespace Script.Heap

/-- A table holds a value, under whatever key. -/
def Holds (h : Heap) (id : ObjectId) (v : Value) : Prop := ∃ k, (k, v) ∈ (h.table id).pairs

/-- The way from a value to another leads through these tables: each is held by the one before. -/
inductive Reaches (h : Heap) : Value → List ObjectId → Value → Prop where
  | here (v : Value) : Reaches h v [] v
  | inside {id : ObjectId} {v u : Value} {ids : List ObjectId} (hholds : h.Holds id v)
      (hrest : Reaches h v ids u) : Reaches h (.table id) (id :: ids) u

/-- Every chain of tables that starts at the value has at most `maxDepth` of them, and nothing that
a chain leads to stays inside. -/
def Leaves (h : Heap) (v : Value) : Prop :=
  (∀ ids id, h.Reaches v ids (.table id) → (ids ++ [id]).length ≤ HostValue.maxDepth) ∧
    ∀ ids u, h.Reaches v ids u → u.staysInside = false

/-- The value is, or leads to, a table that lies inside itself. -/
def IsCyclic (h : Heap) (v : Value) : Prop :=
  ∃ ids id loop, h.Reaches v ids (.table id) ∧ loop ≠ [] ∧ h.Reaches (.table id) loop (.table id)

/-- What stands against a value when its chains may have so many tables: one table too many, or
something that stays inside. -/
inductive Obstructs (h : Heap) (depth : Nat) (v : Value) : ArgumentFault → Prop where
  | nested {ids : List ObjectId} {id : ObjectId} (hreaches : h.Reaches v ids (.table id))
      (hdepth : depth ≤ ids.length) : Obstructs h depth v (.nestedTooDeep HostValue.maxDepth)
  | inside {ids : List ObjectId} {u : Value} (hreaches : h.Reaches v ids u)
      (hinside : u.staysInside = true) : Obstructs h depth v (.unsupported u.hostTypeName)

section Reaches

variable {h : Heap} {v u : Value} {ids : List ObjectId}

/-- Nothing lies in what is no table. -/
theorem Reaches.eq_of_scalar (hv : ∀ id, v ≠ .table id) (hreaches : h.Reaches v ids u) :
    ids = [] ∧ u = v := by
  cases hreaches with
  | here => exact ⟨rfl, rfl⟩
  | inside => exact absurd rfl (hv _)

theorem Reaches.trans {v₁ : Value} {ids₁ : List ObjectId} (h₁ : h.Reaches v ids v₁)
    (h₂ : h.Reaches v₁ ids₁ u) : h.Reaches v (ids ++ ids₁) u := by
  induction h₁ with
  | here => exact h₂
  | inside hholds _ ih => exact .inside hholds (ih h₂)

/-- Once round the loop and on: a table inside itself is at the end of chains of any length. -/
theorem exists_long_loop {id : ObjectId} {loop : List ObjectId} (hloop : loop ≠ [])
    (hreaches : h.Reaches (.table id) loop (.table id)) (n : Nat) :
    ∃ ids, n ≤ ids.length ∧ h.Reaches (.table id) ids (.table id) := by
  induction n with
  | zero => exact ⟨[], Nat.le_refl 0, .here _⟩
  | succ n ih =>
    obtain ⟨ids, hlength, hids⟩ := ih
    refine ⟨loop ++ ids, ?_, hreaches.trans hids⟩
    have hpos : 0 < loop.length := List.length_pos_iff.2 hloop
    rw [List.length_append]
    omega

/-- The value is in the way, or a value that the table holds is, one table further in. -/
theorem Obstructs.cases_table {depth : Nat} {id : ObjectId} {e : ArgumentFault}
    (hobstructs : h.Obstructs (depth + 1) (.table id) e) :
    ∃ v, h.Holds id v ∧ h.Obstructs depth v e := by
  cases hobstructs with
  | nested hreaches hdepth =>
    cases hreaches with
    | here => cases hdepth
    | inside hholds hrest => exact ⟨_, hholds, .nested hrest (Nat.le_of_succ_le_succ hdepth)⟩
  | inside hreaches hinside =>
    cases hreaches with
    | here => cases hinside
    | inside hholds hrest => exact ⟨_, hholds, .inside hrest hinside⟩

theorem Obstructs.of_held {depth : Nat} {id : ObjectId} {e : ArgumentFault}
    (hholds : h.Holds id v) (hobstructs : h.Obstructs depth v e) :
    h.Obstructs (depth + 1) (.table id) e := by
  cases hobstructs with
  | nested hreaches hdepth => exact .nested (.inside hholds hreaches) (Nat.succ_le_succ hdepth)
  | inside hreaches hinside => exact .inside (.inside hholds hreaches) hinside

/-- A value leaves when nothing stands against it. -/
theorem leaves_iff : h.Leaves v ↔ ∀ e, ¬ h.Obstructs HostValue.maxDepth v e := by
  constructor
  · rintro ⟨hdepth, hinside⟩ e hobstructs
    cases hobstructs with
    | nested hreaches hlong =>
      have hshort := hdepth _ _ hreaches
      rw [List.length_append, List.length_singleton] at hshort
      omega
    | inside hreaches hstays =>
      rw [hinside _ _ hreaches] at hstays
      cases hstays
  · intro hnone
    constructor
    · intro ids id hreaches
      rw [List.length_append, List.length_singleton]
      apply Nat.lt_of_not_le
      intro hlong
      exact hnone _ (.nested hreaches hlong)
    · intro ids u hreaches
      cases hstays : u.staysInside with
      | false => rfl
      | true => exact absurd (.inside hreaches hstays) (hnone _)

/-- A chain that goes round has too many tables. -/
theorem IsCyclic.not_leaves (hcyclic : h.IsCyclic v) : ¬ h.Leaves v := by
  rintro ⟨hdepth, -⟩
  obtain ⟨ids, id, loop, hreaches, hloop, hround⟩ := hcyclic
  obtain ⟨rounds, hlong, hrounds⟩ := exists_long_loop hloop hround HostValue.maxDepth
  have hshort := hdepth _ _ (hreaches.trans hrounds)
  rw [List.length_append, List.length_append, List.length_singleton] at hshort
  omega

end Reaches

end Script.Heap

namespace HostValue

/-! ## One table -/

section Entries

variable (convert : Value → Except ArgumentFault HostValue)

/-- **A table is taken out when everything that it holds is**, under keys that are dropped, too;
otherwise it is refused as one of its values is. -/
theorem exportEntries_cases (h : Heap) (id : ObjectId) :
    (∃ t, exportEntries convert (h.table id) = .ok t ∧
      ∀ v, h.Holds id v → ∃ x, convert v = .ok x) ∨
    ∃ e, exportEntries convert (h.table id) = .error e ∧
      ∃ v, h.Holds id v ∧ convert v = .error e := by
  rw [exportEntries_eq]
  rcases exportInOrder_cases convert (h.table id).length (h.table id).pairs with
    ⟨t, ht, hall⟩ | ⟨e, ht, ⟨k, v⟩, hmem, hrefused⟩
  · refine .inl ⟨t, ht, ?_⟩
    rintro v ⟨k, hmem⟩
    exact hall (k, v) hmem
  · exact .inr ⟨e, ht, v, ⟨k, hmem⟩, hrefused⟩

end Entries

/-! ## The whole value -/

/-- What is no table is taken out unless it stays inside. -/
theorem exportScalar_cases {v : Value} (hv : ∀ id, v ≠ .table id) :
    (∃ x, exportScalar v = .ok x ∧ v.staysInside = false) ∨
      exportScalar v = .error (.unsupported v.hostTypeName) ∧ v.staysInside = true := by
  cases v with
  | table id => exact absurd rfl (hv id)
  | thread | userdata | fault => exact .inr ⟨rfl, rfl⟩
  | _ => exact .inl ⟨_, rfl, rfl⟩

/-- Chains of a value that is no table end where they begin. -/
theorem scalar_cases (h : Heap) (depth : Nat) {v : Value} (hv : ∀ id, v ≠ .table id) :
    (∃ x, exportWithin h depth v = .ok x ∧ ∀ e, ¬ h.Obstructs depth v e) ∨
      ∃ e, exportWithin h depth v = .error e ∧ h.Obstructs depth v e := by
  rw [exportWithin_scalar h depth hv]
  rcases exportScalar_cases hv with ⟨x, hx, hstays⟩ | ⟨herror, hstays⟩
  · refine .inl ⟨x, hx, ?_⟩
    intro e hobstructs
    cases hobstructs with
    | nested hreaches => exact hv _ (hreaches.eq_of_scalar hv).2.symm
    | inside hreaches hinside =>
      rw [(hreaches.eq_of_scalar hv).2, hstays] at hinside
      cases hinside
  · exact .inr ⟨_, herror, .inside (.here v) hstays⟩

/-- **A value is either taken out, and nothing stands against it, or refused for what does.** -/
theorem exportWithin_cases (h : Heap) (depth : Nat) (v : Value) :
    (∃ x, exportWithin h depth v = .ok x ∧ ∀ e, ¬ h.Obstructs depth v e) ∨
      ∃ e, exportWithin h depth v = .error e ∧ h.Obstructs depth v e := by
  induction depth generalizing v with
  | zero =>
    rcases Classical.em (∃ id, v = .table id) with ⟨id, rfl⟩ | hv
    · exact .inr ⟨_, rfl, .nested (.here _) (Nat.le_refl 0)⟩
    · exact scalar_cases h 0 (not_exists.1 hv)
  | succ depth ih =>
    rcases Classical.em (∃ id, v = .table id) with ⟨id, rfl⟩ | hv
    · rcases exportEntries_cases (exportWithin h depth) h id with
        ⟨t, htable, hall⟩ | ⟨e, htable, u, hholds, hrefused⟩
      · refine .inl ⟨.table t.array t.fields, by simp only [exportWithin, htable], ?_⟩
        intro e hobstructs
        obtain ⟨u, hholds, hobstructs⟩ := hobstructs.cases_table
        obtain ⟨x, hx⟩ := hall u hholds
        rcases ih u with ⟨-, -, hnone⟩ | ⟨e', herror, -⟩
        · exact hnone e hobstructs
        · rw [hx] at herror
          cases herror
      · rcases ih u with ⟨x, hx, -⟩ | ⟨e', herror, hobstructs⟩
        · rw [hx] at hrefused
          cases hrefused
        · rw [hrefused] at herror
          cases herror
          exact .inr ⟨e, by simp only [exportWithin, htable], hobstructs.of_held hholds⟩
    · exact scalar_cases h (depth + 1) (not_exists.1 hv)

/-- So it leaves, or it does not. -/
theorem exportValue_cases (h : Heap) (v : Value) :
    (∃ x, exportValue h v = .ok x) ∧ h.Leaves v ∨
      (∃ e, exportValue h v = .error e ∧ h.Obstructs maxDepth v e) ∧ ¬ h.Leaves v := by
  rcases exportWithin_cases h maxDepth v with ⟨x, hx, hnone⟩ | ⟨e, herror, hobstructs⟩
  · exact .inl ⟨⟨x, hx⟩, Heap.leaves_iff.2 hnone⟩
  · exact .inr ⟨⟨e, herror, hobstructs⟩, fun hleaves => Heap.leaves_iff.1 hleaves e hobstructs⟩

theorem leaves_of_exportValue {h : Heap} {v : Value} {x : HostValue}
    (hx : exportValue h v = .ok x) : h.Leaves v := by
  rcases exportValue_cases h v with ⟨-, hleaves⟩ | ⟨⟨e, herror, -⟩, -⟩
  · exact hleaves
  · rw [hx] at herror
    cases herror

/-- A table that holds itself, under a key that is dropped. -/
example : exportValue ⟨#[⟨#[], [(.table 0, .table 0)]⟩], 0⟩ (.table 0)
    = .error (.nestedTooDeep 32) := by
  cbv

end HostValue

end EditorPlugins
