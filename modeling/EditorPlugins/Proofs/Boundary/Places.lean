/-
  Where the entries of a table go.

  A table that is taken out becomes a sequence and fields.  An entry goes to one place of these: to
  its position in the sequence, or to the field that has the text of its key for a name.  Keys that
  have no text are dropped.

    program   `HostValue.exportEntry`, for one entry, and the fold over the entries of a table
    spec      an entry is put into the place of its key (`exportEntry_eq_ok`), and refused only
              when its value is
    crux      values for two places may be put there in either order (`Slot.store_comm`), so the
              order of the entries matters only where two of them meet (`exportInOrder_perm`);
              there the one that comes last stays (`exportInOrder_last`)

  Keys that are different for a script can have one place, the integer `10` and the string `"10"`
  for example.  The keys of a sequence with named values never have (`key_of_place?`), and places of
  the sequence are never shared (`key_of_place?_item`).  So in what is taken out there is at every
  position what the script finds there (`exportEntries_sequence`).
-/
import Mathlib.Data.List.Forall2
import EditorPlugins.Boundary.HostValue
import EditorPlugins.Proofs.Script.TablePositions

namespace EditorPlugins

open Script (Value Table)
open Script.Table (position)

/-! ## Lists -/

/-- The order in which a fold visits a list does not matter, if any two steps can be exchanged in
the states that the fold goes through. -/
theorem foldlM_perm {ε α β : Type} {f : β → α → Except ε β} (P : β → Prop) {l l' : List α}
    (h : l.Perm l') (hP : ∀ a ∈ l, ∀ b b', P b → f b a = .ok b' → P b')
    (hcomm : ∀ a ∈ l, ∀ a' ∈ l, ∀ b, P b →
      (f b a >>= fun b => f b a') = (f b a' >>= fun b => f b a)) {b : β} (hb : P b) :
    l.foldlM f b = l'.foldlM f b := by
  induction h generalizing b with
  | nil => rfl
  | cons a _ ih =>
    rw [List.foldlM_cons, List.foldlM_cons]
    cases hstep : f b a with
    | error e => rfl
    | ok b' =>
      exact ih (fun a' ha' => hP a' (List.mem_cons_of_mem _ ha'))
        (fun a' ha' a'' ha'' => hcomm a' (List.mem_cons_of_mem _ ha') a''
          (List.mem_cons_of_mem _ ha'')) (hP a List.mem_cons_self b b' hb hstep)
  | swap a a' l =>
    simp only [List.foldlM_cons, ← bind_assoc]
    rw [hcomm a' List.mem_cons_self a (List.mem_cons_of_mem _ List.mem_cons_self) b hb]
  | trans h₁ _ ih₁ ih₂ =>
    rw [ih₁ hP hcomm hb]
    exact ih₂ (fun a ha => hP a (h₁.mem_iff.2 ha))
      (fun a ha a' ha' => hcomm a (h₁.mem_iff.2 ha) a' (h₁.mem_iff.2 ha')) hb

/-- Two entries under different names may be stored in either order. -/
theorem Assoc.insert_comm {α : Type} {k k' : String} (hne : k ≠ k') (v v' : α)
    {l : List (String × α)} (h : Increasing l) :
    insert k' v' (insert k v l) = insert k v (insert k' v' l) := by
  have hboth :
      (⟨insert k' v' (insert k v l), increasing_insert _ _ (increasing_insert _ _ h)⟩ : Dict α)
        = ⟨insert k v (insert k' v' l), increasing_insert _ _ (increasing_insert _ _ h)⟩ := by
    refine Dict.ext_get? fun name => ?_
    show get? name (insert k' v' (insert k v l)) = get? name (insert k v (insert k' v' l))
    rw [get?_insert _ _ _ (increasing_insert _ _ h), get?_insert _ _ _ h,
      get?_insert _ _ _ (increasing_insert _ _ h), get?_insert _ _ _ h]
    by_cases hk : name = k
    · rw [if_pos hk, if_neg (hk ▸ hne), if_pos hk]
    · rw [if_neg hk, if_neg hk]
  exact congrArg Dict.entries hboth

namespace HostValue

/-! ## Places -/

/-- The place of an entry of a table on the host's side. -/
inductive Slot where
  | item (index : Nat)
  | field (name : String)

namespace Slot

def key : Slot → Value
  | item index => position (index + 1)
  | field name => .text name

/-- Put a value into its place. -/
def store (s : Slot) (v : HostValue) (acc : Array HostValue × List (String × HostValue)) :
    Array HostValue × List (String × HostValue) :=
  match s with
  | item index => (acc.1.setIfInBounds index v, acc.2)
  | field name => (acc.1, Assoc.insert name v acc.2)

theorem increasing_store (s : Slot) (v : HostValue)
    {acc : Array HostValue × List (String × HostValue)} (h : Assoc.Increasing acc.2) :
    Assoc.Increasing (s.store v acc).2 := by
  cases s with
  | item index => exact h
  | field name => exact Assoc.increasing_insert name v h

/-- Values for two places may be stored in either order. -/
theorem store_comm {s s' : Slot} (hne : s ≠ s') (v v' : HostValue)
    {acc : Array HostValue × List (String × HostValue)} (h : Assoc.Increasing acc.2) :
    s'.store v' (s.store v acc) = s.store v (s'.store v' acc) := by
  cases s with
  | item i =>
    cases s' with
    | item j =>
      have hij : i ≠ j := fun e => hne (congrArg item e)
      exact congrArg (fun a => (a, acc.2)) (Array.setIfInBounds_comm _ _ hij)
    | field _ => rfl
  | field k =>
    cases s' with
    | item _ => rfl
    | field k' =>
      have hkk : k ≠ k' := fun e => hne (congrArg field e)
      exact congrArg (fun l => (acc.1, l)) (Assoc.insert_comm hkk v v' h)

end Slot

/-- The sequence and the fields that were taken out of a table so far. -/
abbrev Parts := Array HostValue × List (String × HostValue)

/-- Where the entry under a key goes when a table of the given length is taken out; nowhere for keys
that are dropped. -/
def place? (length : Nat) (k : Value) : Option Slot :=
  match k with
  | .integer n =>
    if 1 ≤ n.toInt ∧ n.toInt ≤ length then some (.item (n.toInt.toNat - 1))
    else some (.field (toString n.toInt))
  | k => (fieldName? k).map .field

/-- Put a value into its place, if it has one. -/
def storeAt (place : Option Slot) (v : HostValue) (acc : Parts) : Parts :=
  match place with
  | some s => s.store v acc
  | none => acc

/-- What stands at a place. -/
def Slot.load? (s : Slot) (acc : Parts) : Option HostValue :=
  match s with
  | .item index => acc.1[index]?
  | .field name => Assoc.get? name acc.2

/-- There is room for so many items, and the fields are in order. -/
structure Parts.WellFormed (length : Nat) (acc : Parts) : Prop where
  size : acc.1.size = length
  increasing : Assoc.Increasing acc.2

/-- Nothing is taken out yet. -/
theorem Parts.wellFormed_start (length : Nat) :
    Parts.WellFormed length (Array.replicate length .absent, []) :=
  ⟨Array.size_replicate, List.Pairwise.nil⟩

section Places

variable {length : Nat} {acc : Parts} {s : Slot}

/-- Positions up to the length are in the sequence, -/
theorem place?_position {i : Nat} (hi : i < length) (hlength : length ≤ Table.maxPosition) :
    place? length (position (i + 1)) = some (.item i) := by
  have hint : (Int64.ofNat (i + 1)).toInt = (i + 1 : Nat) :=
    Int64.toInt_ofNat_of_lt (Nat.lt_succ_of_le (Nat.le_trans hi hlength))
  have hin : 1 ≤ (Int64.ofNat (i + 1)).toInt ∧ (Int64.ofNat (i + 1)).toInt ≤ length := by
    rw [hint]
    omega
  have hindex : (Int64.ofNat (i + 1)).toInt.toNat - 1 = i := by
    rw [hint]
    omega
  simp only [place?, position, if_pos hin, hindex]

/-- and texts are names of fields. -/
theorem place?_text (length : Nat) (name : String) :
    place? length (.text name) = some (.field name) := by
  have hname : fieldName? (.text name) = some name := congrArg some (Text.decodeLossy_encode name)
  exact congrArg (Option.map Slot.field) hname

/-- Positions that entries go to are in the sequence. -/
theorem lt_of_place? {k : Value} {index : Nat} (h : place? length k = some (.item index)) :
    index < length := by
  unfold place? at h
  split at h
  · split at h
    · cases h
      omega
    · cases h
  · obtain ⟨name, -, hname⟩ := Option.map_eq_some_iff.1 h
    cases hname

/-- What goes to a place of the sequence is under its position. -/
theorem key_of_place?_item {index : Nat} {k : Value}
    (h : place? length k = some (.item index)) : k = position (index + 1) := by
  unfold place? at h
  split at h
  · rename_i n
    split at h
    · rename_i hin
      cases h
      rw [Nat.sub_add_cancel (by omega), Table.position_toInt hin.1]
    · cases h
  · obtain ⟨name, -, hname⟩ := Option.map_eq_some_iff.1 h
    cases hname

/-- The entries of a sequence with named values go to the places of their keys. -/
theorem key_of_place? {t : Table} {items : List Value} {values : List (String × Value)}
    (h : t.Consists items values) {e : Value × Value} (he : e ∈ t.pairs)
    (hs : place? t.length e.1 = some s) : e.1 = s.key := by
  rw [Table.length_of_consists h] at hs
  rcases h.key_cases he with ⟨i, hi, hkey⟩ | ⟨name, hkey⟩
  · rw [hkey, place?_position hi h.length] at hs
    cases hs
    exact hkey
  · rw [hkey, place?_text] at hs
    cases hs
    exact hkey

theorem Parts.WellFormed.storeAt (h : Parts.WellFormed length acc) (place : Option Slot)
    (v : HostValue) : Parts.WellFormed length (storeAt place v acc) := by
  cases place with
  | none => exact h
  | some s =>
    refine ⟨?_, s.increasing_store v h.increasing⟩
    cases s with
    | item index => exact Array.size_setIfInBounds.trans h.size
    | field name => exact h.size

/-- What was put into a place stands there. -/
theorem load?_storeAt (h : Parts.WellFormed length acc) {k : Value}
    (hplace : place? length k = some s) (v : HostValue) :
    s.load? (storeAt (place? length k) v acc) = some v := by
  rw [hplace]
  cases s with
  | item index =>
    have hindex : index < acc.1.size := h.size ▸ lt_of_place? hplace
    exact Array.getElem?_setIfInBounds_self_of_lt hindex
  | field name =>
    show Assoc.get? name (Assoc.insert name v acc.2) = some v
    rw [Assoc.get?_insert name name v h.increasing, if_pos rfl]

/-- The other places are as they were. -/
theorem load?_storeAt_of_ne (h : Parts.WellFormed length acc) {place : Option Slot}
    (hne : place ≠ some s) (v : HostValue) : s.load? (storeAt place v acc) = s.load? acc := by
  cases place with
  | none => rfl
  | some s' =>
    have hother : s' ≠ s := fun heq => hne (congrArg some heq)
    cases s' with
    | item i =>
      cases s with
      | item j =>
        exact Array.getElem?_setIfInBounds_ne fun heq => hother (congrArg Slot.item heq)
      | field _ => rfl
    | field k =>
      cases s with
      | item _ => rfl
      | field k' =>
        show Assoc.get? k' (Assoc.insert k v acc.2) = Assoc.get? k' acc.2
        have hname : k' ≠ k := fun heq => hother (congrArg Slot.field heq.symm)
        rw [Assoc.get?_insert k k' v h.increasing, if_neg hname]

/-- Values may be put into their places in either order, unless they are different and meet. -/
theorem storeAt_comm (h : Parts.WellFormed length acc) {place place' : Option Slot}
    {v v' : HostValue} (hmeet : ∀ s, place = some s → place' = some s → v = v') :
    storeAt place' v' (storeAt place v acc) = storeAt place v (storeAt place' v' acc) := by
  cases place with
  | none => rfl
  | some s =>
    cases place' with
    | none => rfl
    | some s' =>
      by_cases hsame : s = s'
      · subst hsame
        rw [hmeet s rfl rfl]
      · exact s.store_comm hsame v v' h.increasing

end Places

/-! ## One entry -/

section Entries

variable {convert convert' : Value → Except ArgumentFault HostValue} {length : Nat}
  {l l' : List (Value × Value)}

/-- **An entry is put into its place.** -/
theorem exportEntry_eq_ok (acc : Parts) {entry : Value × Value} {v : HostValue}
    (h : convert entry.2 = .ok v) :
    exportEntry convert length acc entry = .ok (storeAt (place? length entry.1) v acc) := by
  obtain ⟨k, x⟩ := entry
  have hx : convert x = .ok v := h
  cases k with
  | integer n =>
    by_cases hposition : 1 ≤ n.toInt ∧ n.toInt ≤ length
    · simp only [exportEntry, hx, bind, Except.bind, place?, if_pos hposition]
      rfl
    · simp only [exportEntry, hx, bind, Except.bind, place?, if_neg hposition]
      rfl
  | _ => simp only [exportEntry, hx, bind, Except.bind]; rfl

/-- An entry is refused when its value is, and for no other reason; its key does not matter. -/
theorem exportEntry_error (acc : Parts) {entry : Value × Value} {fault : ArgumentFault}
    (h : convert entry.2 = .error fault) :
    exportEntry convert length acc entry = .error fault := by
  unfold exportEntry
  rw [h]
  rfl

/-- The fold over the entries of a table ends with the first value that is refused. -/
theorem foldlM_exportEntry (convert : Value → Except ArgumentFault HostValue)
    (l : List (Value × Value)) {acc : Parts} (hacc : Parts.WellFormed length acc) :
    (∃ acc', l.foldlM (exportEntry convert length) acc = .ok acc' ∧
      Parts.WellFormed length acc' ∧ ∀ e ∈ l, ∃ x, convert e.2 = .ok x) ∨
    ∃ fault, l.foldlM (exportEntry convert length) acc = .error fault ∧
      ∃ e ∈ l, convert e.2 = .error fault := by
  induction l generalizing acc with
  | nil =>
    refine .inl ⟨acc, rfl, hacc, ?_⟩
    intro e he
    cases he
  | cons e l ih =>
    rw [List.foldlM_cons]
    cases hx : convert e.2 with
    | error fault =>
      rw [exportEntry_error acc hx]
      exact .inr ⟨fault, rfl, e, List.mem_cons_self, hx⟩
    | ok x =>
      rw [exportEntry_eq_ok acc hx]
      rcases ih (hacc.storeAt (place? length e.1) x) with
        ⟨acc', hfold, hacc', hall⟩ | ⟨fault, hfold, bad, hbad, hrefused⟩
      · exact .inl ⟨acc', hfold, hacc', List.forall_mem_cons.2 ⟨⟨x, hx⟩, hall⟩⟩
      · exact .inr ⟨fault, hfold, bad, List.mem_cons_of_mem _ hbad, hrefused⟩

/-! ## One table -/

/-- A table of the given length, with its entries in some order. -/
def exportInOrder (convert : Value → Except ArgumentFault HostValue) (length : Nat)
    (entries : List (Value × Value)) : Except ArgumentFault HostTable := do
  let (array, fields) ←
    entries.foldlM (exportEntry convert length) (Array.replicate length .absent, [])
  .ok ⟨array.toList, fields⟩

/-- The program takes the order in which the table visits its entries. -/
theorem exportEntries_eq (t : Table) :
    exportEntries convert t = exportInOrder convert t.length t.pairs := rfl

/-- A table is taken out when all its values are; otherwise it is refused as one of them is. -/
theorem exportInOrder_cases (convert : Value → Except ArgumentFault HostValue) (length : Nat)
    (l : List (Value × Value)) :
    (∃ t, exportInOrder convert length l = .ok t ∧ ∀ e ∈ l, ∃ x, convert e.2 = .ok x) ∨
    ∃ fault, exportInOrder convert length l = .error fault ∧
      ∃ e ∈ l, convert e.2 = .error fault := by
  unfold exportInOrder
  rcases foldlM_exportEntry convert l (Parts.wellFormed_start length) with
    ⟨acc, hfold, -, hall⟩ | ⟨fault, hfold, hbad⟩
  · rw [hfold]
    exact .inl ⟨_, rfl, hall⟩
  · rw [hfold]
    exact .inr ⟨fault, rfl, hbad⟩

theorem exists_exportInOrder_iff (length : Nat) :
    (∃ t, exportInOrder convert length l = .ok t) ↔ ∀ e ∈ l, ∃ x, convert e.2 = .ok x := by
  rcases exportInOrder_cases convert length l with
    ⟨t, ht, hall⟩ | ⟨fault, ht, bad, hbad, hrefused⟩
  · exact iff_of_true ⟨t, ht⟩ hall
  · rw [ht]
    refine iff_of_false nofun ?_
    intro hall
    obtain ⟨x, hx⟩ := hall bad hbad
    rw [hx] at hrefused
    cases hrefused

/-- Two ways to take values out give the same table when they differ in dropped entries only. -/
theorem exportInOrder_congr (h : ∀ e ∈ l, convert e.2 = convert' e.2 ∨
      place? length e.1 = none ∧ (∃ x, convert e.2 = .ok x) ∧ ∃ x, convert' e.2 = .ok x) :
    exportInOrder convert length l = exportInOrder convert' length l := by
  unfold exportInOrder
  generalize ((Array.replicate length .absent, []) : Parts) = acc
  congr 1
  induction l generalizing acc with
  | nil => rfl
  | cons e l ih =>
    have hstep : exportEntry convert length acc e = exportEntry convert' length acc e := by
      rcases h e List.mem_cons_self with hsame | ⟨hdropped, ⟨x, hx⟩, x', hx'⟩
      · unfold exportEntry
        rw [hsame]
      · rw [exportEntry_eq_ok acc hx, exportEntry_eq_ok acc hx', hdropped]
        rfl
    rw [List.foldlM_cons, List.foldlM_cons, hstep]
    exact congrArg (_ >>= ·) (funext fun acc =>
      ih (fun e he => h e (List.mem_cons_of_mem _ he)) acc)

/-- **The order of the entries makes no difference** where those that meet have the same value. -/
theorem exportInOrder_perm (hperm : l.Perm l') (hall : ∀ e ∈ l, ∃ x, convert e.2 = .ok x)
    (hmeet : ∀ e ∈ l, ∀ e' ∈ l, ∀ s, place? length e.1 = some s → place? length e'.1 = some s →
      convert e.2 = convert e'.2) :
    exportInOrder convert length l = exportInOrder convert length l' := by
  unfold exportInOrder
  congr 1
  refine foldlM_perm (Parts.WellFormed length) hperm ?_ ?_ (Parts.wellFormed_start length)
  · intro e he acc acc' hacc hok
    obtain ⟨x, hx⟩ := hall e he
    rw [exportEntry_eq_ok acc hx] at hok
    cases hok
    exact hacc.storeAt _ x
  · intro e he e' he' acc hacc
    obtain ⟨x, hx⟩ := hall e he
    obtain ⟨x', hx'⟩ := hall e' he'
    have hsame : ∀ s, place? length e.1 = some s → place? length e'.1 = some s → x = x' := by
      intro s hs hs'
      have hboth := hmeet e he e' he' s hs hs'
      rw [hx, hx'] at hboth
      exact Except.ok.inj hboth
    simp only [exportEntry_eq_ok _ hx, exportEntry_eq_ok _ hx', bind, Except.bind,
      storeAt_comm hacc hsame]

/-- What all entries for a place agree on stands there at the end, -/
theorem load?_foldlM {l : List (Value × Value)} {s : Slot} {x : HostValue}
    (hall : ∀ e ∈ l, place? length e.1 = some s → convert e.2 = .ok x) {acc acc' : Parts}
    (hacc : Parts.WellFormed length acc)
    (hfold : l.foldlM (exportEntry convert length) acc = .ok acc')
    (hsome : s.load? acc = some x ∨ ∃ e ∈ l, place? length e.1 = some s) :
    s.load? acc' = some x := by
  induction l generalizing acc with
  | nil =>
    cases hfold
    rcases hsome with hload | ⟨e, he, -⟩
    · exact hload
    · cases he
  | cons e l ih =>
    rw [List.foldlM_cons] at hfold
    cases hx : convert e.2 with
    | error fault => rw [exportEntry_error acc hx] at hfold; cases hfold
    | ok y =>
      rw [exportEntry_eq_ok acc hx] at hfold
      refine ih (fun e he => hall e (List.mem_cons_of_mem _ he)) (hacc.storeAt _ y) hfold ?_
      by_cases hplace : place? length e.1 = some s
      · have hy := hall e List.mem_cons_self hplace
        rw [hx] at hy
        cases hy
        exact .inl (load?_storeAt hacc hplace _)
      · rcases hsome with hload | ⟨e', he', hplace'⟩
        · rw [load?_storeAt_of_ne hacc hplace]
          exact .inl hload
        · rcases List.mem_cons.1 he' with rfl | hrest
          · exact absurd hplace' hplace
          · exact .inr ⟨e', hrest, hplace'⟩

/-- **whatever the order of the entries is**; an item that there is no entry for is absent. -/
theorem exportInOrder_getElem? {t : HostTable} (h : exportInOrder convert length l = .ok t)
    {i : Nat} {x : HostValue}
    (hall : ∀ e ∈ l, place? length e.1 = some (.item i) → convert e.2 = .ok x)
    (hsome : i < length ∧ x = .absent ∨ ∃ e ∈ l, place? length e.1 = some (.item i)) :
    t.array[i]? = some x := by
  have hstart : Slot.load? (.item i) (Array.replicate length .absent, []) = some x ∨
      ∃ e ∈ l, place? length e.1 = some (.item i) := by
    refine hsome.imp_left ?_
    rintro ⟨hi, rfl⟩
    show (Array.replicate length HostValue.absent)[i]? = some .absent
    rw [Array.getElem?_replicate, if_pos hi]
  unfold exportInOrder at h
  cases hfold : l.foldlM (exportEntry convert length) (Array.replicate length .absent, []) with
  | error fault => rw [hfold] at h; cases h
  | ok acc =>
    rw [hfold] at h
    cases h
    rw [Array.getElem?_toList]
    exact load?_foldlM hall (Parts.wellFormed_start length) hfold hstart

/-- The sequence has as many items as the table is long. -/
theorem length_exportInOrder {t : HostTable} (h : exportInOrder convert length l = .ok t) :
    t.array.length = length := by
  unfold exportInOrder at h
  rcases foldlM_exportEntry convert l (Parts.wellFormed_start length) with
    ⟨acc, hfold, hacc, -⟩ | ⟨fault, hfold, -⟩
  · rw [hfold] at h
    cases h
    exact hacc.size
  · rw [hfold] at h
    cases h

/-- **The entry that comes last stays.** -/
theorem exportInOrder_last {before : List (Value × Value)} {e : Value × Value} {t : HostTable}
    (h : exportInOrder convert length (before ++ [e]) = .ok t) {s : Slot}
    (hplace : place? length e.1 = some s) :
    ∃ x, convert e.2 = .ok x ∧ s.load? (t.array.toArray, t.fields) = some x := by
  unfold exportInOrder at h
  rw [List.foldlM_append] at h
  rcases foldlM_exportEntry convert before (Parts.wellFormed_start length) with
    ⟨acc, hbefore, hacc, -⟩ | ⟨fault, hbefore, -⟩
  · rw [hbefore] at h
    cases hx : convert e.2 with
    | error fault =>
      simp only [List.foldlM_cons, exportEntry_error acc hx, bind, Except.bind] at h
      cases h
    | ok x =>
      simp only [List.foldlM_cons, List.foldlM_nil, exportEntry_eq_ok acc hx, bind, Except.bind,
        pure, Except.pure] at h
      cases h
      exact ⟨x, rfl, load?_storeAt hacc hplace x⟩
  · rw [hbefore] at h
    cases h

end Entries

/-! ## The sequence of a table -/

section Sequence

variable {convert : Value → Except ArgumentFault HostValue} {t : Table} {r : HostTable}

/-- At every place of the sequence is what the script finds at the position, -/
theorem exportEntries_getElem? (ht : t.Positioned) (hsize : t.items.size ≤ Table.maxPosition)
    (hnil : convert .nil = .ok .absent) (h : exportEntries convert t = .ok r) {i : Nat}
    (hi : i < t.length) : ∃ x, convert (t.itemAt (i + 1)) = .ok x ∧ r.array[i]? = some x := by
  rw [exportEntries_eq] at h
  have hmax := Table.length_le hsize
  have hentry : ∀ e ∈ t.pairs, place? t.length e.1 = some (.item i) → e.2 = t.itemAt (i + 1) :=
    fun e he hplace => ht.eq_itemAt hsize (by omega) he (key_of_place?_item hplace)
  by_cases hsome : ∃ e ∈ t.pairs, place? t.length e.1 = some (.item i)
  · obtain ⟨e, he, hplace⟩ := hsome
    obtain ⟨x, hx⟩ := (exists_exportInOrder_iff t.length).1 ⟨r, h⟩ e he
    rw [hentry e he hplace] at hx
    have hall : ∀ e ∈ t.pairs, place? t.length e.1 = some (.item i) → convert e.2 = .ok x := by
      intro e' he' hplace'
      rw [hentry e' he' hplace', hx]
    exact ⟨x, hx, exportInOrder_getElem? h hall (.inr ⟨e, he, hplace⟩)⟩
  · -- nothing goes to this place, and nothing is found at the position
    have hnone : t.itemAt (i + 1) = .nil := by
      refine Classical.byContradiction fun hvalue => ?_
      obtain ⟨e, he, hkey⟩ := ht.exists_entry (Nat.le_add_left 1 i) hvalue
      exact hsome ⟨e, he, hkey ▸ place?_position hi hmax⟩
    refine ⟨.absent, hnone ▸ hnil, ?_⟩
    exact exportInOrder_getElem? h (fun e he hplace => absurd ⟨e, he, hplace⟩ hsome)
      (.inl ⟨hi, rfl⟩)

/-- **and so the sequence that is taken out is what the script finds under 1, 2, …** -/
theorem exportEntries_sequence (ht : t.Positioned) (hsize : t.items.size ≤ Table.maxPosition)
    (hnil : convert .nil = .ok .absent) (h : exportEntries convert t = .ok r) :
    List.Forall₂ (fun v x => convert v = .ok x) t.sequence r.array := by
  have hmax := Table.length_le hsize
  have hlength : r.array.length = t.length := length_exportInOrder h
  refine List.forall₂_iff_get.2 ⟨(Table.length_sequence t).trans hlength.symm, fun i hi hi' => ?_⟩
  rw [hlength] at hi'
  obtain ⟨x, hx, hget⟩ := exportEntries_getElem? ht hsize hnil h hi'
  have hfound := Table.getElem?_sequence hi'
  rw [Table.get_position (by omega)] at hfound
  rw [List.get_eq_getElem, List.get_eq_getElem, (List.getElem?_eq_some_iff.1 hfound).2,
    (List.getElem?_eq_some_iff.1 hget).2]
  exact hx

end Sequence

end HostValue

end EditorPlugins
