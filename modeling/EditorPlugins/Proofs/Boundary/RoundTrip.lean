/-
  Values that cross the boundary and come back.

  Each side of the boundary has values that the other cannot hold: a script has keys of many types
  and tables inside themselves, the host has whole numbers as floating-point numbers and absent
  entries.  The canonical values are those that both sides can hold.  On them putting a value into a
  heap and taking it out again are inverse to each other, in both directions.

  The induction is on how deep tables are nested.  One lemma says what taking out makes of a table
  (`exportEntries_of_consists`), whatever the order in which the table visits its entries, and one
  says what a host's table becomes in a heap (`importValue_table`).

  Main statement: `import_export_inverse`.
-/
import Mathlib.Data.List.Forall2
import EditorPlugins.Proofs.Boundary.Places

namespace EditorPlugins

open Script (Value Table Heap ObjectId)
open Script.Table (position numbered named)

/-! ## Lists -/

/-- What can be done for each element can be done for all. -/
theorem exists_forall₂ {α β : Type} {R : α → β → Prop} {l : List α} (h : ∀ a ∈ l, ∃ b, R a b) :
    ∃ l', List.Forall₂ R l l' := by
  induction l with
  | nil => exact ⟨[], .nil⟩
  | cons a l ih =>
    obtain ⟨b, hb⟩ := h a List.mem_cons_self
    obtain ⟨l', hl'⟩ := ih fun a ha => h a (List.mem_cons_of_mem _ ha)
    exact ⟨b :: l', .cons hb hl'⟩

theorem forall₂_comp {α β γ : Type} {R : α → β → Prop} {S : β → γ → Prop} {T : α → γ → Prop}
    {l : List α} {l' : List β} {l'' : List γ} (h : List.Forall₂ R l l')
    (h' : List.Forall₂ S l' l'') (hT : ∀ a b c, R a b → S b c → T a c) : List.Forall₂ T l l'' := by
  induction h generalizing l'' with
  | nil => cases h'; exact .nil
  | cons hab _ ih =>
    cases h' with
    | cons hbc hrest => exact .cons (hT _ _ _ hab hbc) (ih hrest)

theorem exists_of_forall₂_right {α β : Type} {R : α → β → Prop} {l : List α} {l' : List β}
    (h : List.Forall₂ R l l') {b : β} (hb : b ∈ l') : ∃ a ∈ l, R a b := by
  induction h with
  | nil => cases hb
  | @cons a _ l _ hR _ ih =>
    rcases List.mem_cons.1 hb with rfl | hb
    · exact ⟨a, List.mem_cons_self, hR⟩
    · obtain ⟨a', ha', hR'⟩ := ih hb
      exact ⟨a', List.mem_cons_of_mem a ha', hR'⟩

/-- Lists whose entries have the same names increase together. -/
theorem Assoc.increasing_of_forall₂ {α β : Type} {R : String × α → String × β → Prop}
    {l : List (String × α)} {l' : List (String × β)} (h : List.Forall₂ R l l')
    (hR : ∀ e e', R e e' → e'.1 = e.1) (hincreasing : Increasing l) : Increasing l' := by
  have hnames : l'.map Prod.fst = l.map Prod.fst := by
    clear hincreasing
    induction h with
    | nil => rfl
    | cons hab _ ih => rw [List.map_cons, List.map_cons, hR _ _ hab, ih]
  have hpairwise := List.pairwise_map.2 hincreasing
  rw [← hnames] at hpairwise
  exact List.pairwise_map.1 hpairwise

/-! ## Canonical values -/

/-- A number that is no whole number, or one of a magnitude above 2⁶³, so that a script gets it as
it is. -/
def Binary64.StaysFloat (x : Binary64) : Prop :=
  ∀ n, x.toInt? = some n → 9223372036854775808 < n.natAbs

namespace HostValue

/-- A value that a script can hold, with tables nested at most so deep: numbers are not whole, bytes
are no text, a sequence has no more items than a table has positions, and no entry of a table is
absent.  (The absent value itself is nil.) -/
def Canonical : Nat → HostValue → Prop
  | _, .absent | _, .boolean _ | _, .integer _ | _, .text _ | _, .callable _ => True
  | _, .number x => x.StaysFloat
  | _, .bytes b => Text.decode? b = none
  | 0, .table _ _ => False
  | depth + 1, .table array fields =>
    array.length ≤ Table.maxPosition ∧ Assoc.Increasing fields ∧
    (∀ v ∈ array, v ≠ .absent ∧ Canonical depth v) ∧
    ∀ f ∈ fields, f.2 ≠ .absent ∧ Canonical depth f.2

end HostValue

/-- A value that the host can hold, with tables nested at most so deep: numbers are not whole unless
they are integers, and the keys of a table are 1, …, n and texts. -/
def Script.Value.Canonical (h : Heap) : Nat → Value → Prop
  | _, .nil | _, .bool _ | _, .integer _ | _, .string _ | _, .function _ => True
  | _, .float x => x.StaysFloat
  | depth + 1, .table id => ∃ items fields, (h.table id).Consists items fields ∧
    (∀ v ∈ items, Canonical h depth v) ∧ ∀ f ∈ fields, Canonical h depth f.2
  | _, _ => False

/-- Two values, each in a heap, have the same structure: they are equal, or tables of items that
are alike, one by one, and of values that are alike under the same names. -/
def Script.Value.Alike (h h' : Heap) : Nat → Value → Value → Prop
  | depth + 1, .table id, .table id' => ∃ items fields items' fields',
    (h.table id).Consists items fields ∧ (h'.table id').Consists items' fields' ∧
    List.Forall₂ (Alike h h' depth) items items' ∧
    List.Forall₂ (fun f f' => f'.1 = f.1 ∧ Alike h h' depth f.2 f'.2) fields fields'
  | _, .table _, _ => False
  | _, v, v' => v' = v

/-! ## Heaps -/

/-- The second heap has all tables of the first one, and maybe more. -/
structure Script.Heap.Extends (h h' : Heap) : Prop where
  size : h.tables.size ≤ h'.tables.size
  table : ∀ id < h.tables.size, h'.table id = h.table id

namespace Script.Heap

theorem Extends.refl (h : Heap) : h.Extends h := ⟨Nat.le_refl _, fun _ _ => rfl⟩

theorem Extends.trans {h h₁ h₂ : Heap} (h₁' : h.Extends h₁) (h₂' : h₁.Extends h₂) :
    h.Extends h₂ where
  size := Nat.le_trans h₁'.size h₂'.size
  table id hid :=
    (h₂'.table id (Nat.lt_of_lt_of_le hid h₁'.size)).trans (h₁'.table id hid)

theorem addTable_extends (h : Heap) (t : Table) : h.Extends (h.addTable t).2 where
  size := by
    show h.tables.size ≤ (h.tables.push t).size
    rw [Array.size_push]
    exact Nat.le_succ _
  table id hid := by
    show ((h.tables.push t)[id]?).getD default = (h.tables[id]?).getD default
    rw [Array.getElem?_push, if_neg (Nat.ne_of_lt hid)]

/-- A table that was added is found under its number from then on. -/
theorem table_of_added {h h' : Heap} {t : Table} (hextends : (h.addTable t).2.Extends h') :
    h'.table (h.addTable t).1 = t := by
  have hlt : h.tables.size < (h.tables.push t).size := by
    rw [Array.size_push]
    exact Nat.lt_succ_self _
  refine (hextends.table h.tables.size hlt).trans ?_
  show ((h.tables.push t)[h.tables.size]?).getD default = t
  rw [Array.getElem?_push, if_pos rfl]
  rfl

end Script.Heap

namespace HostValue

/-! ## Values that are not tables -/

theorem importNumber_of_staysFloat {x : Binary64} (h : x.StaysFloat) :
    importNumber x = .float x := by
  unfold importNumber
  cases hwhole : x.toInt? with
  | none => rfl
  | some n =>
    have hlarge : 9223372036854775808 < n.natAbs := h n hwhole
    have hmin : Int64.minValue.toInt = -9223372036854775808 := rfl
    have hmax : Int64.maxValue.toInt = 9223372036854775807 := rfl
    exact if_neg (by omega)

theorem encode_of_decode? {b : ByteArray} {s : String} (h : Text.decode? b = some s) :
    Text.encode s = b := by
  unfold Text.decode? String.fromUTF8? at h
  split at h
  · cases h; rfl
  · cases h

/-- A string of a script has the text that is read from its bytes. -/
theorem coerceText_ofBytes (b : ByteArray) :
    (ofBytes b).coerceText = some (Text.decodeLossy b) := by
  unfold ofBytes
  cases hdecode : Text.decode? b with
  | none => rfl
  | some s => exact congrArg some (Text.decodeLossy_of_decode? hdecode).symm

theorem exportWithin_scalar (h : Heap) (depth : Nat) {x : Value} (hx : ∀ id, x ≠ .table id) :
    exportWithin h depth x = exportScalar x := by
  cases x with
  | table id => exact absurd rfl (hx id)
  | _ => cases depth <;> rfl

theorem importNumber_ne_nil (x : Binary64) : importNumber x ≠ .nil := by
  unfold importNumber
  split
  · split <;> exact nofun
  · exact nofun

/-- Only what is absent becomes nil. -/
theorem importValue_ne_nil {v : HostValue} (hv : v ≠ .absent) (h : Heap) :
    (importValue v h).1 ≠ .nil := by
  cases v with
  | absent => exact absurd rfl hv
  | number x => exact importNumber_ne_nil x
  | _ => exact nofun

/-! ## Out of a heap -/

section Export

variable {convert : Value → Except ArgumentFault HostValue} {length : Nat}
  (acc : Array HostValue × List (String × HostValue)) {x : Value} {v : HostValue}

/-- An item goes to its position, -/
theorem exportEntry_position {i : Nat} (hi : i < length) (hlength : length ≤ Table.maxPosition)
    (hv : convert x = .ok v) :
    exportEntry convert length acc (position (i + 1), x)
      = .ok (acc.1.setIfInBounds i v, acc.2) := by
  rw [exportEntry_eq_ok acc hv, place?_position hi hlength]
  rfl

/-- and what is under a text becomes the field of that name. -/
theorem exportEntry_named (s : String) (hv : convert x = .ok v) :
    exportEntry convert length acc (.text s, x) = .ok (acc.1, Assoc.insert s v acc.2) := by
  rw [exportEntry_eq_ok acc hv, place?_text]
  rfl

/-- Items that come in their order fill the array from the front. -/
theorem foldlM_numbered {items : List Value} {array : List HostValue}
    (hitems : List.Forall₂ (fun x v => convert x = .ok v) items array)
    (hlength : length ≤ Table.maxPosition) (before : List HostValue)
    (fields : List (String × HostValue)) (hbefore : before.length + items.length = length) :
    (numbered items (before.length + 1)).foldlM (exportEntry convert length)
        ((before ++ List.replicate items.length HostValue.absent).toArray, fields)
      = .ok ((before ++ array).toArray, fields) := by
  induction hitems generalizing before with
  | nil => rfl
  | @cons x v items array hv _ ih =>
    have hin : before.length < length := by
      rw [List.length_cons] at hbefore
      omega
    -- the first place that is still free takes the item
    have hset : (before ++ List.replicate (items.length + 1) HostValue.absent).toArray.setIfInBounds
        before.length v
          = (before ++ [v] ++ List.replicate items.length HostValue.absent).toArray := by
      rw [List.setIfInBounds_toArray, List.replicate_succ,
        List.set_append_right _ _ (Nat.le_refl _), Nat.sub_self, List.set_cons_zero,
        List.append_assoc, List.singleton_append]
    have hnext : before.length + 1 = (before ++ [v]).length := by
      rw [List.length_append, List.length_singleton]
    have hrest := ih (before ++ [v]) (by rw [← hnext]; rw [List.length_cons] at hbefore; omega)
    show ((position (before.length + 1), x)
      :: numbered items (before.length + 1 + 1)).foldlM _ _ = _
    rw [List.foldlM_cons, List.length_cons, exportEntry_position _ hin hlength hv, hset, hnext]
    show (numbered items ((before ++ [v]).length + 1)).foldlM _ _ = _
    rw [hrest, List.append_assoc, List.singleton_append]

/-- Fields that come in increasing order are stored one behind the other. -/
theorem foldlM_named {values : List (String × Value)} {fields : List (String × HostValue)}
    (hfields : List.Forall₂ (fun f g => g.1 = f.1 ∧ convert f.2 = .ok g.2) values fields)
    (array : Array HostValue) (before : List (String × HostValue))
    (hincreasing : Assoc.Increasing (before ++ fields)) :
    (named values).foldlM (exportEntry convert length) (array, before)
      = .ok (array, before ++ fields) := by
  induction hfields generalizing before with
  | nil => rw [List.append_nil]; rfl
  | @cons f g _ fields hfg _ ih =>
    obtain ⟨s, x⟩ := f
    obtain ⟨s', v⟩ := g
    obtain ⟨hname, hv⟩ := hfg
    obtain rfl : s' = s := hname
    have hbehind : ∀ y ∈ before, y.1 < s' := fun y hy =>
      (List.pairwise_append.1 hincreasing).2.2 y hy _ List.mem_cons_self
    have hassoc : before ++ (s', v) :: fields = before ++ [(s', v)] ++ fields := by
      rw [List.append_assoc, List.singleton_append]
    show ((.text s', x) :: named _).foldlM _ _ = _
    rw [List.foldlM_cons, exportEntry_named _ s' hv, Assoc.insert_of_forall_lt hbehind, hassoc]
    exact ih _ (hassoc ▸ hincreasing)

end Export

section Tables

variable {convert : Value → Except ArgumentFault HostValue} {t : Table} {items : List Value}
  {values : List (String × Value)} {array : List HostValue} {fields : List (String × HostValue)}

/-- **A table of items and named values is taken out item by item and name by name.**  The table
may visit its entries in any order, since no two of them go to the same place. -/
theorem exportEntries_of_consists (h : t.Consists items values)
    (hitems : List.Forall₂ (fun x v => convert x = .ok v) items array)
    (hfields : List.Forall₂ (fun f g => g.1 = f.1 ∧ convert f.2 = .ok g.2) values fields) :
    exportEntries convert t = .ok ⟨array, fields⟩ := by
  have htaken : ∀ e ∈ t.pairs, ∃ v, convert e.2 = .ok v := by
    intro e he
    rcases List.mem_append.1 (h.pairs.mem_iff.1 he) with hitem | hfield
    · obtain ⟨i, hi, rfl⟩ := Table.mem_numbered.1 hitem
      obtain ⟨v, -, hv⟩ := exists_of_forall₂_right hitems.flip (List.getElem_mem hi)
      exact ⟨v, hv⟩
    · obtain ⟨f, hf, rfl⟩ := List.mem_map.1 hfield
      obtain ⟨g, -, -, hg⟩ := exists_of_forall₂_right hfields.flip hf
      exact ⟨g.2, hg⟩
  have hordered : exportInOrder convert t.length t.pairs
      = exportInOrder convert t.length (numbered items 1 ++ named values) := by
    apply exportInOrder_perm h.pairs htaken
    intro e he e' he' s hs hs'
    rw [h.eq_of_key he he' ((key_of_place? h he hs).trans (key_of_place? h he' hs').symm)]
  have hfirst := foldlM_numbered hitems h.length [] [] (Nat.zero_add _)
  have hsecond : (named _).foldlM (exportEntry convert items.length) (array.toArray, [])
      = .ok (array.toArray, [] ++ fields) :=
    foldlM_named hfields array.toArray []
      (Assoc.increasing_of_forall₂ hfields (fun _ _ hfg => hfg.1) h.increasing)
  rw [List.nil_append, List.nil_append, List.toArray_replicate] at hfirst
  rw [List.nil_append] at hsecond
  have hall : (numbered items 1 ++ named values).foldlM (exportEntry convert items.length)
      (Array.replicate items.length .absent, []) = .ok (array.toArray, fields) := by
    rw [List.foldlM_append]
    exact (congrArg (· >>= _) hfirst).trans hsecond
  rw [exportEntries_eq, hordered, Table.length_of_consists h]
  unfold exportInOrder
  rw [hall]
  rfl

end Tables

/-! ## Into a heap -/

mutual

theorem importValue_extends (v : HostValue) (h : Heap) : h.Extends (importValue v h).2 := by
  cases v with
  | table array fields =>
    have hitems := importItems_extends array h
    have hfields := importFields_extends fields (importItems array h).2
    exact (hitems.trans hfields).trans (Heap.addTable_extends _ _)
  | _ => exact .refl h

theorem importItems_extends (vs : List HostValue) (h : Heap) :
    h.Extends (importItems vs h).2 := by
  cases vs with
  | nil => exact .refl h
  | cons v vs => exact (importValue_extends v h).trans (importItems_extends vs _)

theorem importFields_extends (fs : List (String × HostValue)) (h : Heap) :
    h.Extends (importFields fs h).2 := by
  cases fs with
  | nil => exact .refl h
  | cons f fs =>
    obtain ⟨k, v⟩ := f
    have hboth := (importValue_extends v h).trans (importFields_extends fs (importValue v h).2)
    simp only [importFields]
    split <;> exact hboth

end

section Import

variable {Q : HostValue → Value → Prop} {h' : Heap}

/-- What holds of every value that is put into the heap holds of the items of a sequence, -/
theorem importItems_forall₂ (vs : List HostValue) (h : Heap)
    (hextends : (importItems vs h).2.Extends h')
    (hQ : ∀ v ∈ vs, ∀ h, (importValue v h).2.Extends h' → Q v (importValue v h).1) :
    List.Forall₂ Q vs (importItems vs h).1 := by
  induction vs generalizing h with
  | nil => exact .nil
  | cons v vs ih =>
    have hfirst : (importValue v h).2.Extends h' :=
      (importItems_extends vs (importValue v h).2).trans hextends
    exact .cons (hQ v List.mem_cons_self h hfirst)
      (ih _ hextends fun v hv => hQ v (List.mem_cons_of_mem _ hv))

/-- and of the values of fields; none of them is dropped. -/
theorem importFields_forall₂ (fs : List (String × HostValue)) (h : Heap)
    (hextends : (importFields fs h).2.Extends h') (hpresent : ∀ f ∈ fs, f.2 ≠ .absent)
    (hQ : ∀ f ∈ fs, ∀ h, (importValue f.2 h).2.Extends h' → Q f.2 (importValue f.2 h).1) :
    ∃ values, (importFields fs h).1 = named values ∧
      List.Forall₂ (fun f g => g.1 = f.1 ∧ Q f.2 g.2) fs values := by
  induction fs generalizing h with
  | nil => exact ⟨[], rfl, .nil⟩
  | cons f fs ih =>
    obtain ⟨k, v⟩ := f
    have hpair : importFields ((k, v) :: fs) h
        = ((.text k, (importValue v h).1) :: (importFields fs (importValue v h).2).1,
          (importFields fs (importValue v h).2).2) := by
      have hne := importValue_ne_nil (hpresent _ List.mem_cons_self) h
      cases hx : (importValue v h).1 with
      | nil => exact absurd hx hne
      | _ => simp only [importFields, hx]
    rw [hpair] at hextends
    have hfirst : (importValue v h).2.Extends h' :=
      (importFields_extends fs (importValue v h).2).trans hextends
    obtain ⟨values, hvalues, hrest⟩ := ih (importValue v h).2 hextends
      (fun f hf => hpresent f (List.mem_cons_of_mem _ hf))
      (fun f hf => hQ f (List.mem_cons_of_mem _ hf))
    refine ⟨(k, (importValue v h).1) :: values, ?_,
      .cons ⟨rfl, hQ _ List.mem_cons_self h hfirst⟩ hrest⟩
    rw [hpair, hvalues]
    rfl

/-- **A host's table becomes a new table of its items and fields**, and what holds of every value
that is put into the heap holds of them. -/
theorem importValue_table {array : List HostValue} {fields : List (String × HostValue)}
    (hlength : array.length ≤ Table.maxPosition) (hincreasing : Assoc.Increasing fields)
    (hitems : ∀ v ∈ array, v ≠ .absent) (hfields : ∀ f ∈ fields, f.2 ≠ .absent) (h : Heap)
    (hextends : (importValue (.table array fields) h).2.Extends h')
    (hQ : ∀ v, v ∈ array ∨ (∃ k, (k, v) ∈ fields) → ∀ h, (importValue v h).2.Extends h' →
      Q v (importValue v h).1) :
    ∃ id items values, (importValue (.table array fields) h).1 = .table id ∧
      (h'.table id).Consists items values ∧ List.Forall₂ Q array items ∧
      List.Forall₂ (fun f g => g.1 = f.1 ∧ Q f.2 g.2) fields values := by
  let afterItems := (importItems array h).2
  let afterFields := (importFields fields afterItems).2
  have hadded : afterFields.Extends h' := (Heap.addTable_extends _ _).trans hextends
  have hbefore : afterItems.Extends h' := (importFields_extends fields afterItems).trans hadded
  -- values that are there stay different from nil
  have hpresent : ∀ v, v ∈ array ∨ (∃ k, (k, v) ∈ fields) → v ≠ .absent := by
    rintro v (hv | ⟨k, hv⟩)
    · exact hitems v hv
    · exact hfields _ hv
  have hQ' : ∀ v, v ∈ array ∨ (∃ k, (k, v) ∈ fields) → ∀ h, (importValue v h).2.Extends h' →
      Q v (importValue v h).1 ∧ (importValue v h).1 ≠ .nil := fun v hv h hext =>
    ⟨hQ v hv h hext, importValue_ne_nil (hpresent v hv) h⟩
  have hsequence := importItems_forall₂ (Q := fun v x => Q v x ∧ x ≠ .nil) array h hbefore
    (fun v hv => hQ' v (.inl hv))
  obtain ⟨values, hvalues, hnamed⟩ := importFields_forall₂ (Q := fun v x => Q v x ∧ x ≠ .nil) fields
    afterItems hadded hfields (fun f hf => hQ' f.2 (.inr ⟨f.1, hf⟩))
  have htable : h'.table afterFields.tables.size
      = ⟨(importItems array h).1.toArray, named values⟩ := by
    rw [← hvalues]
    exact Heap.table_of_added hextends
  refine ⟨afterFields.tables.size, (importItems array h).1, values, rfl, ?_,
    hsequence.imp fun _ _ hboth => hboth.1, hnamed.imp fun _ _ hboth => ⟨hboth.1, hboth.2.1⟩⟩
  rw [htable]
  refine Table.consists_mk (fun x hx => ?_) (fun f hf => ?_)
    (Assoc.increasing_of_forall₂ hnamed (fun _ _ hboth => hboth.1) hincreasing)
    (hsequence.length_eq ▸ hlength)
  · obtain ⟨_, _, hboth⟩ := exists_of_forall₂_right hsequence hx
    exact hboth.2
  · obtain ⟨_, _, hboth⟩ := exists_of_forall₂_right hnamed hf
    exact hboth.2.2

end Import

/-! ## Both ways -/

/-- A canonical value that is no table is the same again. -/
theorem exportWithin_of_scalar {depth : Nat} {v : HostValue} (hv : v.Canonical depth)
    (hscalar : ∀ array fields, v ≠ .table array fields) (h h' : Heap) :
    exportWithin h' depth (importValue v h).1 = .ok v := by
  cases v with
  | table array fields => exact absurd rfl (hscalar array fields)
  | number x =>
    have hx : x.StaysFloat := by cases depth <;> exact hv
    have himport : (importValue (.number x) h).1 = .float x := importNumber_of_staysFloat hx
    rw [himport]
    exact exportWithin_scalar h' depth (x := .float x) (fun _ => nofun)
  | text s =>
    refine (exportWithin_scalar h' depth (x := .string (Text.encode s)) (fun _ => nofun)).trans ?_
    rw [exportScalar, ofBytes, Text.decode?_encode]
  | bytes b =>
    have hb : Text.decode? b = none := by cases depth <;> exact hv
    refine (exportWithin_scalar h' depth (x := .string b) (fun _ => nofun)).trans ?_
    rw [exportScalar, ofBytes, hb]
  | absent => exact exportWithin_scalar h' depth (x := .nil) (fun _ => nofun)
  | boolean b => exact exportWithin_scalar h' depth (x := .bool b) (fun _ => nofun)
  | integer n => exact exportWithin_scalar h' depth (x := .integer n) (fun _ => nofun)
  | callable f => exact exportWithin_scalar h' depth (x := .function f) (fun _ => nofun)

/-- **What was put into a heap is taken out as it was**, also after more has been put there. -/
theorem exportWithin_importValue (depth : Nat) {v : HostValue} (hv : v.Canonical depth)
    (h : Heap) {h' : Heap} (hextends : (importValue v h).2.Extends h') :
    exportWithin h' depth (importValue v h).1 = .ok v := by
  induction depth generalizing v h h' with
  | zero =>
    cases v with
    | table array fields => exact hv.elim
    | _ => exact exportWithin_of_scalar hv (fun _ _ => nofun) h h'
  | succ depth ih =>
    cases v with
    | table array fields =>
      obtain ⟨hlength, hincreasing, hitems, hfields⟩ := hv
      have hinside : ∀ v, v ∈ array ∨ (∃ k, (k, v) ∈ fields) → ∀ h₀,
          (importValue v h₀).2.Extends h' →
          exportWithin h' depth (importValue v h₀).1 = .ok v := by
        rintro v (hv | ⟨k, hv⟩) h₀ hext
        · exact ih (hitems v hv).2 h₀ hext
        · exact ih (hfields _ hv).2 h₀ hext
      obtain ⟨id, items, values, hid, hconsists, hsequence, hnamed⟩ := importValue_table
        (Q := fun v x => exportWithin h' depth x = .ok v) hlength hincreasing
        (fun v hv => (hitems v hv).1) (fun f hf => (hfields f hf).1) h hextends hinside
      have hexport := exportEntries_of_consists hconsists hsequence.flip
        (hnamed.flip.imp fun _ _ hboth => ⟨hboth.1.symm, hboth.2⟩)
      rw [hid]
      simp only [exportWithin, hexport]
    | _ => exact exportWithin_of_scalar hv (fun _ _ => nofun) h h'

/-- What a script's value is taken out as: a canonical value, which becomes a value like it
again. -/
structure Returns (h : Heap) (depth : Nat) (x : Value) (v : HostValue) : Prop where
  taken : exportWithin h depth x = .ok v
  canonical : v.Canonical depth
  present : x ≠ .nil → v ≠ .absent
  alike : ∀ h₀ h', (importValue v h₀).2.Extends h' → x.Alike h h' depth (importValue v h₀).1

/-- A canonical value that is no table comes back as itself. -/
theorem returns_of_scalar {h : Heap} {depth : Nat} {x : Value} {v : HostValue}
    (hscalar : ∀ id, x ≠ .table id) (hexport : exportScalar x = .ok v) (hv : v.Canonical 0)
    (hpresent : x ≠ .nil → v ≠ .absent) (himport : ∀ h₀, (importValue v h₀).1 = x) :
    Returns h depth x v where
  taken := by rw [exportWithin_scalar h depth hscalar, hexport]
  canonical := by
    cases depth with
    | zero => exact hv
    | succ depth =>
      cases v with
      | table => exact hv.elim
      | _ => exact hv
  present := hpresent
  alike h₀ h' _ := by
    rw [himport]
    cases x with
    | table id => exact absurd rfl (hscalar id)
    | _ => cases depth <;> rfl

theorem exists_returns_of_scalar {h : Heap} {depth : Nat} {x : Value} (hx : x.Canonical h depth)
    (hscalar : ∀ id, x ≠ .table id) : ∃ v, Returns h depth x v := by
  cases x with
  | table id => exact absurd rfl (hscalar id)
  | nil => exact ⟨.absent, returns_of_scalar hscalar rfl trivial (absurd rfl) fun _ => rfl⟩
  | bool b =>
    exact ⟨.boolean b, returns_of_scalar hscalar rfl trivial (fun _ => nofun) fun _ => rfl⟩
  | integer n =>
    exact ⟨.integer n, returns_of_scalar hscalar rfl trivial (fun _ => nofun) fun _ => rfl⟩
  | function f =>
    exact ⟨.callable f, returns_of_scalar hscalar rfl trivial (fun _ => nofun) fun _ => rfl⟩
  | float n =>
    have hn : n.StaysFloat := by cases depth <;> exact hx
    exact ⟨.number n, returns_of_scalar hscalar rfl hn (fun _ => nofun) fun _ =>
      importNumber_of_staysFloat hn⟩
  | string b =>
    -- a string is a text or bytes, and becomes the same string either way
    cases hdecode : Text.decode? b with
    | none =>
      refine ⟨.bytes b, returns_of_scalar hscalar ?_ hdecode (fun _ => nofun) fun _ => rfl⟩
      show Except.ok (ofBytes b) = _
      rw [ofBytes, hdecode]
    | some s =>
      refine ⟨.text s, returns_of_scalar hscalar ?_ trivial (fun _ => nofun) fun _ => ?_⟩
      · show Except.ok (ofBytes b) = _
        rw [ofBytes, hdecode]
      · exact congrArg Value.string (encode_of_decode? hdecode)
  | thread | userdata | fault => cases depth <;> exact hx.elim

/-- A table comes back as a table like it, when all that it holds comes back. -/
theorem returns_of_table {h : Heap} {depth : Nat} {id : ObjectId} {items : List Value}
    {values : List (String × Value)} (hconsists : (h.table id).Consists items values)
    (hitems : ∀ x ∈ items, ∃ v, Returns h depth x v)
    (hvalues : ∀ f ∈ values, ∃ v, Returns h depth f.2 v) :
    ∃ v, Returns h (depth + 1) (.table id) v := by
  obtain ⟨array, harray⟩ := exists_forall₂ hitems
  obtain ⟨fields, hfields⟩ := exists_forall₂
    (R := fun (f : String × Value) (g : String × HostValue) =>
      g.1 = f.1 ∧ Returns h depth f.2 g.2) (fun f hf => by
      obtain ⟨v, hv⟩ := hvalues f hf
      exact ⟨(f.1, v), rfl, hv⟩)
  have hexport := exportEntries_of_consists hconsists (harray.imp fun _ _ hr => hr.taken)
    (hfields.imp fun _ _ hr => ⟨hr.1, hr.2.taken⟩)
  have hincreasing : Assoc.Increasing fields :=
    Assoc.increasing_of_forall₂ hfields (fun _ _ hr => hr.1) hconsists.increasing
  have hlength : array.length ≤ Table.maxPosition := harray.length_eq ▸ hconsists.length
  -- nothing in a table is nil, so nothing that is taken out is absent
  have hin : ∀ v ∈ array, v ≠ .absent ∧ v.Canonical depth := by
    intro v hv
    obtain ⟨x, hx, hr⟩ := exists_of_forall₂_right harray hv
    exact ⟨hr.present (hconsists.ne_nil_of_item hx), hr.canonical⟩
  have hin' : ∀ g ∈ fields, g.2 ≠ .absent ∧ g.2.Canonical depth := by
    intro g hg
    obtain ⟨f, hf, -, hr⟩ := exists_of_forall₂_right hfields hg
    exact ⟨hr.present (hconsists.ne_nil_of_field hf), hr.canonical⟩
  refine ⟨.table array fields, ?_, ⟨hlength, hincreasing, hin, hin'⟩, fun _ => nofun,
    fun h₀ h' hextends => ?_⟩
  · simp only [exportWithin, hexport]
  · obtain ⟨id', items', values', hid, hconsists', hsequence, hnamed⟩ := importValue_table
      (Q := fun v x' => ∀ x, Returns h depth x v → x.Alike h h' depth x') hlength hincreasing
      (fun v hv => (hin v hv).1) (fun g hg => (hin' g hg).1) h₀ hextends
      (fun v _ h₁ hext x hr => hr.alike h₁ h' hext)
    rw [hid]
    refine ⟨items, values, items', values', hconsists, hconsists', ?_, ?_⟩
    · exact forall₂_comp harray hsequence fun _ _ _ hr halike => halike _ hr
    · exact forall₂_comp hfields hnamed fun _ _ _ hr halike =>
        ⟨halike.1.trans hr.1, halike.2 _ hr.2⟩

/-- **Canonical values of a script come back.** -/
theorem exists_returns (h : Heap) (depth : Nat) {x : Value} (hx : x.Canonical h depth) :
    ∃ v, Returns h depth x v := by
  induction depth generalizing x with
  | zero =>
    cases x with
    | table id => exact hx.elim
    | _ => exact exists_returns_of_scalar hx (fun _ => nofun)
  | succ depth ih =>
    cases x with
    | table id =>
      obtain ⟨items, values, hconsists, hitems, hvalues⟩ := hx
      exact returns_of_table hconsists (fun x hx => ih (hitems x hx))
        (fun f hf => ih (hvalues f hf))
    | _ => exact exists_returns_of_scalar hx (fun _ => nofun)

/-- **Putting into a heap and taking out are inverse to each other on canonical values.**  What the
host puts into a heap is taken out as the same value.  What is taken out for a script's value is put
back as a value of the same structure, and the tables that were there stay as they were. -/
theorem import_export_inverse :
    (∀ (v : HostValue) (h : Heap), v.Canonical maxDepth →
      exportValue (importValue v h).2 (importValue v h).1 = .ok v) ∧
    ∀ (x : Value) (h : Heap), x.Canonical h maxDepth →
      ∃ v, exportValue h x = .ok v ∧ v.Canonical maxDepth ∧ h.Extends (importValue v h).2 ∧
        x.Alike h (importValue v h).2 maxDepth (importValue v h).1 := by
  refine ⟨fun v h hv => exportWithin_importValue maxDepth hv h (.refl _), fun x h hx => ?_⟩
  obtain ⟨v, hreturns⟩ := exists_returns h maxDepth hx
  exact ⟨v, hreturns.taken, hreturns.canonical, importValue_extends v h,
    hreturns.alike h _ (.refl _)⟩

/-- A sequence with a table in it, and fields whose names look like positions. -/
def nested : HostValue :=
  .table [.integer 1, .table [.number ⟨0x3ff8000000000000⟩] [("1", .boolean true)]]
    [("2", .text "two"), ("3", .bytes ⟨#[0xff]⟩)]

/-- A heap with one table, whose second item is not in its sequence part. -/
def scattered : Heap :=
  ⟨#[⟨#[.bool true], [(.text "2", .integer 7), (position 2, .text "x")]⟩], 0⟩

/-- Both come back. -/
theorem nested_comes_back :
    nested.Canonical maxDepth ∧ (Value.table 0).Canonical scattered maxDepth ∧
    exportValue (importValue nested scattered).2 (importValue nested scattered).1 = .ok nested ∧
    ∃ v, exportValue scattered (.table 0) = .ok v ∧
      (Value.table 0).Alike scattered (importValue v scattered).2 maxDepth
        (importValue v scattered).1 := by
  have hnested : nested.Canonical maxDepth := by
    have hfraction : (⟨0x3ff8000000000000⟩ : Binary64).StaysFloat := by
      intro n hn
      have hnone : (⟨0x3ff8000000000000⟩ : Binary64).toInt? = none := by decide
      rw [hnone] at hn
      cases hn
    have hbytes : Text.decode? ⟨#[0xff]⟩ = none := by decide +kernel
    have hinner : (HostValue.table [.number ⟨0x3ff8000000000000⟩] [("1", .boolean true)]).Canonical
        31 :=
      ⟨by decide, List.pairwise_singleton .., List.forall_mem_singleton.2 ⟨nofun, hfraction⟩,
        List.forall_mem_singleton.2 ⟨nofun, trivial⟩⟩
    exact ⟨by decide, List.pairwise_pair.2 (by decide),
      List.forall_mem_cons.2 ⟨⟨nofun, trivial⟩, List.forall_mem_singleton.2 ⟨nofun, hinner⟩⟩,
      List.forall_mem_cons.2 ⟨⟨nofun, trivial⟩, List.forall_mem_singleton.2 ⟨nofun, hbytes⟩⟩⟩
  have hscattered : (Value.table 0).Canonical scattered maxDepth := by
    refine ⟨[.bool true, .text "x"], [("2", .integer 7)], ⟨?_, ?_, ?_, ?_, by decide, by decide⟩,
      ?_, ?_⟩
    · exact .cons _ (.swap _ _ _)
    · exact List.forall_mem_cons.2 ⟨nofun, List.forall_mem_cons.2 ⟨nofun,
        List.forall_mem_singleton.2 nofun⟩⟩
    · exact List.pairwise_singleton ..
    · exact List.forall_mem_cons.2 ⟨rfl, List.forall_mem_singleton.2 (by decide)⟩
    · exact List.forall_mem_cons.2 ⟨trivial, List.forall_mem_singleton.2 trivial⟩
    · exact List.forall_mem_singleton.2 trivial
  obtain ⟨v, htaken, -, -, halike⟩ := import_export_inverse.2 _ _ hscattered
  exact ⟨hnested, hscattered, import_export_inverse.1 _ _ hnested, v, htaken, halike⟩

end HostValue

end EditorPlugins
