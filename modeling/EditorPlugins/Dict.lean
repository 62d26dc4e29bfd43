/-
  Dictionaries with text keys, kept as association lists in strictly increasing key order.

  Two layers.  `Assoc` holds the plain functions on `List (String × α)`; they are what a recursive
  data type can be built from (a JSON object, a table that crossed the script boundary).  `Dict`
  bundles such a list with the proof that its keys increase strictly, so that two dictionaries
  with the same look-ups are EQUAL (`Dict.ext_get?`): configurations, settings and failure maps
  can then be compared with `=`.

  `String` is ordered by code points, which for valid text is the order of its UTF-8 bytes.
-/

namespace EditorPlugins

/-! ## Association lists -/

namespace Assoc

variable {α : Type u} {β : Type v}

/-- The first value stored under `k`. -/
def get? (k : String) : List (String × α) → Option α
  | [] => none
  | (k', v) :: r => if k' = k then some v else get? k r

/-- Store `v` under `k`, keeping increasing key order; an entry with the same key is replaced. -/
def insert (k : String) (v : α) : List (String × α) → List (String × α)
  | [] => [(k, v)]
  | (k', v') :: r =>
    if k' < k then (k', v') :: insert k v r
    else if k' = k then (k, v) :: r
    else (k, v) :: (k', v') :: r

/-- Drop every entry stored under `k`. -/
def erase (k : String) (l : List (String × α)) : List (String × α) :=
  l.filter (fun e => e.1 ≠ k)

/-- The keys increase strictly; in particular no key occurs twice. -/
def Increasing (l : List (String × α)) : Prop :=
  l.Pairwise (fun a b => a.1 < b.1)

theorem mem_insert {k : String} {v : α} {l : List (String × α)} {e : String × α}
    (h : e ∈ insert k v l) : e = (k, v) ∨ e ∈ l := by
  induction l with
  | nil => simpa [insert] using h
  | cons a r ih =>
    obtain ⟨k', v'⟩ := a
    unfold insert at h
    split at h
    · rcases List.mem_cons.1 h with h | h
      · exact .inr (h ▸ List.mem_cons_self)
      · exact (ih h).imp_right (List.mem_cons_of_mem _)
    · split at h
      · rcases List.mem_cons.1 h with h | h
        · exact .inl h
        · exact .inr (List.mem_cons_of_mem _ h)
      · rcases List.mem_cons.1 h with h | h
        · exact .inl h
        · exact .inr h

theorem increasing_insert (k : String) (v : α) {l : List (String × α)} (h : Increasing l) :
    Increasing (insert k v l) := by
  induction l with
  | nil => simp [insert, Increasing]
  | cons a r ih =>
    obtain ⟨k', v'⟩ := a
    have hr := List.pairwise_cons.1 h
    unfold insert
    split
    · rename_i hlt
      refine List.pairwise_cons.2 ⟨fun e he => ?_, ih hr.2⟩
      rcases mem_insert he with rfl | he
      · exact hlt
      · exact hr.1 e he
    · split
      · rename_i hk
        subst hk
        exact List.pairwise_cons.2 ⟨hr.1, hr.2⟩
      · rename_i hlt hne
        have hk : k < k' :=
          Std.lt_of_le_of_ne (String.not_lt.1 hlt) (fun e => hne e.symm)
        refine List.pairwise_cons.2 ⟨fun e he => ?_, h⟩
        rcases List.mem_cons.1 he with rfl | he
        · exact hk
        · exact String.lt_trans hk (hr.1 e he)

/-- A key behind all others goes to the end. -/
theorem insert_of_forall_lt {k : String} {v : α} {l : List (String × α)}
    (h : ∀ e ∈ l, e.1 < k) : insert k v l = l ++ [(k, v)] := by
  induction l with
  | nil => rfl
  | cons a r ih =>
    obtain ⟨k', v'⟩ := a
    have hlt : k' < k := h (k', v') List.mem_cons_self
    rw [insert, if_pos hlt, ih (fun e he => h e (List.mem_cons_of_mem _ he))]
    rfl

theorem increasing_filter (p : String × α → Bool) {l : List (String × α)} (h : Increasing l) :
    Increasing (l.filter p) :=
  List.Pairwise.filter p h

/-- What is read after a write: the new value at its key, the old ones elsewhere. -/
theorem get?_insert (k k' : String) (v : α) {l : List (String × α)} (h : Increasing l) :
    get? k' (insert k v l) = if k' = k then some v else get? k' l := by
  induction l with
  | nil => simp [insert, get?, eq_comm]
  | cons a r ih =>
    obtain ⟨k₀, v₀⟩ := a
    have hr := List.pairwise_cons.1 h
    unfold insert
    split
    · rename_i hlt
      have hne : k₀ ≠ k := fun e => String.lt_irrefl _ (e ▸ hlt)
      by_cases hk : k₀ = k'
      · subst hk; simp [get?, hne]
      · simp [get?, hk, ih hr.2]
    · split
      · rename_i hk; subst hk
        by_cases hk' : k₀ = k' <;> simp [get?, hk', eq_comm]
        intro e; exact absurd e.symm hk'
      · by_cases hk' : k' = k
        · simp [get?, hk']
        · simp [get?, hk', Ne.symm hk']

theorem get?_erase (k k' : String) (l : List (String × α)) :
    get? k' (erase k l) = if k' = k then none else get? k' l := by
  induction l with
  | nil => simp [erase, get?]
  | cons a r ih =>
    obtain ⟨k₀, v₀⟩ := a
    by_cases h : k₀ = k
    · have : erase k ((k₀, v₀) :: r) = erase k r := by simp [erase, h]
      rw [this, ih]
      by_cases hk : k' = k
      · simp [hk]
      · have : k₀ ≠ k' := fun e => hk (e ▸ h)
        simp [hk, get?, this]
    · have : erase k ((k₀, v₀) :: r) = (k₀, v₀) :: erase k r := by simp [erase, h]
      rw [this]
      by_cases hk : k₀ = k'
      · subst hk; simp [get?, h]
      · simp [get?, hk, ih]

end Assoc

/-! ## Dictionaries -/

/-- A finite map from text to `α`, in increasing key order. -/
structure Dict (α : Type u) where
  entries : List (String × α)
  increasing : Assoc.Increasing entries

namespace Dict

variable {α : Type u} {β : Type v}

@[ext]
theorem ext {a b : Dict α} (h : a.entries = b.entries) : a = b := by
  cases a; cases b; simp_all

instance [DecidableEq α] : DecidableEq (Dict α) := fun a b =>
  decidable_of_iff (a.entries = b.entries) ⟨ext, fun h => h ▸ rfl⟩

/-- The dictionary without entries. -/
def empty : Dict α := ⟨[], List.Pairwise.nil⟩

instance : EmptyCollection (Dict α) := ⟨empty⟩
instance : Inhabited (Dict α) := ⟨empty⟩

/-- The value stored under `k`. -/
def get? (d : Dict α) (k : String) : Option α := Assoc.get? k d.entries

/-- Whether something is stored under `k`. -/
def contains (d : Dict α) (k : String) : Bool := (d.get? k).isSome

/-- Store `v` under `k`, replacing what was there. -/
def insert (d : Dict α) (k : String) (v : α) : Dict α :=
  ⟨Assoc.insert k v d.entries, Assoc.increasing_insert k v d.increasing⟩

/-- Forget what is stored under `k`. -/
def erase (d : Dict α) (k : String) : Dict α :=
  ⟨Assoc.erase k d.entries, Assoc.increasing_filter _ d.increasing⟩

/-- Keep the entries that satisfy `p`. -/
def filter (d : Dict α) (p : String → α → Bool) : Dict α :=
  ⟨d.entries.filter (fun e => p e.1 e.2), Assoc.increasing_filter _ d.increasing⟩

/-- Replace the value under `k`, if there is one, by its image. -/
def modify (d : Dict α) (k : String) (f : α → α) : Dict α :=
  match d.get? k with
  | some v => d.insert k (f v)
  | none => d

/-- Apply `f` to every value. -/
def map (d : Dict α) (f : α → β) : Dict β :=
  ⟨d.entries.map (fun e => (e.1, f e.2)), by
    unfold Assoc.Increasing; exact List.pairwise_map.2 d.increasing⟩

/-- Insert the pairs from left to right: of two equal keys the later one wins. -/
def ofList (l : List (String × α)) : Dict α :=
  l.foldl (fun d e => d.insert e.1 e.2) empty

/-- The pairs in increasing key order. -/
def toList (d : Dict α) : List (String × α) := d.entries

/-- The keys in increasing order. -/
def keys (d : Dict α) : List String := d.entries.map (·.1)

/-- The number of entries. -/
def size (d : Dict α) : Nat := d.entries.length

def isEmpty (d : Dict α) : Bool := d.entries.isEmpty

@[simp] theorem get?_empty (k : String) : (∅ : Dict α).get? k = none := rfl

theorem get?_insert (d : Dict α) (k k' : String) (v : α) :
    (d.insert k v).get? k' = if k' = k then some v else d.get? k' :=
  Assoc.get?_insert k k' v d.increasing

@[simp] theorem get?_insert_self (d : Dict α) (k : String) (v : α) :
    (d.insert k v).get? k = some v := by simp [get?_insert]

theorem get?_erase (d : Dict α) (k k' : String) :
    (d.erase k).get? k' = if k' = k then none else d.get? k' :=
  Assoc.get?_erase k k' d.entries

/-- A look-up below every key finds nothing. -/
theorem get?_eq_none_of_lt {k : String} {l : List (String × α)}
    (h : ∀ e ∈ l, k < e.1) : Assoc.get? k l = none := by
  induction l with
  | nil => rfl
  | cons a r ih =>
    have hne : a.1 ≠ k := fun e => String.lt_irrefl _ (e ▸ h a List.mem_cons_self)
    simp [Assoc.get?, hne, ih (fun e he => h e (List.mem_cons_of_mem _ he))]

/-- A dictionary is determined by its look-ups. -/
theorem ext_get? {a b : Dict α} (h : ∀ k, a.get? k = b.get? k) : a = b := by
  obtain ⟨la, ha⟩ := a
  obtain ⟨lb, hb⟩ := b
  apply ext
  show la = lb
  replace h : ∀ k, Assoc.get? k la = Assoc.get? k lb := h
  induction la generalizing lb with
  | nil =>
    cases lb with
    | nil => rfl
    | cons e _ => have := h e.1; simp [Assoc.get?] at this
  | cons x xs ih =>
    have hx := List.pairwise_cons.1 ha
    cases lb with
    | nil => have := h x.1; simp [Assoc.get?] at this
    | cons y ys =>
      have hy := List.pairwise_cons.1 hb
      have hkey : x.1 = y.1 := by
        apply Classical.byContradiction
        intro hne
        rcases String.le_total x.1 y.1 with hle | hle
        · have hlt : x.1 < y.1 := Std.lt_of_le_of_ne hle hne
          have hnone : Assoc.get? x.1 (y :: ys) = none := get?_eq_none_of_lt (fun e he => by
            rcases List.mem_cons.1 he with rfl | he
            · exact hlt
            · exact String.lt_trans hlt (hy.1 e he))
          have := h x.1
          rw [hnone] at this
          simp [Assoc.get?] at this
        · have hlt : y.1 < x.1 := Std.lt_of_le_of_ne hle (Ne.symm hne)
          have hnone : Assoc.get? y.1 (x :: xs) = none := get?_eq_none_of_lt (fun e he => by
            rcases List.mem_cons.1 he with rfl | he
            · exact hlt
            · exact String.lt_trans hlt (hx.1 e he))
          have := h y.1
          rw [hnone] at this
          simp [Assoc.get?] at this
      have hval : x.2 = y.2 := by
        have := h x.1
        simp [Assoc.get?, hkey] at this
        exact this
      have hxy : x = y := Prod.ext hkey hval
      subst hxy
      congr 1
      refine ih hx.2 ys hy.2 (fun k => ?_)
      by_cases hk : x.1 = k
      · subst hk
        rw [get?_eq_none_of_lt hx.1, get?_eq_none_of_lt hy.1]
      · have := h k
        simpa [Assoc.get?, hk] using this

/-- A look-up after a selection: what was there, when it is among what was kept. -/
theorem get?_filter (d : Dict α) (p : String → α → Bool) (k : String) :
    (d.filter p).get? k = (d.get? k).filter (p k) := by
  obtain ⟨l, hl⟩ := d
  show Assoc.get? k (l.filter (fun e => p e.1 e.2)) = (Assoc.get? k l).filter (p k)
  induction l with
  | nil => rfl
  | cons a r ih =>
    obtain ⟨k₀, v₀⟩ := a
    have hr := List.pairwise_cons.1 hl
    by_cases hk : k₀ = k
    · subst hk
      by_cases hp : p k₀ v₀
      · simp [Assoc.get?, Option.filter, hp]
      · -- the keys that follow are larger, so nothing else can be found under this one
        have hnone : Assoc.get? k₀ r = none := get?_eq_none_of_lt hr.1
        have hih := ih hr.2
        rw [hnone] at hih
        simp [Assoc.get?, Option.filter, hp, hih]
    · by_cases hp : p k₀ v₀
      · simp [Assoc.get?, hp, hk, ih hr.2]
      · simp [Assoc.get?, hp, hk, ih hr.2]

theorem get?_modify (d : Dict α) (k k' : String) (f : α → α) :
    (d.modify k f).get? k' = if k' = k then (d.get? k).map f else d.get? k' := by
  unfold modify
  cases h : d.get? k with
  | none =>
    by_cases hk : k' = k
    · subst hk; simp [h]
    · simp [hk]
  | some v => simp [get?_insert]

theorem modify_of_get?_eq_none {d : Dict α} {k : String} (h : d.get? k = none) (f : α → α) :
    d.modify k f = d := by
  unfold modify
  rw [h]

/-! ## Keys -/

@[simp] theorem contains_empty (k : String) : (∅ : Dict α).contains k = false := rfl

theorem contains_eq_false_iff {d : Dict α} {k : String} :
    d.contains k = false ↔ d.get? k = none := by
  rw [contains, Option.isSome_eq_false_iff, Option.isNone_iff_eq_none]

theorem contains_iff {d : Dict α} {k : String} : d.contains k = true ↔ ∃ v, d.get? k = some v := by
  rw [contains, Option.isSome_iff_exists]

@[simp] theorem contains_insert (d : Dict α) (k k' : String) (v : α) :
    (d.insert k v).contains k' = (decide (k' = k) || d.contains k') := by
  by_cases h : k' = k <;> simp [contains, get?_insert, h]

@[simp] theorem contains_erase (d : Dict α) (k k' : String) :
    (d.erase k).contains k' = (!decide (k' = k) && d.contains k') := by
  by_cases h : k' = k <;> simp [contains, get?_erase, h]

@[simp] theorem contains_modify (d : Dict α) (k k' : String) (f : α → α) :
    (d.modify k f).contains k' = d.contains k' := by
  by_cases h : k' = k <;> simp [contains, get?_modify, h]

theorem eq_empty {d : Dict α} (h : ∀ k, d.contains k = false) : d = ∅ :=
  ext_get? (fun k => contains_eq_false_iff.1 (h k))

theorem mem_keys {d : Dict α} {k : String} : k ∈ d.keys ↔ d.contains k = true := by
  obtain ⟨l, hl⟩ := d
  show k ∈ l.map (·.1) ↔ (Assoc.get? k l).isSome = true
  clear hl
  induction l with
  | nil => simp [Assoc.get?]
  | cons a r ih =>
    by_cases h : a.1 = k
    · simp [Assoc.get?, h]
    · simp [Assoc.get?, h, ih, Ne.symm h]

/-- The entries are what can be read. -/
theorem mem_entries {d : Dict α} {k : String} {v : α} :
    (k, v) ∈ d.entries ↔ d.get? k = some v := by
  obtain ⟨l, hl⟩ := d
  show (k, v) ∈ l ↔ Assoc.get? k l = some v
  induction l with
  | nil => simp [Assoc.get?]
  | cons a r ih =>
    obtain ⟨k₀, v₀⟩ := a
    have hr := List.pairwise_cons.1 hl
    by_cases hk : k₀ = k
    · subst hk
      -- the keys that follow are larger
      have hnot : (k₀, v) ∉ r := fun hmem => String.lt_irrefl _ (hr.1 (k₀, v) hmem)
      simp [Assoc.get?, hnot, eq_comm]
    · have hne : ¬ k = k₀ := fun heq => hk heq.symm
      simp [Assoc.get?, hk, hne, ih hr.2]

/-- Writing what is already there changes nothing that can be read. -/
theorem insert_of_get? {d : Dict α} {k : String} {v : α} (h : d.get? k = some v) :
    d.insert k v = d :=
  ext_get? fun k' => by
    rw [get?_insert]
    split
    · rename_i e; rw [e, h]
    · rfl

/-- A dictionary is made again from its entries. -/
theorem ofList_entries (d : Dict α) : ofList d.entries = d := by
  have hfold : ∀ (l : List (String × α)) (e : Dict α), Assoc.Increasing (e.entries ++ l) →
      (l.foldl (fun d x => d.insert x.1 x.2) e).entries = e.entries ++ l := by
    intro l
    induction l with
    | nil => intro e _; exact (List.append_nil _).symm
    | cons x l ih =>
      intro e hincreasing
      -- the next key is behind all those that were inserted
      have hbehind : ∀ y ∈ e.entries, y.1 < x.1 := fun y hy =>
        (List.pairwise_append.1 hincreasing).2.2 y hy x List.mem_cons_self
      have hinsert : (e.insert x.1 x.2).entries = e.entries ++ [x] :=
        Assoc.insert_of_forall_lt hbehind
      have hassoc : e.entries ++ x :: l = (e.insert x.1 x.2).entries ++ l := by
        rw [hinsert, List.append_assoc, List.singleton_append]
      rw [List.foldl_cons, ih _ (hassoc ▸ hincreasing), hassoc]
  exact ext (hfold d.entries empty d.increasing)

example : (Dict.ofList [("b", 1), ("a", 2), ("b", 3)]).toList = [("a", 2), ("b", 3)] := by decide

end Dict

end EditorPlugins
