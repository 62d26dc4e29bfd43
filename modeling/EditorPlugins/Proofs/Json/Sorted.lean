/-
  The form of a value without order and repetition.

  `sorted` inserts the fields of every object one by one, so it ends with fields in increasing order
  whose values are sorted themselves.  Fields like these are inserted each behind those before it:
  nothing moves, and a sorted value is its own sorted form.  What is found under a name stays the
  same: the last value that was written there.

  The inductions follow the three functions of the definition: values, items, fields with those
  already kept.  Of the fields that are kept the inductions assume what they have to show.

  Main statements: `sorted_sorted`, `field?_sorted`.
-/
import EditorPlugins.Json.Basic

namespace EditorPlugins

/-! ## Look-ups in a list -/

namespace Assoc

variable {α : Type u}

theorem get?_append (k : String) (l l' : List (String × α)) :
    get? k (l ++ l') = (get? k l).or (get? k l') := by
  induction l with
  | nil => rfl
  | cons e l ih =>
    obtain ⟨k₀, v₀⟩ := e
    by_cases hk : k₀ = k
    · simp [get?, hk]
    · simp [get?, hk, ih]

theorem get?_eq_none {k : String} {l : List (String × α)} (h : ∀ e ∈ l, e.1 ≠ k) :
    get? k l = none := by
  induction l with
  | nil => rfl
  | cons e l ih =>
    simp [get?, h e List.mem_cons_self, ih (fun e he => h e (List.mem_cons_of_mem _ he))]

/-- Where no key occurs twice, the first value under it is the last one. -/
theorem get?_reverse (k : String) {l : List (String × α)} (h : (l.map Prod.fst).Nodup) :
    get? k l.reverse = get? k l := by
  induction l with
  | nil => rfl
  | cons e l ih =>
    obtain ⟨k₀, v₀⟩ := e
    have hnodup := List.nodup_cons.1 h
    rw [List.reverse_cons, get?_append, ih hnodup.2]
    by_cases hk : k₀ = k
    · subst hk
      have hnone : get? k₀ l = none := by
        apply get?_eq_none
        rintro e he rfl
        exact hnodup.1 (List.mem_map.2 ⟨e, he, rfl⟩)
      simp [get?, hnone]
    · simp [get?, hk]

/-- A key before all others goes to the front. -/
theorem insert_of_lt_forall {k : String} {v : α} {l : List (String × α)}
    (h : ∀ e ∈ l, k < e.1) : insert k v l = (k, v) :: l := by
  cases l with
  | nil => rfl
  | cons e l =>
    obtain ⟨k₀, v₀⟩ := e
    have hlt : k < k₀ := h (k₀, v₀) List.mem_cons_self
    have hne : k₀ ≠ k := by
      rintro rfl
      exact String.lt_irrefl _ hlt
    rw [insert, if_neg (String.lt_asymm hlt), if_neg hne]

/-- What is selected by its key is inserted among what is selected. -/
theorem filter_insert (p : String → Bool) (k : String) (v : α) {l : List (String × α)}
    (h : Increasing l) : (insert k v l).filter (fun e => p e.1)
      = if p k then insert k v (l.filter fun e => p e.1) else l.filter fun e => p e.1 := by
  induction l with
  | nil => simp [insert, List.filter_cons]
  | cons e l ih =>
    obtain ⟨k₀, v₀⟩ := e
    have hcons := List.pairwise_cons.1 h
    by_cases hlt : k₀ < k
    · rw [insert, if_pos hlt, List.filter_cons, List.filter_cons, ih hcons.2]
      by_cases hp : p k <;> by_cases hp₀ : p k₀ <;> simp [hp, hp₀, insert, hlt]
    · by_cases hk : k₀ = k
      · subst hk
        rw [insert, if_neg hlt, if_pos rfl, List.filter_cons, List.filter_cons]
        by_cases hp : p k₀ <;> simp [hp, insert, String.lt_irrefl]
      · have hfirst : k < k₀ := Std.lt_of_le_of_ne (String.not_lt.1 hlt) (Ne.symm hk)
        have hbefore : ∀ e ∈ ((k₀, v₀) :: l).filter (fun e => p e.1), k < e.1 := by
          intro e he
          rcases List.mem_cons.1 (List.mem_filter.1 he).1 with rfl | he
          · exact hfirst
          · exact String.lt_trans hfirst (hcons.1 e he)
        rw [insert, if_neg hlt, if_neg hk, List.filter_cons, insert_of_lt_forall hbefore]

/-- A look-up among what is selected by its key. -/
theorem get?_filter (p : String → Bool) (k : String) (l : List (String × α)) :
    get? k (l.filter fun e => p e.1) = if p k then get? k l else none := by
  induction l with
  | nil => simp [get?]
  | cons e l ih =>
    obtain ⟨k₀, v₀⟩ := e
    by_cases hk : k₀ = k
    · subst hk
      by_cases hp : p k₀ <;> simp_all [get?]
    · by_cases hp : p k₀ <;> simp [get?, hp, hk, ih]

theorem Increasing.nodup {l : List (String × α)} (h : Increasing l) :
    (l.map Prod.fst).Nodup := by
  apply List.pairwise_map.2
  refine List.Pairwise.imp ?_ h
  intro e e' hlt heq
  rw [heq] at hlt
  exact String.lt_irrefl _ hlt

end Assoc

namespace Json

/-! ## Sorted fields -/

theorem increasing_sortedFields (fields : List (String × Json)) {kept : List (String × Json)}
    (hkept : Assoc.Increasing kept) : Assoc.Increasing (sortedFields fields kept) := by
  induction fields generalizing kept with
  | nil => exact hkept
  | cons field fields ih =>
    obtain ⟨k, j⟩ := field
    exact ih (Assoc.increasing_insert k j.sorted hkept)

/-- Fields in increasing order whose values are sorted are not moved, nor changed. -/
theorem sortedFields_of_increasing (fields : List (String × Json)) {kept : List (String × Json)}
    (hincreasing : Assoc.Increasing (kept ++ fields))
    (hvalues : ∀ e ∈ fields, e.2.sorted = e.2) : sortedFields fields kept = kept ++ fields := by
  induction fields generalizing kept with
  | nil => exact (List.append_nil kept).symm
  | cons field fields ih =>
    obtain ⟨k, j⟩ := field
    have hj : j.sorted = j := hvalues (k, j) List.mem_cons_self
    have hbehind : ∀ e ∈ kept, e.1 < k := by
      intro e he
      exact (List.pairwise_append.1 hincreasing).2.2 e he (k, j) List.mem_cons_self
    have hassoc : kept ++ (k, j) :: fields = (kept ++ [(k, j)]) ++ fields := by
      rw [List.append_assoc, List.singleton_append]
    rw [sortedFields, hj, Assoc.insert_of_forall_lt hbehind, hassoc]
    exact ih (hassoc ▸ hincreasing) (fun e he => hvalues e (List.mem_cons_of_mem _ he))

/-- What is found among the fields: the last value written, else what was kept. -/
theorem get?_sortedFields (name : String) (fields : List (String × Json))
    {kept : List (String × Json)} (hkept : Assoc.Increasing kept) :
    Assoc.get? name (sortedFields fields kept)
      = ((Assoc.get? name fields.reverse).map sorted).or (Assoc.get? name kept) := by
  induction fields generalizing kept with
  | nil => rfl
  | cons field fields ih =>
    obtain ⟨k, j⟩ := field
    rw [sortedFields, ih (Assoc.increasing_insert k j.sorted hkept),
      Assoc.get?_insert k name j.sorted hkept, List.reverse_cons, Assoc.get?_append]
    cases Assoc.get? name fields.reverse with
    | some v => rfl
    | none =>
      by_cases hk : name = k
      · simp [Assoc.get?, hk]
      · simp [Assoc.get?, hk, Ne.symm hk]

/-- Fields that are selected by their names are sorted by themselves. -/
theorem filter_sortedFields (p : String → Bool) (fields : List (String × Json))
    {kept : List (String × Json)} (hkept : Assoc.Increasing kept) :
    (sortedFields fields kept).filter (fun e => p e.1)
      = sortedFields (fields.filter fun e => p e.1) (kept.filter fun e => p e.1) := by
  induction fields generalizing kept with
  | nil => rfl
  | cons field fields ih =>
    obtain ⟨k, j⟩ := field
    rw [sortedFields, ih (Assoc.increasing_insert k j.sorted hkept),
      Assoc.filter_insert p k j.sorted hkept]
    by_cases hp : p k
    · simp [hp, sortedFields]
    · simp [hp]

/-! ## Sorted values -/

mutual

/-- **A sorted value is its own sorted form.** -/
theorem sorted_sorted : ∀ j : Json, j.sorted.sorted = j.sorted
  | .null | .bool _ | .integer _ | .float _ | .text _ => rfl
  | .array items => congrArg Json.array (sortedItems_sortedItems items)
  | .object fields => by
    have hincreasing : Assoc.Increasing (sortedFields fields []) :=
      increasing_sortedFields fields List.Pairwise.nil
    have hvalues : ∀ e ∈ sortedFields fields [], e.2.sorted = e.2 :=
      sorted_of_mem_sortedFields fields [] (List.forall_mem_nil _)
    exact congrArg Json.object (sortedFields_of_increasing _ hincreasing hvalues)

theorem sortedItems_sortedItems : ∀ items : List Json,
    sortedItems (sortedItems items) = sortedItems items
  | [] => rfl
  | j :: items => by
    rw [sortedItems, sortedItems, sorted_sorted j, sortedItems_sortedItems items]

theorem sorted_of_mem_sortedFields : ∀ fields kept : List (String × Json),
    (∀ e ∈ kept, e.2.sorted = e.2) → ∀ e ∈ sortedFields fields kept, e.2.sorted = e.2
  | [], _, hkept => hkept
  | (k, j) :: fields, kept, hkept => by
    refine sorted_of_mem_sortedFields fields _ ?_
    intro e he
    rcases Assoc.mem_insert he with rfl | he
    · exact sorted_sorted j
    · exact hkept e he

end

/-- The fields of a sorted object increase, and their values are sorted. -/
theorem of_sorted_eq_object {j : Json} {fields : List (String × Json)}
    (h : j.sorted = .object fields) :
    Assoc.Increasing fields ∧ ∀ e ∈ fields, e.2.sorted = e.2 := by
  cases j with
  | object written =>
    cases h
    exact ⟨increasing_sortedFields written List.Pairwise.nil,
      sorted_of_mem_sortedFields written [] (List.forall_mem_nil _)⟩
  | _ => cases h

/-- **Under every name the sorted form has the sorted form of what the value has there.** -/
theorem field?_sorted (j : Json) (name : String) :
    j.sorted.field? name = (j.field? name).map sorted := by
  cases j with
  | object fields =>
    have hincreasing := (of_sorted_eq_object (j := .object fields) rfl).1
    show Assoc.get? name (sortedFields fields []).reverse
      = (Assoc.get? name fields.reverse).map sorted
    rw [Assoc.get?_reverse name hincreasing.nodup, get?_sortedFields name fields List.Pairwise.nil]
    exact Option.or_none
  | _ => rfl

end Json

end EditorPlugins
