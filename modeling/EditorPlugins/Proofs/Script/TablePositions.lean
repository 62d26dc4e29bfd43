/-
  Positions of a table, however it was filled.

  The value at a position lies in the sequence part of a table or among the other entries, and which
  of the two depends on how the table was filled.  A script may store under any key and in any
  order, so unlike `Consists` (`Proofs/Script/TableLength`) `Positioned` takes a table as it comes:
  there may be gaps, and keys of all types.  It says only what the key of an entry tells about
  positions: that the entry is under no other position, that the sequence part does not reach this
  far, and that there is no second entry under the same one.

  Of keys that are no whole numbers nothing is said.  Whole floating-point numbers are stored as
  integers, and this is why a key equals a position only if it is one.

  Main statements: storing keeps `Positioned` (`Positioned.put`), tables that are written down have
  it (`positioned_ofParts`), and in such a table the entry under a position has the value that is
  looked up there (`Positioned.eq_itemAt`).
-/
import Mathlib.Data.List.Pairwise
import EditorPlugins.Proofs.Script.TableLength

namespace EditorPlugins.Script.Table

/-- Two entries are not under the same whole number. -/
def Apart (e e' : Value × Value) : Prop := ∀ n, e.1 = .integer n → e'.1 ≠ .integer n

/-- Every position has at most one value, in the sequence part or under its key. -/
structure Positioned (t : Table) : Prop where
  /-- A key that equals a whole number is this number. -/
  stored : ∀ e ∈ t.entries, ∀ n, e.1.same (.integer n) = true → e.1 = .integer n
  apart : ∀ e ∈ t.entries, inSequence t.items.size e.1 = false
  once : t.entries.Pairwise Apart

instance : Std.Symm Apart := ⟨fun _ _ h n hn hn' => h n hn' hn⟩

/-! ## Keys -/

theorem same_integer (n : Int64) : (Value.integer n).same (.integer n) = true := beq_self_eq_true n

/-- A stored key that equals a whole number is this number. -/
theorem storedKey_eq_integer {k : Value} {n : Int64}
    (h : (storedKey k).same (.integer n) = true) : storedKey k = .integer n := by
  cases k with
  | integer m => exact congrArg Value.integer (beq_iff_eq.1 h)
  | float x =>
    unfold storedKey at h ⊢
    cases hwhole : x.toInt?.bind int64? with
    | some m =>
      simp only [hwhole] at h ⊢
      exact congrArg Value.integer (beq_iff_eq.1 h)
    | none =>
      -- a number with a whole value of 64 bits is not stored as it is
      simp only [hwhole] at h
      have hint : x.toInt? = some n.toInt := beq_iff_eq.1 h
      have hfits : int64? n.toInt = some n := by
        unfold int64?
        rw [if_pos ⟨Int64.minValue_le_toInt n, Int64.toInt_le n⟩, Int64.ofInt_toInt]
      rw [hint, Option.bind_some, hfits] at hwhole
      cases hwhole
  | _ => cases h

/-- Positions and the integers that are positions. -/
theorem position_toInt {n : Int64} (h : 1 ≤ n.toInt) : position n.toInt.toNat = .integer n := by
  have hnat : (n.toInt.toNat : Int) = n.toInt := Int.toNat_of_nonneg (by omega)
  show Value.integer (Int64.ofInt (n.toInt.toNat : Int)) = .integer n
  rw [hnat, Int64.ofInt_toInt]

theorem toInt_position {k : Nat} (h : k ≤ maxPosition) : (Int64.ofNat k).toInt = k :=
  Int64.toInt_ofNat_of_lt (Nat.lt_succ_of_le h)

theorem inSequence_position {size k : Nat} (h : k ≤ maxPosition) :
    inSequence size (position k) = true ↔ 1 ≤ k ∧ k ≤ size := by
  simp only [inSequence, position, toInt_position h, Bool.and_eq_true, decide_eq_true_eq]
  omega

/-! ## Storing -/

section Store

variable {t : Table} {k : Value} {entries : List (Value × Value)}

/-- Storing brings no other key. -/
theorem key_of_mem_putEntry {v : Value} {e : Value × Value} (h : e ∈ putEntry k v entries) :
    (∃ e' ∈ entries, e.1 = e'.1) ∨ e.1 = k := by
  have hfilter : ∀ p : Value × Value → Bool, e ∈ entries.filter p →
      (∃ e' ∈ entries, e.1 = e'.1) ∨ e.1 = k :=
    fun p hmem => .inl ⟨e, (List.mem_filter.1 hmem).1, rfl⟩
  unfold putEntry at h
  split at h
  · split at h
    · exact hfilter _ h
    · obtain ⟨e', he', rfl⟩ := List.mem_map.1 h
      refine .inl ⟨e', he', ?_⟩
      split <;> rfl
  · split at h
    · exact .inl ⟨e, h, rfl⟩
    · rcases List.mem_append.1 h with hold | hnew
      · exact .inl ⟨e, hold, rfl⟩
      · rw [List.mem_singleton.1 hnew]
        exact .inr rfl

/-- A key that is there already takes the new value, so no number is a key twice. -/
theorem pairwise_putEntry (h : entries.Pairwise Apart) (v : Value) :
    (putEntry k v entries).Pairwise Apart := by
  unfold putEntry
  split
  · split
    · exact h.filter _
    · refine List.Pairwise.map _ ?_ h
      intro e e' hapart
      have hkey : ∀ e : Value × Value, (if e.1.same k then (e.1, v) else e).1 = e.1 := by
        intro e
        split <;> rfl
      unfold Apart
      rw [hkey, hkey]
      exact hapart
  · rename_i hnew
    split
    · exact h
    · refine List.pairwise_append.2 ⟨h, List.pairwise_singleton _ _, ?_⟩
      intro e he e' he' n hn hk
      rw [List.mem_singleton.1 he'] at hk
      obtain rfl : k = .integer n := hk
      have hsame : e.1.same (.integer n) = true := hn ▸ same_integer n
      exact hnew (List.any_eq_true.2 ⟨e, he, hsame⟩)

theorem Positioned.putEntry (h : t.Positioned)
    (hstored : ∀ n, k.same (.integer n) = true → k = .integer n)
    (hapart : inSequence t.items.size k = false) (v : Value) :
    Positioned { t with entries := Table.putEntry k v t.entries } where
  stored e he n hn := by
    rcases key_of_mem_putEntry he with ⟨e', he', hkey⟩ | hkey
    · rw [hkey] at hn ⊢
      exact h.stored e' he' n hn
    · rw [hkey] at hn ⊢
      exact hstored n hn
  apart e he := by
    rcases key_of_mem_putEntry he with ⟨e', he', hkey⟩ | hkey
    · rw [hkey]
      exact h.apart e' he'
    · rw [hkey]
      exact hapart
  once := pairwise_putEntry h.once v

/-- **Storing leaves every position with at most one value.** -/
theorem Positioned.put (h : t.Positioned) (k v : Value) : (t.put k v).Positioned := by
  have hstored := fun n => storedKey_eq_integer (k := k) (n := n)
  unfold Table.put
  dsimp only
  split
  · rename_i n hk
    rw [hk] at hstored
    split
    · -- the sequence part is as long as before
      refine ⟨h.stored, ?_, h.once⟩
      intro e he
      show inSequence (t.items.setIfInBounds _ _).size e.1 = false
      rw [Array.size_setIfInBounds]
      exact h.apart e he
    · rename_i hout
      rw [hk] at hout ⊢
      exact h.putEntry hstored (Bool.eq_false_iff.2 hout) v
  · rename_i hother
    refine h.putEntry hstored ?_ v
    unfold inSequence
    split
    · rename_i n hk
      exact absurd hk (hother n)
    · rfl

/-- Tables whose entries are all under strings, whatever the sequence part is. -/
theorem positioned_of_strings (h : ∀ e ∈ t.entries, ∃ b, e.1 = .string b) : t.Positioned where
  stored e he n hn := by
    obtain ⟨b, hb⟩ := h e he
    rw [hb] at hn
    cases hn
  apart e he := by
    obtain ⟨b, hb⟩ := h e he
    rw [hb]
    rfl
  once := by
    apply List.pairwise_of_forall_mem_list
    intro e he e' _ n hn
    obtain ⟨b, hb⟩ := h e he
    rw [hb] at hn
    cases hn

theorem positioned_sequence (items : Array Value) : Positioned ⟨items, []⟩ :=
  positioned_of_strings fun _ he => absurd he List.not_mem_nil

theorem positioned_named (items : Array Value) (name : String) (v : Value) :
    Positioned ⟨items, [(.text name, v)]⟩ := by
  refine positioned_of_strings fun e he => ?_
  rw [List.mem_singleton.1 he]
  exact ⟨_, rfl⟩

/-- **Tables that are written down have at most one value at each position.** -/
theorem positioned_ofParts {items : List Value} {fields : List (Value × Value)}
    (h : ofParts items fields = .ok t) : t.Positioned := by
  have hfold : ∀ (fields : List (Value × Value)) (t₀ : Table), t₀.Positioned →
      fields.foldlM (makeEntry items.length) t₀ = .ok t → t.Positioned := by
    intro fields
    induction fields with
    | nil => intro t₀ h₀ heq; cases heq; exact h₀
    | cons e fields ih =>
      intro t₀ h₀ heq
      rw [List.foldlM_cons] at heq
      unfold makeEntry at heq
      cases hcheck : checkKey e.1 with
      | error r => rw [hcheck] at heq; cases heq
      | ok =>
        rw [hcheck] at heq
        refine ih _ ?_ heq
        split
        · exact h₀
        · exact h₀.put _ _
  exact hfold fields _ (positioned_sequence _) h

end Store

/-! ## Looking up -/

section Look

variable {t : Table} {k : Nat}

/-- What a script finds under a position is what is there. -/
theorem get_position (hk : k ≤ maxPosition) : t.get (position k) = t.itemAt k := by
  have hint := toInt_position hk
  show (if inSequence t.items.size (position k) then t.itemAt (Int64.ofNat k).toInt.toNat
    else ((t.entries.find? (fun e => e.1.same (position k))).map (·.2)).getD .nil) = t.itemAt k
  rw [hint, Int.toNat_natCast]
  by_cases hin : 1 ≤ k ∧ k ≤ t.items.size
  · rw [if_pos ((inSequence_position hk).2 hin)]
  · rw [if_neg (mt (inSequence_position hk).1 hin)]
    unfold itemAt
    rw [if_neg hin]
    rfl

/-- The entry that a look-up finds is under this number. -/
theorem Positioned.mem_of_find? (h : t.Positioned) {n : Int64} {e : Value × Value}
    (hfind : t.entries.find? (fun e => e.1.same (.integer n)) = some e) :
    e ∈ t.entries ∧ e.1 = .integer n := by
  have hmem := List.mem_of_find?_eq_some hfind
  have hsame := List.find?_some (p := fun e : Value × Value => e.1.same (.integer n)) hfind
  exact ⟨hmem, h.stored e hmem n hsame⟩

/-- **The entry under a position has the value that is looked up there.** -/
theorem Positioned.eq_itemAt (h : t.Positioned) (hsize : t.items.size ≤ maxPosition)
    (hk : k ≤ maxPosition) {e : Value × Value} (he : e ∈ t.pairs) (hkey : e.1 = position k) :
    e.2 = t.itemAt k := by
  unfold itemAt
  rcases mem_pairs.1 he with ⟨i, hi, -, rfl⟩ | hentry
  · -- in the sequence part
    have hik : i + 1 = k := position_inj (by omega) (by omega) hkey
    subst hik
    rw [if_pos ⟨Nat.le_add_left 1 i, hi⟩, Nat.add_sub_cancel, Array.getElem?_eq_getElem hi,
      Option.getD_some]
  · have hout : ¬ (1 ≤ k ∧ k ≤ t.items.size) := by
      intro hin
      have hapart := h.apart e hentry
      rw [hkey, (inSequence_position hk).2 hin] at hapart
      cases hapart
    have hsame : e.1.same (.integer (Int64.ofNat k)) = true := hkey ▸ same_integer _
    rw [if_neg hout]
    cases hfind : t.entries.find? (fun e => e.1.same (.integer (Int64.ofNat k))) with
    | none => exact absurd hsame (List.find?_eq_none.1 hfind e hentry)
    | some e' =>
      obtain ⟨hmem', hkey'⟩ := h.mem_of_find? hfind
      -- there is one entry under this position
      have heq : e' = e := by
        refine Classical.byContradiction fun hne => ?_
        exact h.once.forall hmem' hentry hne _ hkey' hkey
      rw [heq]
      rfl

/-- Where a value is looked up, there is an entry under this position. -/
theorem Positioned.exists_entry (h : t.Positioned) (hpos : 1 ≤ k) (hvalue : t.itemAt k ≠ .nil) :
    ∃ e ∈ t.pairs, e.1 = position k := by
  unfold itemAt at hvalue
  by_cases hin : 1 ≤ k ∧ k ≤ t.items.size
  · have hlt : k - 1 < t.items.size := by omega
    rw [if_pos hin, Array.getElem?_eq_getElem hlt, Option.getD_some] at hvalue
    refine ⟨(position k, t.items[k - 1]), mem_pairs.2 (.inl ⟨k - 1, hlt, hvalue, ?_⟩), rfl⟩
    rw [Nat.sub_add_cancel hpos]
  · rw [if_neg hin] at hvalue
    cases hfind : t.entries.find? (fun e => e.1.same (.integer (Int64.ofNat k))) with
    | none => rw [hfind] at hvalue; exact absurd rfl hvalue
    | some e =>
      obtain ⟨hmem, hkey⟩ := h.mem_of_find? hfind
      exact ⟨e, mem_pairs.2 (.inr hmem), hkey⟩

end Look

/-! ## The sequence -/

section Sequence

variable {present : Nat → Bool}

theorem search_le (fuel : Nat) {low high : Nat} (h : low ≤ high) :
    search present fuel low high ≤ high := by
  induction fuel generalizing low high with
  | zero => exact h
  | succ fuel ih =>
    unfold search
    split
    · dsimp only
      split
      · exact ih (by omega)
      · exact Nat.le_trans (ih (by omega)) (by omega)
    · exact h

theorem searchUp_le (fuel : Nat) {low : Nat} (h : low ≤ maxPosition) :
    searchUp present fuel low ≤ maxPosition := by
  induction fuel generalizing low with
  | zero => exact h
  | succ fuel ih =>
    unfold searchUp
    dsimp only
    generalize hnext : (if low ≤ maxPosition / 2 then low * 2 else maxPosition) = next
    have hbounds : low ≤ next ∧ next ≤ maxPosition := by
      split at hnext <;> omega
    split
    · split
      · exact hbounds.2
      · exact ih hbounds.2
    · exact Nat.le_trans (search_le 64 hbounds.1) hbounds.2

/-- **The length is a position.** -/
theorem length_le {t : Table} (h : t.items.size ≤ maxPosition) : t.length ≤ maxPosition := by
  have hone : max t.items.size 1 ≤ maxPosition := Nat.max_le.2 ⟨h, by decide⟩
  unfold Table.length
  dsimp only
  split
  · split
    · omega
    · exact Nat.le_trans (search_le 64 (Nat.zero_le _)) h
  · split
    · exact searchUp_le 64 hone
    · exact h

/-- What a script finds under 1, 2, … up to the length. -/
def sequence (t : Table) : List Value :=
  (List.range t.length).map fun i => t.get (position (i + 1))

theorem length_sequence (t : Table) : t.sequence.length = t.length := by
  unfold sequence
  rw [List.length_map, List.length_range]

theorem getElem?_sequence {t : Table} {i : Nat} (h : i < t.length) :
    t.sequence[i]? = some (t.get (position (i + 1))) := by
  unfold sequence
  rw [List.getElem?_map, List.getElem?_range h]
  rfl

end Sequence

end EditorPlugins.Script.Table
