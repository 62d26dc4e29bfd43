/-
  Tables that are a sequence and named entries.

  How a table stores what it holds depends on how it was made: a position may lie in its sequence
  part or among its other entries, in any order.  `Consists` says what the table holds and leaves
  open how: items at 1, 2, …, n, values under texts, and nothing else.

  Such a table has one border only, so whichever way the length is searched for it is n
  (`length_of_consists`).
-/
import Mathlib.Data.List.Basic
import EditorPlugins.Script.Table

namespace EditorPlugins

/-- Under increasing names no name stands twice. -/
theorem Assoc.eq_of_mem {α : Type} {l : List (String × α)} (h : Increasing l)
    {e e' : String × α} (he : e ∈ l) (he' : e' ∈ l) (hname : e.1 = e'.1) : e = e' := by
  induction l with
  | nil => cases he
  | cons a l ih =>
    obtain ⟨hfirst, hrest⟩ := List.pairwise_cons.1 h
    rcases List.mem_cons.1 he with heq | hmem <;> rcases List.mem_cons.1 he' with heq' | hmem'
    · rw [heq, heq']
    · have hlt := hfirst e' hmem'
      rw [← heq, hname] at hlt
      exact absurd hlt (String.lt_irrefl _)
    · have hlt := hfirst e hmem
      rw [← heq', hname] at hlt
      exact absurd hlt (String.lt_irrefl _)
    · exact ih hrest hmem hmem'

namespace Script.Table

/-! ## What a table holds -/

/-- A position as a key. -/
def position (n : Nat) : Value := .integer (Int64.ofNat n)

/-- Items at the positions from `start` on. -/
def numbered (items : List Value) (start : Nat) : List (Value × Value) :=
  (items.zipIdx start).map fun e => (position e.2, e.1)

/-- Values under texts. -/
def named (fields : List (String × Value)) : List (Value × Value) :=
  fields.map fun e => (.text e.1, e.2)

/-- The table holds these items at 1, 2, … and these values under texts, and nothing else. -/
structure Consists (t : Table) (items : List Value) (fields : List (String × Value)) : Prop where
  pairs : t.pairs.Perm (numbered items 1 ++ named fields)
  present : ∀ e ∈ t.pairs, e.2 ≠ .nil
  /-- No text is a key twice. -/
  increasing : Assoc.Increasing fields
  /-- What lies in the sequence part is not among the other entries, too. -/
  apart : ∀ e ∈ t.entries, inSequence t.items.size e.1 = false
  /-- Positions are whole numbers of 64 bits. -/
  size : t.items.size ≤ maxPosition
  length : items.length ≤ maxPosition

/-- No two positions are the same key; not even the number after the last of them is one. -/
theorem position_inj {i j : Nat} (hi : i ≤ maxPosition) (hj : j ≤ maxPosition + 1)
    (h : position i = position j) : i = j := by
  have hkey : Int64.ofNat i = Int64.ofNat j := by injection h
  have hint : (Int64.ofNat i).toInt = i := Int64.toInt_ofNat_of_lt (Nat.lt_succ_of_le hi)
  rcases Nat.lt_or_eq_of_le hj with hlt | rfl
  · rw [hkey, Int64.toInt_ofNat_of_lt (Nat.lt_of_lt_of_le hlt (Nat.le_refl _))] at hint
    exact Int.ofNat.inj hint.symm
  · -- the number after the last position wraps round to a negative one
    have hnegative : (Int64.ofNat (maxPosition + 1)).toInt = -9223372036854775808 := by decide
    rw [hkey, hnegative] at hint
    omega

/-- Different texts are different keys. -/
theorem text_inj {s s' : String} (h : Value.text s = .text s') : s = s' := by
  have hbytes : Text.encode s = Text.encode s' := by injection h
  have hdecoded := congrArg Text.decode? hbytes
  rw [Text.decode?_encode, Text.decode?_encode] at hdecoded
  exact Option.some.inj hdecoded

/-- The entries that are visited: what is in the sequence part, and the others. -/
theorem mem_pairs {t : Table} {e : Value × Value} :
    e ∈ t.pairs ↔
      (∃ i, ∃ h : i < t.items.size, t.items[i] ≠ .nil ∧ e = (position (i + 1), t.items[i])) ∨
      e ∈ t.entries := by
  unfold pairs
  rw [List.mem_append]
  refine or_congr_left ?_
  rw [List.mem_filterMap]
  constructor
  · rintro ⟨⟨v, n⟩, hmem, hpair⟩
    obtain ⟨hfrom, hto, hv⟩ := List.mem_zipIdx hmem
    have hlt : n - 1 < t.items.size := by
      rw [← Array.length_toList]
      omega
    have hn : n - 1 + 1 = n := by omega
    have hitem : t.items[n - 1] = v := by
      rw [hv, Array.getElem_toList]
    refine ⟨n - 1, hlt, ?_⟩
    rw [hn, hitem]
    cases v with
    | nil => cases hpair
    | _ => cases hpair; exact ⟨nofun, rfl⟩
  · rintro ⟨i, hi, hv, rfl⟩
    refine ⟨(t.items[i], i + 1), ?_, ?_⟩
    · rw [List.mem_zipIdx_iff_le_and_getElem?_sub]
      refine ⟨Nat.le_add_left 1 i, ?_⟩
      rw [Nat.add_sub_cancel, Array.getElem?_toList, Array.getElem?_eq_getElem hi]
    · cases hitem : t.items[i] with
      | nil => exact absurd hitem hv
      | _ => rfl

theorem mem_numbered {items : List Value} {e : Value × Value} :
    e ∈ numbered items 1 ↔ ∃ i, ∃ h : i < items.length, e = (position (i + 1), items[i]) := by
  unfold numbered
  rw [List.mem_map]
  constructor
  · rintro ⟨⟨v, n⟩, hmem, rfl⟩
    obtain ⟨hfrom, hto, hv⟩ := List.mem_zipIdx hmem
    refine ⟨n - 1, by omega, ?_⟩
    rw [Nat.sub_add_cancel hfrom, hv]
  · rintro ⟨i, hi, rfl⟩
    refine ⟨(items[i], i + 1), ?_, rfl⟩
    rw [List.mem_zipIdx_iff_le_and_getElem?_sub]
    exact ⟨Nat.le_add_left 1 i, by rw [Nat.add_sub_cancel]; exact List.getElem?_eq_getElem hi⟩

theorem holds_of_itemAt {t : Table} {n : Nat} (h : t.itemAt n ≠ .nil) : t.holds n = true := by
  unfold holds
  cases hitem : t.itemAt n with
  | nil => exact absurd hitem h
  | _ => rfl

namespace Consists

variable {t : Table} {items : List Value} {fields : List (String × Value)}

/-- Every entry is an item at its position or a value under a text. -/
theorem key_cases (h : t.Consists items fields) {e : Value × Value} (he : e ∈ t.pairs) :
    (∃ i, i < items.length ∧ e.1 = position (i + 1)) ∨ ∃ s, e.1 = .text s := by
  rcases List.mem_append.1 (h.pairs.mem_iff.1 he) with hitem | hfield
  · obtain ⟨i, hi, rfl⟩ := mem_numbered.1 hitem
    exact .inl ⟨i, hi, rfl⟩
  · obtain ⟨f, -, rfl⟩ := List.mem_map.1 hfield
    exact .inr ⟨f.1, rfl⟩

/-- No key has two values. -/
theorem eq_of_key (h : t.Consists items fields) {e e' : Value × Value} (he : e ∈ t.pairs)
    (he' : e' ∈ t.pairs) (hkey : e.1 = e'.1) : e = e' := by
  have hlength := h.length
  rcases List.mem_append.1 (h.pairs.mem_iff.1 he) with hitem | hfield <;>
    rcases List.mem_append.1 (h.pairs.mem_iff.1 he') with hitem' | hfield'
  · obtain ⟨i, hi, rfl⟩ := mem_numbered.1 hitem
    obtain ⟨j, hj, rfl⟩ := mem_numbered.1 hitem'
    have hij : i + 1 = j + 1 := position_inj (by omega) (by omega) hkey
    obtain rfl : i = j := by omega
    rfl
  · obtain ⟨i, hi, rfl⟩ := mem_numbered.1 hitem
    obtain ⟨f, -, rfl⟩ := List.mem_map.1 hfield'
    cases hkey
  · obtain ⟨f, -, rfl⟩ := List.mem_map.1 hfield
    obtain ⟨j, hj, rfl⟩ := mem_numbered.1 hitem'
    cases hkey
  · obtain ⟨f, hf, rfl⟩ := List.mem_map.1 hfield
    obtain ⟨g, hg, rfl⟩ := List.mem_map.1 hfield'
    have hname : f.1 = g.1 := text_inj hkey
    rw [Assoc.eq_of_mem h.increasing hf hg hname]

/-- A key of the table that is a position is one of its items'. -/
theorem le_of_position (h : t.Consists items fields) {k : Nat} (hk : k ≤ maxPosition + 1)
    {e : Value × Value} (he : e ∈ t.pairs) (hkey : e.1.same (position k) = true) :
    1 ≤ k ∧ k ≤ items.length := by
  have hlength := h.length
  rcases h.key_cases he with ⟨i, hi, hposition⟩ | ⟨s, htext⟩
  · rw [hposition] at hkey
    have hsame : Int64.ofNat (i + 1) = Int64.ofNat k := beq_iff_eq.1 hkey
    have hik : i + 1 = k := position_inj (by omega) hk (congrArg Value.integer hsame)
    omega
  · rw [htext] at hkey
    cases hkey

/-- What is at a position is an entry under it, -/
theorem le_of_holds (h : t.Consists items fields) {k : Nat} (hpos : 1 ≤ k)
    (hk : k ≤ maxPosition + 1) (hholds : t.holds k = true) : k ≤ items.length := by
  have hsame : (position k).same (position k) = true := beq_self_eq_true (Int64.ofNat k)
  unfold holds itemAt at hholds
  by_cases hin : k ≤ t.items.size
  · rw [if_pos ⟨hpos, hin⟩, Array.getElem?_eq_getElem (by omega)] at hholds
    have hitem : t.items[k - 1] ≠ .nil := by
      intro hnil
      rw [Option.getD_some, hnil] at hholds
      cases hholds
    have hmem : (position k, t.items[k - 1]) ∈ t.pairs :=
      mem_pairs.2 (.inl ⟨k - 1, by omega, hitem, by rw [Nat.sub_add_cancel hpos]⟩)
    exact (h.le_of_position hk hmem hsame).2
  · rw [if_neg (fun hboth => hin hboth.2)] at hholds
    cases hfind : t.entries.find? (fun e => e.1.same (.integer (Int64.ofNat k))) with
    | none => rw [hfind] at hholds; cases hholds
    | some e =>
      have hmem : e ∈ t.pairs := mem_pairs.2 (.inr (List.mem_of_find?_eq_some hfind))
      have hkey : e.1.same (position k) = true :=
        List.find?_some (p := fun e : Value × Value => e.1.same (position k)) hfind
      exact (h.le_of_position hk hmem hkey).2

/-- and every item is at its position, wherever it is stored. -/
theorem holds_of_le (h : t.Consists items fields) {k : Nat} (hpos : 1 ≤ k)
    (hk : k ≤ items.length) : t.holds k = true := by
  have hlength := h.length
  have hsize := h.size
  have hmem : (position k, items[k - 1]) ∈ t.pairs := by
    refine h.pairs.mem_iff.2 (List.mem_append_left _ (mem_numbered.2 ⟨k - 1, by omega, ?_⟩))
    rw [Nat.sub_add_cancel hpos]
  refine holds_of_itemAt ?_
  unfold itemAt
  -- the item is in the sequence part, or it is the one entry under its position
  rcases mem_pairs.1 hmem with ⟨i, hi, hitem, heq⟩ | hentry
  · have hik : k = i + 1 := position_inj (by omega) (by omega) (congrArg Prod.fst heq)
    subst hik
    rw [if_pos ⟨hpos, hi⟩, Nat.add_sub_cancel, Array.getElem?_eq_getElem hi]
    exact hitem
  · have hout : ¬ (1 ≤ k ∧ k ≤ t.items.size) := by
      -- the sequence part does not reach as far as this entry
      rintro ⟨-, hin⟩
      have hapart : inSequence t.items.size (position k) = false := h.apart _ hentry
      have hint : (Int64.ofNat k).toInt = k :=
        Int64.toInt_ofNat_of_lt (Nat.lt_succ_of_le (Nat.le_trans hk hlength))
      have hsequence : inSequence t.items.size (position k) = true := by
        simp only [inSequence, position, hint, Bool.and_eq_true, decide_eq_true_eq]
        omega
      rw [hsequence] at hapart
      cases hapart
    rw [if_neg hout]
    cases hfind : t.entries.find? (fun e => e.1.same (.integer (Int64.ofNat k))) with
    | none =>
      have hnot := List.find?_eq_none.1 hfind _ hentry
      exact absurd (beq_self_eq_true (Int64.ofNat k)) hnot
    | some e =>
      exact h.present e (mem_pairs.2 (.inr (List.mem_of_find?_eq_some hfind)))

/-- The positions that hold a value are those up to the number of items. -/
theorem holds_iff (h : t.Consists items fields) {k : Nat} (hpos : 1 ≤ k)
    (hk : k ≤ maxPosition + 1) : t.holds k = true ↔ k ≤ items.length :=
  ⟨h.le_of_holds hpos hk, h.holds_of_le hpos⟩

/-- No item is nil, -/
theorem ne_nil_of_item (h : t.Consists items fields) {v : Value} (hv : v ∈ items) : v ≠ .nil := by
  obtain ⟨i, hi, rfl⟩ := List.getElem_of_mem hv
  have hmem := List.mem_append_left (named fields) (mem_numbered.2 ⟨i, hi, rfl⟩)
  exact h.present _ (h.pairs.mem_iff.2 hmem)

/-- and nothing under a text is. -/
theorem ne_nil_of_field (h : t.Consists items fields) {f : String × Value} (hf : f ∈ fields) :
    f.2 ≠ .nil := by
  have hmem := List.mem_append_right (numbered items 1)
    (List.mem_map_of_mem (f := fun e : String × Value => (Value.text e.1, e.2)) hf)
  exact h.present _ (h.pairs.mem_iff.2 hmem)

end Consists

/-- A new table with its items in the sequence part. -/
theorem consists_mk {items : List Value} {fields : List (String × Value)}
    (hitems : ∀ v ∈ items, v ≠ .nil) (hfields : ∀ f ∈ fields, f.2 ≠ .nil)
    (hincreasing : Assoc.Increasing fields) (hlength : items.length ≤ maxPosition) :
    (Table.mk items.toArray (named fields)).Consists items fields := by
  have hpairs : (Table.mk items.toArray (named fields)).pairs
      = numbered items 1 ++ named fields := by
    unfold pairs numbered
    refine congrArg (· ++ named fields) ?_
    refine List.filterMap_eq_map_iff_forall_eq_some.2 fun e he => ?_
    have hv : e.1 ≠ .nil := by
      obtain ⟨-, -, hv⟩ := List.mem_zipIdx he
      exact hitems _ (hv ▸ List.getElem_mem _)
    obtain ⟨v, n⟩ := e
    cases v with
    | nil => exact absurd rfl hv
    | _ => rfl
  refine ⟨.of_eq hpairs, fun e he => ?_, hincreasing, fun e he => ?_, ?_, hlength⟩
  · rw [hpairs] at he
    rcases List.mem_append.1 he with hitem | hfield
    · obtain ⟨i, hi, rfl⟩ := mem_numbered.1 hitem
      exact hitems _ (List.getElem_mem hi)
    · obtain ⟨f, hf, rfl⟩ := List.mem_map.1 hfield
      exact hfields f hf
  · obtain ⟨f, -, rfl⟩ := List.mem_map.1 he
    rfl
  · rw [List.size_toArray]
    exact hlength

/-! ## The search for the length -/

section Search

variable {present : Nat → Bool} {n : Nat}

/-- Halving finds the only border; the fuel bounds the logarithm of the distance. -/
theorem search_eq (fuel : Nat) {low high : Nat}
    (hpresent : ∀ k, 1 ≤ k → k ≤ high → (present k = true ↔ k ≤ n)) (hlow : low ≤ n)
    (hhigh : n < high) (hfuel : high - low ≤ Nat.pow 2 fuel) :
    search present fuel low high = n := by
  induction fuel generalizing low high with
  | zero =>
    have hone : high - low ≤ 1 := hfuel
    show low = n
    omega
  | succ fuel ih =>
    have htwice : high - low ≤ Nat.pow 2 fuel * 2 := hfuel
    unfold search
    split
    · rename_i hwide
      have hmiddle := hpresent ((low + high) / 2) (by omega) (by omega)
      dsimp only
      split
      · rename_i hholds
        exact ih hpresent (hmiddle.1 hholds) hhigh (by omega)
      · rename_i hnot
        have hbelow : n < (low + high) / 2 := Nat.lt_of_not_le fun hle => hnot (hmiddle.2 hle)
        exact ih (fun k hpos hk => hpresent k hpos (by omega)) hlow hbelow (by omega)
    · omega

/-- Doubling ends beyond the border, or at the last position of all. -/
theorem searchUp_eq (fuel : Nat) {low : Nat}
    (hpresent : ∀ k, 1 ≤ k → k ≤ maxPosition → (present k = true ↔ k ≤ n)) (hpos : 1 ≤ low)
    (hlow : low ≤ n) (hn : n ≤ maxPosition) (hfuel : maxPosition < low * Nat.pow 2 fuel) :
    searchUp present fuel low = n := by
  induction fuel generalizing low with
  | zero =>
    have hone : maxPosition < low * 1 := hfuel
    omega
  | succ fuel ih =>
    have htwice : maxPosition < low * (Nat.pow 2 fuel * 2) := hfuel
    unfold searchUp
    dsimp only
    -- the next position is twice the last one, or the last of all
    generalize hnext : (if low ≤ maxPosition / 2 then low * 2 else maxPosition) = next
    have hbounds : low ≤ next ∧ next ≤ maxPosition ∧ (next = low * 2 ∨ next = maxPosition) := by
      have hmax : maxPosition = 9223372036854775807 := rfl
      split at hnext <;> omega
    obtain ⟨hge, hle, hcases⟩ := hbounds
    have hborder := hpresent next (by omega) hle
    split
    · rename_i hholds
      have hreached : next ≤ n := hborder.1 hholds
      split
      · omega
      · rename_i hnotLast
        have hdouble : next = low * 2 := by omega
        refine ih (by omega) hreached ?_
        rw [hdouble, Nat.mul_assoc, Nat.mul_comm 2]
        exact htwice
    · rename_i hnot
      have hbelow : n < next := Nat.lt_of_not_le fun hle' => hnot (hborder.2 hle')
      have hmax : maxPosition ≤ Nat.pow 2 64 := by decide
      exact search_eq 64 (fun k hk hkn => hpresent k hk (by omega)) hlow hbelow (by omega)

end Search

/-- **The length is the number of the items**, however they are stored. -/
theorem length_of_consists {t : Table} {items : List Value} {fields : List (String × Value)}
    (h : t.Consists items fields) : t.length = items.length := by
  have hsize := h.size
  have hlength := h.length
  have hholds : ∀ k, 1 ≤ k → k ≤ maxPosition + 1 → (t.holds k = true ↔ k ≤ items.length) :=
    fun k => h.holds_iff
  have hmax : maxPosition + 1 ≤ Nat.pow 2 64 := by decide
  unfold Table.length
  dsimp only
  split
  · -- the sequence part ends with nil, so the border lies within it
    rename_i hends
    obtain ⟨hpos, hnot⟩ := hends
    have hbelow : items.length < t.items.size := by
      refine Nat.lt_of_not_le fun hle => ?_
      rw [(hholds _ hpos (by omega)).2 hle] at hnot
      cases hnot
    split
    · rename_i hlast
      have hreached := (hholds (t.items.size - 1) (by omega) (by omega)).1 hlast.2
      omega
    · exact search_eq 64 (fun k hk hkn => hholds k hk (by omega)) (Nat.zero_le _) hbelow (by omega)
  · rename_i hends
    split
    · rename_i hnext
      have hreached := (hholds (t.items.size + 1) (by omega) (by omega)).1 hnext
      refine searchUp_eq 64 (fun k hk hkn => hholds k hk (by omega)) (by omega) (by omega)
        hlength ?_
      have hone : 1 ≤ max t.items.size 1 := Nat.le_max_right _ _
      calc maxPosition < 1 * Nat.pow 2 64 := by decide
        _ ≤ max t.items.size 1 * Nat.pow 2 64 := Nat.mul_le_mul_right _ hone
    · rename_i hnot
      have hle : items.length ≤ t.items.size :=
        Nat.le_of_not_lt fun hlt => hnot ((hholds _ (by omega) (by omega)).2 hlt)
      rcases Nat.eq_zero_or_pos t.items.size with hzero | hpos
      · omega
      · -- the sequence part is full, and nothing comes after it
        have hfull : t.holds t.items.size = true := by
          cases hlast : t.holds t.items.size with
          | true => rfl
          | false => exact absurd ⟨hpos, by rw [hlast]; rfl⟩ hends
        have hreached := (hholds _ hpos (by omega)).1 hfull
        omega

example :
    (Table.mk #[.bool true] [(.text "2", .bool true), (position 2, .bool true)]).length = 2 := by
  decide +kernel

end Script.Table

end EditorPlugins
