/-
  Tables that are taken out in another order.

  A script's table has no order of its own, and whoever goes through its entries sees them in one
  that the language leaves open.  Two entries whose keys have one place (`place?`) meet there when
  the table is taken out, and the last of them stays.

    program   `HostValue.exportWithin`, and `exportListed`, which is the same with the order of the
              entries of every table as a parameter
    spec      for which values the order makes no difference
    crux      an entry that comes last stays (`exportInOrder_last`), and any entry of a table can
              come last; where all that meet are the same, any two steps can be exchanged

  Whether a value is taken out at all does not depend on the order.  What is taken out does not
  exactly if no table in it is ambiguous; and tables under keys that are dropped are not in it.

  Main statement: `exportListed_agree_iff`; `orders_disagree` is a table that depends on the order.
-/
import EditorPlugins.Proofs.Boundary.Chains
import EditorPlugins.Proofs.World.Saving

namespace EditorPlugins

open Script (Value Table Heap ObjectId)

/-- Any entry of a table can come last. -/
theorem exists_perm_last {e : Value × Value} {l : List (Value × Value)} (he : e ∈ l) :
    ∃ before, (before ++ [e]).Perm l := by
  obtain ⟨first, rest, rfl⟩ := List.append_of_mem he
  refine ⟨first ++ rest, ?_⟩
  rw [List.append_assoc]
  exact (List.perm_append_singleton e rest).append_left first

/-! ## Values with tables inside -/

namespace HostValue

/-- A value taken out of a heap, the entries of each table in the order that is listed for it. -/
def exportListed (h : Heap) (list : ObjectId → List (Value × Value)) :
    Nat → Value → Except ArgumentFault HostValue
  | 0, v =>
    match v with
    | .table _ => .error (.nestedTooDeep maxDepth)
    | v => exportScalar v
  | depth + 1, v =>
    match v with
    | .table id =>
      match exportInOrder (exportListed h list depth) (h.table id).length (list id) with
      | .ok t => .ok (.table t.array t.fields)
      | .error e => .error e
    | v => exportScalar v

end HostValue

namespace Script.Heap

/-- For every table all its entries are listed, in some order. -/
def Lists (h : Heap) (list : ObjectId → List (Value × Value)) : Prop :=
  ∀ id, (list id).Perm (h.table id).pairs

/-- What is taken out with a value: the value, and what a table that is taken out with it holds
under a key that is not dropped. -/
inductive Shows (h : Heap) : Value → Value → Prop where
  | here (v : Value) : Shows h v v
  | inside {id : ObjectId} {entry : Value × Value} {u : Value}
      (hmem : entry ∈ (h.table id).pairs)
      (hplace : HostValue.place? (h.table id).length entry.1 ≠ none)
      (hrest : Shows h entry.2 u) : Shows h (.table id) u

/-- Entries of the table that meet at one place have values that are taken out as the same. -/
def Unambiguous (h : Heap) (id : ObjectId) : Prop :=
  ∀ e ∈ (h.table id).pairs, ∀ e' ∈ (h.table id).pairs, ∀ s,
    HostValue.place? (h.table id).length e.1 = some s →
    HostValue.place? (h.table id).length e'.1 = some s →
    HostValue.exportValue h e.2 = HostValue.exportValue h e'.2

/-- Every table that is taken out with the value is unambiguous. -/
def Clear (h : Heap) (v : Value) : Prop := ∀ id, h.Shows v (.table id) → h.Unambiguous id

theorem Clear.inside {h : Heap} {id : ObjectId} {entry : Value × Value}
    (hclear : h.Clear (.table id)) (hmem : entry ∈ (h.table id).pairs)
    (hplace : HostValue.place? (h.table id).length entry.1 ≠ none) : h.Clear entry.2 :=
  fun id hshows => hclear id (.inside hmem hplace hshows)

end Script.Heap

namespace HostValue

section Listed

variable {h : Heap} {list list' : ObjectId → List (Value × Value)} {depth : Nat} {v : Value}

theorem lists_pairs (h : Heap) : h.Lists fun id => (h.table id).pairs := fun _ => .refl _

theorem exportListed_table (id : ObjectId) : exportListed h list (depth + 1) (.table id)
    = (exportInOrder (exportListed h list depth) (h.table id).length (list id)).map
      HostTable.toValue := by
  unfold exportListed
  dsimp only
  cases exportInOrder (exportListed h list depth) (h.table id).length (list id) <;> rfl

theorem exportWithin_table (id : ObjectId) : exportWithin h (depth + 1) (.table id)
    = (exportInOrder (exportWithin h depth) (h.table id).length (h.table id).pairs).map
      HostTable.toValue := by
  unfold exportWithin
  dsimp only
  rw [exportEntries_eq]
  cases exportInOrder (exportWithin h depth) (h.table id).length (h.table id).pairs <;> rfl

/-- The program's own order. -/
theorem exportListed_pairs (h : Heap) (depth : Nat) (v : Value) :
    exportListed h (fun id => (h.table id).pairs) depth v = exportWithin h depth v := by
  induction depth generalizing v with
  | zero => rfl
  | succ depth ih =>
    cases v with
    | table id =>
      rw [exportListed_table, exportWithin_table, funext ih]
    | _ => rfl

/-- A table is taken out when all values that are listed for it are. -/
theorem exists_exportListed_table {id : ObjectId} :
    (∃ x, exportListed h list (depth + 1) (.table id) = .ok x) ↔
      ∀ e ∈ list id, ∃ x, exportListed h list depth e.2 = .ok x := by
  rw [← exists_exportInOrder_iff (h.table id).length, exportListed_table]
  cases exportInOrder (exportListed h list depth) (h.table id).length (list id) with
  | ok t => exact iff_of_true ⟨_, rfl⟩ ⟨t, rfl⟩
  | error e => exact iff_of_false nofun nofun

/-- **Whether a value is taken out does not depend on the order.** -/
theorem exists_exportListed_iff (hlist : h.Lists list) (hlist' : h.Lists list') :
    (∃ x, exportListed h list depth v = .ok x) ↔ ∃ x, exportListed h list' depth v = .ok x := by
  induction depth generalizing v with
  | zero => exact Iff.rfl
  | succ depth ih =>
    cases v with
    | table id =>
      rw [exists_exportListed_table, exists_exportListed_table]
      have hmem : ∀ e, e ∈ list id ↔ e ∈ list' id := fun e =>
        (hlist id).mem_iff.trans (hlist' id).mem_iff.symm
      exact forall_congr' fun e => imp_congr (hmem e) ih
    | _ => exact Iff.rfl

/-- A value that is taken out is the same when tables may be nested deeper. -/
theorem exportListed_succ {x : HostValue} (hx : exportListed h list depth v = .ok x) :
    exportListed h list (depth + 1) v = .ok x := by
  induction depth generalizing v x with
  | zero =>
    cases v with
    | table id => cases hx
    | _ => exact hx
  | succ depth ih =>
    cases v with
    | table id =>
      have hall := exists_exportListed_table.1 ⟨x, hx⟩
      have hsame : exportInOrder (exportListed h list (depth + 1)) (h.table id).length (list id)
          = exportInOrder (exportListed h list depth) (h.table id).length (list id) := by
        apply exportInOrder_congr
        intro e he
        obtain ⟨y, hy⟩ := hall e he
        exact .inl ((ih hy).trans hy.symm)
      rw [exportListed_table] at hx ⊢
      rw [hsame]
      exact hx
    | _ => exact hx

theorem exportListed_of_le {depth' : Nat} (hle : depth ≤ depth') {x : HostValue}
    (hx : exportListed h list depth v = .ok x) : exportListed h list depth' v = .ok x := by
  induction hle with
  | refl => exact hx
  | step _ ih => exact exportListed_succ ih

theorem exportValue_of_exportWithin (hdepth : depth ≤ maxDepth) {x : HostValue}
    (hx : exportWithin h depth v = .ok x) : exportValue h v = .ok x := by
  rw [← exportListed_pairs] at hx
  exact (exportListed_pairs h maxDepth v).symm.trans (exportListed_of_le hdepth hx)

/-! ### Where no table is ambiguous -/

/-- **The order makes no difference** for a value with unambiguous tables. -/
theorem exportListed_of_clear (hlist : h.Lists list) (hdepth : depth ≤ maxDepth)
    (hok : ∃ x, exportWithin h depth v = .ok x) (hclear : h.Clear v) :
    exportListed h list depth v = exportWithin h depth v := by
  induction depth generalizing v with
  | zero => rfl
  | succ depth ih =>
    cases v with
    | table id =>
      have hless : depth ≤ maxDepth := Nat.le_of_succ_le hdepth
      have hall : ∀ e ∈ (h.table id).pairs, ∃ x, exportWithin h depth e.2 = .ok x := by
        intro e he
        rw [← exportListed_pairs] at hok ⊢
        exact exists_exportListed_table.1 hok e he
      -- values that are kept are the same by induction; of the others nothing is seen
      have hvalues : exportInOrder (exportListed h list depth) (h.table id).length (list id)
          = exportInOrder (exportWithin h depth) (h.table id).length (list id) := by
        apply exportInOrder_congr
        intro e he
        have hmem := (hlist id).mem_iff.1 he
        by_cases hplace : place? (h.table id).length e.1 = none
        · have hlisted : ∃ x, exportListed h list depth e.2 = .ok x := by
            rw [exists_exportListed_iff hlist (lists_pairs h), exportListed_pairs]
            exact hall e hmem
          exact .inr ⟨hplace, hlisted, hall e hmem⟩
        · exact .inl (ih hless (hall e hmem) (hclear.inside hmem hplace))
      have horder : exportInOrder (exportWithin h depth) (h.table id).length (h.table id).pairs
          = exportInOrder (exportWithin h depth) (h.table id).length (list id) := by
        refine exportInOrder_perm (hlist id).symm hall ?_
        intro e he e' he' s hs hs'
        obtain ⟨x, hx⟩ := hall e he
        obtain ⟨x', hx'⟩ := hall e' he'
        have hsame := hclear id (.here _) e he e' he' s hs hs'
        rw [exportValue_of_exportWithin hless hx, exportValue_of_exportWithin hless hx'] at hsame
        rw [hx, hx', hsame]
      rw [exportListed_table, exportWithin_table, hvalues, horder]
    | _ => rfl

/-! ### Where the order makes no difference -/

/-- Only the order in tables that a value leads to matters. -/
theorem exportListed_congr (hlist : h.Lists list)
    (hsame : ∀ ids id, h.Reaches v ids (.table id) → list id = list' id) :
    exportListed h list depth v = exportListed h list' depth v := by
  induction depth generalizing v with
  | zero => rfl
  | succ depth ih =>
    cases v with
    | table id =>
      have hvalues : exportInOrder (exportListed h list depth) (h.table id).length (list id)
          = exportInOrder (exportListed h list' depth) (h.table id).length (list id) := by
        apply exportInOrder_congr
        intro e he
        have hholds : h.Holds id e.2 := ⟨e.1, (hlist id).mem_iff.1 he⟩
        exact .inl (ih fun ids id hreaches => hsame _ id (.inside hholds hreaches))
      rw [exportListed_table, exportListed_table, hvalues, hsame [] id (.here _)]
    | _ => rfl

/-- What a table that is taken out holds does not lead back to it. -/
theorem not_reaches_of_exportWithin {id : ObjectId} {x : HostValue} (hdepth : depth ≤ maxDepth)
    (hx : exportWithin h depth (.table id) = .ok x) {u : Value} (hholds : h.Holds id u)
    (ids : List ObjectId) : ¬ h.Reaches u ids (.table id) := by
  intro hreaches
  have hleaves : h.Leaves (.table id) := by
    rcases exportWithin_cases h maxDepth (.table id) with ⟨-, -, hnone⟩ | ⟨e, herror, -⟩
    · exact Heap.leaves_iff.2 hnone
    · have hvalue := exportValue_of_exportWithin hdepth hx
      unfold exportValue at hvalue
      rw [herror] at hvalue
      cases hvalue
  have hcyclic : h.IsCyclic (.table id) :=
    ⟨[], id, id :: ids, .here _, List.cons_ne_nil _ _, .inside hholds hreaches⟩
  exact hcyclic.not_leaves hleaves

/-- All orders give the same. -/
def Agrees (h : Heap) (depth : Nat) (v : Value) : Prop :=
  ∀ list list', h.Lists list → h.Lists list' →
    exportListed h list depth v = exportListed h list' depth v

/-- The order in one table is changed. -/
theorem lists_update (hlist : h.Lists list) {id : ObjectId} {entries : List (Value × Value)}
    (hentries : entries.Perm (h.table id).pairs) :
    h.Lists fun j => if j = id then entries else list j := by
  intro j
  dsimp only
  split
  · rename_i hj
    exact hj ▸ hentries
  · exact hlist j

/-- Any entry of a table can stay at its place, with whatever order in all other tables. -/
theorem exists_listed_last {id : ObjectId} (hdepth : depth + 1 ≤ maxDepth) (hlist : h.Lists list)
    (hok : ∃ x, exportWithin h (depth + 1) (.table id) = .ok x) {e : Value × Value}
    (he : e ∈ (h.table id).pairs) {s : Slot} (hs : place? (h.table id).length e.1 = some s) :
    ∃ lasts t y, h.Lists lasts ∧
      exportListed h lasts (depth + 1) (.table id) = .ok (HostTable.toValue t) ∧
      exportListed h list depth e.2 = .ok y ∧ s.load? (t.array.toArray, t.fields) = some y := by
  obtain ⟨x, hx⟩ := hok
  obtain ⟨before, hbefore⟩ := exists_perm_last he
  have hlasts := lists_update hlist hbefore
  obtain ⟨z, hz⟩ := (exists_exportListed_iff (lists_pairs h) hlasts).1
    ⟨x, (exportListed_pairs h (depth + 1) (.table id)).trans hx⟩
  have htable := hz
  rw [exportListed_table, if_pos rfl] at htable
  cases ht : exportInOrder (exportListed h (fun j => if j = id then before ++ [e] else list j)
      depth) (h.table id).length (before ++ [e]) with
  | error fault => rw [ht] at htable; cases htable
  | ok t =>
    rw [ht] at htable
    cases htable
    obtain ⟨y, hy, hload⟩ := exportInOrder_last ht hs
    refine ⟨_, t, y, hlasts, hz, ?_, hload⟩
    -- the entry's value does not lead back to the table, so it is not affected
    rw [← hy]
    apply exportListed_congr hlist
    intro ids j hreaches
    have hj : j ≠ id := by
      rintro rfl
      exact not_reaches_of_exportWithin hdepth hx ⟨e.1, he⟩ ids hreaches
    rw [if_neg hj]

/-- **Entries that meet have one value**, in whatever order it is taken out, if all orders of their
table give the same. -/
theorem Agrees.meet {id : ObjectId} (hagrees : Agrees h (depth + 1) (.table id))
    (hdepth : depth + 1 ≤ maxDepth) (hok : ∃ x, exportWithin h (depth + 1) (.table id) = .ok x)
    {e e' : Value × Value} (he : e ∈ (h.table id).pairs) (he' : e' ∈ (h.table id).pairs) {s : Slot}
    (hs : place? (h.table id).length e.1 = some s) (hs' : place? (h.table id).length e'.1 = some s)
    (hlist : h.Lists list) (hlist' : h.Lists list') :
    exportListed h list depth e.2 = exportListed h list' depth e'.2 := by
  obtain ⟨lasts, t, y, hlasts, ht, hy, hload⟩ := exists_listed_last hdepth hlist hok he hs
  obtain ⟨lasts', t', y', hlasts', ht', hy', hload'⟩ := exists_listed_last hdepth hlist' hok he' hs'
  have hsame := hagrees lasts lasts' hlasts hlasts'
  rw [ht, ht'] at hsame
  obtain rfl : t = t' := by
    cases t
    cases t'
    cases hsame
    rfl
  rw [hload] at hload'
  rw [hy, hy', Option.some.inj hload']

/-- **Where all orders give the same, no table is ambiguous.** -/
theorem Agrees.clear (hagrees : Agrees h depth v) (hdepth : depth ≤ maxDepth)
    (hok : ∃ x, exportWithin h depth v = .ok x) : h.Clear v := by
  intro id hshows
  generalize hu : Value.table id = u at hshows
  induction hshows generalizing depth with
  | here v =>
    subst hu
    cases depth with
    | zero =>
      obtain ⟨x, hx⟩ := hok
      cases hx
    | succ depth =>
      intro e he e' he' s hs hs'
      have hsame := hagrees.meet hdepth hok he he' hs hs' (lists_pairs h) (lists_pairs h)
      rw [exportListed_pairs, exportListed_pairs] at hsame
      have hall := hok
      rw [← exportListed_pairs] at hall
      obtain ⟨x, hx⟩ := exists_exportListed_table.1 hall e he
      rw [exportListed_pairs] at hx
      have hless : depth ≤ maxDepth := Nat.le_of_succ_le hdepth
      rw [exportValue_of_exportWithin hless hx, exportValue_of_exportWithin hless (hsame ▸ hx)]
  | @inside id' entry u hmem hplace hrest ih =>
    cases depth with
    | zero =>
      obtain ⟨x, hx⟩ := hok
      cases hx
    | succ depth =>
      obtain ⟨s, hs⟩ := Option.ne_none_iff_exists'.1 hplace
      have hless : depth ≤ maxDepth := Nat.le_of_succ_le hdepth
      have hinside : Agrees h depth entry.2 := fun list list' hlist hlist' =>
        hagrees.meet hdepth hok hmem hmem hs hs hlist hlist'
      rw [← exportListed_pairs] at hok
      obtain ⟨x, hx⟩ := exists_exportListed_table.1 hok entry hmem
      rw [exportListed_pairs] at hx
      exact ih hinside hless ⟨x, hx⟩ hu

end Listed

/-! ### Sequences with named values -/

/-- **A table of items and named values is not ambiguous**: no two of its entries meet. -/
theorem unambiguous_of_consists {h : Heap} {id : ObjectId} {items : List Value}
    {values : List (String × Value)} (hconsists : (h.table id).Consists items values) :
    h.Unambiguous id := by
  intro e he e' he' s hs hs'
  have hkeys : e.1 = e'.1 :=
    (key_of_place? hconsists he hs).trans (key_of_place? hconsists he' hs').symm
  rw [hconsists.eq_of_key he he' hkeys]

/-! ## What is saved -/

/-- A table that is taken out is saved, whatever is passed along with it. -/
theorem savedTable?_of_exportValue {s : Sandbox} {v : Value} {others : List Value}
    {rest array : List HostValue} {fields : List (String × HostValue)}
    (hv : exportValue s.heap v = .ok (.table array fields))
    (hothers : World.exportArguments s others = .ok rest) :
    s.savedTable? (v :: others) = some ⟨array, fields⟩ := by
  have hall : World.exportArguments s (v :: others) = .ok (.table array fields :: rest) := by
    unfold World.exportArguments at hothers ⊢
    rw [List.mapM_cons, hv, hothers]
    rfl
  unfold Sandbox.savedTable?
  rw [hall]

/-- **Tables in another order.**  For a value that is taken out, all orders in which the entries of
its tables may be listed give the same if and only if no table that is taken out with it is
ambiguous.  Every order gives something, in any case; and where no table is ambiguous, what a call
of `plugin.saveConfig` stores is what any order gives. -/
theorem exportListed_agree_iff {h : Heap} {v : Value} (hok : ∃ x, exportValue h v = .ok x) :
    (Agrees h maxDepth v ↔ h.Clear v) ∧
    (∀ list, h.Lists list → ∃ x, exportListed h list maxDepth v = .ok x) ∧
    (h.Clear v → ∀ list, h.Lists list → exportListed h list maxDepth v = exportValue h v ∧
      ∀ (w : World) (id : SandboxId) others rest array fields,
        (w.sandbox id).heap = h → id < w.sandboxes.size →
        World.exportArguments (w.sandbox id) others = .ok rest →
        exportListed h list maxDepth v = .ok (.table array fields) →
        ∃ w', w.serve id (.call (.function (.capability .pluginSaveConfig)) (v :: others))
            = some (w', .ok [.bool true]) ∧
          (w'.sandbox id).config = HostTable.toDict ⟨array, fields⟩) := by
  have hany : ∀ list, h.Lists list → h.Clear v →
      exportListed h list maxDepth v = exportValue h v :=
    fun list hlist hclear => exportListed_of_clear hlist (Nat.le_refl _) hok hclear
  refine ⟨⟨fun hagrees => hagrees.clear (Nat.le_refl _) hok, ?_⟩, ?_, ?_⟩
  · intro hclear list list' hlist hlist'
    rw [hany list hlist hclear, hany list' hlist' hclear]
  · intro list hlist
    obtain ⟨x, hx⟩ := hok
    exact (exists_exportListed_iff (lists_pairs h) hlist).1
      ⟨x, (exportListed_pairs h maxDepth v).trans hx⟩
  · intro hclear list hlist
    have hsame := hany list hlist hclear
    refine ⟨hsame, ?_⟩
    intro w id others rest array fields hheap hid hothers htaken
    rw [hsame, ← hheap] at htaken
    have hsaved : (w.sandbox id).savedBy?
        (.call (.function (.capability .pluginSaveConfig)) (v :: others)) = some ⟨array, fields⟩ :=
      savedTable?_of_exportValue htaken hothers
    obtain ⟨w', hserve, hconfig⟩ := World.serve_of_savedTable? hsaved
    exact ⟨w', hserve, hconfig hid⟩

/-- A heap with a table that holds an item, a text and a table. -/
def plain : Heap :=
  ⟨#[⟨#[.text "x"], Table.named [("inner", .table 1), ("name", .text "demo")]⟩,
    ⟨#[.integer 7], []⟩], 0⟩

theorem clear_plain (v : Value) : plain.Clear v := by
  intro id _
  have hconsists : ∃ items values, (plain.table id).Consists items values := by
    rcases id with _ | _ | id
    · have hfirst : (plain.table 0).Consists [.text "x"]
          [("inner", .table 1), ("name", .text "demo")] :=
        Table.consists_mk (by simp [Value.text]) (by simp [Value.text])
          (List.pairwise_pair.2 (by decide)) (by decide)
      exact ⟨_, _, hfirst⟩
    · have hinner : (plain.table 1).Consists [.integer 7] [] :=
        Table.consists_mk (by simp) (by simp) List.Pairwise.nil (by decide)
      exact ⟨_, _, hinner⟩
    · have hnothing : (plain.table (id + 2)).Consists [] [] :=
        Table.consists_mk (by simp) (by simp) List.Pairwise.nil (by decide)
      exact ⟨_, _, hnothing⟩
  obtain ⟨items, values, hconsists⟩ := hconsists
  exact unambiguous_of_consists hconsists

/-- The same is taken out backwards, and is what a sandbox with this heap saves. -/
theorem plain_in_any_order :
    let back := fun id => (plain.table id).pairs.reverse
    let w : World :=
      { (default : World) with sandboxes := #[{ (default : Sandbox) with heap := plain }] }
    exportValue plain (.table 0)
      = .ok (.table [.text "x"] [("inner", .table [.integer 7] []), ("name", .text "demo")]) ∧
    exportListed plain back maxDepth (.table 0) = exportValue plain (.table 0) ∧
    ∃ w', w.serve 0 (.call (.function (.capability .pluginSaveConfig)) [.table 0])
        = some (w', .ok [.bool true]) ∧
      (w'.sandbox 0).config = HostTable.toDict ⟨[.text "x"],
        [("inner", .table [.integer 7] []), ("name", .text "demo")]⟩ := by
  intro back w
  have htaken : exportValue plain (.table 0) = .ok (.table [.text "x"]
      [("inner", .table [.integer 7] []), ("name", .text "demo")]) := rfl
  have hback : plain.Lists back := fun id => List.reverse_perm _
  obtain ⟨-, -, hclear⟩ := exportListed_agree_iff ⟨_, htaken⟩
  obtain ⟨hsame, hsaves⟩ := hclear (clear_plain _) back hback
  exact ⟨htaken, hsame, hsaves w 0 [] [] _ _ rfl (by decide) rfl (hsame.trans htaken)⟩

/-- A heap with a table in which a truth value and a string are keys with the same text. -/
def tangled : Heap := ⟨#[⟨#[], [(.bool true, .text "b"), (.text "true", .text "s")]⟩], 0⟩

/-- **The order can make a difference.**  Both orders list the same entries, and what they give
differs in the configuration that is saved. -/
theorem orders_disagree :
    let list := fun id => (tangled.table id).pairs
    let back := fun id => (tangled.table id).pairs.reverse
    tangled.Lists list ∧ tangled.Lists back ∧
      exportValue tangled (.table 0) = .ok (.table [] [("true", .text "s")]) ∧
      exportListed tangled list maxDepth (.table 0) = .ok (.table [] [("true", .text "s")]) ∧
      exportListed tangled back maxDepth (.table 0) = .ok (.table [] [("true", .text "b")]) ∧
      HostTable.toDict ⟨[], [("true", .text "s")]⟩
        ≠ HostTable.toDict ⟨[], [("true", .text "b")]⟩ := by
  intro list back
  exact ⟨lists_pairs tangled, fun id => List.reverse_perm _, rfl, rfl, rfl, by decide +kernel⟩

end HostValue

end EditorPlugins
