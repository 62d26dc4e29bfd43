/-
  What the functions of the library do to a heap.

  Almost all of them look at the heap and leave it as it is (`Act.Reads`).  That is closed under
  sequencing, so each function is followed as it is written, down to the readers of arguments.  Two
  functions change something: `rawset` stores under a key, and `table.pack` makes a table.

  Main statement: `act?_changesOnce`.
-/
import EditorPlugins.Script.Library

namespace EditorPlugins.Script

/-- A heap after one function of the library: as it was, or with one value stored, or with one more
table, of a sequence and a value under a name. -/
inductive Heap.ChangesOnce (h : Heap) : Heap → Prop where
  | same : ChangesOnce h h
  | stored (id : ObjectId) (k v : Value) : ChangesOnce h (h.put id k v)
  | made (items : Array Value) (name : String) (v : Value) :
      ChangesOnce h (h.addTable ⟨items, [(.text name, v)]⟩).2

namespace Library

/-! ## Reading -/

/-- Whatever comes of it, the heap stays as it is. -/
def Act.Reads {α : Type} (a : Act α) : Prop := ∀ h : Heap, (a.on h).2 = h

namespace Act

variable {α β : Type} {a : Act α} {f : α → Act β}

/-- One after the other, unless the first raises. -/
theorem on_bind (h : Heap) : (a >>= f).on h = match a.on h with
    | (.ok x, h') => (f x).on h'
    | (.error r, h') => (.error r, h') := by
  unfold on
  rw [ExceptT.run_bind, StateT.run_bind]
  cases (ExceptT.run a).run h with
  | mk r h' => cases r <;> rfl

theorem Reads.pure (x : α) : Reads (Pure.pure x) := fun _ => rfl

theorem Reads.throw (r : Raised) : Reads (throw r : Act α) := fun _ => rfl

theorem Reads.get : Reads (get : Act Heap) := fun _ => rfl

theorem Reads.bind (ha : a.Reads) (hf : ∀ x, (f x).Reads) : Reads (a >>= f) := by
  intro h
  have hsame := ha h
  rw [on_bind]
  cases hfirst : a.on h with
  | mk r h' =>
    rw [hfirst] at hsame
    obtain rfl : h' = h := hsame
    cases r with
    | ok x => exact hf x h'
    | error e => rfl

/-- What is read first makes no difference to what is changed afterwards. -/
theorem Reads.changesOnce_bind {h : Heap} (ha : a.Reads)
    (hf : ∀ x, h.ChangesOnce ((f x).on h).2) : h.ChangesOnce ((a >>= f).on h).2 := by
  have hsame := ha h
  rw [on_bind]
  cases hfirst : a.on h with
  | mk r h' =>
    rw [hfirst] at hsame
    obtain rfl : h' = h := hsame
    cases r with
    | ok x => exact hf x
    | error e => exact .same

theorem Reads.ite {p : Prop} [Decidable p] {b : Act α} (ha : a.Reads) (hb : b.Reads) :
    Reads (if p then a else b) := by
  split
  · exact ha
  · exact hb

theorem Reads.mapM (l : List β) {f : β → Act α} (hf : ∀ x, (f x).Reads) : Reads (l.mapM f) := by
  induction l with
  | nil => exact .pure []
  | cons x l ih =>
    rw [List.mapM_cons]
    exact .bind (hf x) fun y => .bind ih fun ys => .pure _

end Act

open Act

/-! ## Arguments -/

namespace Call

variable (c : Call) (n : Nat)

theorem any_reads : (c.any n).Reads := by
  unfold any
  split
  · exact .pure _
  · exact .throw _

theorem table_reads : (c.table n).Reads := by
  unfold table
  split
  · exact .pure _
  · exact .throw _

theorem string_reads : (c.string n).Reads := by
  unfold string
  split
  · exact .pure _
  · exact .throw _

theorem number_reads : (c.number n).Reads := by
  unfold number
  split
  · exact .pure _
  · exact .throw _

theorem integer_reads : (c.integer n).Reads := by
  refine .bind (c.number_reads n) fun x => ?_
  split
  · exact .pure _
  · exact .throw _

theorem integerD_reads (default : Int) : (c.integerD n default).Reads := by
  unfold integerD
  split
  · exact .pure _
  · exact c.integer_reads n

/-- A string that may be missing. -/
theorem string_or_reads {α : Type} {f : ByteArray → Act α} (hf : ∀ b, (f b).Reads) :
    Reads (do f (← match c.argD n with
      | .nil => pure ByteArray.empty
      | _ => c.string n)) := by
  split
  · exact .bind (.pure _) hf
  · exact .bind (c.string_reads n) hf

end Call

/-! ## Functions -/

section Functions

variable (c : Call)

theorem select_reads : (select c).Reads := by
  refine .ite (.pure _) (.bind (c.integer_reads 1) fun i => ?_)
  exact .ite (.throw _) (.pure _)

theorem toNumber_reads : (toNumber c).Reads := by
  unfold toNumber
  split
  · exact .bind (c.any_reads 1) fun v => .pure _
  · refine .bind (c.integer_reads 2) fun radix => ?_
    split
    · exact .ite (.throw _) (.pure _)
    · exact .throw _

theorem rawLength_reads : (rawLength c).Reads := by
  unfold rawLength
  split
  · exact .bind .get fun h => .pure _
  · exact .pure _
  · exact .throw _

theorem nextEntry_reads : (nextEntry c).Reads := by
  refine .bind .get fun h => .bind (c.table_reads 1) fun id => ?_
  dsimp only
  split
  · refine .bind (.pure _) fun rest => ?_
    split <;> exact .pure _
  · split
    · refine .bind (.pure _) fun rest => ?_
      split <;> exact .pure _
    · refine .bind (.throw _) fun rest => ?_
      split <;> exact .pure _

theorem nextItem_reads : (nextItem c).Reads := by
  refine .bind (c.integer_reads 2) fun i => .bind .get fun h => ?_
  split
  · exact .throw _
  · exact .pure _
  · exact .pure _

theorem behaviour_reads : (behaviour c).Reads := by
  refine .bind (c.any_reads 1) fun v => ?_
  split <;> exact .pure _

theorem setBehaviour_reads : (setBehaviour c).Reads := by
  refine .bind (c.table_reads 1) fun id => ?_
  split
  · exact .pure _
  · exact .pure _
  · exact .throw _

theorem collector_reads : (collector c).Reads := by
  unfold collector
  dsimp only
  split
  · refine .bind (.pure _) fun option => ?_
    split
    case h_11 => exact .throw _
    all_goals exact .pure _
  · refine .bind (c.string_reads 1) fun b => .bind (.pure _) fun option => ?_
    split
    case h_11 => exact .throw _
    all_goals exact .pure _

/-- Only one of the global functions changes the heap. -/
theorem base?_reads {a : Act (List Value)} (h : base? c = some a) :
    a = rawSet c ∨ a.Reads := by
  unfold base? at h
  split at h
  case h_12 => cases h; exact .inl rfl
  all_goals right; cases h
  · exact .bind (c.any_reads 1) fun v => .ite (.pure _) (.throw _)
  · exact collector_reads c
  · exact .throw _
  · exact behaviour_reads c
  · exact .bind (c.any_reads 1) fun v => .pure _
  · exact nextItem_reads c
  · exact nextEntry_reads c
  · exact .bind (c.any_reads 1) fun v => .pure _
  · exact .bind (c.any_reads 1) fun v => .bind (c.any_reads 2) fun v' => .pure _
  · exact .bind (c.table_reads 1) fun id => .bind (c.any_reads 2) fun k =>
      .bind .get fun h => .pure _
  · exact rawLength_reads c
  · exact select_reads c
  · exact setBehaviour_reads c
  · exact toNumber_reads c
  · exact .bind (c.any_reads 1) fun v => .pure _
  · exact .bind (c.any_reads 1) fun v => .pure _
  · exact .bind (c.string_reads 1) fun v => .pure _

theorem strings?_reads {limit : UInt64} {a : Act (List Value)} (h : strings? limit c = some a) :
    a.Reads := by
  unfold strings? at h
  split at h
  all_goals cases h
  · exact .bind (c.string_reads 1) fun b => .bind (c.integerD_reads 2 1) fun i =>
      .bind (c.integerD_reads 3 i) fun j => .pure _
  · refine .bind (.mapM _ fun i => .bind (c.integer_reads _) fun n => ?_) fun bs => .pure _
    exact .ite (.throw _) (.pure _)
  · exact .bind (c.string_reads 1) fun b => .pure _
  · exact .bind (c.string_reads 1) fun b => .pure _
  · exact .bind (c.string_reads 1) fun b => .pure _
  · refine .bind (c.string_reads 1) fun b => .bind (c.integer_reads 2) fun times => ?_
    refine c.string_or_reads 3 fun gap => ?_
    exact .ite (.throw _) (.ite (.pure _) (.pure _))
  · exact .bind (c.string_reads 1) fun b => .pure _
  · exact .bind (c.string_reads 1) fun b => .bind (c.integer_reads 2) fun i =>
      .bind (c.integerD_reads 3 (-1)) fun j => .pure _

theorem numbers?_reads {a : Act (List Value)} (h : numbers? c = some a) : a.Reads := by
  unfold numbers? at h
  split at h
  all_goals cases h
  · exact .bind (c.number_reads 1) fun x => .pure _
  · exact .bind (c.number_reads 1) fun x => .pure _
  · exact .bind (c.number_reads 1) fun x => .pure _
  · exact .bind (c.any_reads 1) fun x => .pure _
  · exact .bind (c.any_reads 1) fun x => .pure _

theorem joined_reads (limit : UInt64) : (joined limit c).Reads := by
  refine .bind .get fun h => .bind (c.table_reads 1) fun id => ?_
  refine c.string_or_reads 2 fun gap => ?_
  refine .bind (c.integerD_reads 3 1) fun i => .bind (c.integerD_reads 4 _) fun j => ?_
  refine .ite (.bind (.throw _) fun _ => ?_) ?_
  -- the items are joined, whichever way this point is reached
  all_goals
    dsimp only
    split
    · exact .throw _
    · split
      · exact .pure _
      · exact .throw _

theorem tables?_reads {limit : UInt64} {a : Act (List Value)} (h : tables? limit c = some a) :
    a = packed c ∨ a.Reads := by
  unfold tables? at h
  split at h
  all_goals cases h
  · exact .inr (joined_reads c limit)
  · exact .inl rfl
  · refine .inr (.bind .get fun h => .bind (c.table_reads 1) fun id => ?_)
    refine .bind (c.integerD_reads 2 1) fun i => .bind (c.integerD_reads 3 _) fun j => ?_
    exact .ite (.throw _) (.pure _)

/-- `rawset` stores, unless it raises. -/
theorem rawSet_changesOnce (h : Heap) : h.ChangesOnce ((rawSet c).on h).2 := by
  have hcheck : ∀ r : Except Raised Unit, (rawSet.ofExcept r).Reads := by
    rintro (r | ⟨⟩)
    · exact .throw r
    · exact .pure ()
  refine (c.table_reads 1).changesOnce_bind fun id => (c.any_reads 2).changesOnce_bind fun k =>
    (c.any_reads 3).changesOnce_bind fun v => (hcheck _).changesOnce_bind fun _ => ?_
  exact .stored id k v

theorem packed_changesOnce (h : Heap) : h.ChangesOnce ((packed c).on h).2 :=
  .made c.args.toArray "n" (ofNat c.args.length)

/-- **A function of the library changes the heap once at most.** -/
theorem act?_changesOnce {limit : UInt64} {name : String} {args : List Value}
    {a : Act (List Value)} (ha : act? limit name args = some a) (h : Heap) :
    h.ChangesOnce (a.on h).2 := by
  have hreads : a.Reads → h.ChangesOnce (a.on h).2 := by
    intro hsame
    rw [hsame h]
    exact .same
  unfold act? at ha
  split at ha
  · rcases base?_reads _ ha with rfl | hsame
    · exact rawSet_changesOnce _ h
    · exact hreads hsame
  · exact hreads (strings?_reads _ ha)
  · exact hreads (numbers?_reads _ ha)
  · rcases tables?_reads _ ha with rfl | hsame
    · exact packed_changesOnce _ h
    · exact hreads hsame
  · cases ha

end Functions

end Library

end EditorPlugins.Script
