/-
  Choosing from the items of a table.

  `ui.select` takes the items of a table that have a text and an index, counted from one, of the
  item that is chosen unless the user decides otherwise.  A host without a user chooses it at once.
  The items without a text are dropped first, and the index is then used on those that are left: it
  counts texts and not items of the table.

    program   `Capability.check`, `Prompting.select`
    spec      the item that the script itself finds under the index (`Table.get`)
    crux      the sequence that is taken out of a heap has at every place what the script finds at
              this position (`exportEntries_sequence`); for this no position may have two values,
              which is an invariant of all heaps (`Reachable.positioned`)

  So the item under the index is answered if all items before it have a text, and else it is not:
  what is answered then is the text of an item behind it, or nothing.

  Main statement: `Reachable.select_chosen`; `gap_passed_over` is a table where a later item is
  answered.
-/
import EditorPlugins.Proofs.Boundary.Chains
import EditorPlugins.Proofs.Capability.Refusals
import EditorPlugins.Proofs.Machine.Heaps
import EditorPlugins.Proofs.Machine.Scene

namespace EditorPlugins

open Script (Value Table Heap ObjectId Raised Program)
open Script.Table (position)

/-! ## Texts of a list -/

section Texts

variable {α β : Type} {f : α → Option β} {l : List α} {i : Nat} {v : α} {s : β}

/-- What is kept of a list: of the elements before one that is kept, itself, and those behind. -/
theorem filterMap_eq_of_getElem? (hv : l[i]? = some v) (hs : f v = some s) :
    l.filterMap f = (l.take i).filterMap f ++ s :: (l.drop (i + 1)).filterMap f := by
  obtain ⟨hi, rfl⟩ := List.getElem?_eq_some_iff.1 hv
  conv_lhs => rw [← List.take_append_drop i l]
  rw [List.filterMap_append, List.drop_eq_getElem_cons hi, List.filterMap_cons_some hs]

/-- An element whose predecessors are all kept stays where it is, -/
theorem getElem?_filterMap_of_kept (hv : l[i]? = some v) (hs : f v = some s)
    (hkept : ∀ u ∈ l.take i, f u ≠ none) : (l.filterMap f)[i]? = some s := by
  obtain ⟨hi, -⟩ := List.getElem?_eq_some_iff.1 hv
  have hlength : ((l.take i).filterMap f).length = i := by
    rw [List.filterMap_length_eq_length.2 fun u hu => Option.isSome_iff_ne_none.2 (hkept u hu),
      List.length_take, Nat.min_eq_left (Nat.le_of_lt hi)]
  rw [filterMap_eq_of_getElem? hv hs, List.getElem?_append_right (Nat.le_of_eq hlength), hlength,
    Nat.sub_self]
  rfl

/-- and behind a gap there is a later one in its place, or none. -/
theorem getElem?_filterMap_of_gap (hv : l[i]? = some v) (hs : f v = some s)
    (hgap : ∃ u ∈ l.take i, f u = none) :
    (l.filterMap f)[i]? = none ∨ ∃ u ∈ l.drop (i + 1), (l.filterMap f)[i]? = f u := by
  have hless : ((l.take i).filterMap f).length < i := by
    obtain ⟨u, hu, hnone⟩ := hgap
    refine Nat.lt_of_lt_of_le ?_ (List.length_take_le i l)
    exact List.length_filterMap_lt_length_iff_exists.2 ⟨u, hu, hnone⟩
  rw [filterMap_eq_of_getElem? hv hs, List.getElem?_append_right (Nat.le_of_lt hless)]
  obtain ⟨j, hj⟩ : ∃ j, i - ((l.take i).filterMap f).length = j + 1 :=
    ⟨i - ((l.take i).filterMap f).length - 1, by omega⟩
  rw [hj, List.getElem?_cons_succ]
  cases hlater : ((l.drop (i + 1)).filterMap f)[j]? with
  | none => exact .inl rfl
  | some s' =>
    obtain ⟨u, hu, hus⟩ := List.mem_filterMap.1 (List.mem_of_getElem? hlater)
    exact .inr ⟨u, hu, hus.symm⟩

end Texts

/-! ## Texts of a table -/

/-- The text that a host makes of a string or a number of a script. -/
def Script.Value.hostText? : Value → Option String
  | .string b => some (Text.decodeLossy b)
  | .integer n => some (toString n.toInt)
  | .float x => some (HostValue.numberText x)
  | _ => none

/-- The texts that a user can choose from: those of the items that have one. -/
def Script.Table.choices (t : Table) : List String := t.sequence.filterMap Value.hostText?

namespace HostValue

/-- A value has the same text when it is taken out. -/
theorem coerceText_of_exportWithin {h : Heap} {depth : Nat} {v : Value} {x : HostValue}
    (hx : exportWithin h depth v = .ok x) : x.coerceText = v.hostText? := by
  rcases Classical.em (∃ id, v = .table id) with ⟨id, rfl⟩ | hv
  · cases depth with
    | zero => cases hx
    | succ depth =>
      simp only [exportWithin] at hx
      split at hx
      · cases hx; rfl
      · cases hx
  · rw [exportWithin_scalar h depth (not_exists.1 hv)] at hx
    cases v with
    | table id => exact absurd ⟨id, rfl⟩ hv
    | string b => cases hx; exact coerceText_ofBytes b
    | _ => cases hx <;> rfl

theorem filterMap_coerceText {h : Heap} {depth : Nat} {vs : List Value} {xs : List HostValue}
    (hall : List.Forall₂ (fun v x => exportWithin h depth v = .ok x) vs xs) :
    xs.filterMap coerceText = vs.filterMap Value.hostText? := by
  induction hall with
  | nil => rfl
  | cons hx _ ih => rw [List.filterMap_cons, List.filterMap_cons, coerceText_of_exportWithin hx, ih]

/-- **The texts of a table that is taken out are its choices.** -/
theorem choices_of_exportWithin {h : Heap} {depth : Nat} {n : ObjectId} {x : HostValue}
    (hh : (h.table n).Positioned) (hsize : (h.table n).items.size ≤ Table.maxPosition)
    (hx : exportWithin h (depth + 1) (.table n) = .ok x) : ∃ array fields,
      x = .table array fields ∧ array.filterMap coerceText = (h.table n).choices := by
  have hnil : exportWithin h depth .nil = .ok .absent := exportWithin_scalar h depth (by simp)
  simp only [exportWithin] at hx
  split at hx
  · rename_i t ht
    cases hx
    exact ⟨t.array, t.fields, rfl, filterMap_coerceText (exportEntries_sequence hh hsize hnil ht)⟩
  · cases hx

end HostValue

/-! ## The call -/

/-- A script lets choose from the items of a table, without a user: under the index is a string or
a number, and this is its text. -/
structure World.LetsChoose (w : World) (id : SandboxId) (n : ObjectId) (i : Int64) (s : String) :
    Prop where
  headless : ∃ yes, (w.host (w.sandbox id).host).prompting = .defaults yes
  /-- Positions are whole numbers of 64 bits. -/
  size : ((w.sandbox id).heap.table n).items.size ≤ Table.maxPosition
  pos : 1 ≤ i.toInt
  le : i.toInt ≤ ((w.sandbox id).heap.table n).length
  item : (((w.sandbox id).heap.table n).get (.integer i)).hostText? = some s

instance (w : World) (id : SandboxId) (n : ObjectId) (i : Int64) (s : String) :
    Decidable (w.LetsChoose id n i s) :=
  decidable_of_iff (_ ∧ _ ∧ _ ∧ _ ∧ _)
    ⟨fun ⟨h₁, h₂, h₃, h₄, h₅⟩ => ⟨h₁, h₂, h₃, h₄, h₅⟩,
      fun ⟨h₁, h₂, h₃, h₄, h₅⟩ => ⟨h₁, h₂, h₃, h₄, h₅⟩⟩

/-- A text or nothing, as a script gets it. -/
def Script.Value.ofText? : Option String → Value
  | some s => .text s
  | none => .nil

namespace World

variable {w : World} {id : SandboxId}

/-- The call asks to choose from the texts of the table, if the table leaves the sandbox. -/
theorem requestedAction_select (s : Sandbox) {n : ObjectId} (hh : (s.heap.table n).Positioned)
    (hsize : (s.heap.table n).items.size ≤ Table.maxPosition) (i : Int64) :
    s.heap.Leaves (.table n) ∧ requestedAction s .uiSelect [.table n, .integer i]
        = .ok (.select (s.heap.table n).choices (Capability.indexFromOne i)) ∨
    ¬ s.heap.Leaves (.table n) ∧ ∃ fault,
      requestedAction s .uiSelect [.table n, .integer i] = .error (.invalidArgument fault) := by
  rcases HostValue.exportValue_cases s.heap (.table n) with
    ⟨⟨x, hx⟩, hleaves⟩ | ⟨⟨fault, hfault, -⟩, hstays⟩
  · obtain ⟨array, fields, rfl, hchoices⟩ := HostValue.choices_of_exportWithin hh hsize hx
    have hargs : exportArguments s [.table n, .integer i]
        = .ok [.table array fields, .integer i] := by
      simp only [exportArguments, List.mapM_cons, hx]
      rfl
    refine .inl ⟨hleaves, ?_⟩
    rw [← hchoices]
    exact requestedAction_of_check hargs rfl
  · have hargs : exportArguments s [.table n, .integer i] = .error fault := by
      simp only [exportArguments, List.mapM_cons, hfault]
      rfl
    refine .inr ⟨hstays, fault, ?_⟩
    simp only [requestedAction, hargs]
    rfl

/-- What a prompt answers is given to the script. -/
theorem giveBack_ofText? (w : World) (id : SandboxId) (answer : Option String) :
    (w.giveBack id [.ofText? answer]).2 = .ok [.ofText? answer] := by
  cases answer <;> rfl

/-- What is chosen is the answer. -/
theorem serve_select {n : ObjectId} {i : Int64} {choices : List String} {index : Nat}
    (h : requestedAction (w.sandbox id) .uiSelect [.table n, .integer i]
      = .ok (.select choices index)) :
    ∃ w', (w.observe (.select choices index)).SameButHeaps w' ∧
      w.serve id (.call (.function (.capability .uiSelect)) [.table n, .integer i])
        = some (w', .ok [.ofText?
          ((w.host (w.sandbox id).host).prompting.select choices index)]) := by
  let answer := (w.host (w.sandbox id).host).prompting.select choices index
  let given := (w.observe (.select choices index)).giveBack id [.ofText? answer]
  have hserve : w.serve id (.call (.function (.capability .uiSelect)) [.table n, .integer i])
      = some given := serve_of_requestedAction h fun _ _ _ => nofun
  have hanswer : given.2 = .ok [.ofText? answer] := giveBack_ofText? _ id answer
  have hkeeps : (w.observe (.select choices index)).SameButHeaps given.1 :=
    onHeap_sameButHeaps _ id _
  refine ⟨given.1, hkeeps, ?_⟩
  rw [hserve, ← hanswer]

end World

namespace Machine

/-- **What a host without a user answers when a script lets choose.**  It is the text of the
script's own item under the index if all items before it have a text.  If one of them has none, the
index is that of another text, and the answer is the text of an item behind it or nil.  A table that
does not leave the sandbox is refused. -/
theorem Reachable.select_chosen {w : World} {id : SandboxId} {n : ObjectId} {i : Int64}
    {next : Except Raised (List Value) → Program (List Value)} {F : List Frame} {s : String}
    (h : (callCapability w id .uiSelect [.table n, .integer i] next F).Reachable)
    (hchoose : w.LetsChoose id n i s) :
    let t := (w.sandbox id).heap.table n
    let index := i.toInt.toNat - 1
    let after := (callCapability w id .uiSelect [.table n, .integer i] next F).step
    ((w.sandbox id).heap.Leaves (.table n) → ∃ w' answer,
      after = ⟨w', .running id (next (.ok [.ofText? answer])), F⟩ ∧
      (w.observe (.select t.choices index)).SameButHeaps w' ∧ answer = t.choices[index]? ∧
      ((∀ v ∈ t.sequence.take index, v.hostText? ≠ none) → answer = some s) ∧
      ((∃ v ∈ t.sequence.take index, v.hostText? = none) →
        answer = none ∨ ∃ v ∈ t.sequence.drop (index + 1), answer = v.hostText?)) ∧
    (¬ (w.sandbox id).heap.Leaves (.table n) → ∃ w' object fault, w.SameButHeaps w' ∧
      after = ⟨w', .running id (next (.error (.value (.fault object (.invalidArgument fault))))),
        F⟩) := by
  intro t index after
  obtain ⟨⟨yes, hheadless⟩, hsize, hpos, hle, hitem⟩ := hchoose
  have hindex : Capability.indexFromOne i = index := by
    show (i.toInt - 1).toNat = i.toInt.toNat - 1
    omega
  have hown : t.sequence[index]? = some (t.get (.integer i)) := by
    have hin : i.toInt.toNat - 1 < ((w.sandbox id).heap.table n).length := by omega
    have hnat : index + 1 = i.toInt.toNat := by omega
    rw [Table.getElem?_sequence hin, hnat, Table.position_toInt hpos]
  rcases World.requestedAction_select (w.sandbox id) (h.positioned id n) hsize i with
    ⟨hleaves, haction⟩ | ⟨hstays, fault, haction⟩
  · refine ⟨fun _ => ?_, fun hstays => absurd hleaves hstays⟩
    obtain ⟨w', hkeeps, hserve⟩ := World.serve_select haction
    rw [hheadless] at hserve
    rw [hindex] at hkeeps hserve
    exact ⟨w', t.choices[index]?, ask_of_serve w id next F hserve, hkeeps, rfl,
      getElem?_filterMap_of_kept hown hitem, getElem?_filterMap_of_gap hown hitem⟩
  · refine ⟨fun hleaves => absurd hleaves hstays, fun _ => ?_⟩
    obtain ⟨object, w', hserve, hkeeps⟩ := World.serve_of_refused haction
    exact ⟨w', object, fault, hkeeps, ask_of_serve w id next F hserve⟩

/-! ## Two tables -/

/-- The table and the index with which code lets choose in the next step. -/
def selecting? (m : Machine) : Option (SandboxId × ObjectId × Int64) :=
  match m.focus with
  | .running id (.ask (.call (.function (.capability .uiSelect)) [.table n, .integer i]) _) =>
    some (id, n, i)
  | _ => none

theorem eq_of_selecting? {m : Machine} {id : SandboxId} {n : ObjectId} {i : Int64}
    (h : m.selecting? = some (id, n, i)) :
    ∃ next, m = callCapability m.world id .uiSelect [.table n, .integer i] next m.frames := by
  obtain ⟨w, focus, F⟩ := m
  unfold selecting? at h
  split at h
  · rename_i next hfocus
    cases h
    obtain rfl : focus = .running id
        (.ask (.call (.function (.capability .uiSelect)) [.table n, .integer i]) next) := hfocus
    exact ⟨next, rfl⟩
  · cases h

end Machine

/-- A plugin that shows what is chosen of a table and an index. -/
def Scene.selecting (items : List Json) (index : Int) : Scene :=
  [⟨"p", "p", [.array [.text "show", .object [("call", .text "ui.select"),
    ("args", .array [.object [("t", .array items)], .integer index])]]]⟩]

/-- What evaluates to true of the call is true of a reachable machine. -/
theorem Scene.selects (items : List Json) (index : Int) (own : String)
    (q : World → SandboxId → ObjectId → Int64 → Bool)
    (h : ((Scene.selecting items index).machine? [] (.load ⟨"p"⟩) 3).any (fun m =>
      m.selecting?.any fun c => decide (m.world.LetsChoose c.1 c.2.1 c.2.2 own) &&
        q m.world c.1 c.2.1 c.2.2) = true) : ∃ w id n i next F,
    (Machine.callCapability w id .uiSelect [.table n, .integer i] next F).Reachable ∧
      w.LetsChoose id n i own ∧ q w id n i = true := by
  obtain ⟨m, -, hm, hq⟩ := Scene.reach h
  obtain ⟨⟨id, n, i⟩, hselecting, hboth⟩ := (Option.any_eq_true _ _).1 hq
  obtain ⟨hchoose, hrest⟩ := Bool.and_eq_true_iff.1 hboth
  obtain ⟨next, hcall⟩ := Machine.eq_of_selecting? hselecting
  rw [hcall] at hm
  exact ⟨m.world, id, n, i, next, m.frames, hm, of_decide_eq_true hchoose, hrest⟩

/-- All items before the second one have a text, and the third one need not have any. -/
theorem second_chosen : ∃ w id n i next F w',
    (Machine.callCapability w id .uiSelect [.table n, .integer i] next F).Reachable ∧
    w.LetsChoose id n i "7" ∧
    (Machine.callCapability w id .uiSelect [.table n, .integer i] next F).step
      = ⟨w', .running id (next (.ok [.text "7"])), F⟩ := by
  have hscene := Scene.selects [.text "a", .integer 7, .bool true] 2 "7" (fun w id n i =>
    (HostValue.exportValue (w.sandbox id).heap (.table n)).toOption.isSome &&
      (((w.sandbox id).heap.table n).sequence.take (i.toInt.toNat - 1)).all
        (·.hostText?.isSome)) (by decide +kernel)
  obtain ⟨w, id, n, i, next, F, hm, hchoose, hq⟩ := hscene
  obtain ⟨htaken, hkept⟩ := Bool.and_eq_true_iff.1 hq
  obtain ⟨x, hx⟩ := Option.isSome_iff_exists.1 htaken
  have hleaves := HostValue.leaves_of_exportValue (Except.eq_ok_of_toOption hx)
  obtain ⟨w', answer, hstep, -, -, hown, -⟩ := (hm.select_chosen hchoose).1 hleaves
  have hanswer : answer = some "7" :=
    hown fun v hv => Option.isSome_iff_ne_none.1 (List.all_eq_true.1 hkept v hv)
  rw [hanswer] at hstep
  exact ⟨w, id, n, i, next, F, w', hm, hchoose, hstep⟩

/-- Whether a script's call is answered with a text when nobody decides otherwise. -/
def World.chooses (answer : String) (w : World) (id : SandboxId) (n : ObjectId) (i : Int64) :
    Bool :=
  match requestedAction (w.sandbox id) .uiSelect [.table n, .integer i] with
  | .ok (.select choices index) =>
    (w.host (w.sandbox id).host).prompting.select choices index == some answer
  | _ => false

/-- The first item is not a text, and the third one is chosen for the second. -/
theorem gap_passed_over : ∃ w id n i next F w',
    (Machine.callCapability w id .uiSelect [.table n, .integer i] next F).Reachable ∧
    w.LetsChoose id n i "a" ∧
    (Machine.callCapability w id .uiSelect [.table n, .integer i] next F).step
      = ⟨w', .running id (next (.ok [.text "b"])), F⟩ := by
  have hscene := Scene.selects [.bool true, .text "a", .text "b"] 2 "a" (World.chooses "b")
    (by decide +kernel)
  obtain ⟨w, id, n, i, next, F, hm, hchoose, hq⟩ := hscene
  unfold World.chooses at hq
  split at hq
  · rename_i choices index haction
    obtain ⟨w', -, hserve⟩ := World.serve_select haction
    rw [beq_iff_eq.1 hq] at hserve
    exact ⟨w, id, n, i, next, F, w', hm, hchoose, Machine.ask_of_serve w id next F hserve⟩
  · cases hq

end EditorPlugins
