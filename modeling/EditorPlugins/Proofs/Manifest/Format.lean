/-
  The format of manifests.

  A manifest is a JSON object.  The fields that the host reads have a type each, or are absent; the
  name must be there, and the rules for names and for the entry are about the texts alone.  Reading
  goes another way: field by field in the order of their names, up to the first that does not fit,
  then through the rules one after the other.  That it comes to the same is what is shown here, and
  which of the faults is answered when there are several.

    program   `Manifest.parse`
    spec      `Json.WellTyped`, `Json.NameIsBlank`, `Json.IsManifest`: what stands under which name
    crux      `exists_readField_iff`: whether a field is read does not depend on those before it

  What stands under a name is the last value written there, so a value and its sorted form are
  manifests together.  In the sorted form no name comes twice, and the fold over the fields is
  followed there (`exists_foldlM_iff`, `foldlM_keeps_last`).

  Main statement: `parse_decides`.
-/
import EditorPlugins.Proofs.Manifest.RoundTrip
import EditorPlugins.Proofs.Manifest.Rules

namespace EditorPlugins

/-! ## The format -/

namespace Json

def IsText (j : Json) : Prop := ∃ s, j = .text s

/-- Null counts as absent where this is allowed. -/
def IsTextOrNull (j : Json) : Prop := j = .null ∨ j.IsText

/-- What stands under a name is of some kind, if anything stands there. -/
def FieldIs (kind : Json → Prop) (j : Json) (name : String) : Prop :=
  ∀ v, j.field? name = some v → kind v

/-- A command is an object with texts for its id and its title, or an array of at most two texts. -/
def IsCommand : Json → Prop
  | .object fields => FieldIs IsText (.object fields) "id" ∧ FieldIs IsText (.object fields) "title"
  | .array items => items.length ≤ 2 ∧ ∀ v ∈ items, v.IsText
  | _ => False

def IsCommandList (j : Json) : Prop := ∃ items, j = .array items ∧ ∀ c ∈ items, c.IsCommand

/-- An object in which every field that the host reads has its type, or is absent. -/
structure WellTyped (j : Json) : Prop where
  object : ∃ fields, j = .object fields
  texts : ∀ name ∈ ["name", "version", "description", "author"], j.FieldIs IsText name
  textsOrNull : ∀ name ∈ ["entry", "nnp-compatible-versions"], j.FieldIs IsTextOrNull name
  commands : j.FieldIs IsCommandList "commands"

/-- The text under a name; a name without one counts as the empty text. -/
def textAt (j : Json) (name : String) : String := (j.textField? name).getD ""

/-- The name is absent, or has nothing but blanks. -/
def NameIsBlank (j : Json) : Prop := Manifest.OnlyBlanks (j.textAt "name")

/-- A manifest: the types are right and the rules are kept. -/
def IsManifest (j : Json) : Prop :=
  j.WellTyped ∧ Manifest.KeepsRules (j.textAt "name") (j.textField? "entry")

/-- The text of an item that may be absent. -/
def itemText (j : Option Json) : String := (j.bind text?).getD ""

/-- The command that a value declares. -/
def declaredCommand : Json → DeclaredCommand
  | .array items => ⟨itemText items[0]?, itemText items[1]?⟩
  | j => ⟨j.textAt "id", j.textAt "title"⟩

/-- The commands that a value declares, in their order. -/
def declaredCommands (j : Json) : List DeclaredCommand :=
  ((j.itemsField? "commands").getD []).map declaredCommand

theorem textAt_eq (j : Json) (name : String) :
    j.textAt name = ((j.field? name).map fun v => v.text?.getD "").getD "" := by
  unfold textAt textField?
  cases j.field? name <;> rfl

/-! ## The format and the order of the fields -/

theorem text?_sorted (j : Json) : j.sorted.text? = j.text? := by
  cases j <;> rfl

theorem isText_sorted {j : Json} : j.sorted.IsText ↔ j.IsText := by
  cases j <;> simp [IsText, sorted]

theorem isTextOrNull_sorted {j : Json} : j.sorted.IsTextOrNull ↔ j.IsTextOrNull := by
  cases j <;> simp [IsTextOrNull, IsText, sorted]

theorem sortedItems_eq_map (items : List Json) : sortedItems items = items.map sorted := by
  induction items with
  | nil => rfl
  | cons j items ih => rw [sortedItems, ih, List.map_cons]

/-- A field is of a kind when its sorted form is. -/
theorem fieldIs_sorted {kind : Json → Prop} (hkind : ∀ v : Json, kind v.sorted ↔ kind v) {j : Json}
    {name : String} : j.sorted.FieldIs kind name ↔ j.FieldIs kind name := by
  unfold FieldIs
  rw [field?_sorted]
  cases j.field? name with
  | none => simp
  | some v => simp [hkind]

theorem textField?_sorted (j : Json) (name : String) :
    j.sorted.textField? name = j.textField? name := by
  unfold textField?
  rw [field?_sorted]
  cases j.field? name with
  | none => rfl
  | some v => exact text?_sorted v

theorem textAt_sorted (j : Json) (name : String) : j.sorted.textAt name = j.textAt name := by
  rw [textAt, textAt, textField?_sorted]

theorem isCommand_sorted {j : Json} : j.sorted.IsCommand ↔ j.IsCommand := by
  cases j with
  | object fields =>
    exact and_congr (fieldIs_sorted (fun _ => isText_sorted) (j := .object fields))
      (fieldIs_sorted (fun _ => isText_sorted) (j := .object fields))
  | array items => simp [IsCommand, sorted, sortedItems_eq_map, isText_sorted]
  | _ => exact Iff.rfl

theorem isCommandList_sorted {j : Json} : j.sorted.IsCommandList ↔ j.IsCommandList := by
  cases j with
  | array items => simp [IsCommandList, sorted, sortedItems_eq_map, isCommand_sorted]
  | _ => simp [IsCommandList, sorted]

theorem wellTyped_sorted {j : Json} : j.sorted.WellTyped ↔ j.WellTyped := by
  have hobject : (∃ fields, j.sorted = .object fields) ↔ ∃ fields, j = .object fields := by
    cases j <;> simp [sorted]
  constructor
  · intro h
    exact ⟨hobject.1 h.object,
      fun name hname => (fieldIs_sorted fun _ => isText_sorted).1 (h.texts name hname),
      fun name hname => (fieldIs_sorted fun _ => isTextOrNull_sorted).1 (h.textsOrNull name hname),
      (fieldIs_sorted fun _ => isCommandList_sorted).1 h.commands⟩
  · intro h
    exact ⟨hobject.2 h.object,
      fun name hname => (fieldIs_sorted fun _ => isText_sorted).2 (h.texts name hname),
      fun name hname => (fieldIs_sorted fun _ => isTextOrNull_sorted).2 (h.textsOrNull name hname),
      (fieldIs_sorted fun _ => isCommandList_sorted).2 h.commands⟩

theorem itemText_sorted (j : Option Json) : itemText (j.map sorted) = itemText j := by
  cases j with
  | none => rfl
  | some j => exact congrArg (·.getD "") (text?_sorted j)

theorem declaredCommand_sorted (j : Json) : j.sorted.declaredCommand = j.declaredCommand := by
  cases j with
  | array items =>
    simp only [sorted, declaredCommand, sortedItems_eq_map, List.getElem?_map, itemText_sorted]
  | object fields =>
    show DeclaredCommand.mk ((Json.object fields).sorted.textAt "id")
      ((Json.object fields).sorted.textAt "title") = _
    rw [textAt_sorted, textAt_sorted]
    rfl
  | _ => rfl

theorem declaredCommands_sorted (j : Json) : j.sorted.declaredCommands = j.declaredCommands := by
  unfold declaredCommands itemsField?
  rw [field?_sorted]
  cases j.field? "commands" with
  | none => rfl
  | some v =>
    cases v with
    | array items =>
      have hitems : (items.map sorted).map declaredCommand = items.map declaredCommand := by
        rw [List.map_map]
        exact List.map_congr_left fun c _ => declaredCommand_sorted c
      simpa [sorted, sortedItems_eq_map, items?] using hitems
    | _ => rfl

end Json

/-! ## Folds over fields -/

/-- Where each step succeeds or not whatever went before, a fold succeeds when all steps do. -/
theorem exists_foldlM_iff {ε α β : Type} {f : β → α → Except ε β} {P : α → Prop} {l : List α}
    (hf : ∀ a ∈ l, ∀ b, (∃ b', f b a = .ok b') ↔ P a) (b : β) :
    (∃ b', l.foldlM f b = .ok b') ↔ ∀ a ∈ l, P a := by
  induction l generalizing b with
  | nil => exact iff_of_true ⟨b, rfl⟩ (List.forall_mem_nil _)
  | cons a l ih =>
    have hrest : ∀ b, (∃ b', l.foldlM f b = .ok b') ↔ ∀ a ∈ l, P a :=
      ih fun a ha => hf a (List.mem_cons_of_mem _ ha)
    rw [List.forall_mem_cons, ← hf a List.mem_cons_self b, List.foldlM_cons]
    constructor
    · rintro ⟨b', hb'⟩
      obtain ⟨b₁, hstep, hfold⟩ := Except.bind_eq_ok.1 hb'
      exact ⟨⟨b₁, hstep⟩, (hrest b₁).1 ⟨b', hfold⟩⟩
    · rintro ⟨⟨b₁, hstep⟩, hall⟩
      obtain ⟨b', hfold⟩ := (hrest b₁).2 hall
      exact ⟨b', Except.bind_eq_ok.2 ⟨b₁, hstep, hfold⟩⟩

/-- Where one name sets a part of what is built and the other names leave it, the last value under
the name counts. -/
theorem foldlM_keeps_last {ε β γ : Type} {f : β → String × Json → Except ε β} (part : β → γ)
    (name : String) (value : Json → γ)
    (hf : ∀ b k v b', f b (k, v) = .ok b' → part b' = if k = name then value v else part b)
    {fields : List (String × Json)} {b b' : β} (h : fields.foldlM f b = .ok b') :
    part b' = (((Json.object fields).field? name).map value).getD (part b) := by
  show part b' = ((Assoc.get? name fields.reverse).map value).getD (part b)
  induction fields generalizing b with
  | nil =>
    cases h
    rfl
  | cons field fields ih =>
    obtain ⟨k, v⟩ := field
    rw [List.foldlM_cons] at h
    obtain ⟨b₁, hstep, hfold⟩ := Except.bind_eq_ok.1 h
    rw [ih hfold, hf b k v b₁ hstep, List.reverse_cons, Assoc.get?_append]
    cases Assoc.get? name fields.reverse with
    | some v' => rfl
    | none =>
      by_cases hk : k = name
      · simp [Assoc.get?, hk]
      · simp [Assoc.get?, hk]

/-- The fields of an object that names none twice are what is found under the names. -/
theorem Json.field?_of_mem {fields : List (String × Json)} (h : (fields.map Prod.fst).Nodup)
    {name : String} {v : Json} :
    (name, v) ∈ fields ↔ (Json.object fields).field? name = some v := by
  show _ ↔ Assoc.get? name fields.reverse = some v
  rw [Assoc.get?_reverse name h]
  induction fields with
  | nil => simp [Assoc.get?]
  | cons field fields ih =>
    obtain ⟨k, v'⟩ := field
    have hnodup := List.nodup_cons.1 h
    by_cases hk : k = name
    · subst hk
      have hnot : (k, v) ∉ fields := fun hmem => hnodup.1 (List.mem_map.2 ⟨_, hmem, rfl⟩)
      simp [Assoc.get?, hnot, eq_comm]
    · simp [Assoc.get?, hk, Ne.symm hk, ih hnodup.2]

/-- Where each element gives something or not, all of them together give something when each
does. -/
theorem exists_mapM_iff {ε α β : Type} {f : α → Except ε β} {l : List α} :
    (∃ l', l.mapM f = .ok l') ↔ ∀ a ∈ l, ∃ b, f a = .ok b := by
  induction l with
  | nil => exact iff_of_true ⟨[], rfl⟩ (List.forall_mem_nil _)
  | cons a l ih =>
    rw [List.forall_mem_cons, ← ih, List.mapM_cons]
    constructor
    · rintro ⟨l', h⟩
      obtain ⟨b, hb, hrest⟩ := Except.bind_eq_ok.1 h
      obtain ⟨r, hr, -⟩ := Except.bind_eq_ok.1 hrest
      exact ⟨⟨b, hb⟩, r, hr⟩
    · rintro ⟨⟨b, hb⟩, r, hr⟩
      exact ⟨b :: r, by rw [hb, hr]; rfl⟩

theorem mapM_eq_map {ε α β : Type} {f : α → Except ε β} {g : α → β}
    (hfg : ∀ a b, f a = .ok b → b = g a) {l : List α} {l' : List β} (h : l.mapM f = .ok l') :
    l' = l.map g := by
  induction l generalizing l' with
  | nil =>
    cases h
    rfl
  | cons a l ih =>
    rw [List.mapM_cons] at h
    obtain ⟨b, hb, hrest⟩ := Except.bind_eq_ok.1 h
    obtain ⟨r, hr, hcons⟩ := Except.bind_eq_ok.1 hrest
    cases hcons
    rw [List.map_cons, hfg a b hb, ih hr]

namespace Manifest

/-! ## Reading one field -/

theorem readText_eq_ok {j : Json} {s : String} : readText j = .ok s ↔ j = .text s := by
  cases j <;> simp [readText, wrongType]

theorem exists_readText_iff {j : Json} : (∃ s, readText j = .ok s) ↔ j.IsText := by
  simp only [readText_eq_ok, Json.IsText]

theorem exists_readOptionalText_iff {j : Json} :
    (∃ s, readOptionalText j = .ok s) ↔ j.IsTextOrNull := by
  cases j <;>
    simp [readOptionalText, readText, wrongType, Json.IsTextOrNull, Json.IsText, Except.map]

theorem text?_of_readOptionalText {j : Json} {s : Option String}
    (h : readOptionalText j = .ok s) : j.text? = s := by
  cases j with
  | null | text =>
    cases h
    rfl
  | _ => simp [readOptionalText, readText, wrongType, Except.map] at h

/-- What a success is mapped to does not matter for there being one. -/
theorem exists_map_eq_ok {ε α β : Type} {x : Except ε α} {f : α → β} :
    (∃ b, x.map f = .ok b) ↔ ∃ a, x = .ok a := by
  cases x <;> simp [Except.map]

/-- A field of a command is read when it is a text, or of another name. -/
theorem exists_readCommandField_iff (c : DeclaredCommand) (k : String) (v : Json) :
    (∃ c', readCommandField c (k, v) = .ok c') ↔ k = "id" ∨ k = "title" → v.IsText := by
  by_cases hid : k = "id"
  · simp [readCommandField, hid, exists_map_eq_ok, exists_readText_iff]
  · by_cases htitle : k = "title"
    · simp [readCommandField, htitle, exists_map_eq_ok, exists_readText_iff]
    · simp [readCommandField, hid, htitle]

/-- What a field of a command changes. -/
theorem readCommandField_parts {c c' : DeclaredCommand} {k : String} {v : Json}
    (h : readCommandField c (k, v) = .ok c') :
    c'.id = (if k = "id" then v.text?.getD "" else c.id) ∧
      c'.title = if k = "title" then v.text?.getD "" else c.title := by
  unfold readCommandField at h
  dsimp only at h
  split at h
  · rename_i hk
    obtain ⟨s, hs, rfl⟩ := Except.map_eq_ok.1 h
    rw [readText_eq_ok.1 hs]
    simp [hk, Json.text?]
  · split at h
    · rename_i hk
      obtain ⟨s, hs, rfl⟩ := Except.map_eq_ok.1 h
      rw [readText_eq_ok.1 hs]
      simp [hk, Json.text?]
    · rename_i hid htitle
      cases h
      simp [hid, htitle]

/-- A value in sorted form is read as a command when it has the form of one. -/
theorem exists_readCommand_iff {j : Json} (hj : j.sorted = j) :
    (∃ c, readCommand j = .ok c) ↔ j.IsCommand := by
  cases j with
  | object fields =>
    have hnodup : (fields.map Prod.fst).Nodup := (Json.of_sorted_eq_object hj).1.nodup
    show (∃ c, fields.foldlM readCommandField ⟨"", ""⟩ = .ok c) ↔ _
    rw [exists_foldlM_iff (P := fun field => field.1 = "id" ∨ field.1 = "title" → field.2.IsText)
      fun field _ c => exists_readCommandField_iff c field.1 field.2]
    constructor
    · intro h
      exact ⟨fun v hv => h ("id", v) ((Json.field?_of_mem hnodup).2 hv) (.inl rfl),
        fun v hv => h ("title", v) ((Json.field?_of_mem hnodup).2 hv) (.inr rfl)⟩
    · rintro ⟨hid, htitle⟩ ⟨k, v⟩ hmem (hk | hk)
      · exact hid v ((Json.field?_of_mem hnodup).1 (hk ▸ hmem))
      · exact htitle v ((Json.field?_of_mem hnodup).1 (hk ▸ hmem))
  | array items =>
    rcases items with _ | ⟨id, _ | ⟨title, _ | ⟨more, rest⟩⟩⟩
    · simp [readCommand, Json.IsCommand]
    · cases id <;>
        simp [readCommand, Json.IsCommand, readText, wrongType, Json.IsText, bind, Except.bind]
    · cases id <;> cases title <;>
        simp [readCommand, Json.IsCommand, readText, wrongType, Json.IsText, bind, Except.bind]
    · cases id <;> cases title <;>
        simp [readCommand, Json.IsCommand, readText, wrongType, bind, Except.bind]
  | _ => simp [readCommand, Json.IsCommand, wrongType]

/-- What is read as a command is the command that is declared. -/
theorem readCommand_eq_ok {j : Json} {c : DeclaredCommand} (h : readCommand j = .ok c) :
    c = j.declaredCommand := by
  cases j with
  | object fields =>
    have hid := foldlM_keeps_last DeclaredCommand.id "id" (fun v => v.text?.getD "")
      (fun _ _ _ _ hstep => (readCommandField_parts hstep).1) h
    have htitle := foldlM_keeps_last DeclaredCommand.title "title" (fun v => v.text?.getD "")
      (fun _ _ _ _ hstep => (readCommandField_parts hstep).2) h
    show c = ⟨Json.textAt (.object fields) "id", Json.textAt (.object fields) "title"⟩
    rw [Json.textAt_eq, Json.textAt_eq, ← hid, ← htitle]
  | array items =>
    rcases items with _ | ⟨id, _ | ⟨title, _ | ⟨more, rest⟩⟩⟩
    · cases h
      rfl
    · obtain ⟨s, hs, hread⟩ := Except.bind_eq_ok.1 h
      cases hread
      rw [readText_eq_ok.1 hs]
      rfl
    · obtain ⟨s, hs, hrest⟩ := Except.bind_eq_ok.1 h
      obtain ⟨s', hs', hread⟩ := Except.bind_eq_ok.1 hrest
      cases hread
      rw [readText_eq_ok.1 hs, readText_eq_ok.1 hs']
      rfl
    · obtain ⟨s, -, hrest⟩ := Except.bind_eq_ok.1 h
      obtain ⟨s', -, hread⟩ := Except.bind_eq_ok.1 hrest
      cases hread
  | _ => simp [readCommand, wrongType] at h

theorem exists_readCommands_iff {j : Json} (hj : j.sorted = j) :
    (∃ cs, readCommands j = .ok cs) ↔ j.IsCommandList := by
  cases j with
  | array items =>
    have hitems : items.map Json.sorted = items := by
      rw [← Json.sortedItems_eq_map]
      exact Json.array.inj hj
    have hsorted : ∀ c ∈ items, c.sorted = id c :=
      List.map_inj_left.1 (hitems.trans (List.map_id items).symm)
    show (∃ cs, items.mapM readCommand = .ok cs) ↔ _
    rw [exists_mapM_iff]
    constructor
    · intro h
      exact ⟨items, rfl, fun c hc => (exists_readCommand_iff (hsorted c hc)).1 (h c hc)⟩
    · rintro ⟨items', heq, h⟩ c hc
      cases heq
      exact (exists_readCommand_iff (hsorted c hc)).2 (h c hc)
  | _ => simp [readCommands, wrongType, Json.IsCommandList]

theorem readCommands_eq_ok {j : Json} {cs : List DeclaredCommand} (h : readCommands j = .ok cs) :
    cs = (j.items?.getD []).map Json.declaredCommand := by
  cases j with
  | array items => exact mapM_eq_map (fun _ _ => readCommand_eq_ok) h
  | _ => simp [readCommands, wrongType] at h

/-- A field has the type that the host expects, or the host does not read it. -/
structure Fits (field : String × Json) : Prop where
  text : field.1 ∈ ["name", "version", "description", "author"] → field.2.IsText
  textOrNull : field.1 ∈ ["entry", "nnp-compatible-versions"] → field.2.IsTextOrNull
  commands : field.1 = "commands" → field.2.IsCommandList

theorem fits_iff {k : String} {v : Json} : Fits (k, v) ↔
    (k ∈ ["name", "version", "description", "author"] → v.IsText) ∧
    (k ∈ ["entry", "nnp-compatible-versions"] → v.IsTextOrNull) ∧
    (k = "commands" → v.IsCommandList) :=
  ⟨fun h => ⟨h.text, h.textOrNull, h.commands⟩, fun h => ⟨h.1, h.2.1, h.2.2⟩⟩

/-- **A field is read when it fits, whatever was read before.** -/
theorem exists_readField_iff {k : String} {v : Json} (hv : v.sorted = v) (m : Manifest) :
    (∃ m', readField m (k, v) = .ok m') ↔ Fits (k, v) := by
  rw [fits_iff]
  cases hkey : isHostField k with
  | false =>
    rw [readField_extra hkey]
    simp [ne_of_not_isHostField hkey]
  | true =>
    rcases isHostField_cases hkey with rfl | rfl | rfl | rfl | rfl | rfl | rfl <;>
      simp [readField, exists_map_eq_ok, exists_readText_iff, exists_readOptionalText_iff,
        exists_readCommands_iff hv]

/-- What a field changes of the parts that are looked at later. -/
theorem readField_parts {m m' : Manifest} {k : String} {v : Json}
    (h : readField m (k, v) = .ok m') :
    m'.name = (if k = "name" then v.text?.getD "" else m.name) ∧
    m'.entry = (if k = "entry" then v.text? else m.entry) ∧
    m'.commands = if k = "commands" then (v.items?.getD []).map Json.declaredCommand
      else m.commands := by
  cases hkey : isHostField k with
  | false =>
    rw [readField_extra hkey] at h
    cases h
    simp [ne_of_not_isHostField hkey]
  | true =>
    rcases isHostField_cases hkey with rfl | rfl | rfl | rfl | rfl | rfl | rfl <;>
      simp only [readField, String.reduceEq, if_true, if_false] at h <;>
      obtain ⟨x, hx, rfl⟩ := Except.map_eq_ok.1 h
    · simp [readText_eq_ok.1 hx, Json.text?]
    · simp
    · simp
    · simp
    · simp [text?_of_readOptionalText hx]
    · simp
    · simp [readCommands_eq_ok hx]

/-! ## Reading a value -/

/-- In an object that names no field twice the types are right when each field fits. -/
theorem wellTyped_iff {fields : List (String × Json)} (h : (fields.map Prod.fst).Nodup) :
    (Json.object fields).WellTyped ↔ ∀ field ∈ fields, Fits field := by
  constructor
  · intro htyped field hmem
    obtain ⟨k, v⟩ := field
    have hv : (Json.object fields).field? k = some v := (Json.field?_of_mem h).1 hmem
    refine ⟨fun hk => htyped.texts k hk v hv, fun hk => htyped.textsOrNull k hk v hv, ?_⟩
    intro hk
    obtain rfl : k = "commands" := hk
    exact htyped.commands v hv
  · intro hfits
    have hfound : ∀ name v, (Json.object fields).field? name = some v → Fits (name, v) :=
      fun name v hv => hfits _ ((Json.field?_of_mem h).2 hv)
    exact ⟨⟨fields, rfl⟩, fun name hname v hv => (hfound name v hv).text hname,
      fun name hname v hv => (hfound name v hv).textOrNull hname,
      fun v hv => (hfound _ v hv).commands rfl⟩

/-- The parts of a manifest that the rules are about, as they stand in the value. -/
theorem parts_of_foldlM {fields : List (String × Json)} {m : Manifest}
    (h : fields.foldlM readField {} = .ok m) :
    m.name = (Json.object fields).textAt "name" ∧
    m.entry = (Json.object fields).textField? "entry" ∧
    m.commands = (Json.object fields).declaredCommands := by
  have hname := foldlM_keeps_last Manifest.name "name" (fun v => v.text?.getD "")
    (fun _ _ _ _ hstep => (readField_parts hstep).1) h
  have hentry := foldlM_keeps_last Manifest.entry "entry" Json.text?
    (fun _ _ _ _ hstep => (readField_parts hstep).2.1) h
  have hcommands := foldlM_keeps_last Manifest.commands "commands"
    (fun v => (v.items?.getD []).map Json.declaredCommand)
    (fun _ _ _ _ hstep => (readField_parts hstep).2.2) h
  refine ⟨hname.trans (Json.textAt_eq _ _).symm, ?_, ?_⟩
  · rw [hentry, Json.textField?]
    cases (Json.object fields).field? "entry" <;> rfl
  · rw [hcommands, Json.declaredCommands, Json.itemsField?]
    cases (Json.object fields).field? "commands" <;> rfl

/-- **A value is read, or refused for a blank name, or refused as malformed**, and what it is says
which. -/
theorem ofJson?_cases (j : Json) :
    (∃ m, ofJson? j = .ok m ∧ m.commands = complete j.declaredCommands ∧ j.IsManifest) ∨
    (ofJson? j = .error .emptyName ∧ j.WellTyped ∧ j.NameIsBlank) ∨
    (∃ fault, ofJson? j = .error (.malformedManifest fault)) ∧ ¬ j.IsManifest ∧
      ¬ (j.WellTyped ∧ j.NameIsBlank) := by
  -- everything is about the sorted form
  rw [Json.IsManifest, ← Json.wellTyped_sorted, Json.NameIsBlank, ← Json.textAt_sorted,
    ← Json.textField?_sorted, ← Json.declaredCommands_sorted]
  unfold ofJson?
  cases hsorted : j.sorted with
  | object fields =>
    obtain ⟨hincreasing, hvalues⟩ := Json.of_sorted_eq_object hsorted
    have hread : (∃ m, fields.foldlM readField {} = .ok m) ↔ (Json.object fields).WellTyped := by
      rw [wellTyped_iff hincreasing.nodup]
      refine exists_foldlM_iff ?_ ({} : Manifest)
      rintro ⟨k, v⟩ hmem m
      exact exists_readField_iff (hvalues (k, v) hmem) m
    cases hfold : fields.foldlM readField {} with
    | ok m =>
      have htyped := hread.1 ⟨m, hfold⟩
      obtain ⟨hname, hentry, hcommands⟩ := parts_of_foldlM hfold
      rw [← hname, ← hentry, ← hcommands]
      simp only [hfold]
      rcases checked_cases m with ⟨m', hok, hkept, hrules⟩ | ⟨hempty, hblank⟩ |
        ⟨hfault, hrules, hnamed⟩
      · exact .inl ⟨m', hok, hkept, htyped, hrules⟩
      · exact .inr (.inl ⟨hempty, htyped, hblank⟩)
      · exact .inr (.inr ⟨hfault, fun h => hrules h.2, fun h => hnamed h.2⟩)
    | error fault =>
      have htyped : ¬ (Json.object fields).WellTyped := by
        intro h
        obtain ⟨m, hm⟩ := hread.2 h
        rw [hfold] at hm
        cases hm
      simp only [hfold]
      exact .inr (.inr ⟨⟨fault, rfl⟩, fun h => htyped h.1, fun h => htyped h.1⟩)
  | _ =>
    refine .inr (.inr ⟨⟨_, rfl⟩, fun h => ?_, fun h => ?_⟩) <;>
    · obtain ⟨fields, hfields⟩ := h.1.object
      cases hfields

/-- An answer that decides whether a value is a manifest.  The value is read exactly then, with the
commands that lack nothing, in their order.  A blank name is answered exactly when the types are
right and the name is blank, whatever the entry; and the value is malformed in every other case. -/
structure Decides (j : Json) (answer : Except Failure Manifest) : Prop where
  accepted : (∃ m, answer = .ok m) ↔ j.IsManifest
  commands : ∀ m, answer = .ok m → m.commands = complete j.declaredCommands
  emptyName : answer = .error .emptyName ↔ j.WellTyped ∧ j.NameIsBlank
  malformed : (∃ fault, answer = .error (.malformedManifest fault)) ↔
    ¬ j.IsManifest ∧ ¬ (j.WellTyped ∧ j.NameIsBlank)

theorem decides_ofJson? (j : Json) : Decides j (ofJson? j) := by
  have hexclusive : j.IsManifest → ¬ (j.WellTyped ∧ j.NameIsBlank) := by
    intro hmanifest hblank
    exact not_onlyBlanks_iff.2 hmanifest.2.named hblank.2
  rcases ofJson?_cases j with ⟨m, hok, hcommands, hmanifest⟩ | ⟨hempty, hblank⟩ |
    ⟨⟨fault, hfault⟩, hmanifest, hblank⟩
  · rw [hok]
    have hnot := hexclusive hmanifest
    refine ⟨iff_of_true ⟨m, rfl⟩ hmanifest, ?_, iff_of_false nofun hnot,
      iff_of_false (fun h => nomatch h) (fun h => h.1 hmanifest)⟩
    intro m' hm'
    cases hm'
    exact hcommands
  · rw [hempty]
    have hnot : ¬ j.IsManifest := fun hmanifest => hexclusive hmanifest hblank
    exact ⟨iff_of_false (fun h => nomatch h) hnot, nofun, iff_of_true rfl hblank,
      iff_of_false (fun h => nomatch h) (fun h => h.2 hblank)⟩
  · rw [hfault]
    exact ⟨iff_of_false (fun h => nomatch h) hmanifest, nofun, iff_of_false nofun hblank,
      iff_of_true ⟨fault, rfl⟩ ⟨hmanifest, hblank⟩⟩

/-- **Exactly the manifests are accepted**: every JSON value is decided, and so is every text that
holds one; a text that holds none is malformed. -/
theorem parse_decides :
    (∀ j, Decides j (ofJson? j)) ∧
    (∀ text j, Json.parse text = .ok j → Decides j (parse text)) ∧
    ∀ text, (∀ j, Json.parse text ≠ .ok j) →
      ∃ fault, parse text = .error (.malformedManifest fault) := by
  refine ⟨decides_ofJson?, fun text j hj => ?_, fun text hnone => ?_⟩
  · have hparse : parse text = ofJson? j := by
      unfold parse
      rw [hj]
    rw [hparse]
    exact decides_ofJson? j
  · unfold parse
    cases hj : Json.parse text with
    | ok j => exact absurd hj (hnone j)
    | error e => exact ⟨_, rfl⟩

/-- A text without a name, whose entry is absolute. -/
def namelessText : String := "\x7b\"entry\": \"/init.lua\", \"commands\": []\x7d"

/-- One text is accepted, one has no name, and one is not JSON. -/
theorem loose_decided :
    (∃ j m, Json.parse looseText = .ok j ∧ parse looseText = .ok m ∧ j.IsManifest ∧
      m.commands = complete j.declaredCommands ∧ m.commands = [⟨"b", "c"⟩]) ∧
    (∃ j, Json.parse namelessText = .ok j ∧ parse namelessText = .error .emptyName ∧
      j.WellTyped ∧ j.NameIsBlank) ∧
    ∃ fault, parse "\x7b name: " = .error (.malformedManifest fault) := by
  refine ⟨?_, ?_, ?_⟩
  · have htest : (parse looseText).toOption.any (·.commands == [⟨"b", "c"⟩]) = true := by
      decide +kernel
    obtain ⟨m, hm, hcommands⟩ := (Option.any_eq_true _ _).1 htest
    have hread := Except.eq_ok_of_toOption hm
    obtain ⟨j, hj, -⟩ := parse_eq_ok hread
    have hdecides := parse_decides.2.1 looseText j hj
    exact ⟨j, m, hj, hread, hdecides.accepted.1 ⟨m, hread⟩, hdecides.commands m hread,
      beq_iff_eq.1 hcommands⟩
  · have htest : (Except.casesOn (parse namelessText) (fun e => decide (e = .emptyName))
        (fun _ => false) : Bool) = true := by decide +kernel
    have hempty : parse namelessText = .error .emptyName := by
      cases hparse : parse namelessText with
      | ok m =>
        rw [hparse] at htest
        cases htest
      | error e =>
        rw [hparse] at htest
        exact congrArg Except.error (of_decide_eq_true htest)
    cases hj : Json.parse namelessText with
    | ok j =>
      have hdecides := parse_decides.2.1 namelessText j hj
      exact ⟨j, rfl, hempty, hdecides.emptyName.1 hempty⟩
    | error e =>
      unfold parse at hempty
      rw [hj] at hempty
      cases hempty
  · have hbroken : (Json.parse "\x7b name: ").toOption.isNone = true := by decide +kernel
    refine parse_decides.2.2 _ fun j hj => ?_
    rw [hj] at hbroken
    cases hbroken

end Manifest

end EditorPlugins
