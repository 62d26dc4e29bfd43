/-
  Manifests are written as they were read.

  Writing is not the inverse of reading: the text of a manifest may name fields more than once, give
  commands as arrays or without a title, or say `null` where it could say nothing.  The manifest that
  was read has none of this left (`Settled`), and of such manifests reading is the inverse.  Written
  fields are sorted before they are read; the host's own and the others are sorted apart
  (`filter_sortedFields`) and read apart (`foldlM_readField`), so each kind can be followed alone.

  The others went through the sorting once already.  What the text had under their names is what is
  written, except that the objects in it are sorted.

  Main statement: `parse_toJson`.
-/
import EditorPlugins.Proofs.Json.Sorted
import EditorPlugins.Proofs.Manifest.Reading
import EditorPlugins.Json.Parser

namespace EditorPlugins

namespace Manifest

/-! ## What is written for the host's own fields -/

/-- The fields of a manifest that the host reads. -/
def ownFields (m : Manifest) : List (String × Json) :=
  [("name", .text m.name), ("version", .text m.version), ("description", .text m.description),
    ("author", .text m.author)]
  ++ optionalField "entry" m.entry
  ++ optionalField "nnp-compatible-versions" m.compatibleVersions
  ++ [("commands", .array (m.commands.map commandToJson))]

theorem toJson_eq (m : Manifest) : m.toJson = .object (m.ownFields ++ m.extra) := rfl

theorem isHostField_of_mem_ownFields (m : Manifest) :
    ∀ e ∈ m.ownFields, isHostField e.1 = true := by
  obtain ⟨name, version, description, author, entry, versions, commands, extra⟩ := m
  cases entry <;> cases versions <;> simp [ownFields, optionalField, isHostField, hostFields]

theorem nodup_ownFields (m : Manifest) : (m.ownFields.map Prod.fst).Nodup := by
  obtain ⟨name, version, description, author, entry, versions, commands, extra⟩ := m
  cases entry <;> cases versions <;> simp [ownFields, optionalField]

/-! ### Commands -/

theorem sorted_commandToJson (c : DeclaredCommand) :
    (commandToJson c).sorted = commandToJson c := rfl

theorem sortedItems_commands (commands : List DeclaredCommand) :
    Json.sortedItems (commands.map commandToJson) = commands.map commandToJson := by
  induction commands with
  | nil => rfl
  | cons c commands ih => rw [List.map_cons, Json.sortedItems, sorted_commandToJson, ih]

theorem readCommand_commandToJson (c : DeclaredCommand) : readCommand (commandToJson c) = .ok c :=
  rfl

theorem readCommands_commands (commands : List DeclaredCommand) :
    readCommands (.array (commands.map commandToJson)) = .ok commands := by
  show (commands.map commandToJson).mapM readCommand = .ok commands
  induction commands with
  | nil => rfl
  | cons c commands ih =>
    rw [List.map_cons, List.mapM_cons, readCommand_commandToJson, ih]
    rfl

/-- The host's own fields in the order of their names. -/
theorem sortedFields_ownFields (m : Manifest) : Json.sortedFields m.ownFields []
    = [("author", .text m.author), ("commands", .array (m.commands.map commandToJson)),
        ("description", .text m.description)]
      ++ optionalField "entry" m.entry ++ [("name", .text m.name)]
      ++ optionalField "nnp-compatible-versions" m.compatibleVersions
      ++ [("version", .text m.version)] := by
  obtain ⟨name, version, description, author, entry, versions, commands, extra⟩ := m
  have hcommands : (Json.array (commands.map commandToJson)).sorted
      = .array (commands.map commandToJson) := by
    rw [Json.sorted, sortedItems_commands]
  cases entry <;> cases versions <;>
    simp only [ownFields, optionalField, List.cons_append, List.nil_append, Json.sortedFields,
      hcommands] <;> rfl

/-- **The host's own fields read back.** -/
theorem foldlM_ownFields (m : Manifest) :
    (Json.sortedFields m.ownFields []).foldlM readField {} = .ok { m with extra := [] } := by
  rw [sortedFields_ownFields]
  obtain ⟨name, version, description, author, entry, versions, commands, extra⟩ := m
  cases entry <;> cases versions <;>
    simp [optionalField, readField, readCommands_commands, readText, readOptionalText, Except.map,
      bind, Except.bind, pure, Except.pure]

/-! ## Manifests that were read -/

/-- A manifest as reading leaves it: it passes the tests, no command lacks anything, and the fields
that the host does not read are sorted. -/
structure Settled (m : Manifest) : Prop where
  name : checkName m.name = .ok ()
  entry : ∀ entry, m.entry = some entry → checkEntry entry = .ok ()
  commands : ∀ c ∈ m.commands, (!c.id.isEmpty && !c.title.isEmpty) = true
  increasing : Assoc.Increasing m.extra
  values : ∀ e ∈ m.extra, e.2.sorted = e.2
  foreign : ∀ e ∈ m.extra, isHostField e.1 = false

/-- What is kept of the fields: those that the host does not read, in their order. -/
theorem extra_eq {j : Json} {m : Manifest} (h : ofJson? j = .ok m) : ∃ fields,
    j.sorted = .object fields ∧ m.extra = fields.filter fun e => !isHostField e.1 := by
  obtain ⟨fields, m₀, hsorted, hfields, hchecked⟩ := ofJson?_eq_ok h
  refine ⟨fields, hsorted, ?_⟩
  have hsplit := hfields.symm.trans (foldlM_readField fields {} [])
  cases hown : (fields.filter fun e => isHostField e.1).foldlM readField {} with
  | error fault =>
    rw [hown] at hsplit
    cases hsplit
  | ok m₁ =>
    rw [hown] at hsplit
    cases hsplit
    obtain ⟨-, -, rfl⟩ := checked_eq_ok hchecked
    rfl

theorem settled_of_ofJson? {j : Json} {m : Manifest} (h : ofJson? j = .ok m) : m.Settled := by
  obtain ⟨_, m₀, -, -, hchecked⟩ := ofJson?_eq_ok h
  obtain ⟨fields, hsorted, hextra⟩ := extra_eq h
  obtain ⟨hname, hentry, rfl⟩ := checked_eq_ok hchecked
  obtain ⟨hincreasing, hvalues⟩ := Json.of_sorted_eq_object hsorted
  refine ⟨hname, hentry, fun c hc => (List.mem_filter.1 hc).2, ?_, ?_, ?_⟩
  · exact hextra ▸ Assoc.increasing_filter _ hincreasing
  · intro e he
    rw [hextra] at he
    exact hvalues e (List.mem_filter.1 he).1
  · intro e he
    rw [hextra] at he
    have hforeign := (List.mem_filter.1 he).2
    rwa [Bool.not_eq_true'] at hforeign

/-- The two kinds of fields that are written, told apart by their names. -/
theorem Settled.filter_fields {m : Manifest} (hm : m.Settled) :
    (m.ownFields ++ m.extra).filter (fun e => isHostField e.1) = m.ownFields ∧
      (m.ownFields ++ m.extra).filter (fun e => !isHostField e.1) = m.extra := by
  have hown : ∀ e ∈ m.ownFields, isHostField e.1 = true := isHostField_of_mem_ownFields m
  constructor
  · rw [List.filter_append, List.filter_eq_self.2 hown,
      List.filter_eq_nil_iff.2 (fun e he => by simp [hm.foreign e he]), List.append_nil]
  · rw [List.filter_append, List.filter_eq_nil_iff.2 (fun e he => by simp [hown e he]),
      List.filter_eq_self.2 (fun e he => by simp [hm.foreign e he]), List.nil_append]

/-- **A settled manifest is read as it was written.** -/
theorem Settled.ofJson?_toJson {m : Manifest} (hm : m.Settled) : ofJson? m.toJson = .ok m := by
  have hown : (Json.sortedFields (m.ownFields ++ m.extra) []).filter (fun e => isHostField e.1)
      = Json.sortedFields m.ownFields [] := by
    rw [Json.filter_sortedFields isHostField _ List.Pairwise.nil, hm.filter_fields.1]
    rfl
  have hextra : (Json.sortedFields (m.ownFields ++ m.extra) []).filter (fun e => !isHostField e.1)
      = m.extra := by
    rw [Json.filter_sortedFields (fun key => !isHostField key) _ List.Pairwise.nil,
      hm.filter_fields.2]
    exact Json.sortedFields_of_increasing m.extra hm.increasing hm.values
  have hread : (Json.sortedFields (m.ownFields ++ m.extra) []).foldlM readField {} = .ok m := by
    rw [foldlM_readField _ {} [], hown, hextra, foldlM_ownFields]
    rfl
  rw [toJson_eq]
  simp only [ofJson?, Json.sorted, hread]
  exact checked_of_complete hm.name hm.entry hm.commands

theorem Settled.nodup_fields {m : Manifest} (hm : m.Settled) :
    ((m.ownFields ++ m.extra).map Prod.fst).Nodup := by
  rw [List.map_append]
  refine List.nodup_append.2 ⟨nodup_ownFields m, hm.increasing.nodup, ?_⟩
  intro key hown key' hextra heq
  obtain ⟨e, he, rfl⟩ := List.mem_map.1 hown
  obtain ⟨e', he', rfl⟩ := List.mem_map.1 hextra
  have htrue := isHostField_of_mem_ownFields m e he
  rw [heq, hm.foreign e' he'] at htrue
  cases htrue

/-- What is written under a name that is not the host's: the last value of the text, sorted. -/
theorem field?_toJson {j : Json} {m : Manifest} (h : ofJson? j = .ok m) {key : String}
    (hkey : isHostField key = false) : m.toJson.field? key = (j.field? key).map Json.sorted := by
  have hm := settled_of_ofJson? h
  obtain ⟨fields, hsorted, hextra⟩ := extra_eq h
  -- none of the host's own fields has this name
  have hown : Assoc.get? key m.ownFields = none := by
    apply Assoc.get?_eq_none
    rintro e he rfl
    rw [isHostField_of_mem_ownFields m e he] at hkey
    cases hkey
  have hread : j.sorted.field? key = Assoc.get? key fields := by
    rw [hsorted]
    exact Assoc.get?_reverse key (Json.of_sorted_eq_object hsorted).1.nodup
  calc m.toJson.field? key
      = Assoc.get? key (m.ownFields ++ m.extra) := Assoc.get?_reverse key hm.nodup_fields
    _ = Assoc.get? key m.extra := by rw [Assoc.get?_append, hown, Option.none_or]
    _ = Assoc.get? key fields := by
      rw [hextra, Assoc.get?_filter (fun key => !isHostField key), hkey]
      rfl
    _ = (j.field? key).map Json.sorted := by rw [← hread, Json.field?_sorted]

/-- **What was read is read again as it was**, and what the host does not read is written as it
stood in the text: under each other name the last value, and nothing else. -/
theorem parse_toJson {text : String} {m : Manifest} (h : parse text = .ok m) :
    ofJson? m.toJson = .ok m ∧
    ∃ j fields, Json.parse text = .ok j ∧ m.toJson = .object fields ∧
      (fields.map Prod.fst).Nodup ∧
      ∀ key, key ∉ hostFields → m.toJson.field? key = (j.field? key).map Json.sorted := by
  obtain ⟨j, hj, hm⟩ := parse_eq_ok h
  have hsettled := settled_of_ofJson? hm
  refine ⟨hsettled.ofJson?_toJson, j, _, hj, rfl, hsettled.nodup_fields, ?_⟩
  intro key hkey
  apply field?_toJson hm
  simpa [isHostField] using hkey

/-- A text with an entry that is null, commands as arrays, one of them without a title, and a name
that is given twice. -/
def looseText : String :=
  "\x7b\"name\": \"a\", \"entry\": null, \"commands\": [[\"b\", \"c\"], [\"d\"]], "
    ++ "\"x\": 1, \"x\": \x7b\"k\": 2, \"j\": []\x7d\x7d"

theorem parse_toJson_loose : ∃ m, parse looseText = .ok m ∧ m.name = "a" ∧
    m.commands = [⟨"b", "c"⟩] ∧ ofJson? m.toJson = .ok m ∧
    ∃ j, Json.parse looseText = .ok j ∧
      m.toJson.field? "x" = (j.field? "x").map Json.sorted := by
  have htest : (parse looseText).toOption.any
      (fun m => m.name == "a" && m.commands == [⟨"b", "c"⟩]) = true := by
    decide +kernel
  cases hread : parse looseText with
  | error e =>
    rw [hread] at htest
    cases htest
  | ok m =>
    rw [hread] at htest
    obtain ⟨hname, hcommands⟩ := Bool.and_eq_true_iff.1 htest
    obtain ⟨hagain, j, fields, hj, -, -, hextra⟩ := parse_toJson hread
    exact ⟨m, rfl, beq_iff_eq.1 hname, beq_iff_eq.1 hcommands, hagain, j, hj,
      hextra "x" (by decide)⟩

end Manifest

end EditorPlugins
