/-
  Where a manifest can lead the host.

  The host makes two paths of what an author writes into a manifest: that of the entry script,
  taken from the plugin's root, and that of the plugin's configuration, a file named after the
  plugin.  The rules for manifests are about the components of the entry and the characters of the
  name, but paths are put together as texts, and there an absolute part replaces the directory, a
  separator is added or not, and a dot counts at the front of a path and nowhere else.

  So the crux is what joining does to components (`components_join`): a relative path adds its steps
  to those of the directory.  The base of the result, a root or a leading dot, stands in the first
  piece of its spelling, and that is the directory's unless the directory is the empty path.

  Main statement: `Manifest.accepted_confined`.
-/
import EditorPlugins.Manifest.Folder
import EditorPlugins.Proofs.Manifest.Reading
import EditorPlugins.Proofs.Store.ConfigFiles

namespace EditorPlugins

namespace Path

/-! ## Components of a spelling -/

def Base.components : Base → List Component
  | root => [.root]
  | current => [.current]
  | nothing => []

/-- The steps that a spelling takes, its base apart. -/
def stepsIn (cs : List Char) : List Component :=
  ((Text.piecesChars '/' cs).filter (fun piece => !isIdle piece)).map pieceComponent

theorem stepsIn_append (a b : List Char) : stepsIn (a ++ '/' :: b) = stepsIn a ++ stepsIn b := by
  unfold stepsIn
  rw [Text.piecesChars_append_cons, List.filter_append, List.map_append]

/-- A base takes no steps. -/
theorem stepsIn_splitBase (cs : List Char) : stepsIn (splitBase cs).2 = stepsIn cs := by
  unfold splitBase
  split
  · exact (stepsIn_append [] _).symm
  · rfl
  · rename_i rest
    exact (stepsIn_append [] rest).trans (stepsIn_append ['.'] rest).symm
  · rfl

theorem components_eq (p : Path) :
    p.components = (splitBase p.text.toList).1.components ++ stepsIn p.text.toList := by
  rw [← stepsIn_splitBase]
  unfold components
  cases (splitBase p.text.toList).1 <;> rfl

theorem splitBase_append {front : List Char} (hfront : front ≠ []) (rest : List Char) :
    (splitBase (front ++ '/' :: rest)).1 = (splitBase front).1 := by
  rcases front with _ | ⟨c, _ | ⟨d, front⟩⟩
  · exact absurd rfl hfront
  · by_cases hslash : c = '/'
    · subst hslash
      rfl
    · by_cases hdot : c = '.'
      · subst hdot
        rfl
      · simp [splitBase, hslash, hdot]
  · by_cases hslash : c = '/'
    · subst hslash
      rfl
    · by_cases hdot : c = '.'
      · subst hdot
        by_cases hnext : d = '/'
        · subst hnext
          rfl
        · simp [splitBase, hnext]
      · simp [splitBase, hslash, hdot]

/-! ## Joining -/

/-- **What is joined to a directory adds its steps to those of the directory**; joined to the empty
path it stays what it is. -/
theorem components_join (dir : Path) {p : Path} (h : p.isAbsolute = false) :
    (join dir p).components = dir.components ++ stepsIn p.text.toList ∨
    dir.components = [] ∧ (join dir p).components = p.components := by
  rcases join_text_cases dir h with ⟨hdir, htext⟩ | ⟨front, hdir | ⟨hdir, hne⟩, htext⟩
  · refine .inr ⟨?_, ?_⟩
    · rw [components_eq, hdir]
      rfl
    · rw [components_eq, htext, ← components_eq]
  · refine .inl ?_
    have hbase : (splitBase (front ++ '/' :: p.text.toList)).1
        = (splitBase (front ++ ['/'])).1 := by
      by_cases hfront : front = []
      · subst hfront
        rfl
      · rw [splitBase_append hfront, splitBase_append hfront]
    have hsteps : stepsIn (front ++ ['/']) = stepsIn front :=
      (stepsIn_append front []).trans (List.append_nil _)
    rw [components_eq, components_eq dir, htext, hdir, hbase, hsteps, stepsIn_append,
      List.append_assoc]
  · refine .inl ?_
    rw [components_eq, components_eq dir, htext, hdir, splitBase_append hne, stepsIn_append,
      List.append_assoc]

/-! ## Paths below a directory -/

/-- A name that leads to an entry of a directory: one piece, and not one of the dots. -/
structure IsName (name : String) : Prop where
  ne_empty : name ≠ ""
  ne_dot : name ≠ "."
  ne_dots : name ≠ ".."
  whole : '/' ∉ name.toList

/-- A step that leads to an entry of the place it is taken from, or nowhere else. -/
inductive Component.StepsDown : Component → Prop
  | current : StepsDown .current
  | normal {name : String} (h : IsName name) : StepsDown (.normal name)

/-- The path goes through a directory and from there only down, as it is spelled. -/
def StaysBelow (p dir : Path) : Prop :=
  ∃ steps, p.components = dir.components ++ steps ∧ ∀ c ∈ steps, c.StepsDown

/-- Every step leads up or to a name. -/
theorem parent_or_stepsDown {cs : List Char} {c : Component} (h : c ∈ stepsIn cs) :
    c = .parent ∨ c.StepsDown := by
  obtain ⟨piece, hpiece, rfl⟩ := List.mem_map.1 h
  obtain ⟨hmem, hbusy⟩ := List.mem_filter.1 hpiece
  unfold pieceComponent
  split
  · exact .inl rfl
  · rename_i hdots
    refine .inr (.normal ⟨?_, ?_, ?_, ?_⟩)
    · intro hempty
      rw [String.ofList_eq_empty_iff.1 hempty] at hbusy
      cases hbusy
    · intro hdot
      rw [← String.toList_ofList (l := piece), hdot] at hbusy
      cases hbusy
    · intro heq
      exact hdots (by rw [← String.toList_ofList (l := piece), heq]; rfl)
    · rw [String.toList_ofList]
      exact Text.not_mem_of_mem_piecesChars hmem

/-- A relative path begins with a step or with a dot. -/
theorem mem_components_of_relative {p : Path} (h : p.isAbsolute = false) {c : Component}
    (hc : c ∈ p.components) : c = .current ∨ c ∈ stepsIn p.text.toList := by
  rw [components_eq] at hc
  rcases List.mem_append.1 hc with hbase | hstep
  · refine .inl ?_
    unfold splitBase at hbase
    split at hbase
    · rename_i rest hroot
      unfold isAbsolute at h
      rw [hroot] at h
      cases h
    · exact List.mem_singleton.1 hbase
    · exact List.mem_singleton.1 hbase
    · cases hbase
  · exact .inr hstep

/-- **A relative path that never steps up leads below the directory it is taken from.** -/
theorem staysBelow_join (dir : Path) {p : Path} (h : p.isAbsolute = false)
    (hup : Component.parent ∉ p.components) : (join dir p).StaysBelow dir := by
  have hsteps : ∀ c ∈ stepsIn p.text.toList, c.StepsDown := by
    intro c hc
    have hmem : c ∈ p.components := by
      rw [components_eq]
      exact List.mem_append_right _ hc
    rcases parent_or_stepsDown hc with rfl | hdown
    · exact absurd hmem hup
    · exact hdown
  rcases components_join dir h with hjoin | ⟨hdir, hjoin⟩
  · exact ⟨_, hjoin, hsteps⟩
  · refine ⟨p.components, by rw [hdir, hjoin, List.nil_append], fun c hc => ?_⟩
    rcases mem_components_of_relative h hc with rfl | hstep
    · exact .current
    · exact hsteps c hstep

/-! ## A name in a directory -/

theorem stepsIn_name {name : String} (h : IsName name) :
    stepsIn name.toList = [.normal name] := by
  have hpieces : Text.piecesChars '/' name.toList = [name.toList] :=
    Text.piecesChars_of_not_mem h.whole
  have hbusy : isIdle name.toList = false := by
    refine Bool.eq_false_iff.2 fun hidle => ?_
    rcases Bool.or_eq_true_iff.1 hidle with hempty | hdot
    · exact h.ne_empty (String.toList_eq_nil_iff.1 (List.isEmpty_iff.1 hempty))
    · exact h.ne_dot (String.ext (beq_iff_eq.1 hdot))
  have hdots : name.toList ≠ ['.', '.'] := fun hdots => h.ne_dots (String.ext hdots)
  unfold stepsIn
  rw [hpieces, List.filter_cons_of_pos (by rw [hbusy]; rfl), List.filter_nil, List.map_singleton,
    pieceComponent, if_neg hdots, String.ofList_toList]

theorem components_name {name : String} (h : IsName name) :
    (Path.mk name).components = [.normal name] := by
  have hbase : (splitBase name.toList).1 = .nothing := by
    have htext := splitBase_text name.toList
    cases hbase : (splitBase name.toList).1 with
    | nothing => rfl
    | root =>
      rw [hbase] at htext
      exact absurd (htext ▸ List.mem_cons_self) h.whole
    | current =>
      rw [hbase] at htext
      rcases splitBase_current hbase with hnil | ⟨rest, hrest⟩
      · rw [hnil] at htext
        exact absurd (String.ext htext.symm) h.ne_dot
      · rw [hrest] at htext
        exact absurd (htext ▸ List.mem_cons_of_mem _ List.mem_cons_self) h.whole
  rw [components_eq, hbase, stepsIn_name h]
  rfl

/-- A name in a directory is one step below it. -/
theorem components_div (dir : Path) {name : String} (h : IsName name) :
    (dir / name).components = dir.components ++ [.normal name] := by
  rcases components_join dir (not_isAbsolute_of_name h.whole) with hjoin | ⟨hdir, hjoin⟩
  · rw [stepsIn_name h] at hjoin
    exact hjoin
  · rw [components_name h] at hjoin
    rw [hdir]
    exact hjoin

end Path

/-! ## The file of a configuration -/

namespace PluginConfigs

theorem isName_fileName {plugin : String} (h : Manifest.checkName plugin = .ok ()) :
    Path.IsName (fileName plugin) := by
  have hlength : (fileName plugin).toList.length = plugin.toList.length + 5 := by
    unfold fileName
    rw [String.toList_append, List.length_append]
    rfl
  have hlong : ∀ s : String, s.toList.length < 5 → fileName plugin ≠ s := by
    intro s hs heq
    rw [heq] at hlength
    omega
  exact ⟨hlong _ (by decide), hlong _ (by decide), hlong _ (by decide), slash_not_mem_fileName h⟩

theorem components_file (c : PluginConfigs) {plugin : String}
    (h : Manifest.checkName plugin = .ok ()) :
    (c.file plugin).components = c.dir.components ++ [.normal (fileName plugin)] :=
  Path.components_div c.dir (isName_fileName h)

end PluginConfigs

namespace Manifest

/-! ## The entry script -/

theorem entryScript_eq (m : Manifest) :
    m.entryScript = (m.entry.filter (· ≠ "")).getD defaultEntry := by
  unfold entryScript
  cases m.entry with
  | none => rfl
  | some entry =>
    by_cases hempty : entry = ""
    · subst hempty
      rfl
    · rw [Option.filter_some_pos (by simpa using hempty)]
      exact if_neg (by simpa using hempty)

theorem keepsRules_of_parse {text : String} {m : Manifest} (h : parse text = .ok m) :
    KeepsRules m.name m.entry := by
  obtain ⟨j, -, hj⟩ := parse_eq_ok h
  obtain ⟨_, m₀, -, -, hchecked⟩ := ofJson?_eq_ok hj
  obtain ⟨-, -, rfl⟩ := checked_eq_ok hchecked
  rcases checked_cases m₀ with ⟨-, -, -, hrules⟩ | ⟨hfailed, -⟩ | ⟨⟨_, hfailed⟩, -⟩
  · exact hrules
  · rw [hchecked] at hfailed
    cases hfailed
  · rw [hchecked] at hfailed
    cases hfailed

theorem checkName_of_keepsRules {name : String} {entry : Option String}
    (h : KeepsRules name entry) : checkName name = .ok () :=
  checkName_eq_ok_iff.2 ⟨not_onlyBlanks_iff.2 h.named, h.plain⟩

/-- The script that is used keeps the rule for entries, for the default keeps it. -/
theorem entryScript_relative {m : Manifest} (h : KeepsRules m.name m.entry) :
    (Path.mk m.entryScript).isAbsolute = false ∧
      Path.Component.parent ∉ (Path.mk m.entryScript).components := by
  rw [entryScript_eq]
  cases hentry : m.entry.filter (· ≠ "") with
  | none => exact ⟨by decide, by decide⟩
  | some entry => exact h.entry entry (Option.filter_eq_some_iff.1 hentry).1

/-- **An accepted manifest cannot lead the host out of its directories.**  The entry script is the
one that is given, or the default one; its path goes through the plugin's root and from there only
down.  The configuration is a file in the directory of configurations, and another file than that
of every plugin with another name. -/
theorem accepted_confined {text : String} {m : Manifest} (h : parse text = .ok m) (root : Path)
    (configs : PluginConfigs) :
    m.entryScript = (m.entry.filter (· ≠ "")).getD defaultEntry ∧
    (root / m.entryScript).StaysBelow root ∧
    (∀ f folder, PluginFolder.withManifest f root m = .ok folder →
      folder.entry = root / m.entryScript) ∧
    Path.IsName (m.name ++ ".json") ∧
    (configs.file m.name).components
      = configs.dir.components ++ [.normal (m.name ++ ".json")] ∧
    ∀ text' m', parse text' = .ok m' → m'.name ≠ m.name →
      (configs.file m'.name).components ≠ (configs.file m.name).components := by
  have hrules := keepsRules_of_parse h
  have hname := checkName_of_keepsRules hrules
  obtain ⟨hrelative, hup⟩ := entryScript_relative hrules
  refine ⟨m.entryScript_eq, Path.staysBelow_join root hrelative hup, ?_,
    PluginConfigs.isName_fileName hname, configs.components_file hname, ?_⟩
  · intro f folder hfolder
    unfold PluginFolder.withManifest at hfolder
    dsimp only at hfolder
    split at hfolder
    · cases hfolder
      rfl
    · cases hfolder
  · intro text' m' h' hne hsame
    have hname' := checkName_of_keepsRules (keepsRules_of_parse h')
    rw [configs.components_file hname', configs.components_file hname] at hsame
    have hlast := (List.cons.inj (List.append_cancel_left hsame)).1
    exact hne (PluginConfigs.fileName_inj (Path.Component.normal.inj hlast))

/-- A manifest whose entry is spelled in a roundabout way, and one that gives none. -/
def roundaboutText : String := "\x7b\"name\": \"a\", \"entry\": \"./lib//main.lua\"\x7d"
def shortText : String := "\x7b\"name\": \"b\", \"entry\": \"\"\x7d"

theorem roundabout_confined :
    let root : Path := ⟨"../plugins/a/"⟩
    let configs : PluginConfigs := ⟨⟨"."⟩⟩
    let f : Files := ⟨[(["plugins"], .directory), (["plugins", "a"], .directory),
      (["plugins", "a", "lib"], .directory), (["plugins", "a", "lib", "main.lua"], .file ⟨#[]⟩),
      (["home"], .directory)], ["home"]⟩
    ∃ m m' folder, parse roundaboutText = .ok m ∧ parse shortText = .ok m' ∧ m'.name ≠ m.name ∧
      m.entryScript = "./lib//main.lua" ∧ m'.entryScript = defaultEntry ∧
      PluginFolder.withManifest f root m = .ok folder ∧ folder.entry.StaysBelow root ∧
      (configs.file m.name).components = [.current, .normal "a.json"] ∧
      (configs.file m'.name).components ≠ (configs.file m.name).components := by
  intro root configs f
  have htest : (parse roundaboutText).toOption.any
      (fun m => m.name == "a" && m.entryScript == "./lib//main.lua") = true := by
    decide +kernel
  have htest' : (parse shortText).toOption.any
      (fun m => m.name == "b" && m.entryScript == defaultEntry) = true := by
    decide +kernel
  obtain ⟨m, hm, hfields⟩ := (Option.any_eq_true _ _).1 htest
  obtain ⟨m', hm', hfields'⟩ := (Option.any_eq_true _ _).1 htest'
  obtain ⟨hname, hscript⟩ := Bool.and_eq_true_iff.1 hfields
  obtain ⟨hname', hscript'⟩ := Bool.and_eq_true_iff.1 hfields'
  have hread := Except.eq_ok_of_toOption hm
  have hread' := Except.eq_ok_of_toOption hm'
  have hne : m'.name ≠ m.name := by
    rw [beq_iff_eq.1 hname, beq_iff_eq.1 hname']
    decide
  have hthere : f.isFile (root / m.entryScript) = true := by
    rw [beq_iff_eq.1 hscript]
    decide +kernel
  have hfolder : PluginFolder.withManifest f root m = .ok ⟨m, root, root / m.entryScript⟩ :=
    if_pos hthere
  obtain ⟨-, hbelow, hentry, -, hfile, hothers⟩ := accepted_confined hread root configs
  refine ⟨m, m', _, hread, hread', hne, beq_iff_eq.1 hscript, beq_iff_eq.1 hscript', hfolder, ?_,
    ?_, hothers _ m' hread' hne⟩
  · rw [hentry f _ hfolder]
    exact hbelow
  · rw [hfile, beq_iff_eq.1 hname]
    decide

end Manifest

end EditorPlugins
