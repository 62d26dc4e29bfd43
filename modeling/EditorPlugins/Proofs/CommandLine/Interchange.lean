/-
  Options and variables.

  The plugin directory, the configuration directory and the version have an option and a variable
  each.  A command line with the option is compared with the line without it, in an environment with
  the variable.

  Reading goes on alike without the option (`Given`, a simulation): whatever is read changes the one
  set-up as the other, and is refused if it is the same option again.  So the option can stand
  anywhere in the line.  What is left to compare is two set-ups, field by field.  Here the plugin
  directory is the exception: as a variable it moves the configuration directory along, as an option
  it leaves it where the variables have put it.

  Main statement: `option_iff_variable`.
-/
import EditorPlugins.Proofs.CommandLine.Repeated

namespace EditorPlugins

/-- What can be set by an option and by a variable. -/
inductive HostSetting where
  | pluginDir
  | configDir
  | hostVersion

namespace HostSetting

variable (s : HostSetting) (value : String)

/-- The variable. -/
def variableName : HostSetting → String
  | pluginDir => "NNP_PLUGIN_DIR"
  | configDir => "NNP_PLUGIN_CONFIG_DIR"
  | hostVersion => "NNP_HOST_VERSION"

/-- The option. -/
def option : HostSetting → ValueOption
  | pluginDir => .plugins
  | configDir => .configDir
  | hostVersion => .hostVersion

/-- How the option is written. -/
def flag : HostSetting → String
  | pluginDir => "--plugins"
  | configDir => "--config-dir"
  | hostVersion => "--host-version"

/-- What the options say. -/
def given? : HostSetting → Options → Option String
  | pluginDir, o => o.plugins.map Path.text
  | configDir, o => o.configDir.map Path.text
  | hostVersion, o => o.hostVersion

/-- The options, with a value for the setting. -/
def give (o : Options) : Options :=
  match s with
  | pluginDir => { o with plugins := some ⟨value⟩ }
  | configDir => { o with configDir := some ⟨value⟩ }
  | hostVersion => { o with hostVersion := some value }

/-- The arguments that give the setting a value: the value stands by itself, unless it looks like an
option, or behind an equals sign. -/
inductive Written : List String → Prop where
  | apart (hvalue : Options.isOption value = false) : Written [s.flag, value]
  | joined : Written [s.flag ++ ("=" ++ value)]

/-! ## The set-up -/

/-- The option leads to the same set-up as the variable: this can fail for the plugin directory
only, unless the configuration directory has an option or a variable of its own, or is where it
would be anyway. -/
def Interchangeable (env : Environment) (o : Options) : Prop :=
  s = .pluginDir → o.configDir.isSome = true ∨ env.contains "NNP_PLUGIN_CONFIG_DIR" = true ∨
    env.hostConfig.configDir = Path.mk value / "config"

variable {s value}

/-- What the three variables have no part in. -/
theorem apart_insert (s : HostSetting) (value : String) (env : Environment) :
    Environment.defaultPluginDir (env.insert s.variableName value) = env.defaultPluginDir ∧
      Environment.sandboxConfig (env.insert s.variableName value) = env.sandboxConfig := by
  cases s <;> simp [Environment.defaultPluginDir, Environment.dataDir, Environment.sandboxConfig,
    variableName, Dict.get?_insert]

/-- **The two set-ups are the same exactly when the two ways can be interchanged.** -/
theorem hostConfig_give_iff {env : Environment} {o : Options} (hlacks : s.given? o = none) :
    CommandLine.hostConfig env (s.give value o)
        = CommandLine.hostConfig (env.insert s.variableName value) o
      ↔ s.Interchangeable value env o := by
  obtain ⟨hdefault, hsandbox⟩ := s.apart_insert value env
  cases s with
  | pluginDir =>
    have hnone : o.plugins = none := Option.map_eq_none_iff.1 hlacks
    simp only [variableName] at hdefault hsandbox
    simp [CommandLine.hostConfig, Options.configure, give, hnone, Environment.hostConfig,
      variableName, Dict.get?_insert, hsandbox, Interchangeable]
    cases o.configDir with
    | some dir => simp
    | none =>
      cases hdir : env.get? "NNP_PLUGIN_CONFIG_DIR" with
      | some dir => simp [Dict.contains, hdir]
      | none => simp [Dict.contains, hdir]
  | configDir =>
    have hnone : o.configDir = none := Option.map_eq_none_iff.1 hlacks
    simp only [variableName] at hdefault hsandbox
    refine iff_of_true ?_ fun hdir => by cases hdir
    simp [CommandLine.hostConfig, Options.configure, give, hnone, Environment.hostConfig,
      variableName, Dict.get?_insert, hdefault, hsandbox]
  | hostVersion =>
    have hnone : o.hostVersion = none := hlacks
    simp only [variableName] at hdefault hsandbox
    refine iff_of_true ?_ fun hdir => by cases hdir
    simp [CommandLine.hostConfig, Options.configure, give, hnone, Environment.hostConfig,
      variableName, Dict.get?_insert, hdefault, hsandbox]

/-! ## Reading -/

/-- Options that lack the setting, and the same options with it. -/
structure Given (s : HostSetting) (value : String) (o o' : Options) : Prop where
  lacks : s.given? o = none
  eq_give : o' = s.give value o

/-- What the readings of an argument have to do with each other. -/
inductive GivenReading (s : HostSetting) (value : String) :
    Options.Reading → Options.Reading → Prop where
  | done {o o' : Options} (h : s.Given value o o') : GivenReading s value (.done o) (.done o')
  | help : GivenReading s value .help .help
  | awaits {o o' : Options} (v : ValueOption) (arg : String) (h : s.Given value o o') :
      GivenReading s value (.awaits v arg o) (.awaits v arg o')

section Simulation

variable {o o' : Options}

theorem putPath_eq_ok {old p : Option Path} {arg x : String}
    (h : Options.putPath old arg x = .ok p) : old = none ∧ p = some ⟨x⟩ := by
  unfold Options.putPath at h
  cases old with
  | some dir => cases h
  | none =>
    by_cases hempty : x.isEmpty
    · simp [hempty] at h
    · simp [hempty] at h
      exact ⟨rfl, h.symm⟩

/-- The option gives the setting its value, if it has none. -/
theorem put_eq_ok {arg : String} (h : o.put s.option arg value = .ok o') : s.Given value o o' := by
  cases s with
  | pluginDir =>
    obtain ⟨p, hput, rfl⟩ := Except.map_eq_ok.1 h
    obtain ⟨hnone, rfl⟩ := putPath_eq_ok hput
    exact ⟨by simp [given?, hnone], rfl⟩
  | configDir =>
    obtain ⟨p, hput, rfl⟩ := Except.map_eq_ok.1 h
    obtain ⟨hnone, rfl⟩ := putPath_eq_ok hput
    exact ⟨by simp [given?, hnone], rfl⟩
  | hostVersion =>
    cases hnone : o.hostVersion with
    | some version => simp [option, Options.put, hnone] at h
    | none =>
      simp [option, Options.put, hnone] at h
      exact ⟨hnone, h.symm⟩

/-- Another option is read alike, -/
theorem put_give {v : ValueOption} (hv : v ≠ s.option) (arg x : String) (o : Options) :
    (s.give value o).put v arg x = (o.put v arg x).map (s.give value) := by
  cases v with
  | plugins =>
    cases s with
    | pluginDir => exact absurd rfl hv
    | _ => cases h : Options.putPath o.plugins arg x <;> simp [Options.put, give, h, Except.map]
  | configDir =>
    cases s with
    | configDir => exact absurd rfl hv
    | _ => cases h : Options.putPath o.configDir arg x <;> simp [Options.put, give, h, Except.map]
  | hostVersion =>
    cases s with
    | hostVersion => exact absurd rfl hv
    | _ => cases h : o.hostVersion <;> simp [Options.put, give, h, Except.map]
  | command | event => cases s <;> rfl

/-- and leaves the setting alone. -/
theorem given?_put {v : ValueOption} (hv : v ≠ s.option) {arg x : String}
    (h : o.put v arg x = .ok o') : s.given? o' = s.given? o := by
  cases v with
  | plugins =>
    obtain ⟨p, -, rfl⟩ := Except.map_eq_ok.1 h
    cases s with
    | pluginDir => exact absurd rfl hv
    | _ => rfl
  | configDir =>
    obtain ⟨p, -, rfl⟩ := Except.map_eq_ok.1 h
    cases s with
    | configDir => exact absurd rfl hv
    | _ => rfl
  | hostVersion =>
    cases hnone : o.hostVersion with
    | some version => simp [Options.put, hnone] at h
    | none =>
      simp [Options.put, hnone] at h
      subst h
      cases s with
      | hostVersion => exact absurd rfl hv
      | _ => rfl
  | command | event =>
    cases h
    cases s <;> rfl

theorem given?_give (s : HostSetting) (value : String) (o : Options) :
    s.given? (s.give value o) = some value := by
  cases s <;> rfl

/-- **What is read with the setting is read without it**, in one option with a value -/
theorem Given.put (h : s.Given value o o') {v : ValueOption} {arg x : String} {o₁' : Options}
    (hput : o'.put v arg x = .ok o₁') : ∃ o₁, o.put v arg x = .ok o₁ ∧ s.Given value o₁ o₁' := by
  obtain ⟨hlacks, rfl⟩ := h
  by_cases hv : v = s.option
  · subst hv
    have hnone := (put_eq_ok hput).lacks
    rw [given?_give] at hnone
    cases hnone
  · rw [put_give hv] at hput
    obtain ⟨o₁, ho₁, rfl⟩ := Except.map_eq_ok.1 hput
    exact ⟨o₁, ho₁, (given?_put hv ho₁).trans hlacks, rfl⟩

/-- in a switch, -/
theorem Given.turnOn (h : s.Given value o o') {sw : Switch} {arg : String} {r' : Options.Reading}
    (hread : o'.turnOn sw arg = .ok r') :
    ∃ r, o.turnOn sw arg = .ok r ∧ s.GivenReading value r r' := by
  obtain ⟨hlacks, rfl⟩ := h
  cases sw with
  | help =>
    cases hread
    exact ⟨.help, rfl, .help⟩
  | yes =>
    have hyes : (s.give value o).yes = o.yes := by cases s <;> rfl
    rw [Options.turnOn, hyes] at hread
    cases hcase : o.yes with
    | true => simp [hcase] at hread
    | false =>
      simp [hcase] at hread
      subst hread
      refine ⟨.done { o with yes := true }, by simp [Options.turnOn, hcase], .done ⟨?_, ?_⟩⟩
      · cases s <;> exact hlacks
      · cases s <;> rfl
  | json =>
    have hjson : (s.give value o).json = o.json := by cases s <;> rfl
    rw [Options.turnOn, hjson] at hread
    cases hcase : o.json with
    | true => simp [hcase] at hread
    | false =>
      simp [hcase] at hread
      subst hread
      refine ⟨.done { o with json := true }, by simp [Options.turnOn, hcase], .done ⟨?_, ?_⟩⟩
      · cases s <;> exact hlacks
      · cases s <;> rfl

/-- The letter of an option with a value: the value is what follows, or the next argument. -/
theorem readLetters_value {c : Char} {v : ValueOption}
    (hletter : Options.ofLetter? c = some (.inl v)) (arg : String) (rest : List Char) :
    (∀ o, Options.readLetters arg (c :: rest) o = .ok (.awaits v arg o)) ∨
    ∃ x, ∀ o, Options.readLetters arg (c :: rest) o = (o.put v arg x).map .done := by
  cases rest with
  | nil =>
    left
    intro o
    simp only [Options.readLetters, hletter]
  | cons d rest =>
    right
    by_cases hd : d = '='
    · refine ⟨String.ofList rest, ?_⟩
      intro o
      simp only [Options.readLetters, hletter, hd]
    · refine ⟨String.ofList (d :: rest), ?_⟩
      intro o
      rw [Options.readLetters]
      simp only [hletter]
      split
      · rename_i heq
        cases heq
      · rename_i heq
        cases heq
        exact absurd rfl hd
      · rfl

/-- in a row of letters, -/
theorem Given.readLetters (arg : String) (letters : List Char) {o o' : Options}
    (h : s.Given value o o') {r' : Options.Reading}
    (hread : Options.readLetters arg letters o' = .ok r') :
    ∃ r, Options.readLetters arg letters o = .ok r ∧ s.GivenReading value r r' := by
  induction letters generalizing o o' with
  | nil =>
    cases hread
    exact ⟨.done o, rfl, .done h⟩
  | cons c rest ih =>
    cases hletter : Options.ofLetter? c with
    | none => simp [Options.readLetters, hletter] at hread
    | some known =>
      cases known with
      | inl v =>
        rcases readLetters_value hletter arg rest with hawaits | ⟨x, hput⟩
        · rw [hawaits] at hread ⊢
          cases hread
          exact ⟨_, rfl, .awaits v arg h⟩
        · rw [hput] at hread ⊢
          obtain ⟨o₁', hput', rfl⟩ := Except.map_eq_ok.1 hread
          obtain ⟨o₁, hput₁, h₁⟩ := h.put hput'
          exact ⟨.done o₁, by simp [hput₁, Except.map], .done h₁⟩
      | inr sw =>
        simp only [Options.readLetters, hletter] at hread ⊢
        obtain ⟨r₁', hturn, hrest⟩ := Except.bind_eq_ok.1 hread
        obtain ⟨r₁, hturn₁, h₁⟩ := h.turnOn hturn
        rw [hturn₁]
        cases h₁ with
        | done h₁ => exact ih h₁ hrest
        | help =>
          cases hrest
          exact ⟨.help, rfl, .help⟩
        | awaits v arg h₁ =>
          cases hrest
          exact ⟨_, rfl, .awaits v arg h₁⟩

/-- in any option written by its name, -/
theorem Given.readName (h : s.Given value o o') {arg name : String} {x : Option String}
    {r' : Options.Reading} (hread : o'.readName arg name x = .ok r') :
    ∃ r, o.readName arg name x = .ok r ∧ s.GivenReading value r r' := by
  unfold Options.readName at hread ⊢
  cases hname : Options.ofName? name with
  | none => simp [hname] at hread
  | some known =>
    cases known with
    | inl v =>
      cases x with
      | none =>
        simp [hname] at hread
        subst hread
        exact ⟨.awaits v arg o, by simp, .awaits v arg h⟩
      | some x =>
        simp [hname] at hread
        obtain ⟨o₁', hput, rfl⟩ := Except.map_eq_ok.1 hread
        obtain ⟨o₁, hput₁, h₁⟩ := h.put hput
        exact ⟨.done o₁, by simp [hput₁, Except.map], .done h₁⟩
    | inr sw =>
      cases x with
      | none =>
        simp [hname] at hread
        simpa using h.turnOn hread
      | some x => simp [hname] at hread

/-- in one argument, -/
theorem Given.readArgument (h : s.Given value o o') {arg : String} {r' : Options.Reading}
    (hread : o'.readArgument arg = .ok r') :
    ∃ r, o.readArgument arg = .ok r ∧ s.GivenReading value r r' := by
  unfold Options.readArgument at hread ⊢
  split at hread
  · rename_i name hlist
    cases hcut : Text.cutChars '=' name with
    | none =>
      simp only [hcut] at hread ⊢
      exact h.readName hread
    | some parts =>
      simp only [hcut] at hread ⊢
      exact h.readName hread
  · exact h.readLetters arg _ hread
  · cases hread

/-- **and in all of them.**  The induction is on the arguments that are left; the setting is not
among them, since it would be given twice. -/
theorem Given.readAll (args : List String) {pending : Option (ValueOption × String)}
    {o o' o₁' : Options} (h : s.Given value o o')
    (hread : Options.readAll args pending o' = .ok (.run o₁')) :
    ∃ o₁, Options.readAll args pending o = .ok (.run o₁) ∧ s.Given value o₁ o₁' := by
  induction args generalizing pending o o' with
  | nil =>
    cases pending with
    | none =>
      cases hread
      exact ⟨o, rfl, h⟩
    | some awaited => cases hread
  | cons arg rest ih =>
    cases pending with
    | some awaited =>
      obtain ⟨v, name⟩ := awaited
      simp only [Options.readAll] at hread ⊢
      by_cases hvalue : Options.isOption arg = true
      · rw [if_pos hvalue] at hread
        cases hread
      · rw [if_neg hvalue] at hread ⊢
        obtain ⟨o₂', hput, hrest⟩ := Except.bind_eq_ok.1 hread
        obtain ⟨o₂, hput₂, h₂⟩ := h.put hput
        rw [hput₂]
        exact ih h₂ hrest
    | none =>
      simp only [Options.readAll] at hread ⊢
      by_cases hend : arg = "--"
      · rw [if_pos hend] at hread ⊢
        cases rest with
        | nil =>
          cases hread
          exact ⟨o, rfl, h⟩
        | cons extra rest => cases hread
      · rw [if_neg hend] at hread ⊢
        obtain ⟨r', harg, hrest⟩ := Except.bind_eq_ok.1 hread
        obtain ⟨r, harg₁, hr⟩ := h.readArgument harg
        rw [harg₁]
        cases hr with
        | done h₂ => exact ih h₂ hrest
        | help => cases hrest
        | awaits v name h₂ => exact ih h₂ hrest

end Simulation

/-! ## The place of the option -/

/-- What looks like an option is not the value of another: before it, no option awaits one. -/
theorem exists_before {word : String} (hword : Options.isOption word = true)
    (before after : List String) {pending : Option (ValueOption × String)} {o o' : Options}
    (hread : Options.readAll (before ++ word :: after) pending o = .ok (.run o')) :
    ∃ o₁, ∀ rest, Options.readAll (before ++ rest) pending o = Options.readAll rest none o₁ := by
  induction before generalizing pending o with
  | nil =>
    cases pending with
    | none => exact ⟨o, fun _ => rfl⟩
    | some awaited =>
      simp only [List.nil_append, Options.readAll, if_pos hword] at hread
      cases hread
  | cons arg before ih =>
    cases pending with
    | some awaited =>
      obtain ⟨v, name⟩ := awaited
      simp only [List.cons_append, Options.readAll] at hread ⊢
      by_cases hvalue : Options.isOption arg = true
      · rw [if_pos hvalue] at hread
        cases hread
      · rw [if_neg hvalue] at hread
        obtain ⟨o₂, hput, hrest⟩ := Except.bind_eq_ok.1 hread
        simp only [if_neg hvalue, hput]
        exact ih hrest
    | none =>
      simp only [List.cons_append, Options.readAll] at hread ⊢
      by_cases hend : arg = "--"
      · -- behind the end mark nothing may follow
        rw [if_pos hend] at hread
        cases before <;> cases hread
      · rw [if_neg hend] at hread
        obtain ⟨r, harg, hrest⟩ := Except.bind_eq_ok.1 hread
        simp only [if_neg hend, harg]
        cases r with
        | done o₂ => exact ih hrest
        | help => cases hrest
        | awaits v name o₂ => exact ih hrest

theorem readArgument_flag (s : HostSetting) (o : Options) :
    o.readArgument s.flag = .ok (.awaits s.option s.flag o) := by
  cases s <;> rfl

theorem readArgument_flag_append (s : HostSetting) (value : String) (o : Options) :
    o.readArgument (s.flag ++ ("=" ++ value))
      = (o.put s.option (s.flag ++ ("=" ++ value)) value).map .done := by
  have hvalue : String.ofList value.toList = value := String.ofList_toList
  cases s <;> simp [Options.readArgument, flag, option, Text.cutChars, Options.readName,
    Options.ofName?, hvalue]

/-- Whatever follows it, the option is neither a value nor the end mark. -/
theorem flag_append (s : HostSetting) (more : String) :
    Options.isOption (s.flag ++ more) = true ∧ s.flag ++ more ≠ "--" := by
  constructor
  · cases s <;> simp [flag, Options.isOption]
  · intro heq
    have hlist := congrArg String.toList heq
    cases s <;> simp [flag] at hlist

/-- The option is read where nothing is awaited. -/
theorem Written.readAll {written : List String} (h : s.Written value written) :
    (∃ word rest, written = word :: rest ∧ Options.isOption word = true) ∧
    ∃ arg, ∀ after o, Options.readAll (written ++ after) none o
      = (o.put s.option arg value >>= fun o => Options.readAll after none o) := by
  have happend : s.flag ++ "" = s.flag := String.append_empty
  cases h with
  | apart hvalue =>
    obtain ⟨hoption, hend⟩ := s.flag_append ""
    rw [happend] at hoption hend
    refine ⟨⟨_, _, rfl, hoption⟩, s.flag, ?_⟩
    intro after o
    simp only [List.cons_append, List.nil_append, Options.readAll, if_neg hend, s.readArgument_flag]
    simp [bind, Except.bind, hvalue]
  | joined =>
    obtain ⟨hoption, hend⟩ := s.flag_append ("=" ++ value)
    refine ⟨⟨_, _, rfl, hoption⟩, s.flag ++ ("=" ++ value), ?_⟩
    intro after o
    simp only [List.cons_append, List.nil_append, Options.readAll, if_neg hend,
      s.readArgument_flag_append]
    cases o.put s.option (s.flag ++ ("=" ++ value)) value <;> rfl

/-- **The line without the option asks for the same**, but for the setting. -/
theorem Written.read {before written after : List String} {o' : Options}
    (h : s.Written value written)
    (hread : Options.read (before ++ written ++ after) = .ok (.run o')) :
    ∃ o, Options.read (before ++ after) = .ok (.run o) ∧ s.Given value o o' := by
  obtain ⟨⟨word, rest, hwords, hword⟩, arg, hreads⟩ := h.readAll
  have hall : Options.readAll (before ++ word :: (rest ++ after)) none {} = .ok (.run o') := by
    rw [← List.cons_append, ← hwords, ← List.append_assoc]
    exact hread
  obtain ⟨o₁, hbefore⟩ := exists_before hword before _ hall
  rw [hbefore, ← List.cons_append, ← hwords, hreads] at hall
  obtain ⟨o₁', hput, hafter⟩ := Except.bind_eq_ok.1 hall
  obtain ⟨o, hrest, hgiven⟩ := (put_eq_ok hput).readAll after hafter
  exact ⟨o, (hbefore after).trans hrest, hgiven⟩

end HostSetting

/-! ## The file of variables -/

namespace EnvFile

/-- No line of a file refers to the variable. -/
def Ignores (f : Files) (name : String) : Prop :=
  ∀ bytes, findFrom f f.current.reverse = some bytes →
    ∀ line ∈ joined (readable (splitLines (withoutMark bytes.data.toList))), ∀ env value,
      readLine (env.insert name value) line = readLine env line

/-- An assignment is made beside the variable; to the variable itself none is made. -/
theorem assign?_insert {env env' : Environment} {name value : String} (key x : String)
    (h : assign? env key x = some env') :
    assign? (env.insert name value) key x = some (env'.insert name value) := by
  unfold assign? at h ⊢
  by_cases hkey : key = name
  · subst hkey
    rw [if_pos (by simp)]
    by_cases hset : env.contains key = true
    · rw [if_pos hset] at h
      cases h
      rfl
    · rw [if_neg hset] at h
      split at h
      · cases h
      · cases h
        refine congrArg some (Dict.ext_get? ?_)
        intro k
        by_cases hk : k = key <;> simp [Dict.get?_insert, hk]
  · have hcontains : (env.insert name value).contains key = env.contains key := by
      simp [hkey]
    rw [hcontains]
    by_cases hset : env.contains key = true
    · rw [if_pos hset] at h ⊢
      cases h
      rfl
    · rw [if_neg hset] at h ⊢
      split at h
      · cases h
      · rename_i hplain
        cases h
        rw [if_neg hplain]
        refine congrArg some (Dict.ext_get? ?_)
        intro k
        by_cases hk : k = key
        · subst hk
          simp [Dict.get?_insert, hkey]
        · simp [Dict.get?_insert, hk]

theorem extendFrom?_insert {name value : String} (lines : List (List Char))
    (hignores : ∀ line ∈ lines, ∀ env value,
      readLine (env.insert name value) line = readLine env line)
    {env env' : Environment} (h : extendFrom? env lines = some env') :
    extendFrom? (env.insert name value) lines = some (env'.insert name value) := by
  induction lines generalizing env with
  | nil =>
    cases h
    rfl
  | cons line rest ih =>
    have hrest : ∀ env, extendFrom? env rest = some env' →
        extendFrom? (env.insert name value) rest = some (env'.insert name value) :=
      fun env => ih fun line hline => hignores line (List.mem_cons_of_mem _ hline)
    simp only [extendFrom?, hignores line List.mem_cons_self env value] at h ⊢
    cases hline : readLine env line with
    | nothing =>
      simp only [hline] at h ⊢
      exact hrest env h
    | assignment key x =>
      simp only [hline] at h ⊢
      obtain ⟨env₁, hassign, hextend⟩ := Option.bind_eq_some_iff.1 h
      rw [assign?_insert key x hassign]
      exact hrest env₁ hextend
    | unreadable =>
      simp only [hline] at h ⊢
      cases h
      rfl

/-- **A file that ignores the variable adds the same to both environments.** -/
theorem load?_insert {f : Files} {name : String} (hignores : Ignores f name) (value : String)
    {env env' : Environment} (h : load? f env = some env') :
    load? f (env.insert name value) = some (env'.insert name value) := by
  unfold load? at h ⊢
  cases hfind : findFrom f f.current.reverse with
  | none =>
    simp only [hfind] at h ⊢
    cases h
    rfl
  | some bytes =>
    simp only [hfind] at h ⊢
    exact extendFrom?_insert _ (hignores bytes hfind) h

end EnvFile

/-! ## Runs -/

namespace CommandLine

/-- A run looks at the variables and at the options that were compared through the set-up alone. -/
theorem runSession?_give {s : HostSetting} {value : String} {env env' : Environment} {o : Options}
    (hconfig : hostConfig env (s.give value o) = hostConfig env' o) (n : Nat) (f : Files)
    (events : List Event) :
    runSession? n f env (s.give value o) events = runSession? n f env' o events := by
  have hyes : (s.give value o).yes = o.yes := by cases s <;> rfl
  have hjson : (s.give value o).json = o.json := by cases s <;> rfl
  have hcommands : (s.give value o).commands = o.commands := by cases s <;> rfl
  simp only [runSession?, session?, prepare, hostProfile, hconfig, hyes, hjson, hcommands]

/-- **An option is as good as the variable**, wherever it stands in a line that is understood, for
each of the three settings and whatever the others are: the line without the option asks for the
same but for this setting, the set-ups are the same exactly when the two ways can be interchanged,
and then so are the runs, with what they come to and the files that they leave.  If there is a file
of variables, it must not refer to this one. -/
theorem option_iff_variable {s : HostSetting} {value : String} {before written after : List String}
    {o' : Options} (hwritten : s.Written value written)
    (hread : Options.read (before ++ written ++ after) = .ok (.run o')) :
    ∃ o, Options.read (before ++ after) = .ok (.run o) ∧ s.Given value o o' ∧ ∀ env : Environment,
      (hostConfig env o' = hostConfig (env.insert s.variableName value) o
        ↔ s.Interchangeable value env o) ∧
      (s.Interchangeable value env o → ∀ (n : Nat) (f : Files),
        runWith? n f env (before ++ written ++ after)
          = runWith? n f (env.insert s.variableName value) (before ++ after) ∧
        (EnvFile.Ignores f s.variableName → ∀ env₀, EnvFile.load? f env₀ = some env →
          run? n f env₀ (before ++ written ++ after)
            = run? n f (env₀.insert s.variableName value) (before ++ after))) := by
  obtain ⟨o, hplain, hgiven⟩ := hwritten.read hread
  refine ⟨o, hplain, hgiven, ?_⟩
  obtain ⟨hlacks, rfl⟩ := hgiven
  intro env
  have hconfig : hostConfig env (s.give value o) = hostConfig (env.insert s.variableName value) o
      ↔ s.Interchangeable value env o := HostSetting.hostConfig_give_iff hlacks
  refine ⟨hconfig, ?_⟩
  intro hinterchangeable n f
  have hsame := hconfig.2 hinterchangeable
  have hevents : (s.give value o).events = o.events := by cases s <;> rfl
  have hrun : runWith? n f env (before ++ written ++ after)
      = runWith? n f (env.insert s.variableName value) (before ++ after) := by
    simp only [runWith?, hread, hplain, hevents, runSession?_give hsame]
  refine ⟨hrun, ?_⟩
  intro hignores env₀ hload
  simp only [run?, hload, EnvFile.load?_insert hignores value hload, hrun]

end CommandLine

/-! ## Runs on small directories -/

namespace Scene

/-- A plugin that does nothing, in a folder of some name. -/
def idleIn (root : String) : Scene := [⟨root, "p", []⟩]

/-- A plugin in the folder that is the directory of configurations, too, with one entry in its
configuration. -/
def remembered : Files :=
  ⟨(["plugins", "config", "p.json"],
      .file (Text.encode (Store.render (Dict.ofList [("k", "v")])))) :: (idleIn "config").asPlugins.entries, []⟩

theorem ignores_remembered (name : String) : EnvFile.Ignores remembered name := by
  have hnone : EnvFile.findFrom remembered remembered.current.reverse = none := by decide +kernel
  intro bytes hbytes
  rw [hnone] at hbytes
  cases hbytes

theorem exists_reported {q : Report → Bool} {result : Option (Outcome × Files)}
    (h : result.any (reports q) = true) :
    ∃ asJson lines r g, result = some (.reported asJson lines r, g) ∧ q r = true := by
  obtain ⟨⟨outcome, g⟩, rfl, hreports⟩ := (Option.any_eq_true ..).1 h
  obtain ⟨asJson, lines, r, rfl, hq⟩ := eq_reported_of_reports hreports
  exact ⟨asJson, lines, r, g, rfl, hq⟩

end Scene

/-- With a configuration directory of its own the plugin directory can be given either way. -/
theorem remembered_interchanged :
    HostSetting.pluginDir.Written "plugins" ["--plugins", "plugins"] ∧
    (CommandLine.run? 200 Scene.remembered ∅
      ["-y", "--plugins", "plugins", "--config-dir", "cfg"]).isSome = true ∧
    CommandLine.run? 200 Scene.remembered ∅ ["-y", "--plugins", "plugins", "--config-dir", "cfg"]
      = CommandLine.run? 200 Scene.remembered (Dict.insert ∅ "NNP_PLUGIN_DIR" "plugins")
        ["-y", "--config-dir", "cfg"] := by
  have hwritten : HostSetting.pluginDir.Written "plugins" ["--plugins", "plugins"] :=
    .apart (by decide)
  have hends : (CommandLine.run? 200 Scene.remembered ∅
      ["-y", "--plugins", "plugins", "--config-dir", "cfg"]).isSome = true := by
    decide +kernel
  obtain ⟨o, hplain, -, hall⟩ := CommandLine.option_iff_variable hwritten
    (show Options.read (["-y"] ++ ["--plugins", "plugins"] ++ ["--config-dir", "cfg"])
      = .ok (.run { yes := true, plugins := some ⟨"plugins"⟩, configDir := some ⟨"cfg"⟩ }) by rfl)
  have hread : Options.read (["-y"] ++ ["--config-dir", "cfg"])
      = .ok (.run { yes := true, configDir := some ⟨"cfg"⟩ }) := by rfl
  rw [hread] at hplain
  cases hplain
  obtain ⟨-, hruns⟩ := hall ∅
  have hrun := (hruns (fun _ => .inl rfl) 200 Scene.remembered).2 (Scene.ignores_remembered _) ∅
    (by rfl)
  exact ⟨hwritten, hends, hrun⟩

/-- **The plugin directory alone is not given either way alike**: the plugin has a configuration
when the directory comes by the variable, and has none when it comes by the option. -/
theorem remembered_forgotten : ∃ (asJson asJson' : Bool) (lines lines' : List String)
    (r r' : Report) (g g' : Files),
    CommandLine.run? 200 Scene.remembered ∅ ["--plugins", "plugins"]
      = some (.reported asJson lines r, g) ∧
    CommandLine.run? 200 Scene.remembered (Dict.insert ∅ "NNP_PLUGIN_DIR" "plugins") []
      = some (.reported asJson' lines' r', g') ∧
    r.loaded.map PluginInfo.config = [∅] ∧
    r'.loaded.map PluginInfo.config = [Dict.ofList [("k", "v")]] := by
  have hoption : (CommandLine.run? 200 Scene.remembered ∅ ["--plugins", "plugins"]).any
      (Scene.reports fun r => r.loaded.map PluginInfo.config == [∅]) = true := by
    decide +kernel
  have hvariable : (CommandLine.run? 200 Scene.remembered
      (Dict.insert ∅ "NNP_PLUGIN_DIR" "plugins") []).any (Scene.reports fun r =>
        r.loaded.map PluginInfo.config == [Dict.ofList [("k", "v")]]) = true := by
    decide +kernel
  obtain ⟨asJson, lines, r, g, hrun, hconfig⟩ := Scene.exists_reported hoption
  obtain ⟨asJson', lines', r', g', hrun', hconfig'⟩ := Scene.exists_reported hvariable
  exact ⟨asJson, asJson', lines, lines', r, r', g, g', hrun, hrun', beq_iff_eq.1 hconfig,
    beq_iff_eq.1 hconfig'⟩

end EditorPlugins
