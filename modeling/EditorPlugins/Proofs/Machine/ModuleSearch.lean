/-
  Where the modules of a plugin are found.

  Modules are looked for in places that one text lists: the places are separated by semicolons, and
  every question mark in them stands for the name of the module.  The places below the plugin's root
  come first.  They are made by putting the path of the root into the text, and nothing in it is
  marked as belonging to a path.  So a semicolon in the name of a directory ends the place there,
  and a question mark is replaced by the name of the module.

    program   `Sandbox.modulePath`, `Sandbox.moduleCandidates`, `Machine.require`
    spec      the file of the module in the plugin's own root is the one that is run
    crux      no place has a separator in it (`Text.not_mem_of_mem_piecesChars`), and no mark is
              left; so from a root with either of them the plugin's own file is not even tried

  Main statements: `Sandbox.findModule_eq_own_iff`, for the search, and
  `Machine.require_exact`, for code that requires a module; `decoy_required` is a plugin that is
  given a module from outside its root in place of its own.
-/
import EditorPlugins.Proofs.Files.Names
import EditorPlugins.Proofs.Machine.Scene
import EditorPlugins.Proofs.Text.ByteOrder

namespace EditorPlugins

open Script (Value Raised Program complain)

/-! ## Names that hold no NUL -/

namespace Text

/-- Only NUL has a zero byte in its encoding. -/
theorem zero_not_mem_encodeChar {c : Char} (hc : c ≠ '\x00') : 0 ∉ String.utf8EncodeChar c := by
  have hpos : c.val.toNat ≠ 0 := by
    intro hzero
    exact hc (Char.ext (UInt32.toNat_inj.1 hzero))
  have hbyte : ∀ n, 0 < n → n < 256 → (0 : UInt8) ≠ UInt8.ofNat n := by
    intro n hn hlt heq
    have hnat := congrArg UInt8.toNat heq
    rw [UInt8.toNat_ofNat_of_lt' hlt] at hnat
    exact Nat.ne_of_lt hn hnat
  unfold String.utf8EncodeChar
  generalize c.val.toNat = v at hpos
  dsimp only
  split_ifs <;> simp only [List.mem_cons, List.not_mem_nil, or_false, not_or]
  · exact hbyte v (by omega) (by omega)
  -- in longer encodings every byte has its highest bit set
  · exact ⟨hbyte _ (by omega) (by omega), hbyte _ (by omega) (by omega)⟩
  · exact ⟨hbyte _ (by omega) (by omega), hbyte _ (by omega) (by omega),
      hbyte _ (by omega) (by omega)⟩
  · exact ⟨hbyte _ (by omega) (by omega), hbyte _ (by omega) (by omega),
      hbyte _ (by omega) (by omega), hbyte _ (by omega) (by omega)⟩

/-- A text without NUL is read to its end. -/
theorem untilNul_encode {s : String} (h : '\x00' ∉ s.toList) :
    Script.untilNul (encode s) = encode s := by
  have hall : ∀ b ∈ (encode s).data.toList, decide (b ≠ 0) = true := by
    intro b hb
    rw [data_encode] at hb
    obtain ⟨c, hc, hbyte⟩ := List.mem_flatMap.1 hb
    refine decide_eq_true fun hzero => ?_
    have hne : c ≠ '\x00' := fun heq => h (heq ▸ hc)
    exact zero_not_mem_encodeChar hne (hzero ▸ hbyte)
  refine ByteArray.ext ?_
  show ((encode s).data.toList.takeWhile (· ≠ 0)).toArray = (encode s).data
  rw [List.takeWhile_eq_self_iff.2 hall]

end Text

/-! ## The search -/

/-- A path whose spelling is the same when it is put among the places where modules are looked
for. -/
structure Path.IsLiteral (p : Path) : Prop where
  separator : ';' ∉ p.text.toList
  mark : '?' ∉ p.text.toList

namespace Sandbox

/-- A name of a module without the characters that mean something else: those of the places, and the
one that ends a name. -/
structure IsPlainName (name : String) : Prop where
  separator : ';' ∉ name.toList
  mark : '?' ∉ name.toList
  nul : '\x00' ∉ name.toList

/-- The name of a module as steps of a path. -/
def moduleSteps (name : String) : List Char :=
  name.toList.map fun c => if c = '.' then '/' else c

/-- The file of a module in a plugin's own root. -/
def ownModule (root : Path) (name : String) : Path :=
  ⟨root.text ++ "/" ++ String.ofList (moduleSteps name) ++ ".lua"⟩

/-- Every question mark stands for these characters. -/
def filled (steps cs : List Char) : List Char :=
  cs.flatMap fun c => if c = '?' then steps else [c]

theorem moduleCandidates_eq (root : Path) (name : String) : moduleCandidates root name
    = (Text.piecesChars ';' (filled (moduleSteps name) (modulePath root).toList)).map
        fun cs => ⟨String.ofList cs⟩ := rfl

section Search

variable {root : Path} {name : String} {f : Files} {steps cs : List Char}

theorem filled_append (steps a b : List Char) :
    filled steps (a ++ b) = filled steps a ++ filled steps b := List.flatMap_append

/-- What has no question mark stays as it is. -/
theorem filled_of_not_mem (h : '?' ∉ cs) : filled steps cs = cs := by
  induction cs with
  | nil => rfl
  | cons c cs ih =>
    have hne : c ≠ '?' := fun heq => h (heq ▸ List.mem_cons_self)
    have hrest := ih fun hmem => h (List.mem_cons_of_mem _ hmem)
    unfold filled at hrest ⊢
    rw [List.flatMap_cons, if_neg hne, hrest]
    rfl

/-- No question mark is left. -/
theorem mark_not_mem_filled (h : '?' ∉ steps) : '?' ∉ filled steps cs := by
  intro hmem
  obtain ⟨c, -, hc⟩ := List.mem_flatMap.1 hmem
  split at hc
  · exact h hc
  · rename_i hne
    exact hne (List.mem_singleton.1 hc).symm

theorem IsPlainName.not_mem_steps (h : IsPlainName name) :
    ';' ∉ moduleSteps name ∧ '?' ∉ moduleSteps name := by
  have hkept : ∀ d, d ≠ '/' → d ∉ name.toList → d ∉ moduleSteps name := by
    intro d hd hnot hmem
    obtain ⟨c, hc, heq⟩ := List.mem_map.1 hmem
    split at heq
    · exact hd heq.symm
    · exact hnot (heq ▸ hc)
  exact ⟨hkept _ (by decide) h.separator, hkept _ (by decide) h.mark⟩

/-- The characters of the plugin's own file. -/
theorem ownModule_toList (root : Path) (name : String) : (ownModule root name).text.toList
    = root.text.toList ++ '/' :: (moduleSteps name ++ ['.', 'l', 'u', 'a']) := by
  unfold ownModule
  simp only [String.toList_append, String.toList_ofList, List.append_assoc]
  rfl

/-- The places begin with the files of modules in the root, then comes a separator. -/
theorem modulePath_toList (root : Path) : ∃ rest, (modulePath root).toList
    = root.text.toList ++ (['/', '?', '.', 'l', 'u', 'a'] ++ ';' :: rest) := by
  unfold modulePath
  simp only [String.toList_append, List.append_assoc]
  exact ⟨_, rfl⟩

/-- From a literal root the plugin's own file is tried first. -/
theorem moduleCandidates_of_isLiteral (hroot : root.IsLiteral) (hname : IsPlainName name) :
    ∃ rest, moduleCandidates root name = ownModule root name :: rest := by
  obtain ⟨hseparator, -⟩ := hname.not_mem_steps
  obtain ⟨rest, hpath⟩ := modulePath_toList root
  have hfilled : filled (moduleSteps name) (modulePath root).toList
      = (ownModule root name).text.toList ++ ';' :: filled (moduleSteps name) rest := by
    rw [hpath, filled_append, filled_of_not_mem hroot.mark, filled_append, ownModule_toList,
      List.append_assoc]
    simp only [filled, List.flatMap_cons, List.flatMap_nil, List.cons_append, List.append_assoc]
    rfl
  have hone : ';' ∉ (ownModule root name).text.toList := by
    rw [ownModule_toList]
    simp [hroot.separator, hseparator]
  refine ⟨(Text.piecesChars ';' (filled (moduleSteps name) rest)).map
    fun cs => ⟨String.ofList cs⟩, ?_⟩
  rw [moduleCandidates_eq, hfilled, Text.piecesChars_append_cons, Text.piecesChars_of_not_mem hone]
  simp only [List.singleton_append, List.map_cons, String.ofList_toList]

/-- **No file that is tried has a separator or a mark in its path.** -/
theorem isLiteral_of_mem_moduleCandidates (hname : IsPlainName name) {p : Path}
    (h : p ∈ moduleCandidates root name) : p.IsLiteral := by
  rw [moduleCandidates_eq] at h
  obtain ⟨piece, hpiece, rfl⟩ := List.mem_map.1 h
  constructor
  · rw [String.toList_ofList]
    exact Text.not_mem_of_mem_piecesChars hpiece
  · rw [String.toList_ofList]
    intro hmark
    exact mark_not_mem_filled hname.not_mem_steps.2 (Text.mem_of_mem_piecesChars hpiece hmark).1

/-- So the plugin's own file is not tried if the root is not literal. -/
theorem isLiteral_of_own (h : (ownModule root name).IsLiteral) : root.IsLiteral := by
  obtain ⟨hseparator, hmark⟩ := h
  rw [ownModule_toList] at hseparator hmark
  exact ⟨fun hmem => hseparator (List.mem_append_left _ hmem),
    fun hmem => hmark (List.mem_append_left _ hmem)⟩

/-- **The search finds the plugin's own file exactly from a literal root.** -/
theorem findModule_eq_own_iff (hname : IsPlainName name)
    (hown : f.exists? (ownModule root name) = true) :
    findModule f root name = some (ownModule root name) ↔ root.IsLiteral := by
  unfold findModule
  constructor
  · intro hfound
    have hmem := List.mem_of_find?_eq_some hfound
    exact isLiteral_of_own (isLiteral_of_mem_moduleCandidates hname hmem)
  · intro hroot
    obtain ⟨rest, hcandidates⟩ := moduleCandidates_of_isLiteral hroot hname
    rw [hcandidates, List.find?_cons_of_pos hown]

end Search

end Sandbox

/-! ## Code that requires a module -/

/-- The root of the plugin that a sandbox belongs to. -/
def World.rootOf (w : World) (id : SandboxId) : Path := (w.sandbox id).identity.root

namespace Machine

/-- What comes of looking for a module: its code runs, told its name and where it was found, or an
error is raised. -/
def runModule (w : World) (id : SandboxId) (name : String) (found : Option Path)
    (next : Except Raised (List Value) → Program (List Value)) (frames : List Frame) : Machine :=
  let refuse (text : String) : Machine := resume w id next (.error (complain text)) frames
  match found with
  | none => refuse ("module '" ++ name ++ "' not found")
  | some file =>
    match World.readModule w.files file with
    | .error e => refuse ("error loading module '" ++ name ++ "': " ++ e.message)
    | .ok block =>
      callCode w id (Script.Block.program block [.text name, .text file.text])
        [.module id name] next frames

/-- A module that was loaded before is not looked for. -/
theorem require_text {name : String} (hnul : '\x00' ∉ name.toList) (w : World) (id : SandboxId)
    (next : Except Raised (List Value) → Program (List Value)) (F : List Frame) :
    require w id (.text name) next F
      = if ((w.sandbox id).heap.loaded name).isTrue
        then resume w id next (.ok [(w.sandbox id).heap.loaded name]) F
        else runModule w id name (Sandbox.findModule w.files (w.sandbox id).identity.root name)
          next F := by
  have hbytes : (Value.text name).stringBytes? = some (Text.encode name) := rfl
  unfold require
  simp only [hbytes, Text.untilNul_encode hnul, Text.decodeLossy_encode]
  split
  · rfl
  · unfold runModule
    cases Sandbox.findModule w.files (w.sandbox id).identity.root name with
    | none => rfl
    | some file => cases hread : World.readModule w.files file <;> rfl

/-- The code of a sandbox requires a module that has a file in the root of the plugin. -/
structure RequiresOwn (m : Machine) (id : SandboxId) (name : String)
    (next : Except Raised (List Value) → Program (List Value)) : Prop where
  focus : m.focus = .running id (.ask (.require (.text name)) next)
  plain : Sandbox.IsPlainName name
  own : m.world.files.exists? (Sandbox.ownModule (m.world.rootOf id) name) = true

variable {m : Machine} {id : SandboxId} {name : String}
  {next : Except Raised (List Value) → Program (List Value)}

theorem RequiresOwn.step_eq (h : m.RequiresOwn id name next) : m.step
    = if ((m.world.sandbox id).heap.loaded name).isTrue
      then resume m.world id next (.ok [(m.world.sandbox id).heap.loaded name]) m.frames
      else runModule m.world id name
        (Sandbox.findModule m.world.files (m.world.rootOf id) name) next m.frames := by
  unfold step
  rw [h.focus]
  exact require_text h.plain.nul m.world id next m.frames

/-- **When a plugin is given its own module.**  Code that requires a module which has a file in the
root of its plugin is given the module's value if it was loaded before.  Otherwise the file that the
search has found is run, and this is the plugin's own file exactly if the path of the root has no
semicolon and no question mark in it. -/
theorem require_exact (h : m.RequiresOwn id name next) :
    (m.step = if ((m.world.sandbox id).heap.loaded name).isTrue
      then resume m.world id next (.ok [(m.world.sandbox id).heap.loaded name]) m.frames
      else runModule m.world id name
        (Sandbox.findModule m.world.files (m.world.rootOf id) name) next m.frames) ∧
    (Sandbox.findModule m.world.files (m.world.rootOf id) name
        = some (Sandbox.ownModule (m.world.rootOf id) name) ↔
      (m.world.rootOf id).IsLiteral) :=
  ⟨h.step_eq, Sandbox.findModule_eq_own_iff h.plain h.own⟩

/-! ## Two roots -/

/-- The code of a file is run. -/
theorem focus_runModule {w : World} {file : Path} {block : Script.Block} {F : List Frame}
    (hread : World.readModule w.files file = .ok block)
    (hroom : (refusal? (w.sandbox id).memoryLimit (Frame.depth F + 1)).isNone = true) :
    (runModule w id name (some file) next F).focus
      = .running id (Script.Block.program block [.text name, .text file.text]) := by
  simp only [runModule, hread, callCode, Option.isNone_iff_eq_none.1 hroom]

/-- Whether a block returns a text and does nothing else. -/
def returnsText (s : String) : Except ScriptFault Script.Block → Bool
  | .ok [.return [.string b]] => Scene.sameBytes b (Text.encode s)
  | _ => false

theorem eq_of_returnsText {s : String} {r : Except ScriptFault Script.Block}
    (h : returnsText s r = true) : r = .ok [.return [.string (Text.encode s)]] := by
  unfold returnsText at h
  split at h
  · rw [Scene.sameBytes_iff.1 h]
  · cases h

/-- Whether the code of a sandbox requires a module that has a file in the root of the plugin and
was not loaded before. -/
def requiresOwn (m : Machine) (id : SandboxId) (name : String) : Bool :=
  match m.focus with
  | .running j (.ask (.require (.string b)) _) =>
    j == id && (Scene.sameBytes b (Text.encode name) &&
      (m.world.files.exists? (Sandbox.ownModule (m.world.rootOf id) name) &&
      (!((m.world.sandbox id).heap.loaded name).isTrue &&
        (refusal? (m.world.sandbox id).memoryLimit (Frame.depth m.frames + 1)).isNone)))
  | _ => false

theorem exists_of_requiresOwn (hplain : Sandbox.IsPlainName name)
    (h : m.requiresOwn id name = true) :
    (∃ next, m.RequiresOwn id name next) ∧
      ((m.world.sandbox id).heap.loaded name).isTrue = false ∧
      (refusal? (m.world.sandbox id).memoryLimit (Frame.depth m.frames + 1)).isNone = true := by
  unfold requiresOwn at h
  split at h
  · rename_i j b next hfocus
    simp only [Bool.and_eq_true, beq_iff_eq, Scene.sameBytes_iff, Bool.not_eq_true'] at h
    obtain ⟨rfl, rfl, hown, hnew, hroom⟩ := h
    exact ⟨⟨next, hfocus, hplain, hown⟩, hnew, hroom⟩
  · cases h

end Machine

/-- The file of a module that is a text. -/
def Scene.moduleIn (dir value : String) : Place × Entry :=
  ([dir, "util.lua"],
    .file (Text.encode (Json.array [.array [.text "return", .text value]]).compact))

/-- A plugin that requires a module of its own, beside some files. -/
def Scene.requiring (root : String) (beside : List (Place × Entry)) : Files :=
  ⟨Folder.entries ⟨root, "p", [.array [.text "show", .object [("require", .text "util")]]]⟩
    ++ moduleIn root "own" :: beside, []⟩

theorem Scene.util_plain : Sandbox.IsPlainName "util" := ⟨by decide, by decide, by decide⟩

/-- From a root with a plain name the plugin's own module is run. -/
theorem own_required : ∃ (m : Machine)
    (next : Except Raised (List Value) → Program (List Value)), m.Reachable ∧
    m.RequiresOwn 0 "util" next ∧ (m.world.rootOf 0).IsLiteral ∧ m.step.focus
      = .running 0 (Script.Block.program [.return [.string (Text.encode "own")]]
        [.text "util", .text "a/util.lua"]) := by
  have hscene : (Scene.machineAmong? (Scene.requiring "a" []) [] (.load ⟨"a"⟩) 1).any (fun m =>
      m.requiresOwn 0 "util" && (m.world.rootOf 0 == ⟨"a"⟩ &&
        Machine.returnsText "own" (World.readModule m.world.files ⟨"a/util.lua"⟩))) = true := by
    decide +kernel
  obtain ⟨m, -, hm, hq⟩ := Scene.reach_among hscene
  simp only [Bool.and_eq_true, beq_iff_eq] at hq
  obtain ⟨hrequires, hroot, hread⟩ := hq
  obtain ⟨⟨next, hown⟩, hnew, hroom⟩ := Machine.exists_of_requiresOwn Scene.util_plain hrequires
  have hliteral : (m.world.rootOf 0).IsLiteral := by
    rw [hroot]
    exact ⟨by decide, by decide⟩
  obtain ⟨hstep, hexact⟩ := Machine.require_exact hown
  refine ⟨m, next, hm, hown, hliteral, ?_⟩
  rw [hstep, hnew, if_neg Bool.false_ne_true, hexact.2 hliteral, hroot]
  exact Machine.focus_runModule (Machine.eq_of_returnsText hread) hroom

/-- **From a root with a question mark in its name another module is run**, although the plugin has
the module in its root. -/
theorem decoy_required : ∃ (m : Machine)
    (next : Except Raised (List Value) → Program (List Value)), m.Reachable ∧
    m.RequiresOwn 0 "util" next ∧ m.world.rootOf 0 = ⟨"p?q"⟩ ∧
    World.readModule m.world.files ⟨"p?q/util.lua"⟩
      = .ok [.return [.string (Text.encode "own")]] ∧ m.step.focus
      = .running 0 (Script.Block.program [.return [.string (Text.encode "other")]]
        [.text "util", .text "putilq/util.lua"]) := by
  have hscene : (Scene.machineAmong? (Scene.requiring "p?q"
      [(["putilq"], .directory), Scene.moduleIn "putilq" "other"]) [] (.load ⟨"p?q"⟩) 1).any
      (fun m => m.requiresOwn 0 "util" && (m.world.rootOf 0 == ⟨"p?q"⟩ &&
        (Sandbox.findModule m.world.files (m.world.rootOf 0) "util" == some ⟨"putilq/util.lua"⟩ &&
        (Machine.returnsText "own" (World.readModule m.world.files ⟨"p?q/util.lua"⟩) &&
          Machine.returnsText "other"
            (World.readModule m.world.files ⟨"putilq/util.lua"⟩))))) = true := by
    decide +kernel
  obtain ⟨m, -, hm, hq⟩ := Scene.reach_among hscene
  simp only [Bool.and_eq_true, beq_iff_eq] at hq
  obtain ⟨hrequires, hroot, hfound, hmine, hread⟩ := hq
  obtain ⟨⟨next, hown⟩, hnew, hroom⟩ := Machine.exists_of_requiresOwn Scene.util_plain hrequires
  refine ⟨m, next, hm, hown, hroot, Machine.eq_of_returnsText hmine, ?_⟩
  rw [hown.step_eq, hnew, if_neg Bool.false_ne_true, hfound]
  exact Machine.focus_runModule (Machine.eq_of_returnsText hread) hroom

end EditorPlugins
