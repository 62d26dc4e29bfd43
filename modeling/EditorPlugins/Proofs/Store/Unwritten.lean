/-
  Changes of settings that could not be written.

  A store of settings in a file has its values in two places: in memory, where they are looked up,
  and in the file, from which they come when the store is opened again.  A change is made in memory
  first and then written.  When it cannot be written the caller is told so, but the change is not
  taken back.  The store then answers with a value that opening the file does not give.

    program   `SettingsFile.set`, `SettingsFile.remove`
    spec      what is looked up after a change that was refused, and what opening the file gives
    crux      `Store.not_isFile_of_saveBelow`: a write that fails leaves the file as it was,
              whichever of its parts has failed

  So memory and file differ after a refused change exactly by this change, and after some of them by
  all that were refused since the last one that was written (`Behind`).

  Main statements: `change_unwritten`, for one change, and `Changes.behind`, for a run of them;
  `refused_but_held` is a store that gives a value that it has refused.
-/
import EditorPlugins.Proofs.Files.Making
import EditorPlugins.Proofs.Store.Settings

namespace EditorPlugins

/-! ## Writes that fail -/

namespace Store

open Files

variable {f g : Files} {p : Path} {d : Dict String} {e : FileFault}

/-- Where nothing can be written there is no file. -/
theorem not_isFile_of_writeText {s : String} (h : f.writeText p s = .error e) :
    f.isFile p = false := by
  unfold writeText write at h
  unfold isFile
  cases hlocate : f.locate p with
  | error fault => rfl
  | ok s =>
    rw [hlocate] at h
    cases s with
    | file | missing => cases h
    | directory => rfl

/-- How saving fails: the directory cannot be made, or it is there and the file cannot be
written. -/
theorem saveBelow_fault {dir : Option Path} (h : saveBelow f dir p d = (g, some e)) :
    (∃ parent, dir = some parent ∧ f.makeDirectories parent = (g, some e)) ∨
    f.Keeps g ∧ g.writeText p (render d) = .error e := by
  -- without a directory there is only the file to write
  have hwrite : ∀ made, f.Keeps made → saveBelow made none p d = (g, some e) →
      f.Keeps g ∧ g.writeText p (render d) = .error e := by
    intro made hkeeps hmade
    unfold saveBelow at hmade
    dsimp only at hmade
    cases hwritten : made.writeText p (render d) with
    | ok written => rw [hwritten] at hmade; cases hmade
    | error fault =>
      rw [hwritten] at hmade
      cases hmade
      exact ⟨hkeeps, hwritten⟩
  cases dir with
  | none => exact .inr (hwrite f (.refl f) h)
  | some parent =>
    have hkeeps := f.makeDirectories_keeps parent
    unfold saveBelow at h
    dsimp only at h
    cases hmade : f.makeDirectories parent with
    | mk made fault =>
      rw [hmade] at h hkeeps
      cases fault with
      | some fault =>
        cases h
        exact .inl ⟨parent, rfl, hmade⟩
      | none => exact .inr (hwrite made hkeeps h)

/-- **Saving that fails** was to a path that leads to no file: either its directory could not be
made, or there is something else. -/
theorem not_isFile_of_saveBelow (h : saveBelow f p.parent? p d = (g, some e)) :
    g.isFile p = false := by
  rcases saveBelow_fault h with ⟨parent, hparent, hmade⟩ | ⟨-, hwritten⟩
  · have hmissing := not_isDirectory_of_makeDirectories hmade
    have htext : parent.text ≠ "" := by
      intro hnil
      have hnothing := makeDirectoriesFrom_empty parent.text.length f hnil
      rw [← makeDirectories, hmade] at hnothing
      cases hnothing
    -- a file would stand in the directory
    refine Bool.eq_false_iff.2 fun hfile => ?_
    obtain ⟨at_, bytes, hlocate⟩ := isFile_iff.1 hfile
    rw [isDirectory_of_parent? hparent htext hlocate] at hmissing
    cases hmissing
  · exact not_isFile_of_writeText hwritten

/-- Saving that fails has made directories at most. -/
theorem keeps_of_saveBelow {dir : Option Path} (h : saveBelow f dir p d = (g, some e)) :
    f.Keeps g := by
  rcases saveBelow_fault h with ⟨parent, -, hmade⟩ | ⟨hkeeps, -⟩
  · have hkeeps := f.makeDirectories_keeps parent
    rw [hmade] at hkeeps
    exact hkeeps
  · exact hkeeps

/-- What saving that fails leaves in the file: what was there. -/
theorem loadStrict_of_saveBelow_fault (h : saveBelow f p.parent? p d = (g, some e)) :
    loadStrict g p = loadStrict f p := by
  have hafter := not_isFile_of_saveBelow h
  have hbefore : f.isFile p = false := by
    refine Bool.eq_false_iff.2 fun hfile => ?_
    obtain ⟨at_, bytes, hlocate⟩ := isFile_iff.1 hfile
    obtain ⟨bytes', hlater⟩ := locate_file_of_grows (keeps_of_saveBelow h).grows hlocate
    rw [isFile_iff.2 ⟨at_, bytes', hlater⟩] at hafter
    cases hafter
  rw [loadStrict_of_not_isFile hbefore, loadStrict_of_not_isFile hafter]

end Store

namespace SettingsFile

/-! ## One change -/

/-- A change of settings: what is to be found under a key afterwards, if anything. -/
structure Change where
  key : String
  asked : Option String
deriving DecidableEq

/-- Ask a store for a change. -/
def change (s : SettingsFile) (f : Files) (c : Change) : SettingsFile × Files × Bool :=
  match c.asked with
  | some value => s.set f c.key value
  | none => s.remove f c.key

/-- The change is made in a dictionary. -/
def Change.apply (c : Change) (d : Dict String) : Dict String :=
  match c.asked with
  | some value => d.insert c.key value
  | none => d.erase c.key

theorem Change.get?_apply (c : Change) (d : Dict String) (key : String) :
    (c.apply d).get? key = if key = c.key then c.asked else d.get? key := by
  unfold apply
  cases hasked : c.asked with
  | some value => exact Dict.get?_insert d c.key key value
  | none => exact Dict.get?_erase d c.key key

/-- A change is none where the dictionary is as asked. -/
theorem Change.apply_eq_self_iff {c : Change} {d : Dict String} :
    c.apply d = d ↔ d.get? c.key = c.asked := by
  constructor
  · intro h
    have hkey := c.get?_apply d c.key
    rw [if_pos rfl, h] at hkey
    exact hkey
  · intro h
    apply Dict.ext_get?
    intro key
    rw [c.get?_apply]
    split
    · rename_i hkey
      rw [hkey, h]
    · rfl

/-- The stores answer alike whatever key they are asked for. -/
def SameAnswers (s t : SettingsFile) : Prop :=
  ∀ key, s.get? key = t.get? key ∧ s.contains key = t.contains key

theorem sameAnswers_iff {s t : SettingsFile} : s.SameAnswers t ↔ s.values = t.values := by
  constructor
  · intro h
    exact Dict.ext_get? fun key => (h key).1
  · intro h key
    unfold get? contains
    rw [h]
    exact ⟨rfl, rfl⟩

section Changing

variable {s s' : SettingsFile} {f g : Files} {c : Change} {ok : Bool}

/-- What writing the settings leaves: the settings, if it succeeds, and else what was there. -/
theorem load_persist_cases (s : SettingsFile) (f : Files) :
    (s.persist f).2 = true ∧ load (s.persist f).1 s.path = s ∨
    (s.persist f).2 = false ∧ load (s.persist f).1 s.path = load f s.path := by
  cases hsaved : Store.saveBelow f s.path.parent? s.path s.values with
  | mk g fault =>
    cases fault with
    | none =>
      have hwritten := load_persist (congrArg Prod.snd hsaved)
      exact .inl ⟨hwritten.2, hwritten.1⟩
    | some e =>
      have hfile := Store.loadStrict_of_saveBelow_fault hsaved
      unfold persist
      rw [hsaved]
      exact .inr ⟨rfl, congrArg (SettingsFile.mk s.path) hfile⟩

/-- **A change**: in memory it is made, whatever the answer.  The file holds the settings
afterwards if the answer is that it was written, and else what it held before. -/
theorem change_eq (h : s.change f c = (s', g, ok)) :
    s' = ⟨s.path, c.apply s.values⟩ ∧ load g s.path = if ok then s' else load f s.path := by
  have hstored : ∀ t : SettingsFile, t.path = s.path → (t, t.persist f) = (s', g, ok) →
      s' = t ∧ load g s.path = if ok then s' else load f s.path := by
    rintro t hpath heq
    obtain ⟨rfl, hpersist⟩ := Prod.mk.inj heq
    refine ⟨rfl, ?_⟩
    rcases load_persist_cases t f with ⟨hok, hload⟩ | ⟨hok, hload⟩
    · rw [hpersist] at hok hload
      rw [← hpath, hload, show ok = true from hok, if_pos rfl]
    · rw [hpersist] at hok hload
      rw [← hpath, hload, show ok = false from hok, if_neg Bool.false_ne_true]
  unfold change at h
  unfold Change.apply
  cases hasked : c.asked with
  | some value =>
    rw [hasked] at h
    exact hstored _ rfl h
  | none =>
    rw [hasked] at h
    dsimp only at h ⊢
    unfold remove at h
    split at h
    · exact hstored _ rfl h
    · rename_i hnot
      cases h
      -- nothing is there to be erased
      have hnone : s.values.get? c.key = c.asked := by
        rw [hasked]
        exact Dict.contains_eq_false_iff.1 (Bool.eq_false_iff.2 hnot)
      have hsame := Change.apply_eq_self_iff.2 hnone
      unfold Change.apply at hsame
      rw [hasked] at hsame
      exact ⟨congrArg (SettingsFile.mk s.path) hsame.symm, rfl⟩

/-- **A change that is refused is held all the same.**  Afterwards its key is answered with what
was asked for and every other key as before, while opening the file gives what it gave before.  So
the store answers as it did only if it did so already; and if it held what opening the file gives,
it does not any more, unless nothing was to be changed. -/
theorem change_unwritten (h : s.change f c = (s', g, false)) :
    (∀ key, s'.get? key = (if key = c.key then c.asked else s.get? key) ∧
      s'.contains key = (s'.get? key).isSome) ∧
    load g s'.path = load f s.path ∧
    (s'.SameAnswers s ↔ s.get? c.key = c.asked) ∧
    (s = load f s.path → (s' = load g s'.path ↔ s.get? c.key = c.asked)) := by
  obtain ⟨rfl, hload⟩ := change_eq h
  rw [if_neg Bool.false_ne_true] at hload
  have hsame : c.apply s.values = s.values ↔ s.get? c.key = c.asked := Change.apply_eq_self_iff
  refine ⟨fun key => ⟨c.get?_apply s.values key, rfl⟩, hload, sameAnswers_iff.trans hsame, ?_⟩
  intro hopened
  rw [show load g s.path = s from hload.trans hopened.symm]
  refine Iff.trans ⟨fun heq => congrArg values heq, fun heq => ?_⟩ hsame
  exact congrArg (SettingsFile.mk s.path) heq

/-- A file stands where the directory of the settings should be. -/
def blocked : Files := ⟨[(["block"], .file (Text.encode "x"))], []⟩

/-- A theme is refused. -/
theorem theme_refused :
    let s := load blocked ⟨"block/settings.json"⟩
    let dark : Change := ⟨"theme", some "dark"⟩
    let t := (s.change blocked dark).1
    let g := (s.change blocked dark).2.1
    s.change blocked dark = (t, g, false) ∧
      t.get? "theme" = some "dark" ∧ load g t.path = s ∧ ¬ t.SameAnswers s ∧ t ≠ load g t.path := by
  intro s dark t g
  have hanswer : (s.change blocked dark).2.2 = false := by decide +kernel
  have h : s.change blocked dark = (t, g, false) := Prod.ext rfl (Prod.ext rfl hanswer)
  have hbefore : s.get? dark.key ≠ dark.asked := by decide +kernel
  obtain ⟨hanswers, hload, hsame, hopened⟩ := change_unwritten h
  have hdiffers : ¬ t.SameAnswers s := fun halike => hbefore (hsame.1 halike)
  have hbehind : t ≠ load g t.path := fun hheld => hbefore ((hopened rfl).1 hheld)
  exact ⟨h, (hanswers "theme").1, hload, hdiffers, hbehind⟩

/-- **A value that was refused is given**, and one that could not be forgotten is gone. -/
theorem refused_but_held :
    let s := load blocked ⟨"block/settings.json"⟩
    let set := s.set blocked "k" "v"
    let removed := set.1.remove set.2.1 "k"
    set.2.2 = false ∧ s.get? "k" = none ∧ set.1.get? "k" = some "v" ∧
      removed.2.2 = false ∧ removed.1.get? "k" = none ∧
      (load set.2.1 set.1.path).get? "k" = none := by
  decide +kernel

end Changing

/-! ## Runs of changes -/

/-- The changes are asked for one after the other; with each is the answer that it was given. -/
inductive Changes : SettingsFile → Files → List (Change × Bool) → SettingsFile → Files → Prop
  | done (s : SettingsFile) (f : Files) : Changes s f [] s f
  | change {s s₁ s' : SettingsFile} {f f₁ g : Files} {c : Change} {ok : Bool}
      {rest : List (Change × Bool)} (hfirst : s.change f c = (s₁, f₁, ok))
      (hrest : Changes s₁ f₁ rest s' g) : Changes s f ((c, ok) :: rest) s' g

/-- The changes that were refused since the last one that was written, after one more. -/
def refusedNext (refused : List Change) (answered : Change × Bool) : List Change :=
  if answered.2 then [] else refused ++ [answered.1]

/-- The changes that were refused since the last one that was written. -/
def refusedLast (answers : List (Change × Bool)) : List Change := answers.foldl refusedNext []

/-- The store holds what opening its file gives, with some changes made in it. -/
def Behind (s : SettingsFile) (f : Files) (refused : List Change) : Prop :=
  s.values = refused.foldl (fun d c => c.apply d) (load f s.path).values

section Running

variable {s s' : SettingsFile} {f g : Files} {refused : List Change}

theorem behind_load (f : Files) (path : Path) : (load f path).Behind f [] := rfl

/-- One more change: written, the file has caught up; refused, it is one more behind. -/
theorem Behind.change {c : Change} {ok : Bool} (hbehind : s.Behind f refused)
    (h : s.change f c = (s', g, ok)) : s'.Behind g (refusedNext refused (c, ok)) := by
  obtain ⟨rfl, hload⟩ := change_eq h
  unfold Behind refusedNext at *
  dsimp only
  rw [hload]
  cases ok with
  | true => rfl
  | false =>
    rw [if_neg Bool.false_ne_true, if_neg Bool.false_ne_true, List.foldl_append, ← hbehind]
    rfl

theorem Changes.behind_foldl {answers : List (Change × Bool)} (hrun : Changes s f answers s' g)
    (hbehind : s.Behind f refused) : s'.Behind g (answers.foldl refusedNext refused) := by
  induction hrun generalizing refused with
  | done s f => exact hbehind
  | change hfirst _ ih => exact ih (hbehind.change hfirst)

/-- **Memory and file differ by the changes that were refused.**  After any changes of a store that
was opened, the store holds what opening the file gives then, with the changes made in it that were
refused since the last one that was written. -/
theorem Changes.behind {answers : List (Change × Bool)}
    (hrun : Changes (load f s.path) f answers s' g) : s'.Behind g (refusedLast answers) :=
  hrun.behind_foldl (behind_load f s.path)

end Running

end SettingsFile

end EditorPlugins
