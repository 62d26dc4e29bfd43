/-
  Settings in a file answer like settings in memory.

  The program has two stores of settings for a host: values in memory that go away with the
  session, and a file that is read when the store is opened and written after every change.  Both
  are asked by the same calls, and a caller cannot tell them apart: as long as what has to be
  written is written, and nobody else writes the file, every call gets the same answer from both
  (`SettingsRun`, a run of such calls).  Between any two calls the file may be opened again.

    program   `World.settingsOf`, `World.setSetting`, `World.removeSetting`, `SettingsFile.load`
    spec      the same calls of a host whose settings are in memory
    crux      `Agrees.call`: what the store holds is what its file holds, and what memory holds

  Main statement: `SettingsRun.refines_memory`.
-/
import EditorPlugins.Proofs.Files.Tree
import EditorPlugins.Proofs.Machine.Stores

namespace EditorPlugins

/-- What can be asked of the settings of a host. -/
inductive StoreCall where
  | get (key : String)
  | has (key : String)
  | set (key value : String)
  | remove (key : String)
  /-- Open the store again.  Values in memory have nothing to open. -/
  | reopen
deriving DecidableEq

/-- What is answered. -/
inductive StoreAnswer where
  | value (v : Option String)
  | flag (b : Bool)
  | nothing
deriving DecidableEq

/-- Where there is no file there are no settings. -/
theorem Store.loadStrict_of_not_isFile {f : Files} {path : Path} (h : f.isFile path = false) :
    Store.loadStrict f path = ∅ := by
  obtain ⟨e, he⟩ := Files.readText_of_not_isFile h
  unfold Store.loadStrict
  rw [he]

namespace SettingsFile

/-- Settings that were written are what their file holds. -/
theorem load_persist {s : SettingsFile} {f : Files}
    (h : (Store.saveBelow f s.path.parent? s.path s.values).2 = none) :
    load (s.persist f).1 s.path = s ∧ (s.persist f).2 = true := by
  have hloaded := Store.loadStrict_saveBelow h
  unfold persist
  cases hsaved : Store.saveBelow f s.path.parent? s.path s.values with
  | mk g fault =>
    rw [hsaved] at h hloaded
    subst h
    exact ⟨congrArg (SettingsFile.mk s.path) hloaded, rfl⟩

/-- The settings that a call has to write. -/
def changed? (s : SettingsFile) : StoreCall → Option SettingsFile
  | .set key value => some { s with values := s.values.insert key value }
  | .remove key => if s.contains key then some { s with values := s.values.erase key } else none
  | _ => none

end SettingsFile

namespace World

/-! ## Calls -/

/-- Open the settings of a host again. -/
def reopenSettings (w : World) (id : HostId) : World :=
  match (w.host id).settings with
  | .memory => w
  | .file s => w.modifyHost id (fun h => { h with settings := .file (.load w.files s.path) })

/-- Ask the settings of a host. -/
def answerSettings (w : World) (id : HostId) : StoreCall → World × StoreAnswer
  | .get key => (w, .value ((w.settingsOf id).get? key))
  | .has key => (w, .flag ((w.settingsOf id).contains key))
  | .set key value => ((w.setSetting id key value).1, .flag (w.setSetting id key value).2)
  | .remove key => ((w.removeSetting id key).1, .flag (w.removeSetting id key).2)
  | .reopen => (w.reopenSettings id, .nothing)

/-- Ask the settings of a host one call after another. -/
def answerAll (w : World) (id : HostId) : List StoreCall → World × List StoreAnswer
  | [] => (w, [])
  | c :: calls =>
    let (w₁, a) := w.answerSettings id c
    let (w₂, answers) := w₁.answerAll id calls
    (w₂, a :: answers)

/-- The files take what a call has to write. -/
def canWrite (w : World) (id : HostId) (c : StoreCall) : Bool :=
  match (w.host id).settings with
  | .memory => true
  | .file s => (s.changed? c).all fun changed =>
    (Store.saveBelow w.files changed.path.parent? changed.path changed.values).2.isNone

/-- Settings in a file are asked some calls and give some answers.  All that has to be written is
written.  Between two calls anything may happen that leaves the store and the text in its file. -/
inductive SettingsRun (id : HostId) (path : Path) :
    World → List StoreCall → List StoreAnswer → World → Prop
  | done (w : World) : SettingsRun id path w [] [] w
  | call {w w' : World} {c : StoreCall} {calls : List StoreCall}
      {answers : List StoreAnswer} (hwritten : w.canWrite id c = true)
      (hrest : SettingsRun id path (w.answerSettings id c).1 calls answers w') :
      SettingsRun id path w (c :: calls) ((w.answerSettings id c).2 :: answers) w'
  | elsewhere {w w₁ w' : World} {calls : List StoreCall} {answers : List StoreAnswer}
      (hsettings : (w₁.host id).settings = (w.host id).settings)
      (htext : w₁.files.readText path = w.files.readText path)
      (hrest : SettingsRun id path w₁ calls answers w') :
      SettingsRun id path w calls answers w'

/-! ## What the two stores hold -/

/-- The store of one host holds what its file holds, and that is what another host, perhaps of
another session, holds in memory. -/
structure Agrees (w : World) (id : HostId) (path : Path) (v : World) (mem : HostId) : Prop where
  opened : (w.host id).settings = .file (SettingsFile.load w.files path)
  memory : (v.host mem).settings = .memory
  same : (SettingsFile.load w.files path).values = v.settings

section Agreeing

variable {w v : World} {id mem : HostId} {path : Path}

/-- Only a host that is there has a store in a file. -/
theorem lt_of_settings_eq_file {s : SettingsFile} (h : (w.host id).settings = .file s) :
    id < w.hosts.size := by
  refine Nat.lt_of_not_le fun hle => ?_
  unfold host at h
  rw [Array.getElem?_eq_none hle] at h
  cases h

theorem Agrees.settingsOf_eq (h : w.Agrees id path v mem) : w.settingsOf id = v.settingsOf mem := by
  unfold settingsOf
  rw [h.opened, h.memory]
  exact h.same

/-- Other files, and a store that was opened on them or written to them. -/
theorem Agrees.stored (h : w.Agrees id path v mem) {g : Files} {s : SettingsFile}
    {d : Dict String} (hs : SettingsFile.load g path = s) (hd : s.values = d) :
    (({ w with files := g } : World).modifyHost id fun host =>
      { host with settings := .file s }).Agrees id path { v with settings := d } mem := by
  have hid : id < ({ w with files := g } : World).hosts.size := lt_of_settings_eq_file h.opened
  subst hs
  refine ⟨?_, h.memory, hd⟩
  rw [host_modifyHost _ _ _ _ hid, if_pos rfl]
  rfl

/-- **One call**: both stores give the same answer, and hold the same afterwards. -/
theorem Agrees.call (h : w.Agrees id path v mem) {c : StoreCall}
    (hwritten : w.canWrite id c = true) :
    (w.answerSettings id c).2 = (v.answerSettings mem c).2 ∧
    (w.answerSettings id c).1.Agrees id path (v.answerSettings mem c).1 mem := by
  -- the settings that the call has to write are written
  have hpersist : ∀ s, (SettingsFile.load w.files path).changed? c = some s →
      SettingsFile.load (s.persist w.files).1 s.path = s ∧ (s.persist w.files).2 = true := by
    intro s hs
    unfold canWrite at hwritten
    simp only [h.opened, hs, Option.all_some, Option.isNone_iff_eq_none] at hwritten
    exact SettingsFile.load_persist hwritten
  cases c with
  | get key => exact ⟨by simp only [answerSettings, h.settingsOf_eq], h⟩
  | has key => exact ⟨by simp only [answerSettings, h.settingsOf_eq], h⟩
  | set key value =>
    obtain ⟨hload, hok⟩ := hpersist _ rfl
    simp only [answerSettings, setSetting, h.opened, h.memory, SettingsFile.set]
    exact ⟨congrArg _ hok, h.stored hload (congrArg (·.insert key value) h.same)⟩
  | remove key =>
    have hcontains : (SettingsFile.load w.files path).contains key = v.settings.contains key :=
      congrArg (·.contains key) h.same
    simp only [answerSettings, removeSetting, h.opened, h.memory, SettingsFile.remove]
    cases hthere : (SettingsFile.load w.files path).contains key with
    | true =>
      obtain ⟨hload, hok⟩ := hpersist _ (if_pos hthere)
      rw [if_pos rfl]
      exact ⟨congrArg _ (hok.trans (hthere.symm.trans hcontains)),
        h.stored hload (congrArg (·.erase key) h.same)⟩
    | false =>
      -- nothing is written, and nothing is there to be erased
      have herase : v.settings.erase key = v.settings := by
        refine Dict.ext_get? fun k => ?_
        rw [Dict.get?_erase]
        split
        · rename_i hk
          exact (Dict.contains_eq_false_iff.1 (hk ▸ hcontains.symm.trans hthere)).symm
        · rfl
      rw [if_neg Bool.false_ne_true]
      exact ⟨congrArg _ (hthere.symm.trans hcontains), h.stored rfl (h.same.trans herase.symm)⟩
  | reopen =>
    refine ⟨rfl, ?_⟩
    simp only [answerSettings, reopenSettings, h.opened, h.memory]
    exact h.stored rfl h.same

/-- What happens elsewhere. -/
theorem Agrees.elsewhere (h : w.Agrees id path v mem) {w₁ : World}
    (hsettings : (w₁.host id).settings = (w.host id).settings)
    (htext : w₁.files.readText path = w.files.readText path) : w₁.Agrees id path v mem := by
  have hload : SettingsFile.load w₁.files path = SettingsFile.load w.files path := by
    unfold SettingsFile.load Store.loadStrict
    rw [htext]
  exact ⟨by rw [hsettings, h.opened, hload], h.memory, by rw [hload, h.same]⟩

end Agreeing

/-! ## Runs -/

/-- Whatever is asked, the answers are the same, and the stores hold the same in the end. -/
theorem SettingsRun.agrees {id mem : HostId} {path : Path} {w w' : World}
    {calls : List StoreCall} {answers : List StoreAnswer}
    (hrun : SettingsRun id path w calls answers w') {v : World} (h : w.Agrees id path v mem) :
    answers = (v.answerAll mem calls).2 ∧ w'.Agrees id path (v.answerAll mem calls).1 mem := by
  induction hrun generalizing v with
  | done w => exact ⟨rfl, h⟩
  | call hwritten hrest ih =>
    obtain ⟨hanswer, hnext⟩ := h.call hwritten
    obtain ⟨hanswers, hend⟩ := ih hnext
    exact ⟨congrArg₂ List.cons hanswer hanswers, hend⟩
  | elsewhere hsettings htext hrest ih => exact ih (h.elsewhere hsettings htext)

/-- A missing file is opened as an empty store. -/
theorem loadStrict_of_missing {f : Files} {path : Path} (h : f.exists? path = false) :
    Store.loadStrict f path = ∅ := by
  apply Store.loadStrict_of_not_isFile
  unfold Files.exists? at h
  unfold Files.isFile
  cases hlocate : f.locate path with
  | error e => rfl
  | ok s =>
    rw [hlocate] at h
    cases s with
    | file | directory => cases h
    | missing => rfl

/-- **Settings in a file refine settings in memory.**  A store that was opened on a missing file
gives to all calls the answers that an empty store in memory gives.  After every one of them,
opening the file gives the store as it is then, with the values that memory holds. -/
theorem SettingsRun.refines_memory {id mem : HostId} {path : Path} {w w' v : World}
    {calls : List StoreCall} {answers : List StoreAnswer}
    (hmissing : w.files.exists? path = false)
    (hopened : (w.host id).settings = .file (SettingsFile.load w.files path))
    (hmemory : (v.host mem).settings = .memory) (hempty : v.settings = ∅)
    (hrun : SettingsRun id path w calls answers w') :
    answers = (v.answerAll mem calls).2 ∧
    (w'.host id).settings = .file (SettingsFile.load w'.files path) ∧
    (SettingsFile.load w'.files path).values = (v.answerAll mem calls).1.settings := by
  have hstart : w.Agrees id path v mem :=
    ⟨hopened, hmemory, (loadStrict_of_missing hmissing).trans hempty.symm⟩
  obtain ⟨hanswers, hend⟩ := hrun.agrees hstart
  exact ⟨hanswers, hend.opened, hend.same⟩

/-! ## A run -/

/-- All that some calls have to write is written. -/
def canWriteAll (w : World) (id : HostId) : List StoreCall → Bool
  | [] => true
  | c :: calls => w.canWrite id c && (w.answerSettings id c).1.canWriteAll id calls

/-- Calls one after another, with nothing between them. -/
theorem SettingsRun.of_canWriteAll {id : HostId} (path : Path) {calls : List StoreCall}
    {w : World} (h : w.canWriteAll id calls = true) :
    SettingsRun id path w calls (w.answerAll id calls).2 (w.answerAll id calls).1 := by
  induction calls generalizing w with
  | nil => exact .done w
  | cons c calls ih =>
    obtain ⟨hfirst, hrest⟩ := Bool.and_eq_true_iff.1 h
    exact .call hfirst (ih hrest)

/-- A session in an empty directory, with one host that keeps its settings as told. -/
def keeping (settingsFile : Option Path) : World :=
  let session := World.start ⟨[], []⟩ { settingsFile := settingsFile } default false
  { session with hosts := #[session.profile.attach session.files] }

/-- A theme is stored in a file that is not there yet.  The store is opened again and asked for the
theme.  Then the theme is taken away, and once more. -/
theorem theme_kept :
    let path : Path := ⟨"state/settings.json"⟩
    let calls : List StoreCall :=
      [.set "theme" "dark \"☾\"\n", .reopen, .get "theme", .remove "theme", .remove "theme"]
    let answers : List StoreAnswer :=
      [.flag true, .nothing, .value (some "dark \"☾\"\n"), .flag true, .flag false]
    (keeping (some path)).files.exists? path = false ∧
    ∃ w', SettingsRun 0 path (keeping (some path)) calls answers w' ∧
      ((keeping none).answerAll 0 calls).2 = answers ∧
      (w'.host 0).settings = .file (SettingsFile.load w'.files path) ∧
      (SettingsFile.load w'.files path).values = ((keeping none).answerAll 0 calls).1.settings := by
  intro path calls answers
  have hmissing : (keeping (some path)).files.exists? path = false := by decide +kernel
  have hanswers : ((keeping none).answerAll 0 calls).2 = answers := by decide +kernel
  -- before the first call the session observes something, which is not about settings
  let w := (keeping (some path)).observe (.raised default)
  have hwritten : w.canWriteAll 0 calls = true := by decide +kernel
  have hsettings : (w.host 0).settings = ((keeping (some path)).host 0).settings := rfl
  have htext : w.files.readText path = (keeping (some path)).files.readText path := rfl
  have hrun := SettingsRun.elsewhere hsettings htext (.of_canWriteAll path hwritten)
  have hopened : ((keeping (some path)).host 0).settings
      = .file (SettingsFile.load (keeping (some path)).files path) := rfl
  have hmemory : ((keeping none).host 0).settings = .memory := rfl
  have hempty : (keeping none).settings = ∅ := rfl
  obtain ⟨hsame, hend, hvalues⟩ := hrun.refines_memory hmissing hopened hmemory hempty
  rw [hsame, hanswers] at hrun
  exact ⟨hmissing, _, hrun, hanswers, hend, hvalues⟩

end World

end EditorPlugins
