/-
  The same code in two worlds.

  What code does, as long as it calls no other plugin and has no operation act on plugins, depends
  on its own sandbox and on what all share: files, settings and collaborators.  It does not depend
  on the number of its sandbox, on the other sandboxes, on the registry, or on what was observed
  before.  Two runs of the same code from worlds that agree in the former (`World.Twin`) go on in
  lockstep: after each step the code is the same, waits for the same, and the worlds still agree.

  Main statement: `Twins.steps`, by one lemma for each part of a step.
-/
import EditorPlugins.Proofs.Machine.Isolation

namespace EditorPlugins

open Script (Value Raised Program Request Heap)
open World (Results)

/-- For the code of the sandbox numbered `i` in the first world and `j` in the second, the worlds
are the same. -/
structure World.Twin (i j : SandboxId) (w v : World) : Prop where
  files : v.files = w.files
  settings : v.settings = w.settings
  hosts : v.hosts = w.hosts
  sandbox : v.sandbox j = w.sandbox i
  first : i < w.sandboxes.size
  second : j < v.sandboxes.size

namespace World.Twin

variable {i j : SandboxId} {w v : World}

/-! ## Changes -/

theorem host (h : w.Twin i j v) (id : HostId) : v.host id = w.host id := by
  unfold World.host
  rw [h.hosts]

theorem modifySandbox (h : Twin i j w v) (f : Sandbox → Sandbox) :
    Twin i j (w.modifySandbox i f) (v.modifySandbox j f) where
  files := h.files
  settings := h.settings
  hosts := h.hosts
  sandbox := by
    rw [sandbox_modifySandbox v f h.second, sandbox_modifySandbox w f h.first, h.sandbox]
  first := Nat.lt_of_lt_of_eq h.first (Array.size_modify ..).symm
  second := Nat.lt_of_lt_of_eq h.second (Array.size_modify ..).symm

theorem withFiles (h : Twin i j w v) (f : Files) :
    Twin i j { w with files := f } { v with files := f } :=
  ⟨rfl, h.settings, h.hosts, h.sandbox, h.first, h.second⟩

theorem withSettings (h : Twin i j w v) (d : Dict String) :
    Twin i j { w with settings := d } { v with settings := d } :=
  ⟨h.files, rfl, h.hosts, h.sandbox, h.first, h.second⟩

theorem modifyHost (h : Twin i j w v) (id : HostId) (f : Host → Host) :
    Twin i j (w.modifyHost id f) (v.modifyHost id f) where
  files := h.files
  settings := h.settings
  hosts := congrArg (·.modify id f) h.hosts
  sandbox := h.sandbox
  first := h.first
  second := h.second

/-- What is observed need not be the same. -/
theorem observe (h : Twin i j w v) (o o' : Observation) :
    Twin i j (w.observe o) (v.observe o') :=
  ⟨h.files, h.settings, h.hosts, h.sandbox, h.first, h.second⟩

/-! ## Actions -/

theorem settingsOf (h : Twin i j w v) (id : HostId) : v.settingsOf id = w.settingsOf id := by
  unfold World.settingsOf
  rw [h.host, h.settings]

theorem setSetting (h : Twin i j w v) (id : HostId) (key value : String) :
    Twin i j (w.setSetting id key value).1 (v.setSetting id key value).1 ∧
      (v.setSetting id key value).2 = (w.setSetting id key value).2 := by
  unfold World.setSetting
  rw [h.host]
  cases (w.host id).settings with
  | memory =>
    dsimp only
    rw [h.settings]
    exact ⟨h.withSettings _, rfl⟩
  | file s =>
    dsimp only
    rw [h.files]
    exact ⟨(h.withFiles _).modifyHost id _, rfl⟩

theorem removeSetting (h : Twin i j w v) (id : HostId) (key : String) :
    Twin i j (w.removeSetting id key).1 (v.removeSetting id key).1 ∧
      (v.removeSetting id key).2 = (w.removeSetting id key).2 := by
  unfold World.removeSetting
  rw [h.host]
  cases (w.host id).settings with
  | memory =>
    dsimp only
    rw [h.settings]
    exact ⟨h.withSettings _, rfl⟩
  | file s =>
    dsimp only
    rw [h.files]
    exact ⟨(h.withFiles _).modifyHost id _, rfl⟩

theorem changeFiles (h : Twin i j w v) (r : Except FileFault Files) :
    Twin i j (Action.changeFiles w r).1 (Action.changeFiles v r).1 ∧
      (Action.changeFiles v r).2 = (Action.changeFiles w r).2 := by
  cases r with
  | ok f => exact ⟨h.withFiles f, rfl⟩
  | error _ => exact ⟨h, rfl⟩

/-- **An action does the same for the sandbox and to what all share, with the same results.** -/
theorem run (h : Twin i j w v) (a : Action) :
    Twin i j (a.run w i).1 (a.run v j).1 ∧ (a.run v j).2 = (a.run w i).2 := by
  cases a with
  | describePlugin | getConfig | getRootPath => exact ⟨h, by simp only [Action.run, h.sandbox]⟩
  | callPlugin | baseName | joinPaths => exact ⟨h, rfl⟩
  | saveConfig config => exact ⟨h.modifySandbox _, rfl⟩
  | registerCommand command title f => exact ⟨h.modifySandbox _, rfl⟩
  | registerEvent name f => exact ⟨h.modifySandbox _, rfl⟩
  | log isError text => exact ⟨h.observe _ _, rfl⟩
  | message title text => exact ⟨h.observe _ _, rfl⟩
  | confirm title text => exact ⟨h.observe _ _, by simp only [Action.run, h.sandbox, h.host]⟩
  | input label default => exact ⟨h.observe _ _, by simp only [Action.run, h.sandbox, h.host]⟩
  | select items index => exact ⟨h.observe _ _, by simp only [Action.run, h.sandbox, h.host]⟩
  | getClipboard | currentFile => exact ⟨h, by simp only [Action.run, h.sandbox, h.host]⟩
  | setClipboard text =>
    simp only [Action.run, h.sandbox, h.host]
    exact ⟨(h.observe _ _).modifyHost _ _, trivial⟩
  | read | «exists» | isFile | isDirectory | list | realPath | dirName =>
    exact ⟨h, by simp only [Action.run, h.sandbox, h.files]⟩
  | getSetting | hasSetting => exact ⟨h, by simp only [Action.run, h.sandbox, h.settingsOf]⟩
  | write path bytes | append path bytes =>
    simp only [Action.run, h.sandbox, h.files]
    exact h.changeFiles _
  | makeDirectory path =>
    simp only [Action.run, h.sandbox, h.files]
    exact ⟨h.withFiles _, trivial⟩
  | setSetting key value =>
    obtain ⟨hworld, hok⟩ := h.setSetting (w.sandbox i).host ((w.sandbox i).settingsKey key) value
    simp only [Action.run, h.sandbox]
    exact ⟨hworld, by rw [hok]⟩
  | removeSetting key =>
    obtain ⟨hworld, hok⟩ := h.removeSetting (w.sandbox i).host ((w.sandbox i).settingsKey key)
    simp only [Action.run, h.sandbox]
    exact ⟨hworld, by rw [hok]⟩
  | openFile path | saveFile | closeFile path =>
    simp only [Action.run, h.sandbox, h.host]
    split
    · exact ⟨h, rfl⟩
    · exact ⟨(h.observe _ _).modifyHost _ _, rfl⟩

/-! ## Requests -/

theorem onHeap (h : Twin i j w v) (f : Heap → Results × Heap) :
    Twin i j (w.onHeap i f).1 (v.onHeap j f).1 ∧ (v.onHeap j f).2 = (w.onHeap i f).2 := by
  simp only [World.onHeap, h.sandbox]
  exact ⟨h.modifySandbox _, trivial⟩

/-- Both requests are answered on the spot, in the same way, or neither is. -/
def Served (i j : SandboxId) : Option (World × Results) → Option (World × Results) → Prop :=
  Option.Rel fun a b => Twin i j a.1 b.1 ∧ b.2 = a.2

theorem callLibrary (h : Twin i j w v) (name : String) (args : List Value) :
    Served i j (w.callLibrary i name args) (v.callLibrary j name args) := by
  unfold World.callLibrary
  split
  · exact .some ⟨h.observe _ _, rfl⟩
  · rw [h.sandbox]
    cases Script.Library.act? (w.sandbox i).memoryLimit name args with
    | none => exact .none
    | some a => exact .some (h.onHeap a.on)

/-- **A request is answered in the same way.** -/
theorem serve (h : Twin i j w v) (q : Request) : Served i j (w.serve i q) (v.serve j q) := by
  cases q with
  | readGlobal | lookUp | field | length | concat | «replicate» =>
    simp only [World.serve, h.sandbox]
    exact .some ⟨h, rfl⟩
  | writeGlobal name x => exact .some ⟨h.modifySandbox _, rfl⟩
  | makeTable items fields =>
    simp only [World.serve]
    cases Script.Table.ofParts items fields with
    | ok t => exact .some (h.onHeap _)
    | error r => exact .some ⟨h, rfl⟩
  | makeCycle =>
    simp only [World.serve, h.sandbox]
    exact .some (h.onHeap _)
  | makeFunction | makeThread | makeUserdata => exact .some (h.onHeap _)
  | «show» x => exact .some ⟨h.observe _ _, rfl⟩
  | showOutcome r => cases r <;> exact .some ⟨h.observe _ _, rfl⟩
  | require | host => exact .none
  | call f args =>
    cases f with
    | function f =>
      cases f with
      | script n body => exact .none
      | library name => exact h.callLibrary name args
      | capability c =>
        simp only [World.serve, h.sandbox]
        cases World.requestedAction (w.sandbox i) c args with
        | error e => exact .some (h.onHeap _)
        | ok a =>
          obtain ⟨hworld, hresults⟩ := h.run a
          cases a with
          | callPlugin => exact .none
          | _ =>
            dsimp only
            rw [hresults]
            exact .some (hworld.onHeap _)
    | _ => exact .some ⟨h, rfl⟩

end World.Twin

/-! ## Frames -/

/-- The same frame for code in another sandbox. -/
def Frame.movedTo (j : SandboxId) : Frame → Frame
  | .code depth _ next => .code depth j next
  | .module _ name => .module j name
  | .hostStep _ next => .hostStep j next
  | f => f

theorem Frame.depth_movedTo (j : SandboxId) {B B' : List Frame}
    (hdepth : Frame.depth B' = Frame.depth B) (new : List Frame) :
    Frame.depth (new.map (movedTo j) ++ B') = Frame.depth (new ++ B) := by
  induction new with
  | nil => exact hdepth
  | cons f new ih =>
    cases f with
    | module => exact ih
    | code | entry | dispatch | pluginCall | hostStep | scan | finalization => rfl

namespace Machine

/-- The same code, in its sandbox of either machine, in worlds that are the same for it.  It waits
for the same things above the frames of `B` and `B'`; the operations that are answered meanwhile may
have different answers, which code does not see. -/
inductive Twins (i j : SandboxId) (B B' : List Frame) : Machine → Machine → Prop where
  | running {w v : World} {p : Program (List Value)} {new : List Frame} (hw : w.Twin i j v)
      (hnew : ∀ f ∈ new, f.IsCodeOf i) :
      Twins i j B B' ⟨w, .running i p, new ++ B⟩
        ⟨v, .running j p, new.map (Frame.movedTo j) ++ B'⟩
  | ended {w v : World} {r : Except Raised (List Value)} {new : List Frame} (hw : w.Twin i j v)
      (hnew : ∀ f ∈ new, f.IsCodeOf i) :
      Twins i j B B' ⟨w, .ended r, new ++ B⟩ ⟨v, .ended r, new.map (Frame.movedTo j) ++ B'⟩
  | starting {w v : World} {op : Operation} {new : List Frame}
      {next : Except Raised (List Value) → Program (List Value)} (hw : w.Twin i j v)
      (hnew : ∀ f ∈ new, f.IsCodeOf i) :
      Twins i j B B' ⟨w, .starting op, .hostStep i next :: (new ++ B)⟩
        ⟨v, .starting op, .hostStep j next :: (new.map (Frame.movedTo j) ++ B')⟩
  | answered {w v : World} {a a' : Answer} {new : List Frame}
      {next : Except Raised (List Value) → Program (List Value)} (hw : w.Twin i j v)
      (hnew : ∀ f ∈ new, f.IsCodeOf i) :
      Twins i j B B' ⟨w, .answered a, .hostStep i next :: (new ++ B)⟩
        ⟨v, .answered a', .hostStep j next :: (new.map (Frame.movedTo j) ++ B')⟩
  | leaving {w : World} {op : Operation} {frames : List Frame} {m' : Machine}
      (h : op.actsOnPlugins = true) : Twins i j B B' ⟨w, .starting op, frames⟩ m'

section Steps

variable {i j : SandboxId} {B B' : List Frame} {w v : World} {new : List Frame}
  (hdepth : Frame.depth B' = Frame.depth B) (hw : w.Twin i j v)
  (hnew : ∀ f ∈ new, f.IsCodeOf i)
  (next : Except Raised (List Value) → Program (List Value))

include hdepth hw hnew

/-! ## Calls -/

theorem callCode_twins (p : Program (List Value)) {waiting : List Frame}
    (hwaiting : ∀ f ∈ waiting, f.IsCodeOf i) :
    Twins i j B B' (callCode w i p waiting next (new ++ B))
      (callCode v j p (waiting.map (Frame.movedTo j)) next
        (new.map (Frame.movedTo j) ++ B')) := by
  unfold callCode
  rw [Frame.depth_movedTo j hdepth, hw.sandbox]
  dsimp only
  cases refusal? (w.sandbox i).memoryLimit (Frame.depth (new ++ B) + 1) with
  | some r => exact .running hw hnew
  | none =>
    -- all that is pushed is code of the sandbox
    have hpushed : ∀ f ∈ waiting ++ .code (Frame.depth (new ++ B) + 1) i next :: new,
        f.IsCodeOf i := by
      intro f hf
      rcases List.mem_append.1 hf with hf | hf
      · exact hwaiting f hf
      · rcases List.mem_cons.1 hf with rfl | hf
        · exact .inl ⟨_, _, rfl⟩
        · exact hnew f hf
    have hrunning : Twins i j B B' _ _ := .running (p := p) hw hpushed
    rw [List.map_append, List.map_cons, List.append_assoc, List.append_assoc] at hrunning
    exact hrunning

/-- Code of a file runs without a frame of its own. -/
theorem callPlain_twins (p : Program (List Value)) :
    Twins i j B B' (callCode w i p [] next (new ++ B))
      (callCode v j p [] next (new.map (Frame.movedTo j) ++ B')) :=
  callCode_twins hdepth hw hnew next p (List.forall_mem_nil _)

theorem require_twins (module : Value) :
    Twins i j B B' (require w i module next (new ++ B))
      (require v j module next (new.map (Frame.movedTo j) ++ B')) := by
  unfold require
  rw [hw.sandbox, hw.files]
  dsimp only
  cases module.stringBytes? with
  | none => exact .running hw hnew
  | some bytes =>
    dsimp only
    split
    · exact .running hw hnew
    · cases Sandbox.findModule w.files (w.sandbox i).identity.root
          (Text.decodeLossy (Script.untilNul bytes)) with
      | none => exact .running hw hnew
      | some file =>
        dsimp only
        cases World.readModule w.files file with
        | error e => exact .running hw hnew
        | ok block =>
          have hmodule : ∀ f ∈ [Frame.module i (Text.decodeLossy (Script.untilNul bytes))],
              f.IsCodeOf i := by
            intro f hf
            exact .inr (.inl ⟨_, List.mem_singleton.1 hf⟩)
          exact callCode_twins hdepth hw hnew next _ hmodule

theorem runFile_twins (file : Value) :
    Twins i j B B' (runFile w i file next (new ++ B))
      (runFile v j file next (new.map (Frame.movedTo j) ++ B')) := by
  unfold runFile
  rw [hw.files]
  dsimp only
  cases file.stringBytes? with
  | none => exact .running hw hnew
  | some bytes =>
    dsimp only
    cases World.readModule w.files ⟨Text.decodeLossy (Script.untilNul bytes)⟩ with
    | error e => exact .running hw hnew
    | ok block => exact callPlain_twins hdepth hw hnew next _

theorem callLibrary_twins (name : String) (args : List Value) :
    Twins i j B B' (callLibrary w i name args next (new ++ B))
      (callLibrary v j name args next (new.map (Frame.movedTo j) ++ B')) := by
  unfold callLibrary
  cases Script.Library.program? name args with
  | some p => exact callPlain_twins hdepth hw hnew next p
  | none =>
    dsimp only
    split
    · exact runFile_twins hdepth hw hnew next _
    · exact .running hw hnew

/-- **Code asks for the same, and gets the same.** -/
theorem ask_twins (q : Request) :
    Twins i j B B' (ask w i q next (new ++ B))
      (ask v j q next (new.map (Frame.movedTo j) ++ B')) := by
  have hserved := hw.serve q
  unfold ask
  cases hfirst : w.serve i q with
  | some a =>
    cases hsecond : v.serve j q with
    | none =>
      rw [hfirst, hsecond] at hserved
      cases hserved
    | some b =>
      rw [hfirst, hsecond] at hserved
      cases hserved with
      | some hboth =>
        obtain ⟨hworld, hresults⟩ := hboth
        dsimp only
        rw [hresults]
        exact .running hworld hnew
  | none =>
    cases hsecond : v.serve j q with
    | some b =>
      rw [hfirst, hsecond] at hserved
      cases hserved
    | none =>
      dsimp only
      cases q with
      | require module => exact require_twins hdepth hw hnew next module
      | host op => exact .starting hw hnew
      | call f args =>
        cases f with
        | function f =>
          cases f with
          | script n body => exact callPlain_twins hdepth hw hnew next _
          | library name => exact callLibrary_twins hdepth hw hnew next name args
          | capability c =>
            dsimp only
            rw [hw.sandbox]
            cases World.requestedAction (w.sandbox i) c args with
            | error e => exact .running hw hnew
            | ok a =>
              cases a with
              | callPlugin => exact .leaving rfl
              | _ => exact .running hw hnew
        | _ => exact .running hw hnew
      | _ => exact .running hw hnew

end Steps

/-! ## Steps -/

/-- An operation that does not act on plugins is answered at once, in either world. -/
theorem start_twins {i j : SandboxId} {w v : World} (hw : w.Twin i j v) {op : Operation}
    (hop : op.actsOnPlugins = false) (F F' : List Frame) :
    ∃ w' v' a a', start w op F = ⟨w', .answered a, F⟩ ∧ start v op F' = ⟨v', .answered a', F'⟩ ∧
      w'.Twin i j v' := by
  cases op with
  | attach | finalize | load | loadDirectory | unload | reload | execute | call | notify
  | enable => cases hop
  | putSetting key value =>
    refine ⟨_, _, _, _, rfl, rfl, ?_⟩
    rw [hw.settings]
    exact hw.withSettings _
  | changeFiles changes =>
    refine ⟨_, _, _, _, rfl, rfl, ?_⟩
    rw [hw.files]
    exact hw.withFiles _
  | isInitialized | version | commands | info | config | storedConfig | settings
  | sharedPlugins | describe | readFile => exact ⟨_, _, _, _, rfl, rfl, hw⟩

/-- **A step of the code is the same in either world**, unless it leaves its sandbox or the code as
a whole has ended. -/
theorem Twins.step {i j : SandboxId} {B B' : List Frame} {m m' : Machine}
    (h : Twins i j B B' m m') (hdepth : Frame.depth B' = Frame.depth B)
    (hstays : m.leavesSandbox = false) (hgoes : ∀ w r, m ≠ ⟨w, .ended r, B⟩) :
    Twins i j B B' m.step m'.step := by
  cases h with
  | @running w v p new hw hnew =>
    cases p with
    | done vs => exact .ended hw hnew
    | raise r => exact .ended hw hnew
    | ask q next => exact ask_twins hdepth hw hnew next q
  | @ended w v r new hw hnew =>
    cases new with
    | nil => exact absurd rfl (hgoes w r)
    | cons f new =>
      have hrest : ∀ g ∈ new, g.IsCodeOf i := fun g hg => hnew g (List.mem_cons_of_mem f hg)
      -- the code that called takes the results, in the same sandbox
      rcases hnew f List.mem_cons_self with ⟨depth, next, rfl⟩ | ⟨name, rfl⟩ | ⟨next, rfl⟩
      · exact .running hw hrest
      · cases r with
        | ok vs => exact .ended (hw.modifySandbox _) hrest
        | error e => exact .ended hw hrest
      · exact .ended hw hnew
  | @starting w v op new next hw hnew =>
    obtain ⟨w', v', a, a', hfirst, hsecond, hworld⟩ := start_twins hw hstays
      (.hostStep i next :: (new ++ B)) (.hostStep j next :: (new.map (Frame.movedTo j) ++ B'))
    have hstep : Machine.step ⟨w, .starting op, .hostStep i next :: (new ++ B)⟩
        = ⟨w', .answered a, .hostStep i next :: (new ++ B)⟩ := hfirst
    have hstep' : Machine.step
          ⟨v, .starting op, .hostStep j next :: (new.map (Frame.movedTo j) ++ B')⟩
        = ⟨v', .answered a', .hostStep j next :: (new.map (Frame.movedTo j) ++ B')⟩ := hsecond
    rw [hstep, hstep']
    exact .answered hworld hnew
  | answered hw hnew => exact .running (hw.observe _ _) hnew
  | leaving hleaves => exact absurd (hleaves.symm.trans hstays) Bool.noConfusion

/-- **The code goes on in lockstep**, as long as it does not leave its sandbox and has not ended. -/
theorem Twins.steps {i j : SandboxId} {B B' : List Frame} {m m' : Machine}
    (h : Twins i j B B' m m') (hdepth : Frame.depth B' = Frame.depth B) (n : Nat)
    (hstays : ∀ k < n, (Machine.steps k m).leavesSandbox = false)
    (hgoes : ∀ k < n, ∀ w r, Machine.steps k m ≠ ⟨w, .ended r, B⟩) :
    Twins i j B B' (Machine.steps n m) (Machine.steps n m') := by
  induction n with
  | zero => exact h
  | succ n ih =>
    rw [steps_succ, steps_succ]
    have hbefore := ih (fun k hk => hstays k (Nat.lt_succ_of_lt hk))
      (fun k hk => hgoes k (Nat.lt_succ_of_lt hk))
    exact hbefore.step hdepth (hstays n (Nat.lt_succ_self n)) (hgoes n (Nat.lt_succ_self n))

end Machine

end EditorPlugins
