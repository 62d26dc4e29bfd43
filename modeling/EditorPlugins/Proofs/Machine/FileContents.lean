/-
  The bytes that a script puts into a file.

  A string of a script is any bytes.  At the boundary it becomes a text if it is valid UTF-8, and
  stays bytes if it is not; what is read from a file is sorted in the same way before it becomes a
  string again.  Each string is sorted for itself: pieces that are no texts can make up a text, and
  a text and a piece that is none make up none.  The capabilities that write ask for bytes, so
  nothing is ever replaced (unlike where they ask for a text, see `Transport`).

    program   `Action.run` for `write`, `append` and `read`, between `Arguments.bytes` on the way
              out of the sandbox and `HostValue.importItems` on the way back
    spec      the file holds what was written and behind it what was appended since (`HasPut`)
    crux      the two ways of a string across the boundary, `HostValue.coerceBytes_ofBytes` and
              `HostValue.importValue_ofBytes`

  Between the calls anything may happen, also in other plugins, as long as the file is left as it
  is.  Main statement: `HasPut.read_back`.
-/
import EditorPlugins.Proofs.Capability.Refusals
import EditorPlugins.Proofs.Machine.Execution
import EditorPlugins.Proofs.Machine.Transport

namespace EditorPlugins

open Script (Value Raised Program)

/-! ## Bytes across the boundary -/

/-- The bytes of a string come out of a sandbox as they are, whether they are a text or not, -/
theorem HostValue.coerceBytes_ofBytes (b : ByteArray) : (ofBytes b).coerceBytes = some b := by
  unfold ofBytes
  cases hdecode : Text.decode? b with
  | none => rfl
  | some s => exact congrArg some (encode_of_decode? hdecode)

/-- and bytes go into a sandbox as they are. -/
theorem HostValue.importValue_ofBytes (b : ByteArray) (h : Script.Heap) :
    importValue (ofBytes b) h = (.string b, h) := by
  unfold ofBytes
  cases hdecode : Text.decode? b with
  | none => rfl
  | some s =>
    show (Value.string (Text.encode s), h) = _
    rw [encode_of_decode? hdecode]

/-- A string as an argument of a capability that asks for bytes. -/
theorem Arguments.bytes_of_ofBytes {a : Arguments} {n : Nat} {what : String} {b : ByteArray}
    (h : a.get? n = some (HostValue.ofBytes b)) : a.bytes n what = .ok b := by
  unfold bytes
  rw [h, Option.bind_some, HostValue.coerceBytes_ofBytes]

/-! ## Calls that touch a file -/

/-- The two ways of putting bytes into a file: in place of what it holds, and behind it. -/
inductive Put where
  | write
  | append

namespace Put

def capability : Put → Capability
  | write => .fsWrite
  | append => .fsAppend

def action : Put → String → ByteArray → Action
  | write => .write
  | append => .append

def change : Put → Files → Path → ByteArray → Except FileFault Files
  | write => Files.write
  | append => Files.append

end Put

namespace World

variable {w w' : World} {id : SandboxId} {path bytes : ByteArray}

/-- The path that a script means by a string. -/
def pathOf (w : World) (id : SandboxId) (path : ByteArray) : Path :=
  (w.sandbox id).resolve (Text.decodeLossy path)

/-- **What is asked for are the bytes themselves**, only the path is read as a text. -/
theorem requestedAction_put (k : Put) (s : Sandbox) (path bytes : ByteArray) :
    requestedAction s k.capability [.string path, .string bytes]
      = .ok (k.action (Text.decodeLossy path) bytes) := by
  let a : Arguments := ⟨k.capability.name, [.ofBytes path, .ofBytes bytes]⟩
  have hexport : exportArguments s [.string path, .string bytes] = .ok a.values := rfl
  have hpath : a.text 1 "path" = .ok (Text.decodeLossy path) := Arguments.text_of_ofBytes rfl
  have hbytes : a.bytes 2 "contents" = .ok bytes := Arguments.bytes_of_ofBytes rfl
  have hcheck : k.capability.check a.values
      = (do .ok (k.action (← a.text 1 "path") (← a.bytes 2 "contents"))) := by
    cases k <;> rfl
  refine requestedAction_of_check hexport ?_
  rw [hcheck, hpath, hbytes]
  rfl

theorem requestedAction_read (s : Sandbox) (path : ByteArray) :
    requestedAction s .fsRead [.string path] = .ok (.read (Text.decodeLossy path)) := by
  let a : Arguments := ⟨Capability.fsRead.name, [.ofBytes path]⟩
  have hexport : exportArguments s [.string path] = .ok a.values := rfl
  have hpath : a.text 1 "path" = .ok (Text.decodeLossy path) := Arguments.text_of_ofBytes rfl
  refine requestedAction_of_check hexport ?_
  show (do .ok (.read (← a.text 1 "path")) : Except ArgumentFault Action) = _
  rw [hpath]
  rfl

/-- A script is told true if the files have been changed. -/
theorem files_of_changed {r : Except FileFault Files}
    (h : (Action.changeFiles w r).1.giveBack id (Action.changeFiles w r).2
      = (w', .ok [.bool true])) : r = .ok w'.files := by
  cases r with
  | error e =>
    -- then it is told false
    injection h with _ hresults
    cases hresults
  | ok f =>
    obtain rfl := congrArg Prod.fst h
    rfl

/-- **A call that puts bytes into a file and gives true has done so.** -/
theorem files_of_put (k : Put)
    (h : w.serve id (.call (.function (.capability k.capability)) [.string path, .string bytes])
      = some (w', .ok [.bool true])) :
    k.change w.files (w.pathOf id path) bytes = .ok w'.files := by
  have haction := requestedAction_put k (w.sandbox id) path bytes
  have hserve := serve_of_requestedAction haction (by cases k <;> exact fun _ _ _ => nofun)
  have hrun : (k.action (Text.decodeLossy path) bytes).run w id
      = Action.changeFiles w (k.change w.files (w.pathOf id path) bytes) := by
    cases k <;> rfl
  rw [hrun, h] at hserve
  exact files_of_changed (Option.some.inj hserve).symm

/-- **A call that reads a file gives its bytes as they are.** -/
theorem serve_read (h : w.files.read (w.pathOf id path) = .ok bytes) :
    ∃ w', w.SameButHeaps w' ∧ w.serve id (.call (.function (.capability .fsRead)) [.string path])
      = some (w', .ok [.string bytes]) := by
  have haction := requestedAction_read (w.sandbox id) path
  have hserve := serve_of_requestedAction haction fun _ _ _ => nofun
  have hrun : (Action.read (Text.decodeLossy path)).run w id = (w, [.ofBytes bytes]) := by
    show (w, _) = _
    rw [show w.files.read ((w.sandbox id).resolve (Text.decodeLossy path)) = .ok bytes from h]
  have hgiven : (w.giveBack id [.ofBytes bytes]).2 = .ok [.string bytes] := by
    show Except.ok (HostValue.importItems [.ofBytes bytes] (w.sandbox id).heap).1 = _
    simp only [HostValue.importItems, HostValue.importValue_ofBytes]
  rw [hrun] at hserve
  refine ⟨(w.giveBack id [.ofBytes bytes]).1, w.onHeap_sameButHeaps id _, ?_⟩
  rw [hserve, ← hgiven]

end World

namespace Machine

/-! ## One call -/

/-- The code of a sandbox calls a capability, and the call has these results. -/
structure Gives (m : Machine) (id : SandboxId) (c : Capability) (args vs : List Value) : Prop where
  focus : ∃ next, m.focus = .running id (.ask (.call (.function (.capability c)) args) next)
  serves : ∃ w', m.world.serve id (.call (.function (.capability c)) args) = some (w', .ok vs)

/-- The file that a script names by a string holds some bytes. -/
structure Holds (m : Machine) (id : SandboxId) (path bytes : ByteArray) : Prop where
  reachable : m.Reachable
  sandbox : id < m.world.sandboxes.size
  read : m.world.files.read (m.world.pathOf id path) = .ok bytes

section Steps

variable {m : Machine} {id : SandboxId} {path bytes : ByteArray}

/-- A string means the same path all along. -/
theorem pathOf_step (h : id < m.world.sandboxes.size) :
    m.step.world.pathOf id path = m.world.pathOf id path := by
  unfold World.pathOf Sandbox.resolve
  rw [(step_keepsSandboxes m).identity id h]

/-- What a call that puts bytes into a file leaves there. -/
theorem Gives.holds {k : Put} {piece : ByteArray} (hm : m.Reachable)
    (h : m.Gives id k.capability [.string path, .string piece] [.bool true])
    (hchange : ∀ g, k.change m.world.files (m.world.pathOf id path) piece = .ok g →
      g.read (m.world.pathOf id path) = .ok bytes) : m.step.Holds id path bytes := by
  obtain ⟨⟨next, hfocus⟩, ⟨w', hserve⟩⟩ := h
  have hlt : id < m.world.sandboxes.size := (hm.linked.focus id _ hfocus).1
  have hstep : m.step.world = w' := by
    unfold step
    rw [hfocus]
    exact congrArg Machine.world (ask_of_serve m.world id next m.frames hserve)
  refine ⟨hm.step, Nat.lt_of_lt_of_le hlt (step_keepsSandboxes m).size, ?_⟩
  rw [pathOf_step hlt, hstep]
  exact hchange w'.files (World.files_of_put k hserve)

/-- A step that leaves the file as it is. -/
theorem Holds.apart (h : m.Holds id path bytes)
    (hsame : m.step.world.files.read (m.world.pathOf id path)
      = m.world.files.read (m.world.pathOf id path)) : m.step.Holds id path bytes := by
  refine ⟨h.reachable.step, Nat.lt_of_lt_of_le h.sandbox (step_keepsSandboxes m).size, ?_⟩
  rw [pathOf_step h.sandbox, hsame]
  exact h.read

end Steps

/-! ## A run of calls -/

/-- A script has written a string into the file that it names by `path`, and then appended strings
in this order; all these calls have given true, and whatever else was done has left the file as it
was. -/
inductive HasPut (id : SandboxId) (path s : ByteArray) : List ByteArray → Machine → Prop
  | written {m : Machine} (hm : m.Reachable)
      (hgives : m.Gives id .fsWrite [.string path, .string s] [.bool true]) :
      HasPut id path s [] m.step
  | appended {ts : List ByteArray} {m : Machine} {t : ByteArray} (h : HasPut id path s ts m)
      (hgives : m.Gives id .fsAppend [.string path, .string t] [.bool true]) :
      HasPut id path s (ts ++ [t]) m.step
  | apart {ts : List ByteArray} {m : Machine} (h : HasPut id path s ts m)
      (hsame : m.step.world.files.read (m.world.pathOf id path)
        = m.world.files.read (m.world.pathOf id path)) : HasPut id path s ts m.step
  | next {ts : List ByteArray} {m : Machine} {a : Answer} (op : Operation)
      (h : HasPut id path s ts m) (ha : m.answer? = some a) :
      HasPut id path s ts (.perform m.world op)

variable {m : Machine} {id : SandboxId} {path s : ByteArray} {ts : List ByteArray}

/-- The file holds the strings one behind the other. -/
theorem HasPut.holds (h : HasPut id path s ts m) : m.Holds id path (ts.foldl (· ++ ·) s) := by
  induction h with
  | written hm hgives =>
    exact hgives.holds (k := .write) hm fun g hwritten => Files.read_of_write hwritten
  | @appended ts m t _ hgives ih =>
    refine hgives.holds (k := .append) ih.reachable fun g happended => ?_
    have hwritten : m.world.files.write (m.world.pathOf id path) (ts.foldl (· ++ ·) s ++ t)
        = .ok g := (Files.append_of_read ih.read t).symm.trans happended
    rw [List.foldl_concat]
    exact Files.read_of_write hwritten
  | apart _ hsame ih => exact ih.apart hsame
  | next op _ ha ih => exact ⟨.next op ih.reachable ha, ih.sandbox, ih.read⟩

/-- **Every byte that a script puts into a file comes back.**  After a string was written and others
were appended, the file holds exactly these strings one behind the other, whichever of them are
valid UTF-8; and a script that reads the file is given exactly this string, one step later, and
nothing but heaps has changed. -/
theorem HasPut.read_back (h : HasPut id path s ts m) :
    m.world.files.read (m.world.pathOf id path) = .ok (ts.foldl (· ++ ·) s) ∧
    ∀ next, m.focus
        = .running id (.ask (.call (.function (.capability .fsRead)) [.string path]) next) →
      ∃ w', m.world.SameButHeaps w' ∧ m.step
        = ⟨w', .running id (next (.ok [.string (ts.foldl (· ++ ·) s)])), m.frames⟩ := by
  have hread := h.holds.read
  refine ⟨hread, fun next hfocus => ?_⟩
  obtain ⟨w', hkeeps, hserve⟩ := World.serve_read hread
  refine ⟨w', hkeeps, ?_⟩
  unfold step
  rw [hfocus]
  exact ask_of_serve m.world id next m.frames hserve

/-! ## Two pieces -/

/-- Whether a call has given true and nothing else. -/
def givesTrue : Option (World × World.Results) → Bool
  | some (_, .ok [.bool true]) => true
  | _ => false

theorem exists_of_givesTrue {served : Option (World × World.Results)}
    (h : givesTrue served = true) : ∃ w', served = some (w', .ok [.bool true]) := by
  unfold givesTrue at h
  split at h
  · exact ⟨_, rfl⟩
  · cases h

/-- Whether the code of a sandbox puts bytes into a file and is given true. -/
def puts (m : Machine) (id : SandboxId) (c : Capability) (path bytes : ByteArray) : Bool :=
  match m.focus with
  | .running j (.ask (.call (.function (.capability d)) [.string p, .string b]) _) =>
    j == id && (d == c && (Scene.sameBytes p path && (Scene.sameBytes b bytes &&
      givesTrue (m.world.serve j (.call (.function (.capability d)) [.string p, .string b])))))
  | _ => false

theorem gives_of_puts {c : Capability} {bytes : ByteArray} (h : m.puts id c path bytes = true) :
    m.Gives id c [.string path, .string bytes] [.bool true] := by
  unfold puts at h
  split at h
  · rename_i j d p b next hfocus
    simp only [Bool.and_eq_true, beq_iff_eq, Scene.sameBytes_iff] at h
    obtain ⟨rfl, rfl, rfl, rfl, htrue⟩ := h
    exact ⟨⟨next, hfocus⟩, exists_of_givesTrue htrue⟩
  · cases h

/-- Whether the code of a sandbox reads a file. -/
def asksFor (m : Machine) (id : SandboxId) (path : ByteArray) : Bool :=
  match m.focus with
  | .running j (.ask (.call (.function (.capability .fsRead)) [.string p]) _) =>
    j == id && Scene.sameBytes p path
  | _ => false

theorem exists_of_asksFor (h : m.asksFor id path = true) : ∃ next, m.focus
    = .running id (.ask (.call (.function (.capability .fsRead)) [.string path]) next) := by
  unfold asksFor at h
  split at h
  · rename_i j p next hfocus
    simp only [Bool.and_eq_true, beq_iff_eq, Scene.sameBytes_iff] at h
    obtain ⟨rfl, rfl⟩ := h
    exact ⟨next, hfocus⟩
  · cases h

/-- Whether a step leaves a file as it is. -/
def leavesFile (m : Machine) (id : SandboxId) (path : ByteArray) : Bool :=
  let p := m.world.pathOf id path
  match m.step.world.files.read p, m.world.files.read p with
  | .ok a, .ok b => Scene.sameBytes a b
  | _, _ => false

theorem HasPut.of_leavesFile (h : HasPut id path s ts m) (hleaves : m.leavesFile id path = true) :
    HasPut id path s ts m.step := by
  refine h.apart ?_
  unfold leavesFile at hleaves
  dsimp only at hleaves
  split at hleaves
  · rename_i a b hafter hbefore
    rw [hafter, hbefore, Scene.sameBytes_iff.1 hleaves]
  · cases hleaves

end Machine

/-- A plugin that writes two bytes of a character into a file, appends the third, and reads the
file. -/
def Scene.writer : Scene :=
  let call (name : String) (args : List Json) : Json :=
    .array [.text "do", .object [("call", .text name), ("args", .array args)]]
  [⟨"a", "a", [
    call "fs.write" [.text "f", .object [("b", .text "e282")]],
    call "fs.append" [.text "f", .object [("b", .text "ac")]],
    call "fs.read" [.text "f"]]⟩]

/-- Two pieces that are no texts make up one, and the plugin reads all three bytes. -/
theorem pieces_read_back : ∃ (m : Machine) (w' : World)
    (next : Except Raised (List Value) → Program (List Value)), m.Reachable ∧
    Machine.HasPut 0 (Text.encode "f") ⟨#[0xe2, 0x82]⟩ [⟨#[0xac]⟩] m ∧
    m.step = ⟨w', .running 0 (next (.ok [.string ⟨#[0xe2, 0x82, 0xac]⟩])), m.frames⟩ := by
  have hscene : (Scene.writer.machine? [] (.load ⟨"a"⟩) 2).any (fun m =>
      m.puts 0 .fsWrite (Text.encode "f") ⟨#[0xe2, 0x82]⟩ &&
        (m.step.leavesFile 0 (Text.encode "f") &&
        (m.step.step.puts 0 .fsAppend (Text.encode "f") ⟨#[0xac]⟩ &&
        (m.step.step.step.leavesFile 0 (Text.encode "f") &&
          m.step.step.step.step.asksFor 0 (Text.encode "f"))))) = true := by
    decide +kernel
  obtain ⟨m, -, hm, hq⟩ := Scene.reach hscene
  simp only [Bool.and_eq_true] at hq
  obtain ⟨hwrites, hafter, happends, hthen, hreads⟩ := hq
  have hwritten := (Machine.HasPut.written hm (Machine.gives_of_puts hwrites)).of_leavesFile hafter
  have hput := (hwritten.appended (Machine.gives_of_puts happends)).of_leavesFile hthen
  obtain ⟨next, hfocus⟩ := Machine.exists_of_asksFor hreads
  obtain ⟨w', -, hgiven⟩ := hput.read_back.2 next hfocus
  have hjoined : [⟨#[0xac]⟩].foldl (· ++ ·) (⟨#[0xe2, 0x82]⟩ : ByteArray)
      = ⟨#[0xe2, 0x82, 0xac]⟩ := by
    decide +kernel
  exact ⟨_, w', next, hm.steps 4, hput, by rw [← hjoined]; exact hgiven⟩

end EditorPlugins
