/-
  The strings that a call carries.

  A string that a plugin passes to a function of another plugin crosses the boundary to the host, is
  an argument of the registry, and crosses the boundary again; the result comes back the same way.
  The values at the boundary keep every byte, but the arguments of the registry are texts: a string
  becomes one by `decodeLossy`, once on the way to the function and once on the way back.

  So the function is given the string itself exactly if the string is valid UTF-8, and otherwise one
  that has U+FFFD in place of what is not; and a function that returns what it is given returns no
  more.  Main statement: `pluginCall_transports`.
-/
import EditorPlugins.Proofs.Boundary.RoundTrip
import EditorPlugins.Proofs.Machine.PluginCall

namespace EditorPlugins

open Script (Value Raised Program)

/-- Reading bytes with replacement loses something exactly if they are not UTF-8. -/
theorem Text.encode_decodeLossy_eq_iff (b : ByteArray) :
    Text.encode (Text.decodeLossy b) = b ↔ (Text.decode? b).isSome = true := by
  constructor
  · intro h
    have hdecode : Text.decode? b = some (Text.decodeLossy b) := by
      rw [← h, Text.decodeLossy_encode]
      exact Text.decode?_encode _
    rw [hdecode]
    rfl
  · intro h
    obtain ⟨s, hs⟩ := Option.isSome_iff_exists.1 h
    rw [Text.decodeLossy_of_decode? hs]
    exact HostValue.encode_of_decode? hs

/-! ## The arguments of a call -/

theorem Arguments.anyText_ofBytes (b : ByteArray) :
    Arguments.anyText (HostValue.ofBytes b) = Text.decodeLossy b := by
  have htext := HostValue.coerceText_ofBytes b
  unfold HostValue.ofBytes at htext ⊢
  cases hdecode : Text.decode? b with
  | none => rfl
  | some s => exact (Text.decodeLossy_of_decode? hdecode).symm

/-- A string as an argument of a capability. -/
theorem Arguments.text_of_ofBytes {a : Arguments} {n : Nat} {what : String} {b : ByteArray}
    (h : a.get? n = some (HostValue.ofBytes b)) : a.text n what = .ok (Text.decodeLossy b) := by
  unfold text
  rw [h, Option.bind_some, HostValue.coerceText_ofBytes]

/-- **What a call with three strings asks for**: the text of the third is the only argument. -/
theorem World.requestedAction_pluginCall (s : Sandbox) (callee function bytes : ByteArray) :
    requestedAction s .pluginCall [.string callee, .string function, .string bytes]
      = .ok (.callPlugin (Text.decodeLossy callee) (Text.decodeLossy function)
          [Text.decodeLossy bytes]) := by
  let a : Arguments :=
    ⟨Capability.pluginCall.name, [.ofBytes callee, .ofBytes function, .ofBytes bytes]⟩
  have hexport : exportArguments s [.string callee, .string function, .string bytes]
      = .ok a.values := rfl
  have hcallee : a.text 1 "plugin" = .ok (Text.decodeLossy callee) :=
    Arguments.text_of_ofBytes rfl
  have hfunction : a.text 2 "function" = .ok (Text.decodeLossy function) :=
    Arguments.text_of_ofBytes rfl
  have hrest : a.textsFrom 3 = [Text.decodeLossy bytes] := by
    show [Arguments.anyText (.ofBytes bytes)] = _
    rw [Arguments.anyText_ofBytes]
  refine requestedAction_of_check hexport ?_
  show (do .ok (.callPlugin (← a.text 1 "plugin") (← a.text 2 "function") (a.textsFrom 3)) :
    Except ArgumentFault Action) = _
  rw [hcallee, hfunction, hrest]
  rfl

namespace Machine

/-! ## There and back -/

/-- The code of a sandbox passes a string to a function of a plugin. -/
structure PassesString (m : Machine) (id : SandboxId)
    (next : Except Raised (List Value) → Program (List Value)) (callee function : String)
    (bytes : ByteArray) : Prop where
  focus : m.focus = .running id (.ask (.call (.function (.capability .pluginCall))
    [.text callee, .text function, .string bytes]) next)

/-- A function that is about to run above some frames ends, and its first result is its first
argument. -/
def ReturnsFirst (base : List Frame) (m : Machine) : Prop :=
  ∃ id f args n vs w, m.focus = .running id (Script.callProgram f args) ∧
    EndsAbove base m n (.ok vs) w ∧ vs.headD .nil = args.headD .nil

/-- The script function that returns its first argument does so wherever it is called. -/
theorem returnsFirst_of_script (w : World) (id : SandboxId) (number : Script.ObjectId)
    (args : List Value) (plugin : String) (purpose : Purpose) (F : List Frame) :
    ReturnsFirst (.dispatch plugin purpose :: F)
      ⟨w, .running id
        (Script.callProgram (.function (.script number [.return [.argument 1]])) args),
        .dispatch plugin purpose :: F⟩ := by
  have hbody : Script.Block.program [.return [.argument 1]] args = settled (.ok [args.getD 0 .nil]) :=
    rfl
  refine ⟨id, _, args, 4, [args.getD 0 .nil], w, rfl, endsAbove_of_script hbody, ?_⟩
  cases args <;> rfl

section Passing

variable {m : Machine} {id : SandboxId}
  {next : Except Raised (List Value) → Program (List Value)} {callee function : String}
  {bytes : ByteArray} {record : Record} {f : Script.Function}

theorem PassesString.callsPlugin (h : m.PassesString id next callee function bytes) :
    m.CallsPlugin id next callee function [Text.decodeLossy bytes] := by
  refine ⟨h.focus, ?_⟩
  have haction := World.requestedAction_pluginCall (m.world.sandbox id) (Text.encode callee)
    (Text.encode function) bytes
  rw [Text.decodeLossy_encode, Text.decodeLossy_encode] at haction
  exact haction

/-- What the function is given, before it runs. -/
theorem PassesString.receives (h : m.PassesString id next callee function bytes)
    (hoffers : m.world.Offers callee function record f) :
    (steps 2 m).focus = .running record.sandbox
      (Script.callProgram (.function f) [.text (Text.decodeLossy bytes)]) := by
  rw [h.callsPlugin.steps_of_offers hoffers]
  rfl

/-- The text of a first result that is a text. -/
theorem resultText_of_head {vs : List Value} {s : String} (h : vs.headD .nil = .text s) :
    resultText vs = s := by
  unfold resultText
  rw [h]
  exact Text.decodeLossy_encode s

/-- **A string that is passed to a function which returns it comes back as the function got it.** -/
theorem PassesString.comes_back (h : m.PassesString id next callee function bytes)
    (hoffers : m.world.Offers callee function record f)
    (hreturns : ReturnsFirst (m.calling id next callee) (steps 2 m)) :
    ∃ n w, steps n m
      = ⟨w, .running id (next (.ok [.text (Text.decodeLossy bytes)])), m.frames⟩ := by
  obtain ⟨id', f', args, n, vs, w, hfocus, hends, hfirst⟩ := hreturns
  have hargs : args = [.text (Text.decodeLossy bytes)] := by
    have hsame := hfocus.symm.trans (h.receives hoffers)
    injection hsame with _ hprogram
    injection hprogram with hrequest
    injection hrequest
  rw [hargs] at hfirst
  have hback := steps_of_ends hends
  rw [show callText (.ok vs) = Text.decodeLossy bytes from resultText_of_head hfirst] at hback
  exact ⟨n + 4, _, hback⟩

end Passing

/-- **Which strings a call carries unchanged.**  When code passes a string to a function of a loaded,
enabled plugin that is not executing, and the function returns its first argument, the function gets
some string, and the code gets the same string back.  It has U+FFFD in place of what is not UTF-8 in
the string that was passed: it is this string exactly if this string is valid UTF-8. -/
theorem pluginCall_transports {m : Machine} {id : SandboxId}
    {next : Except Raised (List Value) → Program (List Value)} {callee function : String}
    {bytes : ByteArray} {record : Record} {f : Script.Function}
    (h : m.PassesString id next callee function bytes)
    (hoffers : m.world.Offers callee function record f)
    (hreturns : ReturnsFirst (m.calling id next callee) (steps 2 m)) :
    ∃ received, received = Text.encode (Text.decodeLossy bytes) ∧
      (steps 2 m).focus
        = .running record.sandbox (Script.callProgram (.function f) [.string received]) ∧
      (∃ n w, steps n m = ⟨w, .running id (next (.ok [.string received])), m.frames⟩) ∧
      (received = bytes ↔ (Text.decode? bytes).isSome = true) :=
  ⟨Text.encode (Text.decodeLossy bytes), rfl, h.receives hoffers, h.comes_back hoffers hreturns,
    Text.encode_decodeLossy_eq_iff bytes⟩

/-- Whether code passes that string to that function. -/
def passesString (m : Machine) (callee function : String) (bytes : ByteArray) : Bool :=
  match m.focus with
  | .running _ (.ask (.call (.function (.capability .pluginCall))
      [.string c, .string f, .string b]) _) =>
    Scene.sameBytes c (Text.encode callee) && (Scene.sameBytes f (Text.encode function) &&
      Scene.sameBytes b bytes)
  | _ => false

theorem exists_of_passesString {m : Machine} {callee function : String} {bytes : ByteArray}
    (h : m.passesString callee function bytes = true) :
    ∃ id next, m.PassesString id next callee function bytes := by
  unfold passesString at h
  split at h
  · rename_i id c f b next hfocus
    obtain ⟨hc, hrest⟩ := Bool.and_eq_true_iff.1 h
    obtain ⟨hf, hb⟩ := Bool.and_eq_true_iff.1 hrest
    obtain rfl := Scene.sameBytes_iff.1 hc
    obtain rfl := Scene.sameBytes_iff.1 hf
    obtain rfl := Scene.sameBytes_iff.1 hb
    exact ⟨id, next, ⟨hfocus⟩⟩
  · cases h

end Machine

/-- The function returns its first argument and does nothing else. -/
def Script.Function.echoes : Script.Function → Bool
  | .script _ [.return [.argument 1]] => true
  | _ => false

theorem Script.Function.body_of_echoes {f : Script.Function} (h : f.echoes = true) :
    ∃ number, f = .script number [.return [.argument 1]] := by
  unfold echoes at h
  split at h
  · exact ⟨_, rfl⟩
  · cases h

/-- A plugin whose function returns its first argument, and one that passes it a byte that is not
UTF-8. -/
def Scene.echo : Scene :=
  [⟨"a", "a", [.array [.text "set", .text "f",
      .object [("fn", .array [.array [.text "return", .object [("arg", .integer 1)]]])]]]⟩,
    ⟨"b", "b", [.array [.text "show", .object [("call", .text "plugin.call"),
      ("args", .array [.text "a", .text "f", .object [("b", .text "ff")]])]]]⟩]

/-- The moment when the byte is passed. -/
theorem Scene.exists_echo : ∃ m id next record number, Machine.Reachable m ∧
    Machine.PassesString m id next "a" "f" ⟨#[0xff]⟩ ∧
    m.world.Offers "a" "f" record (.script number [.return [.argument 1]]) ∧
    Machine.ReturnsFirst (m.calling id next "a") (Machine.steps 2 m) := by
  have hscene : (Scene.echo.machine? [.load ⟨"a"⟩] (.load ⟨"b"⟩) 2).any (fun m =>
      m.passesString "a" "f" ⟨#[0xff]⟩ && (m.world.registry.active.isEmpty &&
        (m.world.resolveFunction "a" "f").toOption.any (·.function.echoes))) = true := by
    decide +kernel
  obtain ⟨m, -, hm, hq⟩ := Scene.reach hscene
  obtain ⟨hpasses, hrest⟩ := Bool.and_eq_true_iff.1 hq
  obtain ⟨hidle, hfunction⟩ := Bool.and_eq_true_iff.1 hrest
  obtain ⟨id, next, hpasses⟩ := Machine.exists_of_passesString hpasses
  obtain ⟨t, ht, hechoes⟩ := (Option.any_eq_true ..).1 hfunction
  have hnot : "a" ∉ m.world.registry.active := by
    rw [List.isEmpty_iff.1 hidle]
    exact List.not_mem_nil
  obtain ⟨record, hoffers⟩ := World.offers_of_resolve hnot (Except.eq_ok_of_toOption ht)
  obtain ⟨number, hbody⟩ := Script.Function.body_of_echoes hechoes
  rw [hbody] at hoffers
  refine ⟨m, id, next, record, number, hm, hpasses, hoffers, ?_⟩
  rw [hpasses.callsPlugin.steps_of_offers hoffers]
  exact Machine.returnsFirst_of_script ..

/-- The byte is passed, and what comes back is what the function was given. -/
theorem echo_carried : ∃ m id next f received n w, Machine.Reachable m ∧
    Machine.PassesString m id next "a" "f" ⟨#[0xff]⟩ ∧
    (∃ sandbox, (Machine.steps 2 m).focus
      = .running sandbox (Script.callProgram (.function f) [.string received])) ∧
    Machine.steps n m = ⟨w, .running id (next (.ok [.string received])), m.frames⟩ ∧
    received ≠ ⟨#[0xff]⟩ := by
  obtain ⟨m, id, next, record, number, hm, hpasses, hoffers, hreturns⟩ := Scene.exists_echo
  obtain ⟨received, -, hgiven, ⟨n, w, hback⟩, hexact⟩ :=
    Machine.pluginCall_transports hpasses hoffers hreturns
  refine ⟨m, id, next, _, received, n, w, hm, hpasses, ⟨_, hgiven⟩, hback, fun heq => ?_⟩
  have hvalid : (Text.decode? ⟨#[0xff]⟩).isSome = true := hexact.1 heq
  have hinvalid : (Text.decode? ⟨#[0xff]⟩).isSome = false := by decide +kernel
  rw [hinvalid] at hvalid
  cases hvalid

/-- **A byte that is not UTF-8 neither reaches the function nor comes back**, although the function
returns its first argument: both get U+FFFD. -/
theorem echo_altered : ∃ m id next record number w, Machine.Reachable m ∧
    Machine.PassesString m id next "a" "f" ⟨#[0xff]⟩ ∧
    m.world.Offers "a" "f" record (.script number [.return [.argument 1]]) ∧
    (Machine.steps 2 m).focus = .running record.sandbox (Script.callProgram
      (.function (.script number [.return [.argument 1]])) [.text "\uFFFD"]) ∧
    (∃ n, Machine.steps n m = ⟨w, .running id (next (.ok [.text "\uFFFD"])), m.frames⟩) ∧
    Text.encode "\uFFFD" ≠ ⟨#[0xff]⟩ := by
  obtain ⟨m, id, next, record, number, hm, hpasses, hoffers, hreturns⟩ := Scene.exists_echo
  have htext : Text.decodeLossy ⟨#[0xff]⟩ = "\uFFFD" := by decide +kernel
  have hgiven := hpasses.receives hoffers
  obtain ⟨n, w, hback⟩ := hpasses.comes_back hoffers hreturns
  rw [htext] at hgiven hback
  exact ⟨m, id, next, record, number, w, hm, hpasses, hoffers, hgiven, ⟨n, hback⟩, by
    decide +kernel⟩

end EditorPlugins
