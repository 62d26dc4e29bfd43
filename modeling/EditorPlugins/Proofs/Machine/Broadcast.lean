/-
  Broadcasts.

  An event goes round the load order as it was when the event was announced.  Every entry gets one
  turn.  At its turn a plugin is passed over, in no step at all, or its handler is called; the call
  may do anything to the registry before it ends, the remaining plugins included, so what happens
  at a turn depends on the world at that turn and on nothing else.

  `TakesTurn` says what one turn is, for a world and the names still to come; `Turns` is turns one
  after the other, with the number of steps that the machine makes.  Main statement:
  `announces_turns`.  A broadcast that is answered has taken the turns of the whole order, and its
  answer sorts the order by what became of each turn; one that is never answered waits for a handler
  that does not end.
-/
import EditorPlugins.Proofs.Machine.Scene
import EditorPlugins.Proofs.Registry.ActiveStack

namespace EditorPlugins

open Script (Value Raised)

/-! ## What happens at a turn -/

/-- What the handlers of an event are told: the file, if the event is about one. -/
def Event.handlerArguments : Event → List Value
  | .ready | .shutdown => []
  | .file _ name => [.text name]

theorem Machine.eventArguments_eq (e : Event) : eventArguments e = e.handlerArguments := by
  cases e <;> rfl

namespace World

/-- A plugin is passed over: it is executing, not loaded, disabled, or has no handler. -/
def Skips (w : World) (e : Event) (plugin : String) : Prop :=
  plugin ∈ w.registry.active ∨ w.registry.plugins.get? plugin = none ∨
  ∃ record, w.registry.plugins.get? plugin = some record ∧
    (record.enabled = false ∨ (w.sandbox record.sandbox).events.get? e.name = none)

/-- A plugin that is not executing, with its record and its handler. -/
structure Hears (w : World) (e : Event) (plugin : String) (record : Record)
    (handler : Script.Function) : Prop where
  idle : plugin ∉ w.registry.active
  loaded : w.registry.plugins.get? plugin = some record
  enabled : record.enabled = true
  handler : (w.sandbox record.sandbox).events.get? e.name = some handler

variable {w : World} {e : Event} {plugin : String}

theorem skips_or_hears (w : World) (e : Event) (plugin : String) :
    w.Skips e plugin ∨ ∃ record handler, w.Hears e plugin record handler := by
  by_cases hactive : plugin ∈ w.registry.active
  · exact .inl (.inl hactive)
  · cases hrecord : w.registry.plugins.get? plugin with
    | none => exact .inl (.inr (.inl hrecord))
    | some record =>
      cases henabled : record.enabled with
      | false => exact .inl (.inr (.inr ⟨record, hrecord, .inl henabled⟩))
      | true =>
        cases hhandler : (w.sandbox record.sandbox).events.get? e.name with
        | none => exact .inl (.inr (.inr ⟨record, hrecord, .inr hhandler⟩))
        | some handler => exact .inr ⟨record, handler, hactive, hrecord, henabled, hhandler⟩

theorem Hears.not_skips {record : Record} {handler : Script.Function}
    (h : w.Hears e plugin record handler) : ¬ w.Skips e plugin := by
  rintro (hactive | hnone | ⟨other, hother, hreason⟩)
  · exact h.idle hactive
  · rw [h.loaded] at hnone
    cases hnone
  · rw [h.loaded] at hother
    cases hother
    rcases hreason with hdisabled | hnothing
    · rw [h.enabled] at hdisabled
      cases hdisabled
    · rw [h.handler] at hnothing
      cases hnothing

/-- Where the handler is found, it is that of a loaded, enabled plugin. -/
theorem resolveEvent_of_hears {record : Record} {handler : Script.Function}
    (h : w.Hears e plugin record handler) :
    w.resolveEvent plugin e.name = .ok ⟨record.sandbox, handler⟩ := by
  simp only [resolveEvent, resolve, h.loaded, h.enabled, h.handler, Bool.not_true,
    Bool.false_eq_true, if_false]

theorem resolveEvent_of_skips (h : w.Skips e plugin) (hidle : plugin ∉ w.registry.active) :
    ∃ failure, w.resolveEvent plugin e.name = .error failure := by
  cases hresolve : w.resolveEvent plugin e.name with
  | error failure => exact ⟨failure, rfl⟩
  | ok t =>
    obtain ⟨record, hrecord, henabled, -, hhandler⟩ := resolve_eq_ok hresolve
    exact absurd h (Hears.not_skips ⟨hidle, hrecord, henabled, hhandler⟩)

/-- The world when a handler has ended: an error is remembered, the plugin leaves the stack. -/
def handled (w : World) (plugin : String) : Except Raised (List Value) → World
  | .ok _ => w.modifyRegistry (·.leave plugin)
  | .error e => (w.modifyRegistry (·.blame plugin e.message)).modifyRegistry (·.leave plugin)

end World

/-- One plugin's turn in a broadcast. -/
structure Turn where
  plugin : String
  /-- The world at the turn. -/
  world : World
  /-- What the handler ended with; nothing when the plugin was passed over. -/
  result : Option (Except Raised (List Value))

namespace Turn

def wasDelivered (t : Turn) : Bool := t.result.any (·.isOk)

def wasSkipped (t : Turn) : Bool := t.result.isNone

def hasFailed (t : Turn) : Bool := t.result.any (fun r => !r.isOk)

end Turn

namespace Summary

/-- The summary of a broadcast by its turns: every plugin in one of three lists. -/
def ofTurns (turns : List Turn) : Summary where
  delivered := (turns.filter Turn.wasDelivered).map Turn.plugin
  skipped := (turns.filter Turn.wasSkipped).map Turn.plugin
  failed := (turns.filter Turn.hasFailed).map Turn.plugin

/-- The summary with one more turn. -/
def add (s : Summary) (t : Turn) : Summary :=
  match t.result with
  | none => { s with skipped := s.skipped ++ [t.plugin] }
  | some (.ok _) => { s with delivered := s.delivered ++ [t.plugin] }
  | some (.error _) => { s with failed := s.failed ++ [t.plugin] }

theorem ofTurns_append_singleton (turns : List Turn) (t : Turn) :
    ofTurns (turns ++ [t]) = (ofTurns turns).add t := by
  obtain ⟨plugin, w, result⟩ := t
  unfold ofTurns
  simp only [List.filter_append, List.map_append]
  -- what became of the turn decides which of the three lists has one more entry
  rcases result with _ | (e | vs)
  · simp [add, List.filter, Turn.wasDelivered, Turn.wasSkipped, Turn.hasFailed]
  · simp [add, List.filter, Turn.wasDelivered, Turn.wasSkipped, Turn.hasFailed, Except.isOk,
      Except.toBool]
  · simp [add, List.filter, Turn.wasDelivered, Turn.wasSkipped, Turn.hasFailed, Except.isOk,
      Except.toBool]

/-- The three lists are parts of a list, each in its order, and make up all of it. -/
inductive Interleaves : Summary → List String → Prop where
  | nil : Interleaves {} []
  | delivered {s : Summary} {l : List String} (plugin : String) (h : Interleaves s l) :
      Interleaves { s with delivered := plugin :: s.delivered } (plugin :: l)
  | skipped {s : Summary} {l : List String} (plugin : String) (h : Interleaves s l) :
      Interleaves { s with skipped := plugin :: s.skipped } (plugin :: l)
  | failed {s : Summary} {l : List String} (plugin : String) (h : Interleaves s l) :
      Interleaves { s with failed := plugin :: s.failed } (plugin :: l)

theorem ofTurns_interleaves (turns : List Turn) :
    (ofTurns turns).Interleaves (turns.map Turn.plugin) := by
  induction turns with
  | nil => exact .nil
  | cons t rest ih =>
    obtain ⟨plugin, w, result⟩ := t
    rcases result with _ | (e | vs)
    · exact ih.skipped plugin
    · exact ih.failed plugin
    · exact ih.delivered plugin

theorem Interleaves.sublists {s : Summary} {l : List String} (h : s.Interleaves l) :
    s.delivered.Sublist l ∧ s.skipped.Sublist l ∧ s.failed.Sublist l := by
  induction h with
  | nil => exact ⟨.slnil, .slnil, .slnil⟩
  | delivered plugin _ ih => exact ⟨ih.1.cons_cons _, ih.2.1.cons _, ih.2.2.cons _⟩
  | skipped plugin _ ih => exact ⟨ih.1.cons _, ih.2.1.cons_cons _, ih.2.2.cons _⟩
  | failed plugin _ ih => exact ⟨ih.1.cons _, ih.2.1.cons _, ih.2.2.cons_cons _⟩

end Summary

/-- A broadcast between two turns. -/
structure Announcement where
  world : World
  /-- The names still to come. -/
  rest : List String
  soFar : Summary

namespace Machine

/-! ## Calls that end -/

/-- What runs above some frames ends after `n` steps, with a result or an error: until then they
stay, and then nothing is above them any more. -/
structure EndsAbove (base : List Frame) (m : Machine) (n : Nat) (r : Except Raised (List Value))
    (w : World) : Prop where
  lasts : ∀ j ≤ n, base <:+ (steps j m).frames
  ended : steps n m = ⟨w, .ended r, base⟩

/-- A dispatched function ends, or it is waited for through all further steps. -/
theorem ends_or_lasts {m : Machine} {plugin : String} {purpose : Purpose} {F : List Frame}
    (h : .dispatch plugin purpose :: F <:+ m.frames) :
    (∃ n r w, EndsAbove (.dispatch plugin purpose :: F) m n r w) ∨
    ∀ n, .dispatch plugin purpose :: F <:+ (steps n m).frames := by
  by_cases hends : ∃ n r w, EndsAbove (.dispatch plugin purpose :: F) m n r w
  · exact .inl hends
  · refine .inr (fun n => ?_)
    rcases dispatch_lasts_steps h n with hlasts | ⟨k, -, hframes, ⟨r, hfocus⟩, hbefore⟩
    · exact hlasts
    · have hended : steps k m = ⟨(steps k m).world, .ended r, .dispatch plugin purpose :: F⟩ := by
        rw [← hframes, ← hfocus]
      exact absurd ⟨k, r, _, hbefore, hended⟩ hends

theorem steps_add (n k : Nat) (m : Machine) : steps (n + k) m = steps k (steps n m) := by
  induction n generalizing m with
  | zero => rw [Nat.zero_add]; rfl
  | succ n ih => rw [Nat.succ_add]; exact ih m.step

/-! ## Turns -/

section Broadcasts

variable (e : Event) (F : List Frame)

/-- The handler of a plugin is about to run, on top of the stack of active plugins and above a frame
that waits for its end. -/
def handling (w : World) (plugin : String) (record : Record) (handler : Script.Function)
    (rest : List String) (soFar : Summary) : Machine :=
  ⟨w.modifyRegistry (·.enter plugin),
    .running record.sandbox (Script.callProgram (.function handler) e.handlerArguments),
    .dispatch plugin (.delivery e rest soFar) :: F⟩

/-- The first of the names still to come has its turn; the machine makes so many steps. -/
inductive TakesTurn : Announcement → Turn → Nat → Announcement → Prop where
  | skipped {w : World} {plugin : String} {rest : List String} {soFar : Summary}
      (h : w.Skips e plugin) :
      TakesTurn ⟨w, plugin :: rest, soFar⟩ ⟨plugin, w, none⟩ 0
        ⟨w, rest, soFar.add ⟨plugin, w, none⟩⟩
  | handled {w w' : World} {plugin : String} {rest : List String} {soFar : Summary}
      {record : Record} {handler : Script.Function} {n : Nat} {r : Except Raised (List Value)}
      (h : w.Hears e plugin record handler)
      (hends : EndsAbove (.dispatch plugin (.delivery e rest soFar) :: F)
        (handling e F w plugin record handler rest soFar) n r w') :
      TakesTurn ⟨w, plugin :: rest, soFar⟩ ⟨plugin, w, some r⟩ (n + 1)
        ⟨w'.handled plugin r, rest, soFar.add ⟨plugin, w, some r⟩⟩

/-- Turns one after the other. -/
inductive Turns : Announcement → List Turn → Nat → Announcement → Prop where
  | start (b : Announcement) : Turns b [] 0 b
  | next {b b' b'' : Announcement} {t : Turn} {turns : List Turn} {n k : Nat}
      (h : TakesTurn e F b t n b') (hrest : Turns b' turns k b'') :
      Turns b (t :: turns) (n + k) b''

variable {e F}

theorem announce_of_skips {w : World} {plugin : String} (h : w.Skips e plugin)
    (rest : List String) (soFar : Summary) :
    announce w e F (plugin :: rest) soFar
      = announce w e F rest (soFar.add ⟨plugin, w, none⟩) := by
  by_cases hactive : w.registry.active.contains plugin = true
  · simp only [announce, if_pos hactive]
    rfl
  · obtain ⟨failure, hfailure⟩ := World.resolveEvent_of_skips h (by simpa using hactive)
    simp only [announce, if_neg hactive, hfailure]
    rfl

theorem announce_of_hears {w : World} {plugin : String} {record : Record}
    {handler : Script.Function} (h : w.Hears e plugin record handler) (rest : List String)
    (soFar : Summary) :
    announce w e F (plugin :: rest) soFar = handling e F w plugin record handler rest soFar := by
  have hactive : ¬ w.registry.active.contains plugin = true := by simpa using h.idle
  simp only [announce, dispatch, if_neg hactive, World.resolveEvent_of_hears h,
    eventArguments_eq, handling]

/-- The step after the end of a handler goes on with the broadcast. -/
theorem step_of_handled (w : World) (plugin : String) (rest : List String) (soFar : Summary)
    (r : Except Raised (List Value)) (before : World) :
    step ⟨w, .ended r, .dispatch plugin (.delivery e rest soFar) :: F⟩
      = announce (w.handled plugin r) e F rest (soFar.add ⟨plugin, before, some r⟩) := by
  cases r <;> rfl

/-- The machine of a broadcast between two turns. -/
def announcing (e : Event) (F : List Frame) (b : Announcement) : Machine :=
  announce b.world e F b.rest b.soFar

/-- **A turn is what the machine does.** -/
theorem TakesTurn.steps_eq {b b' : Announcement} {t : Turn} {n : Nat}
    (h : TakesTurn e F b t n b') : steps n (announcing e F b) = announcing e F b' := by
  cases h with
  | skipped h => exact announce_of_skips h _ _
  | @handled w w' plugin rest soFar record handler n r h hends =>
    have hstart : announcing e F ⟨w, plugin :: rest, soFar⟩
        = handling e F w plugin record handler rest soFar := announce_of_hears h rest soFar
    rw [hstart, steps_succ, hends.ended]
    exact step_of_handled w' plugin rest soFar r w

theorem TakesTurn.plugin_cons {b b' : Announcement} {t : Turn} {n : Nat}
    (h : TakesTurn e F b t n b') : b.rest = t.plugin :: b'.rest ∧ b'.soFar = b.soFar.add t := by
  cases h <;> exact ⟨rfl, rfl⟩

/-- A plugin is passed over exactly when there is a reason for it at its turn. -/
theorem TakesTurn.result_eq_none_iff {b b' : Announcement} {t : Turn} {n : Nat}
    (h : TakesTurn e F b t n b') : t.result = none ↔ t.world.Skips e t.plugin := by
  cases h with
  | skipped h => exact iff_of_true rfl h
  | handled h _ => exact iff_of_false nofun h.not_skips

theorem Turns.steps_eq {b b' : Announcement} {turns : List Turn} {n : Nat}
    (h : Turns e F b turns n b') : steps n (announcing e F b) = announcing e F b' := by
  induction h with
  | start b => rfl
  | next h _ ih => rw [steps_add, h.steps_eq, ih]

/-- The names that had their turn come first, and the summary is that of their turns. -/
theorem Turns.order {b b' : Announcement} {turns : List Turn} {n : Nat}
    (h : Turns e F b turns n b') : b.rest = turns.map Turn.plugin ++ b'.rest ∧
      ∀ before, b.soFar = .ofTurns before → b'.soFar = .ofTurns (before ++ turns) := by
  induction h with
  | start b => exact ⟨rfl, fun before hbefore => by rw [List.append_nil]; exact hbefore⟩
  | @next b b' b'' t turns n k h _ ih =>
    obtain ⟨hplugin, hsoFar⟩ := h.plugin_cons
    refine ⟨?_, fun before hbefore => ?_⟩
    · rw [hplugin, ih.1]
      rfl
    · have hone : b'.soFar = .ofTurns (before ++ [t]) := by
        rw [hsoFar, hbefore, Summary.ofTurns_append_singleton]
      have hall := ih.2 (before ++ [t]) hone
      rwa [List.append_assoc, List.singleton_append] at hall

theorem Turns.result_eq_none_iff {b b' : Announcement} {turns : List Turn} {n : Nat}
    (h : Turns e F b turns n b') : ∀ t ∈ turns, t.result = none ↔ t.world.Skips e t.plugin := by
  induction h with
  | start b => exact fun _ ht => nomatch ht
  | next h _ ih =>
    intro t ht
    rcases List.mem_cons.1 ht with rfl | ht
    · exact h.result_eq_none_iff
    · exact ih t ht

/-- A handler that was called at a turn does not end: its frame is never given up. -/
def NeverEnds (e : Event) (F : List Frame) (b : Announcement) : Prop :=
  ∃ plugin rest, b.rest = plugin :: rest ∧ ¬ b.world.Skips e plugin ∧
    ∀ n, .dispatch plugin (.delivery e rest b.soFar) :: F <:+ (steps n (announcing e F b)).frames

/-- **All names get their turn, unless a handler never ends.**  The induction is on the names still
to come; the world at each turn is what the turn before has left. -/
theorem turns_or_neverEnds (e : Event) (F : List Frame) (rest : List String) (w : World)
    (soFar : Summary) :
    (∃ turns n w' s, Turns e F ⟨w, rest, soFar⟩ turns n ⟨w', [], s⟩) ∨
    ∃ turns n b, Turns e F ⟨w, rest, soFar⟩ turns n b ∧ NeverEnds e F b := by
  induction rest generalizing w soFar with
  | nil => exact .inl ⟨[], 0, w, soFar, .start _⟩
  | cons plugin rest ih =>
    have hgoes : ∀ {t n w'}, TakesTurn e F ⟨w, plugin :: rest, soFar⟩ t n
        ⟨w', rest, soFar.add t⟩ →
        (∃ turns n w' s, Turns e F ⟨w, plugin :: rest, soFar⟩ turns n ⟨w', [], s⟩) ∨
        ∃ turns n b, Turns e F ⟨w, plugin :: rest, soFar⟩ turns n b ∧ NeverEnds e F b := by
      intro t n w' hturn
      rcases ih w' (soFar.add t) with ⟨turns, k, w'', s, hrest⟩ | ⟨turns, k, b, hrest, hnever⟩
      · exact .inl ⟨_, _, w'', s, .next hturn hrest⟩
      · exact .inr ⟨_, _, b, .next hturn hrest, hnever⟩
    rcases w.skips_or_hears e plugin with hskips | ⟨record, handler, hhears⟩
    · exact hgoes (.skipped hskips)
    · have hstart : announcing e F ⟨w, plugin :: rest, soFar⟩
          = handling e F w plugin record handler rest soFar := announce_of_hears hhears rest soFar
      rcases ends_or_lasts (m := handling e F w plugin record handler rest soFar)
          (List.suffix_refl _) with ⟨n, r, w', hends⟩ | hlasts
      · exact hgoes (.handled hhears hends)
      · refine .inr ⟨[], 0, _, .start _, plugin, rest, rfl, hhears.not_skips, fun n => ?_⟩
        rw [hstart]
        exact hlasts n

end Broadcasts

/-! ## Whole broadcasts -/

theorem steps_of_answer? {m : Machine} {a : Answer} (h : m.answer? = some a) (n : Nat) :
    steps n m = m := by
  obtain ⟨w, focus, frames⟩ := m
  unfold answer? at h
  split at h
  · rename_i a' hfocus hframes
    cases hfocus
    cases hframes
    induction n with
    | zero => rfl
    | succ n ih => exact ih
  · cases h

/-- The event that the next step announces, and the frames that wait for its summary: one of those
that hosts and scripts can name, or the shutdown before a finalization. -/
def announces? (m : Machine) : Option (Event × List Frame) :=
  match m.focus with
  | .starting (.notify name filename) => (Event.ofName? name filename).map (fun e => (e, m.frames))
  | .starting .finalize =>
    if m.world.registry.isInitialized && m.world.registry.active.isEmpty then
      some (.shutdown, .finalization :: m.frames)
    else none
  | _ => none

theorem step_of_announces? {m : Machine} {e : Event} {F : List Frame}
    (h : m.announces? = some (e, F)) :
    m.step = announcing e F ⟨m.world, m.world.registry.loadOrder, {}⟩ := by
  obtain ⟨w, focus, frames⟩ := m
  unfold announces? at h
  split at h
  · rename_i name filename hfocus
    cases hfocus
    obtain ⟨e', he, heq⟩ := Option.map_eq_some_iff.1 h
    cases heq
    show start w (.notify name filename) frames = _
    simp only [start, he]
    rfl
  · rename_i hfocus
    cases hfocus
    split at h
    · rename_i hguard
      obtain ⟨hinit, hidle⟩ := Bool.and_eq_true_iff.1 hguard
      have hinit : w.registry.isInitialized = true := hinit
      have hidle : w.registry.active = [] := List.isEmpty_iff.1 hidle
      cases h
      show start w .finalize frames = _
      simp only [start, hinit, hidle, Bool.not_true, Bool.false_eq_true, if_false]
      rfl
    · cases h
  · cases h

/-- A broadcast that is answered: its turns, the number of their steps, and the world they leave. -/
structure Announces (m : Machine) (e : Event) (F : List Frame) (turns : List Turn) (n : Nat)
    (w : World) : Prop where
  /-- The turns begin with the load order as it is now. -/
  run : Turns e F ⟨m.world, m.world.registry.loadOrder, {}⟩ turns n ⟨w, [], .ofTurns turns⟩
  answered : steps (n + 1) m = ⟨w, .answered (.ok (.summary (some (.ofTurns turns)))), F⟩
  /-- Each entry has had one turn, in order. -/
  visited : turns.map Turn.plugin = m.world.registry.loadOrder
  skipped : ∀ t ∈ turns, t.result = none ↔ t.world.Skips e t.plugin

/-- A broadcast is answered after the turns of all entries, or a handler never ends. -/
theorem announces_or_neverEnds {m : Machine} {e : Event} {F : List Frame}
    (h : m.announces? = some (e, F)) :
    (∃ turns n w, m.Announces e F turns n w) ∨
    ∃ turns n b, Turns e F ⟨m.world, m.world.registry.loadOrder, {}⟩ turns n b ∧
      NeverEnds e F b := by
  refine (turns_or_neverEnds e F m.world.registry.loadOrder m.world {}).imp_left ?_
  rintro ⟨turns, n, w, s, hturns⟩
  obtain ⟨horder, hsummary⟩ := hturns.order
  obtain rfl : s = .ofTurns turns := hsummary [] rfl
  refine ⟨turns, n, w, hturns, ?_, ?_, hturns.result_eq_none_iff⟩
  · show steps n m.step = _
    rw [step_of_announces? h, hturns.steps_eq]
    rfl
  · rw [List.append_nil] at horder
    exact horder.symm

/-- In an operation that is answered no handler goes on for ever. -/
theorem not_neverEnds {m : Machine} {e : Event} {F : List Frame}
    (h : m.announces? = some (e, F)) {k : Nat} {a : Answer}
    (hanswered : (steps k m).answer? = some a) :
    ¬ ∃ turns n b, Turns e F ⟨m.world, m.world.registry.loadOrder, {}⟩ turns n b ∧
      NeverEnds e F b := by
  rintro ⟨turns, n, b, hturns, plugin, rest, -, -, hlasts⟩
  have hreached : announcing e F b = steps (n + 1) m := by
    rw [← hturns.steps_eq, ← step_of_announces? h]
    rfl
  have hend : steps k (announcing e F b) = steps k m := by
    rw [hreached, ← steps_add, Nat.add_comm, steps_add, steps_of_answer? hanswered]
  have hlast := hlasts k
  rw [hend, frames_of_answer? hanswered] at hlast
  exact List.cons_ne_nil _ _ (List.suffix_nil.1 hlast)

/-- **What a broadcast does.**  It is answered when every entry of the load order, as it was at the
start, has had exactly one turn, in order; an entry is passed over exactly when its plugin is
executing, not loaded, disabled or without a handler at that turn, and otherwise its handler is
called once (`TakesTurn`).  The answer has every entry in one of three lists: those whose handler
returned, those passed over, those whose handler raised.  If there is no answer, it is because a
handler that was called never ends. -/
theorem announces_turns {m : Machine} {e : Event} {F : List Frame}
    (h : m.announces? = some (e, F)) :
    (∃ turns n w, m.Announces e F turns n w ∧
      (Summary.ofTurns turns).Interleaves m.world.registry.loadOrder ∧
      (Summary.ofTurns turns).delivered.Sublist m.world.registry.loadOrder ∧
      (Summary.ofTurns turns).skipped.Sublist m.world.registry.loadOrder ∧
      (Summary.ofTurns turns).failed.Sublist m.world.registry.loadOrder) ∨
    ∃ turns n b, Turns e F ⟨m.world, m.world.registry.loadOrder, {}⟩ turns n b ∧
      NeverEnds e F b := by
  refine (announces_or_neverEnds h).imp_left ?_
  rintro ⟨turns, n, w, hall⟩
  have hparts : (Summary.ofTurns turns).Interleaves m.world.registry.loadOrder := by
    rw [← hall.visited]
    exact Summary.ofTurns_interleaves turns
  exact ⟨turns, n, w, hall, hparts, hparts.sublists⟩

end Machine

/-- A plugin that raises when the host is ready. -/
def Scene.nervous : Scene :=
  [⟨"a", "a", [.array [.text "do", .object [("call", .text "plugin.on"), ("args",
    .array [.text "ready", .object [("fn", .array [.array [.text "error", .text "no"]])]])]]]⟩]

/-- The event goes round one plugin, and its handler ends. -/
theorem nervous_announced : ∃ m,
    Scene.nervous.machine? [.load ⟨"a"⟩] (.notify "ready" none) 0 = some m ∧ m.Reachable ∧
    m.announces? = some (.ready, []) ∧ ∃ turns n w,
      m.Announces .ready [] turns n w ∧ turns.map Turn.plugin = ["a"] ∧
      (Summary.ofTurns turns).Interleaves ["a"] := by
  have hscene : (Scene.nervous.machine? [.load ⟨"a"⟩] (.notify "ready" none) 0).any (fun m =>
      m.announces?.any (fun a => a.1 == .ready && a.2.isEmpty) &&
        (m.world.registry.loadOrder == ["a"] && (Machine.steps 12 m).answer?.isSome)) = true := by
    decide +kernel
  obtain ⟨m, hmachine, hm, hq⟩ := Scene.reach hscene
  obtain ⟨hannounces, hends⟩ := Bool.and_eq_true_iff.1 hq
  obtain ⟨horder, hanswered⟩ := Bool.and_eq_true_iff.1 hends
  obtain ⟨⟨e, F⟩, ha, heF⟩ := (Option.any_eq_true ..).1 hannounces
  obtain ⟨he, hF⟩ := Bool.and_eq_true_iff.1 heF
  obtain rfl : e = .ready := beq_iff_eq.1 he
  obtain rfl : F = [] := List.isEmpty_iff.1 hF
  obtain ⟨a, hanswer⟩ := Option.isSome_iff_exists.1 hanswered
  rcases Machine.announces_turns ha with ⟨turns, n, w, hall, hparts, -⟩ | hnever
  · have horder : m.world.registry.loadOrder = ["a"] := beq_iff_eq.1 horder
    rw [horder] at hparts
    exact ⟨m, hmachine, hm, ha, turns, n, w, hall, horder ▸ hall.visited, hparts⟩
  · exact absurd hnever (Machine.not_neverEnds ha hanswer)

end EditorPlugins
