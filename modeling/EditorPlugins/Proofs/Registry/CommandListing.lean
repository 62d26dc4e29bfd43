/-
  What the listing of commands has of a plugin.

  A listing is a join of two lists: what the manifest declares and what has been registered.  The
  second is a dictionary, so it has no id twice and is in order, and what is declared is left out of
  it.  Nothing keeps the first from having an id twice: a manifest may declare one as often as it
  likes, and each time it is listed.  And a plugin is listed once for each time that it stands in
  the load order.

  So a plugin's part of the listing is what it should be (`ListsCommands`), once for each time the
  plugin is in the load order; and its ids are distinct if the declared ones are and the plugin is
  there once, and not otherwise.  Main statement: `History.commands_listed`; `doublet_listed_twice`
  shows that there are plugins with a command that is listed twice.
-/
import Mathlib.Data.List.Nodup
import EditorPlugins.Proofs.Registry.Commands
import EditorPlugins.Proofs.Text.ByteOrder

namespace EditorPlugins

/-! ## One plugin -/

/-- A list of commands of a plugin is what it should be: first come the declared ids, as they stand
in the manifest, then the registered ones that are not among them, in the order of their bytes; and
each entry tells which of the two it is. -/
structure ListsCommands (plugin : String) (declared : List String) (registered : String → Prop)
    (others : List String) (listed : List CommandInfo) : Prop where
  ids : listed.map (·.id) = (declared ++ others).map (CommandId.qualify plugin)
  others_iff : ∀ id, id ∈ others ↔ registered id ∧ id ∉ declared
  ordered : others.Pairwise fun a b => (Text.encode a).data.toList < (Text.encode b).data.toList
  entries : ∀ c ∈ listed, c.plugin = plugin ∧ ∃ id, c.id = CommandId.qualify plugin id ∧
    (c.declared = true ↔ id ∈ declared) ∧ (c.hasHandler = true ↔ registered id)

namespace Manifest

def declaredIds (m : Manifest) : List String := m.commands.map (·.id)

theorem declares_iff {m : Manifest} {id : String} :
    m.commands.any (·.id == id) = true ↔ id ∈ m.declaredIds := by
  simp [declaredIds]

end Manifest

namespace World

/-- The ids that are only registered. -/
def undeclaredIds (m : Manifest) (s : Sandbox) : List String :=
  s.commands.keys.filter (· ∉ m.declaredIds)

theorem ids_commandsOf (name : String) (m : Manifest) (s : Sandbox) :
    (commandsOf name m s).map (·.id)
      = (m.declaredIds ++ undeclaredIds m s).map (CommandId.qualify name) := by
  have hothers : undeclaredIds m s
      = (s.commands.entries.filter (fun e => !m.commands.any (·.id == e.1))).map (·.1) := by
    unfold undeclaredIds Dict.keys
    rw [List.filter_map]
    congr 1
    refine List.filter_congr fun e _ => ?_
    rw [Bool.eq_iff_iff, Function.comp_apply, decide_eq_true_iff, ← Manifest.declares_iff]
    simp
  rw [hothers]
  unfold commandsOf Manifest.declaredIds
  simp only [List.map_append, List.map_map]
  rfl

/-- **What is listed of a plugin is what it should be**, for its manifest and its sandbox. -/
theorem lists_commandsOf (name : String) (m : Manifest) (s : Sandbox) :
    ListsCommands name m.declaredIds (fun id => (s.commands.get? id).isSome = true)
      (undeclaredIds m s) (commandsOf name m s) where
  ids := ids_commandsOf name m s
  others_iff id := by
    unfold undeclaredIds
    rw [List.mem_filter, decide_eq_true_iff]
    refine and_congr_left fun _ => ?_
    rw [Dict.mem_keys, Dict.contains]
  ordered := by
    have hkeys : s.commands.keys.Pairwise (· < ·) :=
      List.pairwise_map.2 s.commands.increasing
    exact (hkeys.filter _).imp Text.lt_iff_bytes_lt.1
  entries c hc := by
    obtain ⟨hplugin, id, hid⟩ := exists_of_mem_commandsOf hc
    refine ⟨hplugin, id, hplugin ▸ hid.id, ?_, ?_⟩
    · rw [hid.declared]
      exact Manifest.declares_iff
    · rw [hid.hasHandler]

/-! ## All plugins -/

/-- What a world lists of a plugin under a name. -/
def listing (w : World) (name : String) : List CommandInfo :=
  match w.registry.plugins.get? name with
  | some record => commandsOf name record.manifest (w.sandbox record.sandbox)
  | none => []

theorem plugin_of_mem_listing {w : World} {name : String} {c : CommandInfo}
    (h : c ∈ w.listing name) : c.plugin = name := by
  unfold listing at h
  split at h
  · exact (exists_of_mem_commandsOf h).1
  · cases h

/-- What has one owner is found in the lists of all owners once for each time the owner is there. -/
theorem filter_listings (w : World) (name : String) (order : List String) :
    (order.flatMap w.listing).filter (·.plugin = name)
      = (List.replicate (order.count name) (w.listing name)).flatten := by
  induction order with
  | nil => rfl
  | cons first order ih =>
    rw [List.flatMap_cons, List.filter_append, ih]
    by_cases hfirst : first = name
    · subst hfirst
      have hall : (w.listing first).filter (·.plugin = first) = w.listing first :=
        List.filter_eq_self.2 fun c hc => decide_eq_true (plugin_of_mem_listing hc)
      rw [hall, List.count_cons_self, List.replicate_succ, List.flatten_cons]
    · have hnone : (w.listing first).filter (·.plugin = name) = [] :=
        List.filter_eq_nil_iff.2 fun c hc hplugin =>
          hfirst ((plugin_of_mem_listing hc).symm.trans (of_decide_eq_true hplugin))
      rw [hnone, List.count_cons_of_ne hfirst, List.nil_append]

theorem filter_commands (w : World) (name : String) :
    w.commands.filter (·.plugin = name)
      = (List.replicate (w.registry.loadOrder.count name) (w.listing name)).flatten :=
  w.filter_listings name w.registry.loadOrder

end World

/-! ## Distinct ids -/

/-- The others are distinct from one another and from what is declared, so only a declared id can be
there twice. -/
theorem ListsCommands.nodup_iff {plugin : String} {declared others : List String}
    {registered : String → Prop} {listed : List CommandInfo}
    (h : ListsCommands plugin declared registered others listed) (hdot : '.' ∉ plugin.toList) :
    (listed.map (·.id)).Nodup ↔ declared.Nodup := by
  have hinj : Function.Injective (CommandId.qualify plugin) := fun _ _ heq =>
    (CommandId.qualify_inj hdot hdot heq).2
  have hothers : others.Nodup := by
    refine h.ordered.imp ?_
    rintro id _ hlt rfl
    exact List.lt_irrefl _ hlt
  rw [h.ids, List.nodup_map_iff hinj, List.nodup_append]
  refine ⟨fun hall => hall.1, fun hdeclared => ⟨hdeclared, hothers, ?_⟩⟩
  intro id hid other hother heq
  exact ((h.others_iff other).1 hother).2 (heq ▸ hid)

/-- A list repeated is without repetition only if it is so and taken once, or empty. -/
theorem nodup_replicate_flatten {α : Type} (l : List α) {n : Nat} (hn : 0 < n) :
    (List.replicate n l).flatten.Nodup ↔ l.Nodup ∧ (n = 1 ∨ l = []) := by
  obtain ⟨k, rfl⟩ := Nat.exists_eq_succ_of_ne_zero (Nat.pos_iff_ne_zero.1 hn)
  cases k with
  | zero => simp
  | succ k =>
    rw [List.replicate_succ, List.replicate_succ, List.flatten_cons, List.flatten_cons]
    constructor
    · intro h
      obtain ⟨hnodup, -, hdisjoint⟩ := List.nodup_append.1 h
      refine ⟨hnodup, .inr (List.eq_nil_iff_forall_not_mem.2 fun a ha => ?_)⟩
      exact hdisjoint a ha a (List.mem_append_left _ ha) rfl
    · rintro ⟨-, hone | rfl⟩
      · cases hone
      · simp

namespace Machine

/-- **What is listed of a loaded plugin.**  In every reachable machine the commands that are listed
of a plugin are what they should be, for the ids that its manifest declares and those that have been
registered in its sandbox, as many times as the plugin is in the load order.  The ids are distinct
if and only if those of the manifest are and the plugin is there once, or nothing is listed. -/
theorem History.commands_listed {past : List Machine} {m : Machine} (h : History past m)
    {name : String} {record : Record}
    (hrecord : m.world.registry.plugins.get? name = some record) :
    ∃ others listed,
      ListsCommands name (record.manifest.commands.map (·.id))
        (fun id => (past.findSome? (·.registered? record.sandbox id)).isSome = true) others listed ∧
      0 < m.world.registry.loadOrder.count name ∧
      m.world.commands.filter (·.plugin = name)
        = (List.replicate (m.world.registry.loadOrder.count name) listed).flatten ∧
      (((m.world.commands.filter (·.plugin = name)).map (·.id)).Nodup ↔
        (record.manifest.commands.map (·.id)).Nodup ∧
          (m.world.registry.loadOrder.count name = 1 ∨ listed = [])) := by
  have hlists := World.lists_commandsOf name record.manifest (m.world.sandbox record.sandbox)
  simp only [h.handler_latest] at hlists
  have hlisting : m.world.listing name
      = World.commandsOf name record.manifest (m.world.sandbox record.sandbox) := by
    unfold World.listing
    rw [hrecord]
  have hcount : 0 < m.world.registry.loadOrder.count name :=
    List.count_pos_iff.2
      ((h.reachable.listed name).2 (Dict.contains_iff.2 ⟨record, hrecord⟩))
  have hcommands := m.world.filter_commands name
  rw [hlisting] at hcommands
  refine ⟨_, _, hlists, hcount, hcommands, ?_⟩
  obtain ⟨hsound, hname⟩ := h.reachable.manifests_sound hrecord
  rw [hcommands, List.map_flatten, List.map_replicate, nodup_replicate_flatten _ hcount,
    hlists.nodup_iff (hname ▸ hsound.undotted), List.map_eq_nil_iff]
  rfl

end Machine

/-! ## Two listings -/

namespace Scene

/-- A folder with a plugin that declares some commands. -/
def declaring (commands : List DeclaredCommand) (script : List Json) : Files :=
  (files [⟨"p", "p", script⟩]).put ["p", PluginFolder.manifestFile]
    (.file (Text.encode (Manifest.toJson { name := "p", commands }).compact))

/-- The statement by which a script registers a command. -/
def registers (id : String) : Json :=
  .array [.text "do", .object [("call", .text "plugin.registerCommand"), ("args",
    .array [.object [("k", .array [.array [.text "id", .text id],
      .array [.text "title", .text id],
      .array [.text "execute", .object [("fn", .array [])]]])]])]]

end Scene

/-- A plugin with a command that is only declared and one that is only registered. -/
theorem mixed_listed : ∃ past m record others listed, Machine.History past m ∧
    m.world.registry.plugins.get? "p" = some record ∧
    ListsCommands "p" (record.manifest.commands.map (·.id))
      (fun id => (past.findSome? (·.registered? record.sandbox id)).isSome = true) others listed ∧
    m.world.commands.filter (·.plugin = "p") = listed ∧
    listed.map (·.id) = ["p.b", "p.a"] ∧ (listed.map (·.id)).Nodup := by
  have hscene : (Scene.machineAmong? (Scene.declaring [⟨"b", "B"⟩] [Scene.registers "a"])
      [.load ⟨"p"⟩] .commands 0).any (fun m =>
        (m.world.registry.plugins.get? "p").any (fun record =>
          record.manifest.commands.map (·.id) == ["b"]) &&
        (m.world.registry.loadOrder == ["p"] &&
          (m.world.commands.filter (·.plugin = "p")).map (·.id) == ["p.b", "p.a"])) = true := by
    decide +kernel
  obtain ⟨m, -, hm, hq⟩ := Scene.reach_among hscene
  obtain ⟨hloaded, hlisted⟩ := Bool.and_eq_true_iff.1 hq
  obtain ⟨horder, hids⟩ := Bool.and_eq_true_iff.1 hlisted
  obtain ⟨record, hrecord, hdeclared⟩ := (Option.any_eq_true _ _).1 hloaded
  obtain ⟨past, hpast⟩ := hm.history
  obtain ⟨others, listed, hlists, -, hfilter, hnodup⟩ := hpast.commands_listed hrecord
  have hcount : m.world.registry.loadOrder.count "p" = 1 := by
    rw [beq_iff_eq.1 horder]
    decide
  have honce : m.world.commands.filter (·.plugin = "p") = listed := by
    rw [hfilter, hcount]
    exact List.append_nil listed
  have hdistinct : (record.manifest.commands.map (·.id)).Nodup := by
    rw [beq_iff_eq.1 hdeclared]
    decide
  rw [honce] at hids hnodup
  exact ⟨past, m, record, others, listed, hpast, hrecord, hlists, honce, beq_iff_eq.1 hids,
    hnodup.2 ⟨hdistinct, .inl hcount⟩⟩

/-- A plugin may declare one command twice, and then it is listed twice: a reachable machine lists
an id of a loaded plugin twice. -/
theorem doublet_listed_twice : ∃ m : Machine, m.Reachable ∧
    m.world.registry.plugins.contains "p" = true ∧
    (m.world.commands.filter (·.plugin = "p")).map (·.id) = ["p.x", "p.x"] := by
  have hscene : (Scene.machineAmong? (Scene.declaring [⟨"x", "X"⟩, ⟨"x", "Y"⟩] [])
      [.load ⟨"p"⟩] .commands 0).any (fun m => m.world.registry.plugins.contains "p" &&
        (m.world.commands.filter (·.plugin = "p")).map (·.id) == ["p.x", "p.x"]) = true := by
    decide +kernel
  obtain ⟨m, -, hm, hq⟩ := Scene.reach_among hscene
  obtain ⟨hloaded, hids⟩ := Bool.and_eq_true_iff.1 hq
  exact ⟨m, hm, hloaded, beq_iff_eq.1 hids⟩

end EditorPlugins
