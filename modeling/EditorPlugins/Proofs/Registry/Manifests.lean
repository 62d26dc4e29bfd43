/-
  What the manifests of loaded plugins say.

  A manifest is tested when it is read, and only a tested one starts a load.  The tests are what the
  encodings that a name begins rely on, the qualified id of a command and the key of a setting: a
  name without points can be cut off again at the first point.

  Main statement: `Reachable.manifests_sound`.
-/
import EditorPlugins.Proofs.Manifest.Reading
import EditorPlugins.Proofs.Manifest.Rules
import EditorPlugins.Proofs.Registry.Ownership
import EditorPlugins.Proofs.World.Saving

namespace EditorPlugins

namespace Manifest

/-- What the tests of a manifest establish: the name is neither empty nor cut by a point, and no
command is without an id. -/
structure Sound (m : Manifest) : Prop where
  name_ne_empty : m.name ≠ ""
  undotted : '.' ∉ m.name.toList
  commands : ∀ c ∈ m.commands, c.id ≠ ""

theorem sound_of_checked {m m' : Manifest} (h : m.checked = .ok m') : m'.Sound := by
  obtain ⟨hchecked, -, rfl⟩ := checked_eq_ok h
  obtain ⟨hnamed, hplain⟩ := checkName_eq_ok_iff.1 hchecked
  refine ⟨?_, fun hdot => (hplain '.' hdot).1 rfl, fun c hc hid => ?_⟩
  · intro hempty
    rw [hempty] at hnamed
    exact hnamed nofun
  · have hkept := (List.mem_filter.1 hc).2
    rw [hid] at hkept
    cases hkept

theorem sound_of_parse {text : String} {m : Manifest} (h : parse text = .ok m) : m.Sound := by
  obtain ⟨j, -, hj⟩ := parse_eq_ok h
  obtain ⟨_, _, -, -, hchecked⟩ := ofJson?_eq_ok hj
  exact sound_of_checked hchecked

end Manifest

/-- What is read from a folder is sound. -/
theorem PluginFolder.sound_of_readManifest {f : Files} {root : Path} {m : Manifest}
    (h : PluginFolder.readManifest f root = .ok m) : m.Sound := by
  unfold readManifest at h
  dsimp only at h
  split at h
  · cases h
  · split at h
    · exact Manifest.sound_of_parse h
    · cases h

/-- A load that begins has read its manifest. -/
theorem World.sound_of_begun {w : World} {root : Path} {p : PendingLoad} {s : Sandbox}
    (h : w.loadEvent? root = some (.begun p s)) : p.manifest.Sound := by
  obtain ⟨_, _, _, -, hread, -⟩ := plan_of_begun h
  exact PluginFolder.sound_of_readManifest hread

/-- The manifests of all loaded plugins and of all loads under way are sound. -/
structure ManifestsSound (s : Situation) : Prop where
  record : ∀ name record, s.record? name = some record → record.manifest.Sound
  pending : ∀ p ∈ Frame.pending s.waiting, p.manifest.Sound

namespace ManifestsSound

theorem of_fewer {s s' : Situation} (h : ManifestsSound s)
    (hrecords : ∀ name new, s'.record? name = some new →
      ∃ old, s.record? name = some old ∧ old.Same new)
    (hpending : ∀ p ∈ Frame.pending s'.waiting, p ∈ Frame.pending s.waiting) :
    ManifestsSound s' where
  record name new hnew := by
    obtain ⟨old, hold, -, hmanifest⟩ := hrecords name new hnew
    rw [hmanifest]
    exact h.record name old hold
  pending p hp := h.pending p (hpending p hp)

/-- A load that begins brings the manifest that it has read, and hands it to the record. -/
theorem loading {s s' : Situation} {e : LoadEvent} (hs : Loading s e s')
    (hbegun : ∀ p sandbox, e = .begun p sandbox → p.manifest.Sound) (h : ManifestsSound s) :
    ManifestsSound s' := by
  have hsame : ∀ name new, s.record? name = some new →
      ∃ old, s.record? name = some old ∧ old.Same new := fun _ new hnew => ⟨new, hnew, rfl, rfl⟩
  cases hs with
  | begun =>
    refine ⟨h.record, fun q hq => ?_⟩
    rcases List.mem_cons.1 hq with rfl | hq
    · exact hbegun _ _ rfl
    · exact h.pending q hq
  | refused => exact h.of_fewer hsame (fun _ hp => hp)
  | abandoned => exact h.of_fewer hsame (fun _ hp => List.mem_cons_of_mem _ hp)
  | @completed w F p =>
    refine ⟨fun name record hrecord => ?_, fun q hq => h.pending q (List.mem_cons_of_mem p hq)⟩
    have hrecord : (w.registry.plugins.insert p.manifest.name
        ⟨p.sandbox, true, none, p.manifest⟩).get? name = some record := hrecord
    rw [Dict.get?_insert] at hrecord
    split at hrecord
    · cases hrecord
      exact h.pending p List.mem_cons_self
    · exact h.record name record hrecord

end ManifestsSound

namespace Machine

/-- **Every loaded plugin has a sound manifest, under the name of which it is loaded**, in every
reachable machine. -/
theorem Reachable.manifests_sound {m : Machine} (hm : m.Reachable) {name : String}
    {record : Record} (hrecord : m.world.registry.plugins.get? name = some record) :
    record.manifest.Sound ∧ record.manifest.name = name := by
  have hsound : ManifestsSound m.situation := by
    refine hm.avoiding_nothing.invariant (fun _ _ _ _ => ⟨nofun, nofun⟩) ?_ ?_ ?_
    · exact fun s s' hchange h =>
        h.of_fewer (fun _ _ => hchange.record_before) (fun p hp => hchange.pending ▸ hp)
    · exact fun s s' hremoval h =>
        h.of_fewer (fun _ _ => hremoval.record_before) (fun p hp => hremoval.pending ▸ hp)
    · intro m w e _ _ hevent hloading h
      refine h.loading hloading fun p sandbox he => ?_
      subst he
      rcases ended_or_started hevent with ⟨-, _, _, -, hnever | ⟨_, hnever⟩⟩ | ⟨root, -, hstarted⟩
      · cases hnever
      · cases hnever
      · exact World.sound_of_begun hstarted
  exact ⟨hsound.record name record hrecord, (hm.owned.record name record hrecord).2.1⟩

end Machine

end EditorPlugins
