/-
  Dictionaries that cross the boundary.

  A dictionary becomes a table with one entry for each key.  Its keys are strings, so none of them
  counts as a position, however much it looks like a number; a key of any characters comes back as
  it was.  So a dictionary is a canonical value, and what is taken out of the table again is the
  same dictionary.

  Main statements: `exportValue_importValue_ofDict`, `toDict_ofDict`.
-/
import EditorPlugins.Proofs.Boundary.RoundTrip

namespace EditorPlugins

open Script (Heap)

namespace HostTable

/-- The texts of a dictionary's fields are the dictionary. -/
theorem toDict_ofDict (d : Dict String) : (ofDict d).toDict = d := by
  have htexts : (d.entries.map fun e => (e.1, HostValue.text e.2)).filterMap
      (fun e => e.2.coerceText.map fun s => (e.1, s)) = d.entries := by
    rw [List.filterMap_map]
    exact List.filterMap_some
  show Dict.ofList ((d.entries.map fun e => (e.1, HostValue.text e.2)).filterMap
    (fun e => e.2.coerceText.map fun s => (e.1, s))) = d
  rw [htexts, Dict.ofList_entries]

end HostTable

namespace HostValue

theorem canonical_ofDict (d : Dict String) (depth : Nat) :
    (HostTable.ofDict d).toValue.Canonical (depth + 1) := by
  have hincreasing : Assoc.Increasing (d.entries.map fun e => (e.1, HostValue.text e.2)) :=
    List.pairwise_map.2 d.increasing
  refine ⟨Nat.zero_le _, hincreasing, List.forall_mem_nil _, fun f hf => ?_⟩
  obtain ⟨e, -, rfl⟩ := List.mem_map.1 hf
  refine ⟨nofun, ?_⟩
  cases depth <;> trivial

/-- **A dictionary that was put into a heap is taken out again as it was.** -/
theorem exportValue_importValue_ofDict (d : Dict String) (h : Heap) :
    exportValue (importValue (HostTable.ofDict d).toValue h).2
        (importValue (HostTable.ofDict d).toValue h).1
      = .ok (HostTable.ofDict d).toValue :=
  exportWithin_importValue maxDepth (canonical_ofDict d 31) h (.refl _)

end HostValue

end EditorPlugins
