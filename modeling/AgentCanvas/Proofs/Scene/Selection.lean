import AgentCanvas.Proofs.Scene.Runs
import Mathlib.Data.List.Count

set_option autoImplicit false

namespace AgentCanvas

namespace Snapshot

def flaggedIds (snapshot : Snapshot) : List ElementId :=
  snapshot.flagged.map fun entry => entry.element.id

end Snapshot

namespace Scene

theorem flaggedIds_eq (s : Scene) :
    s.snapshot.flaggedIds = s.ids.filter fun id => s.selected == some id := by
  simp only [Snapshot.flaggedIds, Snapshot.flagged, snapshot, Snapshot.capture, ids,
    List.filter_map, List.map_map]
  rfl

/-- Where no id occurs twice, the selected id is flagged if an element has it, and nothing else. -/
theorem flaggedIds_eq_selected (s : Scene) (h : s.ids.Nodup) :
    s.snapshot.flaggedIds = s.selected.toList.filter s.contains := by
  rw [flaggedIds_eq]
  cases hs : s.selected with
  | none => simp
  | some selected =>
    have hfilter : s.ids.filter (fun id => some selected == some id) =
        List.replicate (s.ids.count selected) selected := by
      rw [← List.filter_beq]
      exact List.filter_congr fun id _ => by simp [eq_comm]
    rw [hfilter]
    by_cases hm : selected ∈ s.ids
    · simp [List.count_eq_one_of_mem h hm, contains_eq_decide, hm]
    · simp [List.count_eq_zero_of_not_mem hm, contains_eq_decide, hm]

theorem flagged_length_le_one (s : Scene) (h : s.ids.Nodup) : s.snapshot.flagged.length ≤ 1 := by
  have hlength : s.snapshot.flagged.length = s.snapshot.flaggedIds.length := by
    simp [Snapshot.flaggedIds]
  rw [hlength, flaggedIds_eq_selected s h]
  exact Nat.le_trans (List.length_filter_le _ _) Option.length_toList_le

theorem flags_eq_isSelected (s : Scene) :
    s.snapshot.entries.map SnapshotEntry.selected =
      s.snapshot.entries.map fun entry => s.isSelected entry.element.id := by
  simp only [snapshot, Snapshot.capture, List.map_map]
  apply List.map_congr_left
  intro e he
  have hc : s.contains e.id = true := (s.contains_iff e.id).mpr (List.mem_map_of_mem he)
  simp [isSelected, hc]

theorem flagged_add (s : Scene) (e : Element) (h : s.selected ≠ some e.id) :
    (s.add e).snapshot.flagged = s.snapshot.flagged := by
  simp [snapshot, Snapshot.capture, Snapshot.flagged, add, h]

theorem isSelected_add (s : Scene) (e : Element) (h : s.selected ≠ some e.id) (id : ElementId) :
    (s.add e).isSelected id = s.isSelected id := by
  by_cases hid : id = e.id
  · have hb : (s.selected == some e.id) = false := by simpa using h
    simp [isSelected, hid, hb]
  · simp [isSelected, contains_eq_decide, hid]

end Scene

namespace Store

/-- After every run from an empty scene, whatever candidates the source of ids yields: no two
    elements share an id; the snapshot flags the selected id if an element has it, and nothing else;
    each flag is what `isSelected` says; and adding an element changes neither what is flagged nor
    what is selected. -/
theorem run_flags (ids : IdSource) (operations : List Operation) :
    let s := (empty ids).run operations
    s.scene.ids.Nodup ∧
      s.scene.snapshot.flaggedIds = s.scene.selected.toList.filter s.scene.contains ∧
      s.scene.snapshot.flagged.length ≤ 1 ∧
      (s.scene.snapshot.entries.map SnapshotEntry.selected =
        s.scene.snapshot.entries.map fun entry => s.scene.isSelected entry.element.id) ∧
      ∀ props, (s.add props).store.scene.snapshot.flagged = s.scene.snapshot.flagged ∧
        ∀ id, (s.add props).store.scene.isSelected id = s.scene.isSelected id := by
  intro s
  have hn : s.scene.ids.Nodup := ((Reachable.empty ids).run operations).nodup
  refine ⟨hn, s.scene.flaggedIds_eq_selected hn, s.scene.flagged_length_le_one hn,
    s.scene.flags_eq_isSelected, fun props => ?_⟩
  have hfree := s.add_answer_ne_selected props
  exact ⟨s.scene.flagged_add _ hfree, s.scene.isSelected_add _ hfree⟩

end Store
end AgentCanvas
