import AgentCanvas.Proofs.Command.Steps
import AgentCanvas.Proofs.Element.Patches

set_option autoImplicit false

namespace AgentCanvas

/-- What an effect is reported as when the command comes again. -/
def CommandEffect.repeated : CommandEffect → CommandEffect
  | deleted id _ => deleted id false
  | cleared _ => cleared 0
  | effect => effect

theorem Store.not_mem_ids_remove {s : Store} (h : s.scene.ids.Nodup) (id : ElementId) :
    id ∉ (s.remove id).store.scene.ids := by
  obtain ⟨habsent, hr⟩ | ⟨_, hr⟩ := s.remove_cases id
  · rw [hr]
    exact habsent
  · rw [hr, announce_scene, Scene.ids_remove]
    exact h.not_mem_erase

namespace Execution

theorem Step.again {s : Store} {c : Command} {step : StoreStep CommandResult} (hs : Step s c step)
    (hids : s.scene.ids.Nodup) (hc : c.parsedVerb? ≠ some .create) :
    ∃ again, Step step.store c again ∧ again.store.scene = step.store.scene ∧
      again.answer = step.answer.map CommandEffect.repeated := by
  cases hs with
  | refused h => exact ⟨_, .refused h, rfl, rfl⟩
  | created hv => exact absurd hv hc
  | @updated id e props hv hr he hp =>
    have hnow : (s.scene.update id props).get? id = some { e with props } :=
      Scene.get?_update he props
    have hsame : props.merged (patchOf c) = .ok props := ElementProps.merged_again hp
    refine ⟨_, .updated hv hr hnow hsame, ?_, rfl⟩
    simp
  | @deleted id hv hr =>
    -- no other element has the id, so the second deletion misses
    obtain ⟨_, hagain⟩ | ⟨hmem, _⟩ := (s.remove id).store.remove_cases id
    · refine ⟨_, .deleted hv hr, ?_, ?_⟩
      · simp only [done, hagain]
      · simp only [done, hagain]
        rfl
    · exact absurd hmem (s.not_mem_ids_remove hids id)
  | cleared hv => exact ⟨_, .cleared hv, rfl, rfl⟩
  | selected hv hr => exact ⟨_, .selected hv hr, rfl, rfl⟩
  | deselected hv => exact ⟨_, .deselected hv, rfl, rfl⟩

end Execution

open Execution

/-- A command that makes no element is given twice to a store that operations led to. The scene
    after the second time is the scene after the first, and the second report is the first one, but
    that a deletion finds nothing and clearing takes nothing out. -/
theorem repeating_is_harmless {s : Store} (hs : s.Reachable) {c : Command}
    (hc : c.parsedVerb? ≠ some .create) :
    (execute (execute s c).store c).store.scene = (execute s c).store.scene ∧
      (execute (execute s c).store c).answer =
        (execute s c).answer.map CommandEffect.repeated := by
  obtain ⟨again, hagain, hscene, hanswer⟩ := (dispatch_step s c).again hs.nodup hc
  simp only [execute_store, execute_answer]
  rw [hagain.eq_dispatch]
  exact ⟨hscene, hanswer⟩

theorem clearing_again :
    let s := (Store.empty (.uuids 0)).apply (.add (.initial .circle))
    let c := Command.ofVerb " CLEAR "
    s.Reachable ∧ c.parsedVerb? ≠ some .create ∧
      (execute s c).answer = .ok (.cleared 1) ∧
      (execute (execute s c).store c).store.scene = .empty ∧
      (execute (execute s c).store c).answer = .ok (.cleared 0) := by
  intro s c
  have hs : s.Reachable := .step (.empty _) _
  have hv : c.parsedVerb? = some .clear := by decide +kernel
  have hc : c.parsedVerb? ≠ some .create := by simp [hv]
  have hfirst : dispatch Store.update s c = done s.clearAll .cleared := (Step.cleared hv).eq_dispatch
  have hanswer : (execute s c).answer = .ok (.cleared 1) := by
    rw [execute_answer, hfirst]
    rfl
  obtain ⟨hscene, hagain⟩ := repeating_is_harmless hs hc
  refine ⟨hs, hc, hanswer, ?_, ?_⟩
  · rw [hscene, execute_store, hfirst]
    rfl
  · rw [hagain, hanswer]
    rfl

end AgentCanvas
