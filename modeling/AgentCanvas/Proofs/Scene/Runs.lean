import AgentCanvas.Proofs.Scene.Edits
import AgentCanvas.Scene.Store
import AgentCanvas.Scene.Uuid

set_option autoImplicit false

namespace AgentCanvas

open Json

inductive Operation where
  | add (props : ElementProps)
  | update (id : ElementId) (patch : Fields)
  | remove (id : ElementId)
  | select (selected : Option ElementId)
  | clearSelection
  | clearAll
  | subscribe

namespace Store

def apply (s : Store) : Operation → Store
  | .add props => (s.add props).store
  | .update id patch => (s.update id patch).store
  | .remove id => (s.remove id).store
  | .select selected => (s.select selected).store
  | .clearSelection => s.clearSelection.store
  | .clearAll => s.clearAll.store
  | .subscribe => s.subscribe

def run (s : Store) (operations : List Operation) : Store :=
  operations.foldl apply s

/-- The stores that operations lead to from an empty scene. -/
inductive Reachable : Store → Prop where
  | empty (ids : IdSource) : Reachable (.empty ids)
  | step {s : Store} (h : Reachable s) (operation : Operation) : Reachable (s.apply operation)

theorem Reachable.run {s : Store} (h : Reachable s) (operations : List Operation) :
    Reachable (s.run operations) := by
  induction operations generalizing s with
  | nil => exact h
  | cons operation operations ih => exact ih (h.step operation)

/-- A patch misses, does not fit, or changes the properties of the element it is for. -/
theorem update_cases (s : Store) (id : ElementId) (patch : Fields) :
    (s.scene.get? id = none ∧ s.update id patch = ⟨.ok false, s, [.updateMissed id]⟩) ∨
    (∃ e why, s.scene.get? id = some e ∧ e.props.merged patch = .error why ∧
      s.update id patch = ⟨.error ⟨id, why⟩, s, []⟩) ∨
    (∃ e props, s.scene.get? id = some e ∧ e.props.merged patch = .ok props ∧
      s.update id patch = ⟨.ok true, s.announce (s.scene.update id props),
        [.elementUpdated id patch.length]⟩) := by
  unfold update
  cases he : s.scene.get? id with
  | none => exact .inl ⟨rfl, rfl⟩
  | some e =>
    cases hm : e.props.merged patch with
    | error why => exact .inr (.inl ⟨e, why, rfl, hm, by simp [hm]⟩)
    | ok props => exact .inr (.inr ⟨e, props, rfl, hm, by simp [hm]⟩)

theorem update_of_merged {s : Store} {id : ElementId} {patch : Fields} {e : Element}
    {props : ElementProps} (he : s.scene.get? id = some e) (hp : e.props.merged patch = .ok props) :
    s.update id patch = ⟨.ok true, s.announce (s.scene.update id props),
      [.elementUpdated id patch.length]⟩ := by
  simp only [update, he, hp]

theorem remove_cases (s : Store) (id : ElementId) :
    (id ∉ s.scene.ids ∧ s.remove id = ⟨false, s, [.removeMissed id]⟩) ∨
    (id ∈ s.scene.ids ∧ s.remove id = ⟨true, s.announce (s.scene.remove id),
      [.elementRemoved id (s.scene.remove id).elements.length]⟩) := by
  unfold remove
  by_cases h : id ∈ s.scene.ids
  · exact .inr ⟨h, by simp [(s.scene.contains_iff id).mpr h]⟩
  · exact .inl ⟨h, by simp [s.scene.contains_eq_decide, h]⟩

@[simp] theorem announce_scene (s : Store) (scene : Scene) : (s.announce scene).scene = scene := rfl

theorem add_scene (s : Store) (props : ElementProps) :
    (s.add props).store.scene = s.scene.add ⟨(s.add props).answer, props⟩ := rfl

@[simp] theorem select_scene (s : Store) (selected : Option ElementId) :
    (s.select selected).store.scene = s.scene.select selected := rfl

@[simp] theorem clearSelection_scene (s : Store) :
    s.clearSelection.store.scene = s.scene.select none := rfl

@[simp] theorem clearAll_scene (s : Store) : s.clearAll.store.scene = .empty := rfl

/-- The id of a new element does not depend on what the element is. -/
theorem add_answer_irrel (s : Store) (p q : ElementProps) : (s.add p).answer = (s.add q).answer :=
  rfl

theorem add_answer_not_mem (s : Store) (props : ElementProps) :
    (s.add props).answer ∉ s.scene.ids := by
  have h : (s.add props).answer ∉ s.scene.taken := s.ids.draw_free s.scene.taken
  simp only [Scene.taken, List.mem_append, not_or] at h
  exact h.2

theorem get?_added {s : Store} {props : ElementProps} {id : ElementId}
    (h : (s.add props).answer = id) : (s.add props).store.scene.get? id = some ⟨id, props⟩ := by
  rw [add_scene, h]
  exact Scene.get?_add (h ▸ s.add_answer_not_mem props)

theorem add_answer_ne_selected (s : Store) (props : ElementProps) :
    s.scene.selected ≠ some (s.add props).answer := by
  have h : (s.add props).answer ∉ s.scene.taken := s.ids.draw_free s.scene.taken
  simp only [Scene.taken, List.mem_append, not_or, Option.mem_toList] at h
  exact h.1

theorem apply_nodup (s : Store) (operation : Operation) (h : s.scene.ids.Nodup) :
    (s.apply operation).scene.ids.Nodup := by
  cases operation with
  | add props =>
    have hfresh := s.add_answer_not_mem props
    rw [apply, add_scene, Scene.ids_add]
    exact h.append (List.nodup_singleton _) (by simpa using hfresh)
  | update id patch =>
    obtain ⟨_, hs⟩ | ⟨_, _, _, _, hs⟩ | ⟨_, _, _, _, hs⟩ := s.update_cases id patch <;>
      simpa [apply, hs] using h
  | remove id =>
    obtain ⟨_, hs⟩ | ⟨_, hs⟩ := s.remove_cases id
    · simpa [apply, hs] using h
    · simpa [apply, hs] using h.erase id
  | select selected => exact h
  | clearSelection => exact h
  | clearAll => exact List.nodup_nil
  | subscribe => exact h

theorem Reachable.nodup {s : Store} (h : Reachable s) : s.scene.ids.Nodup := by
  induction h with
  | empty ids => exact List.nodup_nil
  | step _ operation ih => exact apply_nodup _ operation ih

end Store

/-- A source may begin in any way: every finite list of ids, whatever it repeats, is what some
    source yields first. -/
theorem IdSource.exists_beginning (beginning : List ElementId) :
    ∃ source : IdSource, source.drawn = 0 ∧ source.take beginning.length = beginning := by
  let candidate (n : ℕ) : ElementId := (beginning[n]?).getD (Uuid.candidate 0 n)
  have leaves : LeavesEveryList candidate := by
    intro taken place
    obtain ⟨n, hn, hfree⟩ := Uuid.candidate_leaves 0 taken (max place beginning.length)
    have hbehind : beginning[n]? = none := List.getElem?_eq_none (by omega)
    exact ⟨n, by omega, by simpa [candidate, hbehind] using hfree⟩
  refine ⟨⟨candidate, 0, leaves⟩, rfl, List.ext_getElem (by simp [take]) ?_⟩
  intro n _ hn
  simp [take, candidate, hn]

end AgentCanvas
