import AgentCanvas.Proofs.Element.Overlay
import AgentCanvas.Proofs.Json.FiniteNumbers
import AgentCanvas.Proofs.Scene.Runs

set_option autoImplicit false

namespace AgentCanvas

open Json

theorem Vec3.Decodes.isFinite {value : Value} {v : Vec3} (h : Vec3.Decodes value v)
    (hvalue : value.IsFinite) : ∀ x ∈ v.coordinates, x.isFinite = true := by
  cases h with
  | mk x y z =>
    have hitems := Value.isFinite_array_iff.mp hvalue
    simp only [List.forall_mem_cons, Value.isFinite_number_iff] at hitems
    obtain ⟨hx, hy, hz, -⟩ := hitems
    simp only [coordinates, List.forall_mem_cons, List.not_mem_nil, IsEmpty.forall_iff,
      implies_true, and_true]
    exact ⟨hx, hy, hz⟩

theorem SlotType.Decodes.isFinite {type : SlotType} {value : Value} {content : Slot.Content}
    (h : type.Decodes value content) (hvalue : value.IsFinite) : content.IsFinite := by
  cases h with
  | number n | someNumber n =>
    exact List.forall_mem_singleton.mpr (Value.isFinite_number_iff.mp hvalue)
  | vector excess h => exact h.isFinite hvalue
  | @points items vectors h =>
    intro x hx
    obtain ⟨v, hv, hx⟩ := List.mem_flatMap.mp hx
    obtain ⟨item, hitem, hdecodes⟩ := exists_of_mem h.flip hv
    exact hdecodes.isFinite (Value.isFinite_array_iff.mp hvalue item hitem) x hx
  | flag | text | noNumber | noText | someText | noObject | someObject => exact nofun

theorem Shape.numbers_eq (shape : Shape) :
    shape.numbers = shape.contents.flatMap Slot.Content.numbers := by
  cases shape <;> simp [numbers, contents, Slot.Content.numbers]

namespace ElementProps

variable {p q : ElementProps} {patch : Fields}

theorem isFinite_of_contents (h : ∀ content ∈ p.contents, content.IsFinite) :
    ∀ x ∈ p.numbers, x.isFinite = true := by
  have hnumbers : p.numbers = p.contents.flatMap Slot.Content.numbers := by
    simp [numbers, contents, commonContents, Shape.numbers_eq, Slot.Content.numbers]
  intro x hx
  rw [hnumbers] at hx
  obtain ⟨content, hcontent, hx⟩ := List.mem_flatMap.mp hx
  exact h content hcontent x hx

/-- Properties made by a patch with finite numbers have no others, whatever was patched. -/
theorem merged_isFinite (hpatch : patch.IsFinite) (h : p.merged patch = .ok q) :
    ∀ x ∈ q.numbers, x.isFinite = true := by
  have hread := (merged_ok_iff.mp h).2
  refine isFinite_of_contents fun content hcontent => ?_
  obtain ⟨slot, hslot, hread⟩ := exists_of_mem hread.flip hcontent
  cases hset : patch.last? slot.key with
  | some value =>
    rw [contentIn_patched_set hslot hset] at hread
    have hmem : (slot.key, value) ∈ patch := Fields.mem_of_last? hset
    exact (SlotType.read_ok_iff.mp hread).isFinite (hpatch _ hmem)
  | none =>
    obtain ⟨before, hbefore, hheld⟩ := written_at hslot
    have hkept : (p.patched patch).get? slot.key = p.fields.get? slot.key := by
      rw [get?_patched_slot hslot, hset, Option.none_or]
    exact Slot.isFinite_of_contentIn hbefore (hkept.trans hheld) hread

theorem ofParams_isFinite {kind : ElementKind} {params : Option Fields}
    (hparams : ∀ fields, params = some fields → fields.IsFinite)
    (h : ofParams kind params = .ok q) : ∀ x ∈ q.numbers, x.isFinite = true := by
  cases params with
  | none =>
    cases h
    exact isFinite_initial kind
  | some fields => exact merged_isFinite (hparams fields rfl) h

end ElementProps

def Operation.IsFinite : Operation → Prop
  | .add props => ∀ x ∈ props.numbers, x.isFinite = true
  | .update _ patch => patch.IsFinite
  | .remove _ | .select _ | .clearSelection | .clearAll | .subscribe => True

namespace Store

/-- The stores that such operations lead to from an empty scene. -/
inductive ReachableByDocuments : Store → Prop where
  | empty (ids : IdSource) : ReachableByDocuments (.empty ids)
  | step {s : Store} (h : ReachableByDocuments s) {operation : Operation}
    (hfinite : operation.IsFinite) : ReachableByDocuments (s.apply operation)

theorem ReachableByDocuments.reachable {s : Store} (h : s.ReachableByDocuments) : s.Reachable := by
  induction h with
  | empty ids => exact .empty ids
  | @step _ _ operation _ ih => exact ih.step operation

theorem apply_isFinite {s : Store} {operation : Operation}
    (h : ∀ e ∈ s.scene.elements, e.IsFinite) (hfinite : operation.IsFinite) :
    ∀ e ∈ (s.apply operation).scene.elements, e.IsFinite := by
  cases operation with
  | add props =>
    rw [apply, add_scene]
    exact List.forall_mem_append.mpr ⟨h, List.forall_mem_singleton.mpr hfinite⟩
  | update id patch =>
    obtain ⟨_, hs⟩ | ⟨_, _, _, _, hs⟩ | ⟨e, props, he, hp, hs⟩ := s.update_cases id patch
    · simpa [apply, hs] using h
    · simpa [apply, hs] using h
    · rw [apply, hs]
      intro changed hchanged
      obtain hold | rfl := Scene.mem_of_mem_setProps he hchanged
      · exact h changed hold
      · exact ElementProps.merged_isFinite hfinite hp
  | remove id =>
    obtain ⟨_, hs⟩ | ⟨_, hs⟩ := s.remove_cases id
    · simpa [apply, hs] using h
    · rw [apply, hs]
      exact fun e he => h e (Scene.mem_of_mem_dropElement he)
  | select | clearSelection | subscribe => exact h
  | clearAll => exact fun e he => absurd he List.not_mem_nil

/-- Every element holds finite numbers, and so its document tells all of it. -/
theorem ReachableByDocuments.isFinite {s : Store} (h : s.ReachableByDocuments) :
    ∀ e ∈ s.scene.elements, e.IsFinite := by
  induction h with
  | empty ids => exact fun e he => absurd he List.not_mem_nil
  | step _ hfinite ih => exact apply_isFinite ih hfinite

end Store
end AgentCanvas
