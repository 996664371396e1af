import AgentCanvas.Command.Execution
import AgentCanvas.Proofs.Scene.Runs

set_option autoImplicit false

/-!
# What a command does

`Step` lists what one command can do to a store, each case with everything that was checked on the
way to it, and `dispatch_step` shows that the list is complete. Facts about single commands follow
from it by cases, without opening the executor again.
-/
namespace AgentCanvas.Execution

open Json

/-- The ways in which a command is refused. -/
inductive Refusal (s : Store) (c : Command) : CommandError → Prop where
  | unknownVerb (hv : c.parsedVerb? = none) : Refusal s c (.unknownVerb c.verb)
  | missingElementType (hv : c.parsedVerb? = some .create) (ht : c.elementType = none) :
      Refusal s c .missingElementType
  | unknownElementType {name : String} (hv : c.parsedVerb? = some .create)
      (ht : c.elementType = some name) (hk : ElementKind.parse? name = none) :
      Refusal s c (.unknownElementType name)
  | badParams {name : String} {kind : ElementKind} {why : Mismatch}
      (hv : c.parsedVerb? = some .create) (ht : c.elementType = some name)
      (hk : ElementKind.parse? name = some kind)
      (hp : ElementProps.ofParams kind c.params = .error why) :
      Refusal s c (.malformed why.message)
  | missingReference {verb : CommandVerb} (hv : c.parsedVerb? = some verb)
      (hneeds : verb = .update ∨ verb = .delete ∨ verb = .select) (hr : reference? c = none) :
      Refusal s c (.missingReference verb)
  | notFound {id : ElementId} (hv : c.parsedVerb? = some .update) (hr : reference? c = some id)
      (hid : id ∉ s.scene.ids) : Refusal s c (.notFound id)
  | badPatch {id : ElementId} {e : Element} {why : Mismatch} (hv : c.parsedVerb? = some .update)
      (hr : reference? c = some id) (he : s.scene.get? id = some e)
      (hp : e.props.merged (patchOf c) = .error why) :
      Refusal s c (.malformed (InvalidPatch.mk id why).message)

/-- What a command can do: it is refused and leaves the store alone, or it does what its verb says
    and reports that. -/
inductive Step (s : Store) (c : Command) : StoreStep CommandResult → Prop where
  | refused {error : CommandError} (h : Refusal s c error) : Step s c (fail s error)
  | created {name : String} {kind : ElementKind} {props : ElementProps}
      (hv : c.parsedVerb? = some .create) (ht : c.elementType = some name)
      (hk : ElementKind.parse? name = some kind)
      (hp : ElementProps.ofParams kind c.params = .ok props) :
      Step s c (done (s.add props) .created)
  | updated {id : ElementId} {e : Element} {props : ElementProps}
      (hv : c.parsedVerb? = some .update) (hr : reference? c = some id)
      (he : s.scene.get? id = some e) (hp : e.props.merged (patchOf c) = .ok props) :
      Step s c ⟨.ok (.updated id), s.announce (s.scene.update id props),
        [.elementUpdated id (patchOf c).length]⟩
  | deleted {id : ElementId} (hv : c.parsedVerb? = some .delete) (hr : reference? c = some id) :
      Step s c (done (s.remove id) (.deleted id))
  | cleared (hv : c.parsedVerb? = some .clear) : Step s c (done s.clearAll .cleared)
  | selected {id : ElementId} (hv : c.parsedVerb? = some .select) (hr : reference? c = some id) :
      Step s c (done (s.select (some id)) fun _ => .selected id)
  | deselected (hv : c.parsedVerb? = some .deselect) :
      Step s c (done s.clearSelection fun _ => .deselected)

theorem create_step (s : Store) (c : Command) (hv : c.parsedVerb? = some .create) :
    Step s c (create s c) := by
  unfold create
  cases ht : c.elementType with
  | none => exact .refused (.missingElementType hv ht)
  | some name =>
    cases hk : ElementKind.parse? name with
    | none => simpa only [hk] using Step.refused (.unknownElementType hv ht hk)
    | some kind =>
      cases hp : ElementProps.ofParams kind c.params with
      | error why => simpa only [hk, hp] using Step.refused (.badParams hv ht hk hp)
      | ok props => simpa only [hk, hp] using Step.created hv ht hk hp

theorem update_step (s : Store) (c : Command) (id : ElementId)
    (hv : c.parsedVerb? = some .update) (hr : reference? c = some id) :
    Step s c (update Store.update s c id) := by
  unfold update
  obtain ⟨hn, _⟩ | ⟨e, why, he, hp, hs⟩ | ⟨e, props, he, hp, hs⟩ := s.update_cases id (patchOf c)
  · have hid : id ∉ s.scene.ids := (s.scene.get?_eq_none_iff id).mp hn
    simpa [s.scene.contains_eq_decide, hid] using Step.refused (.notFound hv hr hid)
  · have hc := (s.scene.contains_iff id).mpr (Scene.mem_ids_of_get? he)
    simpa only [hc, hs, if_true, fail] using Step.refused (.badPatch hv hr he hp)
  · have hc := (s.scene.contains_iff id).mpr (Scene.mem_ids_of_get? he)
    simpa only [hc, hs, if_true] using Step.updated hv hr he hp

theorem withReference_step (s : Store) (c : Command) (verb : CommandVerb)
    (act : ElementId → StoreStep CommandResult) (hv : c.parsedVerb? = some verb)
    (hneeds : verb = .update ∨ verb = .delete ∨ verb = .select)
    (hact : ∀ id, reference? c = some id → Step s c (act id)) :
    Step s c (withReference s verb c act) := by
  unfold withReference
  cases hr : reference? c with
  | none => exact .refused (.missingReference hv hneeds hr)
  | some id => exact hact id hr

theorem dispatch_step (s : Store) (c : Command) : Step s c (dispatch Store.update s c) := by
  unfold dispatch
  cases hv : c.parsedVerb? with
  | none => exact .refused (.unknownVerb hv)
  | some verb =>
    cases verb with
    | create => exact create_step s c hv
    | update => exact withReference_step s c .update _ hv (by simp) fun id => update_step s c id hv
    | delete => exact withReference_step s c .delete _ hv (by simp) fun id => .deleted hv
    | clear => exact .cleared hv
    | select => exact withReference_step s c .select _ hv (by simp) fun id => .selected hv
    | deselect => exact .deselected hv

theorem Refusal.eq_dispatch {s : Store} {c : Command} {error : CommandError}
    (h : Refusal s c error) : dispatch Store.update s c = fail s error := by
  cases h with
  | unknownVerb hv => simp [dispatch, hv]
  | missingElementType hv ht => simp [dispatch, hv, create, ht]
  | unknownElementType hv ht hk => simp [dispatch, hv, create, ht, hk]
  | badParams hv ht hk hp => simp [dispatch, hv, create, ht, hk, hp]
  | missingReference hv hneeds hr =>
    obtain rfl | rfl | rfl := hneeds
    · simp [dispatch, hv, withReference, hr]
    · simp [dispatch, hv, withReference, hr]
    · simp [dispatch, hv, withReference, hr]
  | notFound hv hr hid =>
    simp [dispatch, hv, withReference, hr, update, Scene.contains_eq_decide, hid]
  | badPatch hv hr he hp =>
    have hid := Scene.mem_ids_of_get? he
    simp [dispatch, hv, withReference, hr, update, Store.update, Scene.contains_eq_decide, hid, he,
      hp, fail]

theorem Step.eq_dispatch {s : Store} {c : Command} {step : StoreStep CommandResult}
    (h : Step s c step) : dispatch Store.update s c = step := by
  cases h with
  | refused h => exact h.eq_dispatch
  | created hv ht hk hp => simp [dispatch, hv, create, ht, hk, hp]
  | updated hv hr he hp =>
    have hid := Scene.mem_ids_of_get? he
    simp [dispatch, hv, withReference, hr, update, Store.update, Scene.contains_eq_decide, hid, he,
      hp]
  | deleted hv hr | selected hv hr => simp [dispatch, hv, withReference, hr]
  | cleared hv | deselected hv => simp [dispatch, hv]

theorem Step.store_of_error {s : Store} {c : Command} {step : StoreStep CommandResult}
    {error : CommandError} (hs : Step s c step) (h : step.answer = .error error) :
    step.store = s := by
  cases hs with
  | refused _ => rfl
  | created | updated | deleted | cleared | selected | deselected => cases h

/-- A command does at most one operation on the store. -/
theorem Step.operation {s : Store} {c : Command} {step : StoreStep CommandResult}
    (hs : Step s c step) : step.store = s ∨ ∃ operation, step.store = s.apply operation := by
  cases hs with
  | refused _ => exact .inl rfl
  | created => exact .inr ⟨.add _, rfl⟩
  | @updated id _ _ _ _ he hp =>
    exact .inr ⟨.update id (patchOf c), by simp [Store.apply, Store.update, he, hp]⟩
  | deleted => exact .inr ⟨.remove _, rfl⟩
  | cleared => exact .inr ⟨.clearAll, rfl⟩
  | selected => exact .inr ⟨.select _, rfl⟩
  | deselected => exact .inr ⟨.clearSelection, rfl⟩

end AgentCanvas.Execution

namespace AgentCanvas

open Execution

theorem execute_answer (s : Store) (c : Command) :
    (execute s c).answer = (dispatch Store.update s c).answer := by
  simp only [execute, executeVia]

theorem execute_store (s : Store) (c : Command) :
    (execute s c).store = (dispatch Store.update s c).store := by
  simp only [execute, executeVia]

theorem execute_events (s : Store) (c : Command) : (execute s c).events =
    (dispatch Store.update s c).events ++ [report c (dispatch Store.update s c).answer] := by
  simp only [execute, executeVia]

theorem execute_store_of_error {s : Store} {c : Command} {error : CommandError}
    (h : (execute s c).answer = .error error) : (execute s c).store = s := by
  rw [execute_answer] at h
  rw [execute_store]
  exact (dispatch_step s c).store_of_error h

theorem execute_reachable {s : Store} (h : s.Reachable) (c : Command) :
    (execute s c).store.Reachable := by
  rw [execute_store]
  obtain hs | ⟨operation, hs⟩ := (dispatch_step s c).operation
  · rw [hs]
    exact h
  · rw [hs]
    exact h.step operation

theorem executeAll_nil_store (s : Store) : (executeAll s []).store = s := rfl

theorem executeAll_cons_store (s : Store) (c : Command) (commands : List Command) :
    (executeAll s (c :: commands)).store = (executeAll (execute s c).store commands).store := by
  simp only [executeAll]

theorem executeAll_cons_answer (s : Store) (c : Command) (commands : List Command) :
    (executeAll s (c :: commands)).answer =
      (execute s c).answer :: (executeAll (execute s c).store commands).answer := by
  simp only [executeAll]

theorem executeAll_cons_events (s : Store) (c : Command) (commands : List Command) :
    (executeAll s (c :: commands)).events =
      (execute s c).events ++ (executeAll (execute s c).store commands).events := by
  simp only [executeAll]

theorem executeAll_append_store (s : Store) (first second : List Command) :
    (executeAll s (first ++ second)).store =
      (executeAll (executeAll s first).store second).store := by
  induction first generalizing s with
  | nil => rfl
  | cons c first ih =>
    rw [List.cons_append, executeAll_cons_store, ih, executeAll_cons_store]

theorem executeAll_append_answer (s : Store) (first second : List Command) :
    (executeAll s (first ++ second)).answer =
      (executeAll s first).answer ++ (executeAll (executeAll s first).store second).answer := by
  induction first generalizing s with
  | nil => rfl
  | cons c first ih =>
    rw [List.cons_append, executeAll_cons_answer, ih, executeAll_cons_answer, executeAll_cons_store,
      List.cons_append]

end AgentCanvas
