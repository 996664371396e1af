import AgentCanvas.Proofs.Command.Steps
import AgentCanvas.Proofs.Element.Kinds

set_option autoImplicit false

/-!
# Reports are truthful

Whoever sees only the results of commands can tell the ids in paint order and the selection of the
scene: an outline that follows the results admits each of them and ends as the outline of the scene.
What the results do not report does not happen to the elements either.
-/
namespace AgentCanvas

/-- The ids of a scene in paint order and its selection. -/
structure Outline where
  ids : List ElementId
  selected : Option ElementId
  deriving DecidableEq, Repr

def Scene.outline (s : Scene) : Outline :=
  ⟨s.ids, s.selected⟩

namespace Outline

/-- Whether a result may be reported of a scene with this outline. -/
def admits (o : Outline) : CommandResult → Bool
  | .ok (.created id) => decide (id ∉ o.ids ∧ o.selected ≠ some id)
  | .ok (.updated id) => decide (id ∈ o.ids)
  | .ok (.deleted id existed) => existed == decide (id ∈ o.ids)
  | .ok (.cleared removed) => removed == o.ids.length
  | .ok (.selected _) => true
  | .ok .deselected => true
  | .error _ => true

def after (o : Outline) : CommandResult → Outline
  | .ok (.created id) => { o with ids := o.ids ++ [id] }
  | .ok (.updated _) => o
  | .ok (.deleted id true) =>
    ⟨o.ids.filter fun other => other != id, if o.selected = some id then none else o.selected⟩
  | .ok (.deleted _ false) => o
  | .ok (.cleared _) => ⟨[], none⟩
  | .ok (.selected id) => { o with selected := some id }
  | .ok .deselected => { o with selected := none }
  | .error _ => o

/-- The outline after reported results, if it admits each of them in its turn. -/
def replay? (o : Outline) : List CommandResult → Option Outline
  | [] => some o
  | result :: results => if o.admits result then replay? (o.after result) results else none

end Outline

namespace Execution

theorem Step.outline {s : Store} {c : Command} {step : StoreStep CommandResult}
    (hs : Step s c step) (hn : s.scene.ids.Nodup) :
    s.scene.outline.admits step.answer = true ∧
      s.scene.outline.after step.answer = step.store.scene.outline := by
  cases hs with
  | refused _ => exact ⟨rfl, rfl⟩
  | @created _ _ props =>
    have hids := s.add_answer_not_mem props
    have hselected := s.add_answer_ne_selected props
    simp [done, Outline.admits, Outline.after, Scene.outline, Store.add_scene, hids, hselected]
  | updated _ _ he _ =>
    simp [Outline.admits, Outline.after, Scene.outline, Scene.mem_ids_of_get? he]
  | @deleted id =>
    obtain ⟨hid, hr⟩ | ⟨hid, hr⟩ := s.remove_cases id
    · simp [done, hr, Outline.admits, Outline.after, Scene.outline, hid]
    · have herase : s.scene.ids.erase id = s.scene.ids.filter fun other => other != id :=
        hn.erase_eq_filter id
      by_cases hselected : s.scene.selected = some id
      · simp [done, hr, Outline.admits, Outline.after, Scene.outline, hid, herase, hselected]
      · simp [done, hr, Outline.admits, Outline.after, Scene.outline, hid, herase, hselected]
  | cleared => simp [done, Store.clearAll, Outline.admits, Outline.after, Scene.outline]
  | selected => simp [done, Outline.admits, Outline.after, Scene.outline]
  | deselected => simp [done, Outline.admits, Outline.after, Scene.outline]

/-- An element that is there before and after a command keeps its kind, and everything else unless
    the command reports it as updated. -/
theorem Step.keeps {s : Store} {c : Command} {step : StoreStep CommandResult} {e : Element}
    (hs : Step s c step) (hn : s.scene.ids.Nodup) (he : e ∈ s.scene.elements)
    (hid : e.id ∈ step.store.scene.ids) :
    ∃ later ∈ step.store.scene.elements, later.id = e.id ∧ later.kind = e.kind ∧
      (step.answer ≠ .ok (.updated e.id) → later = e) := by
  cases hs with
  | refused _ => exact ⟨e, he, rfl, rfl, fun _ => rfl⟩
  | created => exact ⟨e, List.mem_append_left _ he, rfl, rfl, fun _ => rfl⟩
  | @updated id found props _ _ hfound hp =>
    by_cases h : e.id = id
    · subst h
      have hsame : found = e := Scene.eq_of_get? hn he hfound
      subst hsame
      exact ⟨{ found with props }, Scene.mem_setProps_of_find hfound, rfl,
        ElementProps.merged_kind hp, fun hne => absurd rfl hne⟩
    · exact ⟨e, Scene.mem_setProps_of_ne he h, rfl, rfl, fun _ => rfl⟩
  | @deleted id =>
    obtain ⟨_, hr⟩ | ⟨_, hr⟩ := s.remove_cases id
    · exact ⟨e, by simpa [done, hr] using he, rfl, rfl, fun _ => rfl⟩
    · have hne : e.id ≠ id := by
        have hmem : e.id ∈ s.scene.ids.erase id := by simpa [done, hr] using hid
        exact (hn.mem_erase_iff.mp hmem).1
      have hmem : e ∈ (s.scene.remove id).elements := Scene.mem_dropElement_of_ne he hne
      exact ⟨e, by simpa [done, hr] using hmem, rfl, rfl, fun _ => rfl⟩
  | cleared => simp [done] at hid
  | selected => exact ⟨e, he, rfl, rfl, fun _ => rfl⟩
  | deselected => exact ⟨e, he, rfl, rfl, fun _ => rfl⟩

end Execution

open Execution

theorem execute_outline (s : Store) (c : Command) (hn : s.scene.ids.Nodup) :
    s.scene.outline.admits (execute s c).answer = true ∧
      s.scene.outline.after (execute s c).answer = (execute s c).store.scene.outline := by
  rw [execute_answer, execute_store]
  exact (dispatch_step s c).outline hn

theorem execute_keeps {s : Store} {c : Command} {e : Element} (hn : s.scene.ids.Nodup)
    (he : e ∈ s.scene.elements) (hid : e.id ∈ (execute s c).store.scene.ids) :
    ∃ later ∈ (execute s c).store.scene.elements, later.id = e.id ∧ later.kind = e.kind ∧
      ((execute s c).answer ≠ .ok (.updated e.id) → later = e) := by
  rw [execute_store] at hid ⊢
  rw [execute_answer]
  exact (dispatch_step s c).keeps hn he hid

theorem executeAll_outline {s : Store} (h : s.Reachable) (commands : List Command) :
    s.scene.outline.replay? (executeAll s commands).answer =
      some (executeAll s commands).store.scene.outline := by
  induction commands generalizing s with
  | nil => rfl
  | cons c commands ih =>
    obtain ⟨hadmits, hafter⟩ := execute_outline s c h.nodup
    rw [executeAll_cons_answer, executeAll_cons_store, Outline.replay?, if_pos hadmits, hafter]
    exact ih (execute_reachable h c)

/-- There is an element with an id before the first command and after each of them. -/
def AlwaysPresent (s : Store) (commands : List Command) (id : ElementId) : Prop :=
  ∀ n, id ∈ (executeAll s (commands.take n)).store.scene.ids

theorem AlwaysPresent.tail {s : Store} {c : Command} {commands : List Command} {id : ElementId}
    (h : AlwaysPresent s (c :: commands) id) : AlwaysPresent (execute s c).store commands id := by
  intro n
  have hn := h (n + 1)
  rwa [List.take_succ_cons, executeAll_cons_store] at hn

theorem executeAll_keeps {s : Store} (h : s.Reachable) (commands : List Command) {e : Element}
    (he : e ∈ s.scene.elements) (hp : AlwaysPresent s commands e.id) :
    ∃ later ∈ (executeAll s commands).store.scene.elements,
      later.id = e.id ∧ later.kind = e.kind ∧
        (.ok (.updated e.id) ∉ (executeAll s commands).answer → later = e) := by
  induction commands generalizing s e with
  | nil => exact ⟨e, he, rfl, rfl, fun _ => rfl⟩
  | cons c commands ih =>
    have hid := hp.tail 0
    rw [List.take_zero, executeAll_nil_store] at hid
    obtain ⟨mid, hmid, hmidId, hmidKind, hmidSame⟩ := execute_keeps h.nodup he hid
    obtain ⟨later, hlater, hlaterId, hlaterKind, hlaterSame⟩ :=
      ih (execute_reachable h c) hmid (hmidId ▸ hp.tail)
    rw [executeAll_cons_store, executeAll_cons_answer]
    refine ⟨later, hlater, hlaterId.trans hmidId, hlaterKind.trans hmidKind, fun hnot => ?_⟩
    rw [List.mem_cons, not_or] at hnot
    have hsame := hmidSame (Ne.symm hnot.1)
    exact (hlaterSame (hmidId ▸ hnot.2)).trans hsame

/-- The results of commands tell what happened to the scene: from its outline one can follow them
    step by step, each is admitted in its turn, and the end is the outline of the scene after the
    last command. And an element that is there throughout keeps its kind, and everything else unless
    a result reports it as updated. -/
theorem reports_are_truthful {s : Store} (h : s.Reachable) (commands : List Command) :
    s.scene.outline.replay? (executeAll s commands).answer =
        some (executeAll s commands).store.scene.outline ∧
      ∀ e ∈ s.scene.elements, AlwaysPresent s commands e.id →
        ∃ later ∈ (executeAll s commands).store.scene.elements,
          later.id = e.id ∧ later.kind = e.kind ∧
            (.ok (.updated e.id) ∉ (executeAll s commands).answer → later = e) :=
  ⟨executeAll_outline h commands, fun _ he hp => executeAll_keeps h commands he hp⟩

/-- A text is put above a circle, and then an id is selected that no element has. -/
theorem circle_below_text_is_kept :
    let s := (Store.empty (.uuids 0)).apply (.add (.initial .circle))
    let circle : Element :=
      ⟨((Store.empty (.uuids 0)).add (.initial .circle)).answer, .initial .circle⟩
    let commands : List Command :=
      [⟨"create", some "text", none, none⟩, ⟨"select", none, some "x", none⟩]
    s.Reachable ∧ circle ∈ s.scene.elements ∧ AlwaysPresent s commands circle.id ∧
      s.scene.outline.replay? (executeAll s commands).answer =
        some (executeAll s commands).store.scene.outline ∧
      ∃ later ∈ (executeAll s commands).store.scene.elements,
        later.id = circle.id ∧ later.kind = circle.kind ∧
          (.ok (.updated circle.id) ∉ (executeAll s commands).answer → later = circle) := by
  intro s circle commands
  have hs : s.Reachable := .step (.empty _) _
  have hcircle : circle ∈ s.scene.elements := List.mem_singleton.mpr rfl
  have hcreate : ∀ s, (execute s ⟨"create", some "text", none, none⟩).store =
      (s.add (.initial .text)).store := by
    intro s
    rw [execute_store]
    rfl
  have hselect : ∀ s, (execute s ⟨"select", none, some "x", none⟩).store =
      (s.select (some ⟨"x"⟩)).store := by
    intro s
    rw [execute_store]
    rfl
  have hp : AlwaysPresent s commands circle.id := by
    have hid : circle.id ∈ s.scene.ids := List.mem_map_of_mem hcircle
    intro n
    rcases n with _ | _ | n
    · simpa [commands, executeAll_nil_store] using hid
    · simp [commands, executeAll_cons_store, executeAll_nil_store, hcreate, Store.add_scene, hid]
    · simp [commands, executeAll_cons_store, executeAll_nil_store, hcreate, hselect,
        Store.add_scene, hid]
  have h := reports_are_truthful hs commands
  exact ⟨hs, hcircle, hp, h.1, h.2 circle hcircle hp⟩

end AgentCanvas
