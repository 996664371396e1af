import AgentCanvas.Scene.Basic
import Mathlib.Data.List.Nodup
import Mathlib.Tactic.SplitIfs

set_option autoImplicit false

namespace AgentCanvas.Scene

theorem contains_iff (s : Scene) (id : ElementId) : s.contains id = true ↔ id ∈ s.ids := by
  simp [contains, get?, ids]

theorem contains_eq_decide (s : Scene) (id : ElementId) : s.contains id = decide (id ∈ s.ids) := by
  rw [Bool.eq_iff_iff, contains_iff, decide_eq_true_iff]

theorem get?_id {s : Scene} {id : ElementId} {e : Element} (h : s.get? id = some e) : e.id = id := by
  simpa using List.find?_some h

theorem get?_mem {s : Scene} {id : ElementId} {e : Element} (h : s.get? id = some e) :
    e ∈ s.elements :=
  List.mem_of_find?_eq_some h

theorem mem_ids_of_get? {s : Scene} {id : ElementId} {e : Element} (h : s.get? id = some e) :
    id ∈ s.ids := by
  rw [← get?_id h]
  exact List.mem_map_of_mem (get?_mem h)

theorem get?_eq_none_iff (s : Scene) (id : ElementId) : s.get? id = none ↔ id ∉ s.ids := by
  rw [← contains_iff, contains, Bool.not_eq_true, Option.isSome_eq_false_iff, Option.isNone_iff_eq_none]

theorem eq_of_get? {s : Scene} {e found : Element} (hn : s.ids.Nodup) (he : e ∈ s.elements)
    (h : s.get? e.id = some found) : found = e :=
  List.inj_on_of_nodup_map hn (get?_mem h) he (get?_id h)

theorem get?_of_mem {s : Scene} {e : Element} (hn : s.ids.Nodup) (he : e ∈ s.elements) :
    s.get? e.id = some e := by
  cases hget : s.get? e.id with
  | none => exact absurd (List.mem_map_of_mem he) ((s.get?_eq_none_iff e.id).mp hget)
  | some found => rw [eq_of_get? hn he hget]

@[simp] theorem length_ids (s : Scene) : s.ids.length = s.elements.length := by
  simp [ids]

@[simp] theorem ids_empty : empty.ids = [] := rfl

@[simp] theorem ids_add (s : Scene) (e : Element) : (s.add e).ids = s.ids ++ [e.id] := by
  simp [ids, add]

@[simp] theorem ids_select (s : Scene) (selected : Option ElementId) :
    (s.select selected).ids = s.ids := rfl

theorem map_id_setProps (id : ElementId) (props : ElementProps) (elements : List Element) :
    (setProps id props elements).map Element.id = elements.map Element.id := by
  induction elements with
  | nil => rfl
  | cons e rest ih =>
    by_cases h : e.id = id
    · simp [setProps, h]
    · simp [setProps, h, ih]

@[simp] theorem ids_update (s : Scene) (id : ElementId) (props : ElementProps) :
    (s.update id props).ids = s.ids :=
  map_id_setProps id props s.elements

theorem map_id_dropElement (id : ElementId) (elements : List Element) :
    (dropElement id elements).map Element.id = (elements.map Element.id).erase id := by
  induction elements with
  | nil => rfl
  | cons e rest ih =>
    by_cases h : e.id = id
    · simp [dropElement, h]
    · simp [dropElement, h, ih]

@[simp] theorem ids_remove (s : Scene) (id : ElementId) : (s.remove id).ids = s.ids.erase id :=
  map_id_dropElement id s.elements

@[simp] theorem selected_add (s : Scene) (e : Element) : (s.add e).selected = s.selected := rfl

@[simp] theorem selected_update (s : Scene) (id : ElementId) (props : ElementProps) :
    (s.update id props).selected = s.selected := rfl

@[simp] theorem selected_select (s : Scene) (selected : Option ElementId) :
    (s.select selected).selected = selected := rfl

@[simp] theorem selected_empty : empty.selected = none := rfl

@[simp] theorem selected_remove (s : Scene) (id : ElementId) :
    (s.remove id).selected = if s.selected = some id then none else s.selected := rfl

theorem setProps_setProps (id : ElementId) (p q : ElementProps) (elements : List Element) :
    setProps id q (setProps id p elements) = setProps id q elements := by
  induction elements with
  | nil => rfl
  | cons e rest ih =>
    by_cases h : e.id = id
    · simp [setProps, h]
    · simp [setProps, h, ih]

@[simp] theorem update_update (s : Scene) (id : ElementId) (p q : ElementProps) :
    (s.update id p).update id q = s.update id q := by
  simp [update, setProps_setProps]

theorem setProps_cut {id : ElementId} {elements : List Element} {e : Element}
    (h : elements.find? (fun other => other.id == id) = some e) (props : ElementProps) :
    ∃ before after, elements = before ++ e :: after ∧ (∀ other ∈ before, other.id ≠ id) ∧
      setProps id props elements = before ++ { e with props } :: after := by
  induction elements with
  | nil => cases h
  | cons first rest ih =>
    by_cases hfirst : first.id = id
    · obtain rfl : first = e := by simpa [hfirst] using h
      exact ⟨[], rest, rfl, by simp, by simp [setProps, hfirst]⟩
    · have hrest : rest.find? (fun other => other.id == id) = some e := by simpa [hfirst] using h
      obtain ⟨before, after, rfl, hbefore, hset⟩ := ih hrest
      refine ⟨first :: before, after, rfl, ?_, ?_⟩
      · exact List.forall_mem_cons.mpr ⟨hfirst, hbefore⟩
      · rw [setProps, if_neg hfirst, hset, List.cons_append]

theorem get?_update {s : Scene} {id : ElementId} {e : Element} (h : s.get? id = some e)
    (props : ElementProps) : (s.update id props).get? id = some { e with props } := by
  obtain ⟨before, after, -, hbefore, hset⟩ := setProps_cut h props
  have hid : e.id = id := get?_id h
  refine List.find?_eq_some_iff_append.mpr ⟨by simp [hid], before, after, hset, ?_⟩
  simpa using hbefore

theorem get?_add {s : Scene} {e : Element} (h : e.id ∉ s.ids) : (s.add e).get? e.id = some e := by
  have hnone := (s.get?_eq_none_iff e.id).mpr h
  rw [get?] at hnone ⊢
  simp [add, List.find?_append, hnone]

theorem update_add {s : Scene} {id : ElementId} (h : id ∉ s.ids) (p q : ElementProps) :
    (s.add ⟨id, p⟩).update id q = s.add ⟨id, q⟩ := by
  have hset : ∀ elements : List Element, id ∉ elements.map Element.id →
      setProps id q (elements ++ [⟨id, p⟩]) = elements ++ [⟨id, q⟩] := by
    intro elements hid
    induction elements with
    | nil => simp [setProps]
    | cons e rest ih =>
      rw [List.map_cons, List.mem_cons, not_or] at hid
      rw [List.cons_append, setProps, if_neg (Ne.symm hid.1), ih hid.2, List.cons_append]
  simp only [update, add, hset s.elements h]

theorem mem_setProps_of_ne {id : ElementId} {props : ElementProps} {elements : List Element}
    {e : Element} (he : e ∈ elements) (hne : e.id ≠ id) : e ∈ setProps id props elements := by
  induction elements with
  | nil => cases he
  | cons first rest ih =>
    unfold setProps
    rcases List.mem_cons.mp he with rfl | hrest
    · simp [hne]
    · split_ifs
      · exact List.mem_cons_of_mem _ hrest
      · exact List.mem_cons_of_mem _ (ih hrest)

/-- The element that is found under an id is the one that gets the new properties. -/
theorem mem_setProps_of_find {id : ElementId} {props : ElementProps} {elements : List Element}
    {e : Element} (h : elements.find? (fun other => other.id == id) = some e) :
    { e with props } ∈ setProps id props elements := by
  obtain ⟨before, after, -, -, hset⟩ := setProps_cut h props
  rw [hset]
  exact List.mem_append_right _ List.mem_cons_self

theorem mem_of_mem_setProps {id : ElementId} {props : ElementProps} {elements : List Element}
    {found e : Element} (hfound : elements.find? (fun other => other.id == id) = some found)
    (he : e ∈ setProps id props elements) : e ∈ elements ∨ e = { found with props } := by
  obtain ⟨before, after, rfl, -, hset⟩ := setProps_cut hfound props
  rw [hset, List.mem_append, List.mem_cons] at he
  obtain hbefore | rfl | hafter := he
  · exact .inl (List.mem_append_left _ hbefore)
  · exact .inr rfl
  · exact .inl (List.mem_append_right _ (List.mem_cons_of_mem _ hafter))

theorem mem_of_mem_dropElement {id : ElementId} {elements : List Element} {e : Element}
    (he : e ∈ dropElement id elements) : e ∈ elements := by
  induction elements with
  | nil => exact he
  | cons first rest ih =>
    unfold dropElement at he
    split_ifs at he
    · exact List.mem_cons_of_mem _ he
    · rcases List.mem_cons.mp he with rfl | hrest
      · exact List.mem_cons_self
      · exact List.mem_cons_of_mem _ (ih hrest)

theorem mem_dropElement_of_ne {id : ElementId} {elements : List Element} {e : Element}
    (he : e ∈ elements) (hne : e.id ≠ id) : e ∈ dropElement id elements := by
  induction elements with
  | nil => cases he
  | cons first rest ih =>
    unfold dropElement
    rcases List.mem_cons.mp he with rfl | hrest
    · simp [hne]
    · split_ifs
      · exact hrest
      · exact List.mem_cons_of_mem _ (ih hrest)

end AgentCanvas.Scene
