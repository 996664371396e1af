import AgentCanvas.Proofs.Command.Steps
import AgentCanvas.Proofs.Json.Fields

set_option autoImplicit false

namespace AgentCanvas

/-- What becomes of the element with an id. -/
inductive Edit where
  | keep
  | put (props : ElementProps)
  | takeOut

namespace Scene

/-- The first element with an id gets other properties, or goes if there are none for it. -/
def alter (id : ElementId) (change : Option ElementProps) : List Element → List Element
  | [] => []
  | e :: rest =>
    if e.id = id then (change.map fun props => { e with props }).toList ++ rest
    else e :: alter id change rest

theorem setProps_eq_alter (id : ElementId) (props : ElementProps) (elements : List Element) :
    setProps id props elements = alter id (some props) elements := by
  induction elements with
  | nil => rfl
  | cons e rest ih => simp [setProps, alter, ih]

theorem dropElement_eq_alter (id : ElementId) (elements : List Element) :
    dropElement id elements = alter id none elements := by
  induction elements with
  | nil => rfl
  | cons e rest ih => simp [dropElement, alter, ih]

variable {id other : ElementId}

theorem alter_comm (h : id ≠ other) (change change' : Option ElementProps)
    (elements : List Element) :
    alter id change (alter other change' elements) =
      alter other change' (alter id change elements) := by
  induction elements with
  | nil => rfl
  | cons e rest ih =>
    by_cases hid : e.id = id
    · subst hid
      cases change <;> simp [alter, h]
    · by_cases hother : e.id = other
      · subst hother
        cases change' <;> simp [alter, hid]
      · simp [alter, hid, hother, ih]

theorem find?_alter (h : id ≠ other) (change : Option ElementProps) (elements : List Element) :
    (alter id change elements).find? (fun e => e.id == other) =
      elements.find? fun e => e.id == other := by
  induction elements with
  | nil => rfl
  | cons e rest ih =>
    by_cases hid : e.id = id
    · subst hid
      cases change <;> simp [alter, h]
    · simp [alter, hid, List.find?_cons, ih]

def edit (s : Scene) (id : ElementId) : Edit → Scene
  | .keep => s
  | .put props => s.update id props
  | .takeOut => s.remove id

theorem get?_edit (h : id ≠ other) (s : Scene) (change : Edit) :
    (s.edit id change).get? other = s.get? other := by
  cases change with
  | keep => rfl
  | put props =>
    simp only [get?, edit, update, setProps_eq_alter]
    exact find?_alter h _ _
  | takeOut =>
    simp only [get?, edit, remove, dropElement_eq_alter]
    exact find?_alter h _ _

theorem edit_comm (h : id ≠ other) (s : Scene) (change change' : Edit) :
    (s.edit id change).edit other change' = (s.edit other change').edit id change := by
  have hlists := fun a b => alter_comm h a b s.elements
  cases change with
  | keep => rfl
  | put props =>
    cases change' with
    | keep => rfl
    | put props' => simp only [edit, update, setProps_eq_alter, hlists]
    | takeOut => simp only [edit, update, remove, setProps_eq_alter, dropElement_eq_alter, hlists]
  | takeOut =>
    cases change' with
    | keep => rfl
    | put props' =>
      simp only [edit, update, remove, setProps_eq_alter, dropElement_eq_alter, hlists]
    | takeOut =>
      simp only [edit, remove, dropElement_eq_alter, hlists]
      -- each of the two may clear the selection
      congr 1
      split_ifs <;> simp_all

end Scene

namespace Command

def Edits (c : Command) (id : ElementId) : Prop :=
  (c.parsedVerb? = some .update ∨ c.parsedVerb? = some .delete) ∧
    Execution.reference? c = some id

def editOf (c : Command) (found : Option Element) : Edit :=
  match found with
  | none => .keep
  | some e =>
    if c.parsedVerb? = some .delete then .takeOut
    else
      match e.props.merged (Execution.patchOf c) with
      | .error _ => .keep
      | .ok props => .put props

def reportOf (c : Command) (id : ElementId) (found : Option Element) : CommandResult :=
  if c.parsedVerb? = some .delete then .ok (.deleted id found.isSome)
  else
    match found with
    | none => .error (.notFound id)
    | some e =>
      match e.props.merged (Execution.patchOf c) with
      | .error why => .error (.malformed (InvalidPatch.mk id why).message)
      | .ok _ => .ok (.updated id)

end Command

open Execution Json

/-- An update or a deletion looks at nothing but the element with its id. -/
theorem Command.Edits.execute_eq {c : Command} {id : ElementId} (h : c.Edits id) (s : Store) :
    (execute s c).store.scene = s.scene.edit id (c.editOf (s.scene.get? id)) ∧
      (execute s c).answer = c.reportOf id (s.scene.get? id) := by
  obtain ⟨hverb | hverb, hr⟩ := h
  · obtain ⟨hn, _⟩ | ⟨e, why, he, hp, _⟩ | ⟨e, props, he, hp, _⟩ := s.update_cases id (patchOf c)
    · have hid := (s.scene.get?_eq_none_iff id).mp hn
      rw [execute_store, execute_answer, (Step.refused (.notFound hverb hr hid)).eq_dispatch, hn]
      simp [Command.editOf, Command.reportOf, hverb, fail, Scene.edit]
    · rw [execute_store, execute_answer, (Step.refused (.badPatch hverb hr he hp)).eq_dispatch, he]
      simp [Command.editOf, Command.reportOf, hverb, hp, fail, Scene.edit]
    · rw [execute_store, execute_answer, (Step.updated hverb hr he hp).eq_dispatch, he]
      simp [Command.editOf, Command.reportOf, hverb, hp, Scene.edit]
  · rw [execute_store, execute_answer, (Step.deleted hverb hr).eq_dispatch]
    obtain ⟨hid, hs⟩ | ⟨hid, hs⟩ := s.remove_cases id
    · have hn := (s.scene.get?_eq_none_iff id).mpr hid
      simp [Command.editOf, Command.reportOf, hverb, hn, hs, done, Scene.edit]
    · obtain ⟨e, he⟩ := Option.isSome_iff_exists.mp ((s.scene.contains_iff id).mpr hid)
      simp [Command.editOf, Command.reportOf, hverb, he, hs, done, Scene.edit]

/-- Of two commands each updates or deletes an element, with whatever parameters and whether or not
    it is there. If their ids differ, the order of the two makes no difference to the elements, to
    the order they are in or to the selection, and each reports the same first or second. -/
theorem different_elements_commute (s : Store) {c d : Command} {a b : ElementId} (hc : c.Edits a)
    (hd : d.Edits b) (hab : a ≠ b) :
    (execute (execute s c).store d).store.scene = (execute (execute s d).store c).store.scene ∧
      (execute (execute s d).store c).answer = (execute s c).answer ∧
      (execute (execute s c).store d).answer = (execute s d).answer := by
  have hfirst : (execute s d).store.scene.get? a = s.scene.get? a := by
    rw [(hd.execute_eq s).1, Scene.get?_edit hab.symm]
  have hsecond : (execute s c).store.scene.get? b = s.scene.get? b := by
    rw [(hc.execute_eq s).1, Scene.get?_edit hab]
  refine ⟨?_, ?_, ?_⟩
  · calc
      _ = (execute s c).store.scene.edit b (d.editOf (s.scene.get? b)) := by
        rw [(hd.execute_eq _).1, hsecond]
      _ = (s.scene.edit a (c.editOf (s.scene.get? a))).edit b (d.editOf (s.scene.get? b)) := by
        rw [(hc.execute_eq s).1]
      _ = (s.scene.edit b (d.editOf (s.scene.get? b))).edit a (c.editOf (s.scene.get? a)) :=
        Scene.edit_comm hab _ _ _
      _ = (execute s d).store.scene.edit a (c.editOf (s.scene.get? a)) := by
        rw [(hd.execute_eq s).1]
      _ = _ := by
        rw [(hc.execute_eq _).1, hfirst]
  · rw [(hc.execute_eq _).2, hfirst, (hc.execute_eq s).2]
  · rw [(hd.execute_eq _).2, hsecond, (hd.execute_eq s).2]

/-- A circle is made hollow, and the selected text above it is deleted. -/
theorem hollow_circle_and_deleted_text :
    let circle : ElementProps := .ofShape (.circle (.ofInt 1) none true (.ofInt 1))
    let hollow : ElementProps := .ofShape (.circle (.ofInt 1) none false (.ofInt 1))
    let s : Store := ⟨⟨[⟨⟨"a"⟩, circle⟩, ⟨⟨"b"⟩, .initial .text⟩], some ⟨"b"⟩⟩, [], .uuids 0⟩
    let c : Command := ⟨"update", none, some "a", some [("filled", .bool false)]⟩
    let d : Command := ⟨"Delete", none, some " b ", none⟩
    c.Edits ⟨"a"⟩ ∧ d.Edits ⟨"b"⟩ ∧ ElementId.mk "a" ≠ ⟨"b"⟩ ∧
      (execute (execute s c).store d).store.scene = ⟨[⟨⟨"a"⟩, hollow⟩], none⟩ ∧
      (execute (execute s d).store c).store.scene = ⟨[⟨⟨"a"⟩, hollow⟩], none⟩ ∧
      (execute (execute s d).store c).answer = .ok (.updated ⟨"a"⟩) ∧
      (execute (execute s c).store d).answer = .ok (.deleted ⟨"b"⟩ true) := by
  intro circle hollow s c d
  have hc : c.Edits ⟨"a"⟩ := ⟨.inl (by decide +kernel), by decide +kernel⟩
  have hd : d.Edits ⟨"b"⟩ := ⟨.inr (by decide +kernel), by decide +kernel⟩
  have hab : ElementId.mk "a" ≠ ⟨"b"⟩ := by decide
  have hupdate : (execute s c).answer = .ok (.updated ⟨"a"⟩) :=
    eq_ok_of_toOption (by decide +kernel)
  have hdelete : (execute s d).answer = .ok (.deleted ⟨"b"⟩ true) :=
    eq_ok_of_toOption (by decide +kernel)
  have hlast : (execute (execute s c).store d).store.scene = ⟨[⟨⟨"a"⟩, hollow⟩], none⟩ := by
    decide +kernel
  obtain ⟨hscene, hfirst, hsecond⟩ := different_elements_commute s hc hd hab
  exact ⟨hc, hd, hab, hlast, hscene.symm.trans hlast, hfirst.trans hupdate, hsecond.trans hdelete⟩

end AgentCanvas
