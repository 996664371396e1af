import AgentCanvas.Proofs.Command.Wording
import AgentCanvas.Proofs.Message.FiniteNumbers
import AgentCanvas.Proofs.Message.IssuedIds

set_option autoImplicit false

namespace AgentCanvas

open Json Execution

/-! ## Values that fit -/

namespace ElementProps

variable {kind : ElementKind} {params : Option Fields} {props : ElementProps}

theorem ofParams_eq_merged : ofParams kind params = (initial kind).merged (params.getD []) := by
  cases params with
  | none => rw [ofParams, Option.getD_none, merged_nil (isFinite_initial kind)]
  | some params => rw [ofParams, Option.getD_some]

theorem ofParams_error_iff :
    (∃ why, ofParams kind params = .error why) ↔ kind.Misfits (params.getD []) := by
  rw [ofParams_eq_merged, merged_error_iff_misfits (isFinite_initial kind),
    show (initial kind).kind = kind from Shape.kind_initial kind]

theorem exists_ofParams_iff :
    (∃ props, ofParams kind params = .ok props) ↔ ¬ kind.Misfits (params.getD []) := by
  rw [ofParams_eq_merged, exists_merged_iff_fits,
    show (initial kind).kind = kind from Shape.kind_initial kind]
  exact and_iff_left (not_keepsUnwritable (isFinite_initial kind) _)

theorem ofParams_ok_iff :
    ofParams kind params = .ok props ↔ (initial kind).OverlaidBy (params.getD []) props := by
  rw [ofParams_eq_merged, merged_ok_iff_overlaid (isFinite_initial kind)]

end ElementProps

/-! ## Outcomes -/

/-- For each outcome, exactly when a command has it. -/
structure Decided (s : Store) (c : Command) (answer : CommandResult) : Prop where
  unknownVerb : ∀ raw, answer = .error (.unknownVerb raw) ↔
    raw = c.verb ∧ ∀ verb : CommandVerb, ¬ verb.NamedBy c.verb
  missingElementType : answer = .error .missingElementType ↔
    CommandVerb.create.NamedBy c.verb ∧ c.elementType = none
  unknownElementType : ∀ name, answer = .error (.unknownElementType name) ↔
    CommandVerb.create.NamedBy c.verb ∧ c.elementType = some name ∧
      ∀ kind : ElementKind, ¬ kind.NamedBy name
  missingReference : ∀ verb, answer = .error (.missingReference verb) ↔
    verb.NamedBy c.verb ∧ (verb = .update ∨ verb = .delete ∨ verb = .select) ∧ c.RefersToNone
  notFound : ∀ id, answer = .error (.notFound id) ↔
    CommandVerb.update.NamedBy c.verb ∧ c.RefersTo id ∧ id ∉ s.scene.ids
  malformed : (∃ message, answer = .error (.malformed message)) ↔
    (CommandVerb.create.NamedBy c.verb ∧ ∃ kind, c.AsksFor kind ∧ kind.Misfits c.settings) ∨
      (CommandVerb.update.NamedBy c.verb ∧ ∃ e ∈ s.scene.elements, c.RefersTo e.id ∧
        (e.kind.Misfits c.settings ∨ e.props.KeepsUnwritable c.settings))
  created : (∃ id, answer = .ok (.created id)) ↔
    CommandVerb.create.NamedBy c.verb ∧ ∃ kind, c.AsksFor kind ∧ ¬ kind.Misfits c.settings
  updated : ∀ id, answer = .ok (.updated id) ↔
    CommandVerb.update.NamedBy c.verb ∧ ∃ e ∈ s.scene.elements, e.id = id ∧ c.RefersTo id ∧
      ¬ e.kind.Misfits c.settings ∧ ¬ e.props.KeepsUnwritable c.settings
  deleted : ∀ id existed, answer = .ok (.deleted id existed) ↔
    CommandVerb.delete.NamedBy c.verb ∧ c.RefersTo id ∧ existed = decide (id ∈ s.scene.ids)
  cleared : ∀ removed, answer = .ok (.cleared removed) ↔
    CommandVerb.clear.NamedBy c.verb ∧ removed = s.scene.elements.length
  selected : ∀ id, answer = .ok (.selected id) ↔
    CommandVerb.select.NamedBy c.verb ∧ c.RefersTo id
  deselected : answer = .ok .deselected ↔ CommandVerb.deselect.NamedBy c.verb

namespace Execution

/-- The ways in which a command succeeds. -/
inductive Achievement (s : Store) (c : Command) : CommandEffect → Prop where
  | created {name : String} {kind : ElementKind} {props : ElementProps}
      (hv : c.parsedVerb? = some .create) (ht : c.elementType = some name)
      (hk : ElementKind.parse? name = some kind)
      (hp : ElementProps.ofParams kind c.params = .ok props) :
      Achievement s c (.created (s.add props).answer)
  | updated {id : ElementId} {e : Element} {props : ElementProps}
      (hv : c.parsedVerb? = some .update) (hr : reference? c = some id)
      (he : s.scene.get? id = some e) (hp : e.props.merged (patchOf c) = .ok props) :
      Achievement s c (.updated id)
  | deleted {id : ElementId} (hv : c.parsedVerb? = some .delete) (hr : reference? c = some id) :
      Achievement s c (.deleted id (decide (id ∈ s.scene.ids)))
  | cleared (hv : c.parsedVerb? = some .clear) :
      Achievement s c (.cleared s.scene.elements.length)
  | selected {id : ElementId} (hv : c.parsedVerb? = some .select) (hr : reference? c = some id) :
      Achievement s c (.selected id)
  | deselected (hv : c.parsedVerb? = some .deselect) : Achievement s c .deselected

end Execution

section Rows

variable {s : Store} {c d : Command}

theorem execute_error_iff {error : CommandError} :
    (execute s c).answer = .error error ↔ Refusal s c error := by
  rw [execute_answer]
  constructor
  · intro h
    have hs := dispatch_step s c
    generalize dispatch Store.update s c = step at h hs
    cases hs with
    | refused hrefusal =>
      cases h
      exact hrefusal
    | created | updated | deleted | cleared | selected | deselected => cases h
  · intro h
    rw [h.eq_dispatch, fail]

theorem Store.remove_answer (s : Store) (id : ElementId) :
    (s.remove id).answer = decide (id ∈ s.scene.ids) := by
  obtain ⟨hid, hs⟩ | ⟨hid, hs⟩ := s.remove_cases id <;> simp [hs, hid]

theorem execute_ok_iff {effect : CommandEffect} :
    (execute s c).answer = .ok effect ↔ Achievement s c effect := by
  rw [execute_answer]
  constructor
  case mp =>
    intro h
    have hs := dispatch_step s c
    generalize dispatch Store.update s c = step at h hs
    cases hs with
    | refused => cases h
    | created hv ht hk hp =>
      cases h
      exact .created hv ht hk hp
    | updated hv hr he hp =>
      cases h
      exact .updated hv hr he hp
    | @deleted id hv hr =>
      cases h
      rw [s.remove_answer id]
      exact .deleted hv hr
    | cleared hv =>
      cases h
      exact .cleared hv
    | selected hv hr =>
      cases h
      exact .selected hv hr
    | deselected hv =>
      cases h
      exact .deselected hv
  case mpr =>
    intro h
    cases h with
    | created hv ht hk hp => rw [(Step.created hv ht hk hp).eq_dispatch, done]
    | updated hv hr he hp => rw [(Step.updated hv hr he hp).eq_dispatch]
    | deleted hv hr => rw [(Step.deleted hv hr).eq_dispatch, done, s.remove_answer]
    | cleared hv => rw [(Step.cleared hv).eq_dispatch, done, Store.clearAll]
    | selected hv hr => rw [(Step.selected hv hr).eq_dispatch, done]
    | deselected hv => rw [(Step.deselected hv).eq_dispatch, done]

theorem malformed_iff (hnodup : s.scene.ids.Nodup) :
    (∃ message, (execute s c).answer = .error (.malformed message)) ↔
      (CommandVerb.create.NamedBy c.verb ∧ ∃ kind, c.AsksFor kind ∧ kind.Misfits c.settings) ∨
        (CommandVerb.update.NamedBy c.verb ∧ ∃ e ∈ s.scene.elements, c.RefersTo e.id ∧
          (e.kind.Misfits c.settings ∨ e.props.KeepsUnwritable c.settings)) := by
  simp only [execute_error_iff]
  constructor
  case mp =>
    rintro ⟨message, h⟩
    cases h with
    | @badParams name kind why hv ht hk hp =>
      refine .inl ⟨CommandVerb.namedBy_iff.mpr hv, kind, ⟨name, ht, ?_⟩, ?_⟩
      · exact ElementKind.namedBy_iff.mpr hk
      · exact ElementProps.ofParams_error_iff.mp ⟨why, hp⟩
    | @badPatch id e why hv hr he hp =>
      have hmem := Scene.get?_mem he
      refine .inr ⟨CommandVerb.namedBy_iff.mpr hv, e, hmem, ?_, ?_⟩
      · rw [Scene.get?_id he]
        exact reference?_eq_some_iff.mp hr
      · rw [merged_patchOf] at hp
        exact ElementProps.merged_error_iff.mp ⟨why, hp⟩
  case mpr =>
    rintro (⟨hv, kind, ⟨name, ht, hk⟩, hmisfits⟩ | ⟨hv, e, he, hr, hrefused⟩)
    · obtain ⟨why, hp⟩ := ElementProps.ofParams_error_iff.mpr hmisfits
      exact ⟨_, .badParams (CommandVerb.namedBy_iff.mp hv) ht (ElementKind.namedBy_iff.mp hk) hp⟩
    · obtain ⟨why, hp⟩ := ElementProps.merged_error_iff.mpr hrefused
      rw [← merged_patchOf] at hp
      exact ⟨_, .badPatch (CommandVerb.namedBy_iff.mp hv) (reference?_eq_some_iff.mpr hr)
        (Scene.get?_of_mem hnodup he) hp⟩

theorem missingElementType_iff :
    (execute s c).answer = .error .missingElementType ↔
      CommandVerb.create.NamedBy c.verb ∧ c.elementType = none := by
  rw [execute_error_iff, CommandVerb.namedBy_iff]
  constructor
  · intro h
    cases h with
    | missingElementType hv ht => exact ⟨hv, ht⟩
  · exact fun ⟨hv, ht⟩ => .missingElementType hv ht

theorem missingReference_iff (verb : CommandVerb) :
    (execute s c).answer = .error (.missingReference verb) ↔
      verb.NamedBy c.verb ∧ (verb = .update ∨ verb = .delete ∨ verb = .select) ∧
        c.RefersToNone := by
  rw [execute_error_iff, CommandVerb.namedBy_iff, ← reference?_eq_none_iff]
  constructor
  · intro h
    cases h with
    | missingReference hv hneeds hr => exact ⟨hv, hneeds, hr⟩
  · exact fun ⟨hv, hneeds, hr⟩ => .missingReference hv hneeds hr

theorem created_iff :
    (∃ id, (execute s c).answer = .ok (.created id)) ↔
      CommandVerb.create.NamedBy c.verb ∧ ∃ kind, c.AsksFor kind ∧ ¬ kind.Misfits c.settings := by
  simp only [execute_ok_iff]
  constructor
  case mp =>
    rintro ⟨id, h⟩
    cases h with
    | @created name kind props hv ht hk hp =>
      exact ⟨CommandVerb.namedBy_iff.mpr hv, kind, ⟨name, ht, ElementKind.namedBy_iff.mpr hk⟩,
        ElementProps.exists_ofParams_iff.mp ⟨props, hp⟩⟩
  case mpr =>
    rintro ⟨hv, kind, ⟨name, ht, hk⟩, hfits⟩
    obtain ⟨props, hp⟩ := ElementProps.exists_ofParams_iff.mpr hfits
    exact ⟨_, .created (CommandVerb.namedBy_iff.mp hv) ht (ElementKind.namedBy_iff.mp hk) hp⟩

theorem updated_iff (hnodup : s.scene.ids.Nodup) (id : ElementId) :
    (execute s c).answer = .ok (.updated id) ↔ CommandVerb.update.NamedBy c.verb ∧
      ∃ e ∈ s.scene.elements, e.id = id ∧ c.RefersTo id ∧
        ¬ e.kind.Misfits c.settings ∧ ¬ e.props.KeepsUnwritable c.settings := by
  rw [execute_ok_iff]
  constructor
  case mp =>
    intro h
    cases h with
    | @updated id e props hv hr he hp =>
      have hmem := Scene.get?_mem he
      rw [merged_patchOf] at hp
      exact ⟨CommandVerb.namedBy_iff.mpr hv, e, hmem, Scene.get?_id he,
        reference?_eq_some_iff.mp hr, ElementProps.exists_merged_iff_fits.mp ⟨props, hp⟩⟩
  case mpr =>
    rintro ⟨hv, e, he, rfl, hr, hfits, hkept⟩
    obtain ⟨props, hp⟩ := ElementProps.exists_merged_iff_fits.mpr ⟨hfits, hkept⟩
    rw [← merged_patchOf] at hp
    exact .updated (CommandVerb.namedBy_iff.mp hv) (reference?_eq_some_iff.mpr hr)
      (Scene.get?_of_mem hnodup he) hp

theorem decided (hnodup : s.scene.ids.Nodup) : Decided s c (execute s c).answer := by
  constructor
  case malformed => exact malformed_iff hnodup
  case missingElementType => exact missingElementType_iff
  case missingReference => exact missingReference_iff
  case created => exact created_iff
  case updated => exact updated_iff hnodup
  case unknownVerb =>
    intro raw
    rw [execute_error_iff, ← CommandVerb.parse?_eq_none_iff]
    constructor
    · intro h
      cases h with
      | unknownVerb hv => exact ⟨rfl, hv⟩
    · rintro ⟨rfl, hv⟩
      exact .unknownVerb hv
  all_goals
    simp only [execute_error_iff, execute_ok_iff, CommandVerb.namedBy_iff,
      ← ElementKind.parse?_eq_none_iff, ← reference?_eq_some_iff]
  case unknownElementType =>
    intro name
    constructor
    · intro h
      cases h with
      | unknownElementType hv ht hk => exact ⟨hv, ht, hk⟩
    · exact fun ⟨hv, ht, hk⟩ => .unknownElementType hv ht hk
  case notFound =>
    intro id
    constructor
    · intro h
      cases h with
      | notFound hv hr hid => exact ⟨hv, hr, hid⟩
    · exact fun ⟨hv, hr, hid⟩ => .notFound hv hr hid
  case deleted =>
    intro id existed
    constructor
    · intro h
      cases h with
      | deleted hv hr => exact ⟨hv, hr, rfl⟩
    · rintro ⟨hv, hr, rfl⟩
      exact .deleted hv hr
  case cleared =>
    intro removed
    constructor
    · intro h
      cases h with
      | cleared hv => exact ⟨hv, rfl⟩
    · rintro ⟨hv, rfl⟩
      exact .cleared hv
  case selected =>
    intro id
    constructor
    · intro h
      cases h with
      | selected hv hr => exact ⟨hv, hr⟩
    · exact fun ⟨hv, hr⟩ => .selected hv hr
  case deselected =>
    constructor
    · intro h
      cases h with
      | deselected hv => exact hv
    · exact .deselected

theorem created_scene {id : ElementId} (h : (execute s c).answer = .ok (.created id)) :
    id ∉ s.scene.ids ∧ ∃ kind props, c.AsksFor kind ∧
      (ElementProps.initial kind).OverlaidBy c.settings props ∧
      (execute s c).store.scene = s.scene.add ⟨id, props⟩ := by
  rw [execute_answer] at h
  rw [execute_store]
  have hs := dispatch_step s c
  generalize dispatch Store.update s c = step at h hs
  cases hs with
  | @created name kind props hv ht hk hp =>
    cases h
    exact ⟨s.add_answer_not_mem props, kind, props, ⟨name, ht, ElementKind.namedBy_iff.mpr hk⟩,
      ElementProps.ofParams_ok_iff.mp hp, s.add_scene props⟩
  | refused | updated | deleted | cleared | selected | deselected => cases h

theorem dispatch_congr (hverb : d.verb = c.verb)
    (h : ∀ verb, c.parsedVerb? = some verb → c.AgreeFor d verb) :
    dispatch Store.update s d = dispatch Store.update s c := by
  have hparsed : d.parsedVerb? = c.parsedVerb? := congrArg CommandVerb.parse? hverb
  unfold dispatch
  rw [hparsed, hverb]
  cases hv : c.parsedVerb? with
  | none => rfl
  | some verb =>
    have hagree := h verb hv
    cases verb with
    | create =>
      obtain ⟨htype, hparams⟩ := hagree
      simp only [create, htype, hparams]
    | update =>
      obtain ⟨hid, hparams⟩ := hagree
      simp only [withReference, reference?, update, patchOf, hid, hparams]
    | delete | select => simp only [withReference, reference?, show c.elementId = _ from hagree]
    | clear | deselect => rfl

theorem execute_congr (hverb : d.verb = c.verb)
    (h : ∀ verb, c.parsedVerb? = some verb → c.AgreeFor d verb) : execute s d = execute s c := by
  have hreport : report d = report c := by
    funext answer
    cases answer <;> simp only [report, hverb]
  simp only [execute, executeVia, dispatch_congr hverb h, hreport]

/-- Where a store says that it has no element which the scene has, it is believed. -/
theorem executeVia_notFound {updater : Updater} {id : ElementId}
    (hverb : CommandVerb.update.NamedBy c.verb) (href : c.RefersTo id) (hid : id ∈ s.scene.ids)
    (hmissed : (updater s id (patchOf c)).answer = .ok false) :
    (executeVia updater s c).answer = .error (.notFound id) := by
  have hv : c.parsedVerb? = some .update := CommandVerb.namedBy_iff.mp hverb
  have hr := reference?_eq_some_iff.mpr href
  have hcontains := (s.scene.contains_iff id).mpr hid
  simp only [executeVia, dispatch, hv, withReference, hr, update, hcontains, hmissed, if_true]

end Rows

/-- In every store that operations lead to, the outcome of a command is the one its line in `Decided`
    tells. What is created is a new element on top, of the kind asked for, with what the command sets
    in place of what that kind starts with. Nothing else of a command matters: with the same verb,
    and the same in the fields this verb looks at, everything that follows is the same. A patch that
    fits is refused only if it keeps a number that is not finite, which no element has that documents
    led to; and where another store does not patch an element it has, that element is not found. -/
theorem outcomes_are_decided {s : Store} (hs : s.Reachable) (c : Command) :
    Decided s c (execute s c).answer ∧
      (∀ id, (execute s c).answer = .ok (.created id) → id ∉ s.scene.ids ∧
        ∃ kind props, c.AsksFor kind ∧ (ElementProps.initial kind).OverlaidBy c.settings props ∧
          (execute s c).store.scene = s.scene.add ⟨id, props⟩) ∧
      (∀ d : Command, d.verb = c.verb →
        (∀ verb : CommandVerb, verb.NamedBy c.verb → c.AgreeFor d verb) →
          execute s d = execute s c) ∧
      (s.ReachableByDocuments →
        ∀ e ∈ s.scene.elements, ¬ e.props.KeepsUnwritable c.settings) ∧
      ∀ (updater : Updater) (id : ElementId), CommandVerb.update.NamedBy c.verb →
        c.RefersTo id → id ∈ s.scene.ids → (updater s id (patchOf c)).answer = .ok false →
          (executeVia updater s c).answer = .error (.notFound id) := by
  refine ⟨decided hs.nodup, fun _ => created_scene, fun _ hverb hagree => ?_, fun hdocuments e he => ?_,
    fun _ _ => executeVia_notFound⟩
  · exact execute_congr hverb fun verb hv => hagree verb (CommandVerb.namedBy_iff.mpr hv)
  · exact ElementProps.not_keepsUnwritable (hdocuments.isFinite e he) c.settings

/-! ## One circle -/

namespace Command

theorem namedBy_updating (id : ElementId) (patch : Fields) :
    CommandVerb.update.NamedBy (updating id patch).verb :=
  CommandVerb.namedBy_iff.mpr (by decide +kernel : CommandVerb.parse? "update" = some .update)

theorem refersTo_updating {id : ElementId} (hid : id.IsHex) (patch : Fields) :
    (updating id patch).RefersTo id :=
  reference?_eq_some_iff.mp (reference?_updating hid patch)

end Command

theorem Store.added_isHex (seed : ℕ) (props : ElementProps) :
    ((Store.empty (.uuids seed)).add props).answer.IsHex := by
  obtain ⟨place, -, hanswer, -⟩ := (Store.empty (.uuids seed)).add_draws props
  rw [hanswer]
  exact ElementId.isHex_uuid seed place

theorem Store.mem_added (s : Store) (props : ElementProps) :
    ⟨(s.add props).answer, props⟩ ∈ (s.add props).store.scene.elements :=
  List.mem_append_right _ List.mem_cons_self

theorem Store.added_mem_ids (s : Store) (props : ElementProps) :
    (s.add props).answer ∈ (s.add props).store.scene.ids :=
  List.mem_map_of_mem (f := Element.id) (s.mem_added props)

/-- The store that has every element it has, and patches none. -/
def Store.refuse : Updater :=
  fun s _ _ => ⟨.ok false, s, []⟩

/-- A circle gets another radius, but only one that is a number; what it has not is the id of another
    element. To make it, no reference is looked at. -/
theorem circle_with_big_radius :
    let made := (Store.empty (.uuids 0)).add (.initial .circle)
    let s := made.store
    let sized (radius : Value) : Command := .updating made.answer [("radius", radius)]
    let create : Command := ⟨" Create", some "CIRCLE\n", some "x", some [("radius", .string "big")]⟩
    s.Reachable ∧ s.ReachableByDocuments ∧
      (execute s (sized (.number (.int 3)))).answer = .ok (.updated made.answer) ∧
      (∃ message, (execute s (sized (.string "big"))).answer = .error (.malformed message)) ∧
      (execute s (.updating ⟨"a"⟩ [])).answer = .error (.notFound ⟨"a"⟩) ∧
      (∃ message, (execute s create).answer = .error (.malformed message)) ∧
      execute s { create with elementId := none } = execute s create ∧
      (executeVia Store.refuse s (sized .null)).answer = .error (.notFound made.answer) := by
  intro made s sized create
  have hfinite : (Operation.add (.initial .circle)).IsFinite := ElementProps.isFinite_initial .circle
  have hdocuments : s.ReachableByDocuments := (Store.ReachableByDocuments.empty _).step hfinite
  have hs := hdocuments.reachable
  have hmem : ⟨made.answer, .initial .circle⟩ ∈ s.scene.elements := Store.mem_added _ _
  have hverb : ∀ radius, CommandVerb.update.NamedBy (sized radius).verb := fun radius =>
    Command.namedBy_updating _ _
  have hrefers : ∀ radius, (sized radius).RefersTo made.answer := fun radius =>
    Command.refersTo_updating (Store.added_isHex 0 _) _
  have hmisfits : ElementKind.circle.Misfits [("radius", .string "big")] :=
    ⟨⟨"radius", .number⟩, by simp [ElementKind.allSlots, ElementKind.slots], .string "big", rfl,
      nofun⟩
  have hcreate : CommandVerb.create.NamedBy create.verb := by rw [CommandVerb.NamedBy]; decide +kernel
  have hkind : ElementKind.circle.NamedBy "CIRCLE\n" := by rw [ElementKind.NamedBy]; decide +kernel
  obtain ⟨hdecided, -, hunused, -, -⟩ := outcomes_are_decided hs create
  refine ⟨hs, hdocuments, ?_, ?_, ?_, ?_, ?_, ?_⟩
  · have hwide : (ElementProps.initial .circle).merged [("radius", .number (.int 3))] =
        .ok (.ofShape (.circle (.ofInt 3) none true (.ofInt 1))) :=
      eq_ok_of_toOption (by decide +kernel)
    exact ((outcomes_are_decided hs _).1.updated _).mpr
      ⟨hverb _, _, hmem, rfl, hrefers _, ElementProps.exists_merged_iff_fits.mp ⟨_, hwide⟩⟩
  · exact (outcomes_are_decided hs _).1.malformed.mpr
      (.inr ⟨hverb _, _, hmem, hrefers _, .inl hmisfits⟩)
  · have hid : made.answer = Uuid.candidate 0 0 := (Store.add_of_free List.not_mem_nil _).1
    have hids : s.scene.ids = [Uuid.candidate 0 0] := congrArg (fun id => [id]) hid
    have hother : (⟨"a"⟩ : ElementId) ∉ [Uuid.candidate 0 0] := by decide +kernel
    have hreference : (Command.updating ⟨"a"⟩ []).RefersTo ⟨"a"⟩ :=
      reference?_eq_some_iff.mp (by decide +kernel)
    exact ((outcomes_are_decided hs _).1.notFound _).mpr
      ⟨Command.namedBy_updating _ _, hreference, hids ▸ hother⟩
  · exact hdecided.malformed.mpr (.inl ⟨hcreate, .circle, ⟨_, rfl, hkind⟩, hmisfits⟩)
  · refine hunused _ rfl fun verb hnamed => ?_
    obtain rfl := hcreate.unique hnamed
    exact ⟨rfl, rfl⟩
  · obtain ⟨-, -, -, -, hmissed⟩ := outcomes_are_decided hs (sized .null)
    exact hmissed Store.refuse _ (hverb _) (hrefers _) (Store.added_mem_ids _ _) rfl

/-- A circle whose opacity is not a number cannot be painted red, although a color is a text; and
    where a store does not paint the circle it has, the circle is not found. -/
theorem opacity_that_is_no_number_stops_red :
    let circle := ElementProps.initial .circle
    let start := Store.empty (.uuids 0)
    let id := (start.add circle).answer
    let s := (start.add circle).store
    let t := (start.add { circle with opacity := .nan }).store
    let paint : Command := .updating id [("color", .string "#ff0000")]
    CommandVerb.update.NamedBy paint.verb ∧ paint.RefersTo id ∧
      ¬ ElementKind.circle.Misfits paint.settings ∧
      (t.Reachable ∧ (∃ e ∈ t.scene.elements, e.id = id ∧ e.kind = .circle) ∧
        ∃ message, (execute t paint).answer = .error (.malformed message)) ∧
      (s.Reachable ∧ (∃ e ∈ s.scene.elements, e.id = id ∧ e.kind = .circle) ∧
        (executeVia Store.refuse s paint).answer = .error (.notFound id)) := by
  intro circle start id s t paint
  have hverb : CommandVerb.update.NamedBy paint.verb := Command.namedBy_updating _ _
  have hrefers : paint.RefersTo id := Command.refersTo_updating (Store.added_isHex 0 _) _
  have hfits : ¬ ElementKind.circle.Misfits paint.settings := by
    have hred : circle.merged [("color", .string "#ff0000")] = .ok { circle with color := "#ff0000" } :=
      eq_ok_of_toOption (by decide +kernel)
    exact (ElementProps.exists_merged_iff_fits.mp ⟨_, hred⟩).1
  have hreachable : ∀ props, (start.add props).store.Reachable := fun props =>
    (Store.Reachable.empty _).step (.add props)
  have hmem : ⟨id, circle⟩ ∈ s.scene.elements := Store.mem_added _ _
  have hodd : ⟨id, { circle with opacity := .nan }⟩ ∈ t.scene.elements := by
    rw [show id = _ from start.add_answer_irrel circle { circle with opacity := .nan }]
    exact start.mem_added _
  refine ⟨hverb, hrefers, hfits, ⟨hreachable _, ⟨_, hodd, rfl, rfl⟩, ?_⟩,
    ⟨hreachable _, ⟨_, hmem, rfl, rfl⟩, ?_⟩⟩
  · have hkept : { circle with opacity := .nan }.KeepsUnwritable paint.settings :=
      ⟨⟨"opacity", .number⟩, .number .nan, by
        simp [circle, ElementProps.kind, ElementProps.initial, ElementProps.ofShape, Shape.initial,
          Shape.kind, ElementKind.allSlots, ElementKind.slots, ElementProps.commonSlots,
          ElementProps.contents, ElementProps.commonContents, Shape.contents],
        rfl, .nan, List.mem_singleton_self _, rfl⟩
    exact (malformed_iff (hreachable _).nodup).mpr
      (.inr ⟨hverb, _, hodd, hrefers, .inr hkept⟩)
  · exact executeVia_notFound hverb hrefers (start.added_mem_ids circle) rfl

end AgentCanvas
