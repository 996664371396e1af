import AgentCanvas.Proofs.Command.Steps
import AgentCanvas.Proofs.Command.Wording
import AgentCanvas.Proofs.Element.Overlay
import AgentCanvas.Proofs.Message.IssuedIds

set_option autoImplicit false

namespace AgentCanvas

open Json Execution

structure Command.Creates (c : Command) (kind : ElementKind) : Prop where
  verb : c.parsedVerb? = some .create
  kind : c.elementType.bind ElementKind.parse? = some kind

structure Command.Updates (c : Command) (id : ElementId) : Prop where
  verb : c.parsedVerb? = some .update
  reference : reference? c = some id

variable {s : Store} {c : Command} {kind : ElementKind} {props : ElementProps} {why : Mismatch}

theorem Command.Creates.dispatch_ok (h : c.Creates kind)
    (hp : ElementProps.ofParams kind c.params = .ok props) :
    dispatch Store.update s c = done (s.add props) .created := by
  obtain ⟨name, hname, hkind⟩ := Option.bind_eq_some_iff.mp h.kind
  exact (Step.created h.verb hname hkind hp).eq_dispatch

theorem Command.Creates.execute_answer (h : c.Creates kind)
    (hp : ElementProps.ofParams kind c.params = .ok props) :
    (execute s c).answer = .ok (.created (s.add props).answer) := by
  rw [AgentCanvas.execute_answer, h.dispatch_ok hp, done]

theorem Command.Creates.dispatch_error (h : c.Creates kind)
    (hp : ElementProps.ofParams kind c.params = .error why) :
    dispatch Store.update s c = fail s (.malformed why.message) := by
  obtain ⟨name, hname, hkind⟩ := Option.bind_eq_some_iff.mp h.kind
  exact (Step.refused (.badParams h.verb hname hkind hp)).eq_dispatch

namespace Command.Updates

variable {id : ElementId} {params : Fields}

/-- An update of the element that was just added replaces its properties in place. -/
theorem execute_added (h : c.Updates id) (hparams : c.params = some params) {p : ElementProps}
    (hid : (s.add p).answer = id) (hp : p.merged params = .ok props) :
    (execute (s.add p).store c).answer = .ok (.updated id) ∧
      (execute (s.add p).store c).store.scene = (s.add props).store.scene := by
  have hfree : id ∉ s.scene.ids := hid ▸ s.add_answer_not_mem p
  have hmerged : p.merged (patchOf c) = .ok props := by
    rw [merged_patchOf, Command.settings, hparams, Option.getD_some, hp]
  rw [execute_answer, execute_store,
    (Step.updated h.verb h.reference (Store.get?_added hid) hmerged).eq_dispatch]
  refine ⟨rfl, ?_⟩
  rw [Store.announce_scene, s.add_scene, s.add_scene, s.add_answer_irrel props p, hid,
    Scene.update_add hfree]

theorem execute_added_error (h : c.Updates id) (hparams : c.params = some params)
    {p : ElementProps} (hid : (s.add p).answer = id) (hp : p.merged params = .error why) :
    (execute (s.add p).store c).answer = .error (.malformed (InvalidPatch.mk id why).message) := by
  have hmerged : p.merged (patchOf c) = .error why := by
    rw [merged_patchOf, Command.settings, hparams, Option.getD_some, hp]
  rw [execute_answer,
    (Step.refused (.badPatch h.verb h.reference (Store.get?_added hid) hmerged)).eq_dispatch, fail]

end Command.Updates

/-- An element of a kind is created with parameters, or without them and then updated by the same
    parameters under the id it got. Both succeed and leave the same elements in the same order and
    the same selection, or both are malformed with the same complaint, and then the scene is as it
    was without the element. Empty parameters are as good as none. -/
theorem creating_is_patching_what_is_created (s : Store) {kind : ElementKind} {params : Fields}
    {create plain : Command} (hcreate : create.Creates kind) (hparams : create.params = some params)
    (hplain : plain.Creates kind) (hnone : plain.params = none) :
    ∃ id, (execute s plain).answer = .ok (.created id) ∧
      (∀ update : Command, update.Updates id → update.params = some params →
        let direct := execute s create
        let updated := execute (execute s plain).store update
        (direct.answer = .ok (.created id) ∧ updated.answer = .ok (.updated id) ∧
          direct.store.scene = updated.store.scene) ∨
        ∃ why : Mismatch, direct.answer = .error (.malformed why.message) ∧
          updated.answer = .error (.malformed (InvalidPatch.mk id why).message) ∧
          direct.store.scene = s.scene) ∧
      (params = [] → (execute s create).answer = (execute s plain).answer ∧
        (execute s create).store = (execute s plain).store) := by
  have hfirst : dispatch Store.update s plain = done (s.add (.initial kind)) .created :=
    hplain.dispatch_ok (by rw [hnone, ElementProps.ofParams])
  have hmade : ∀ {props}, (ElementProps.initial kind).merged params = .ok props →
      dispatch Store.update s create = done (s.add props) .created := fun hp =>
    hcreate.dispatch_ok (by rw [hparams, ElementProps.ofParams, hp])
  refine ⟨(s.add (.initial kind)).answer, ?_, ?_, ?_⟩
  · exact hplain.execute_answer (by rw [hnone, ElementProps.ofParams])
  · intro update hupdate hpatch direct updated
    have hstore : (execute s plain).store = (s.add (.initial kind)).store := by
      rw [execute_store, hfirst]
      rfl
    simp only [direct, updated, hstore]
    cases hp : (ElementProps.initial kind).merged params with
    | ok props =>
      obtain ⟨hanswer, hscene⟩ := hupdate.execute_added hpatch rfl hp
      refine .inl ⟨?_, hanswer, ?_⟩
      · rw [execute_answer, hmade hp]
        rfl
      · rw [execute_store, hmade hp, hscene]
        rfl
    | error why =>
      have hfailed : dispatch Store.update s create = fail s (.malformed why.message) :=
        hcreate.dispatch_error (by rw [hparams, ElementProps.ofParams, hp])
      refine .inr ⟨why, ?_, hupdate.execute_added_error hpatch rfl hp, ?_⟩
      · rw [execute_answer, hfailed]
        rfl
      · rw [execute_store, hfailed]
        rfl
  · rintro rfl
    have hempty := hmade (ElementProps.merged_nil (ElementProps.isFinite_initial kind))
    rw [execute_answer, execute_answer, execute_store, execute_store, hfirst, hempty]
    exact ⟨rfl, rfl⟩

theorem wide_circle_in_one_step_or_two :
    let s := Store.empty (.uuids 0)
    let params : Fields := [("id", .string "x"), ("radius", .number (.int 3))]
    let create : Command := ⟨" Create", some "CIRCLE", none, some params⟩
    let plain : Command := ⟨"create", some "circle", none, none⟩
    let wide : ElementProps := .ofShape (.circle (.ofInt 3) none true (.ofInt 1))
    create.Creates .circle ∧ create.params = some params ∧ plain.Creates .circle ∧
      plain.params = none ∧ ∃ id, (execute s plain).answer = .ok (.created id) ∧
        (Command.updating id params).Updates id ∧
        (execute (execute s plain).store (.updating id params)).answer = .ok (.updated id) ∧
        (execute (execute s plain).store (.updating id params)).store.scene.elements =
          [⟨id, wide⟩] := by
  intro s params create plain wide
  have hcreate : create.Creates .circle := ⟨by decide +kernel, by decide +kernel⟩
  have hplain : plain.Creates .circle := ⟨by decide +kernel, by decide +kernel⟩
  have hwide : ElementProps.ofParams .circle create.params = .ok wide :=
    eq_ok_of_toOption (by decide +kernel)
  have hdirect : dispatch Store.update s create = done (s.add wide) .created :=
    hcreate.dispatch_ok hwide
  obtain ⟨id, hmade, hupdate, -⟩ :=
    creating_is_patching_what_is_created s hcreate rfl hplain rfl
  have hid : (s.add wide).answer = id := by
    have hinitial : ElementProps.ofParams .circle plain.params = .ok (.initial .circle) := by
      rw [ElementProps.ofParams]
    rw [hplain.execute_answer hinitial, Except.ok.injEq, CommandEffect.created.injEq] at hmade
    rw [← hmade, s.add_answer_irrel]
  have hhex : id.IsHex := by
    obtain ⟨place, -, hanswer, -⟩ := s.add_draws wide
    rw [← hid, hanswer]
    exact ElementId.isHex_uuid 0 place
  have hupdates : (Command.updating id params).Updates id :=
    ⟨show CommandVerb.parse? "update" = _ by decide +kernel, reference?_updating hhex params⟩
  refine ⟨hcreate, rfl, hplain, rfl, id, hmade, hupdates, ?_⟩
  obtain ⟨-, hanswer, hscene⟩ | ⟨why, hfails, -⟩ := hupdate _ hupdates rfl
  · rw [execute_store, hdirect] at hscene
    refine ⟨hanswer, ?_⟩
    rw [← hscene, ← hid]
    rfl
  · rw [execute_answer, hdirect] at hfails
    cases hfails

end AgentCanvas
