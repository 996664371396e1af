import AgentCanvas.Message.Basic
import AgentCanvas.Proofs.Command.Steps
import AgentCanvas.Proofs.Message.Accounts
import AgentCanvas.Proofs.Message.InlineGrammar
import AgentCanvas.Proofs.Scene.FiniteNumbers

set_option autoImplicit false

namespace AgentCanvas

open Json Execution

def Command.IsFinite (c : Command) : Prop :=
  ∀ fields, c.params = some fields → fields.IsFinite

theorem Json.Fields.IsFinite.filter {fields : Fields} (h : fields.IsFinite)
    (keep : String × Value → Bool) : Fields.IsFinite (fields.filter keep) :=
  fun field hfield => h field (List.mem_of_mem_filter hfield)

theorem Command.IsFinite.patchOf {c : Command} (h : c.IsFinite) : (patchOf c).IsFinite := by
  refine Fields.IsFinite.filter ?_ _
  cases hparams : c.params with
  | none => exact nofun
  | some fields => exact h fields hparams

/-- A command with finite numbers does nothing that documents could not ask for. -/
theorem Execution.Step.operation_isFinite {s : Store} {c : Command} {step : StoreStep CommandResult}
    (hs : Step s c step) (hc : c.IsFinite) :
    step.store = s ∨ ∃ operation : Operation, operation.IsFinite ∧ step.store = s.apply operation := by
  cases hs with
  | refused _ => exact .inl rfl
  | created _ _ _ hp => exact .inr ⟨.add _, ElementProps.ofParams_isFinite hc hp, rfl⟩
  | @updated id _ _ _ _ he hp =>
    refine .inr ⟨.update id (Execution.patchOf c), hc.patchOf, ?_⟩
    rw [Store.apply, Store.update_of_merged he hp]
  | deleted => exact .inr ⟨.remove _, trivial, rfl⟩
  | cleared => exact .inr ⟨.clearAll, trivial, rfl⟩
  | selected => exact .inr ⟨.select _, trivial, rfl⟩
  | deselected => exact .inr ⟨.clearSelection, trivial, rfl⟩

theorem execute_reachableByDocuments {s : Store} (h : s.ReachableByDocuments) {c : Command}
    (hc : c.IsFinite) : (execute s c).store.ReachableByDocuments := by
  rw [execute_store]
  obtain hs | ⟨operation, hfinite, hs⟩ := (dispatch_step s c).operation_isFinite hc
  · rw [hs]
    exact h
  · rw [hs]
    exact h.step hfinite

theorem executeAll_reachableByDocuments {s : Store} (h : s.ReachableByDocuments)
    {commands : List Command} (hcommands : ∀ c ∈ commands, c.IsFinite) :
    (executeAll s commands).store.ReachableByDocuments := by
  induction commands generalizing s with
  | nil => exact h
  | cons c commands ih =>
    obtain ⟨hc, hrest⟩ := List.forall_mem_cons.mp hcommands
    rw [executeAll_cons_store]
    exact ih (execute_reachableByDocuments h hc) hrest

theorem Inline.params_isFinite (tail : String) : (params tail).1.IsFinite := by
  have htext : (Value.string tail).IsFinite := fun n hn => nomatch hn
  unfold params
  split
  · rename_i hparse
    exact Value.isFinite_object_iff.mp (parse_isFinite hparse)
  · exact List.forall_mem_singleton.mpr htext

theorem Inline.foundOf_isFinite (parts : Parts) : (foundOf parts).command.IsFinite := by
  intro fields hfields
  simp only [foundOf, tailParams] at hfields
  split at hfields
  · cases hfields
  · cases hfields
    exact params_isFinite _

theorem Command.ofBlock_isFinite {value : Value} {c : Command} (hvalue : value.IsFinite)
    (h : ofBlock value = .ok c) : c.IsFinite := by
  cases value with
  | object fields =>
    rw [ofBlock, ofBlockFields] at h
    split at h
    · cases h
    · cases h
      intro params hparams
      simp only [objectField?] at hparams
      split at hparams
      · rename_i hget
        cases hparams
        have hfield := Value.isFinite_object_iff.mp hvalue _ (Fields.mem_of_get? hget)
        exact Value.isFinite_object_iff.mp hfield
      · cases hparams
  | null | bool | number | string | array => cases h

theorem BlockGives.isFinite {body : Option String} {commands : List Command}
    {issues : List ParseIssue} (h : BlockGives body commands issues) :
    ∀ c ∈ commands, c.IsFinite := by
  cases h with
  | items hparse hitems =>
    intro c hc
    obtain ⟨index, -, value, hvalue, hof⟩ := exists_of_mem hitems.commands_of_items.flip hc
    have hvalues := Value.isFinite_array_iff.mp (parse_isFinite hparse)
    exact Command.ofBlock_isFinite (hvalues value (List.mem_of_getElem? hvalue)) hof
  | command hparse hof =>
    exact List.forall_mem_singleton.mpr (Command.ofBlock_isFinite (parse_isFinite hparse) hof)
  | noBlock | invalidItem | notCommand | invalidJson => exact nofun

theorem parseMessage_isFinite (message : String) :
    ∀ c ∈ (parseMessage message).commands, c.IsFinite := by
  refine List.forall_mem_append.mpr ⟨fun c hc => ?_, (block_gives message.toList).isFinite⟩
  obtain ⟨-, parts, -, rfl⟩ := Inline.exists_parts_of_mem hc
  exact Inline.foundOf_isFinite parts

/-- Whatever an agent writes, every element keeps finite numbers. -/
theorem process_reachableByDocuments {s : Store} (h : s.ReachableByDocuments) (message : String) :
    (process s message).store.ReachableByDocuments :=
  executeAll_reachableByDocuments h (parseMessage_isFinite message)

end AgentCanvas
