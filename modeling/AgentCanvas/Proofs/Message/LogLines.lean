import AgentCanvas.Message.Basic
import AgentCanvas.Proofs.Command.Wording
import AgentCanvas.Proofs.Log.Events
import AgentCanvas.Proofs.Message.IssuedIds

set_option autoImplicit false

namespace AgentCanvas

open Json Execution

/-- Nothing the log repeats of a command has an end of line: its verb, and the id it refers to if the
    verb takes every id. -/
structure Command.LogsUnbroken (c : Command) : Prop where
  verb : Unbroken c.verb
  id : ∀ id, c.parsedVerb? = some .delete ∨ c.parsedVerb? = some .select →
    reference? c = some id → Unbroken id.text

section Steps

variable {s : Store} {c : Command} {step : StoreStep CommandResult} {id : ElementId}

theorem Command.logsUnbroken_iff_verb
    (h : ∀ id, c.parsedVerb? = some .delete ∨ c.parsedVerb? = some .select →
      reference? c ≠ some id) : c.LogsUnbroken ↔ Unbroken c.verb :=
  ⟨fun hc => hc.verb, fun hverb => ⟨hverb, fun id hv hr => absurd hr (h id hv)⟩⟩

theorem Command.logsUnbroken_iff_id
    (hv : c.parsedVerb? = some .delete ∨ c.parsedVerb? = some .select)
    (hr : reference? c = some id) : c.LogsUnbroken ↔ Unbroken c.verb ∧ Unbroken id.text := by
  constructor
  · exact fun hc => ⟨hc.verb, hc.id id hv hr⟩
  · rintro ⟨hverb, hid⟩
    refine ⟨hverb, fun other _ hother => ?_⟩
    rw [hr, Option.some.injEq] at hother
    exact hother ▸ hid

theorem unbroken_error_kind (error : CommandError) : Unbroken error.kind := by
  cases error <;> (simp only [CommandError.kind]; decide)

theorem Execution.Refusal.reference?_ne {error : CommandError} (h : Refusal s c error)
    (id : ElementId) (hv : c.parsedVerb? = some .delete ∨ c.parsedVerb? = some .select) :
    reference? c ≠ some id := by
  cases h with
  | missingReference _ _ hr => simp [hr]
  | unknownVerb h | missingElementType h | unknownElementType h | badParams h | notFound h
  | badPatch h => simp [h] at hv

/-- What the events of a command repeat is repeated by the last of them, its report. -/
theorem Execution.Step.repeated_subset (hs : Step s c step) :
    ∀ event ∈ step.events, event.repeated ⊆ (report c step.answer).repeated := by
  cases hs with
  | refused => exact nofun
  | created | updated | selected =>
    exact List.forall_mem_singleton.mpr (List.subset_cons_self _ _)
  | @deleted id =>
    obtain ⟨_, hremove⟩ | ⟨_, hremove⟩ := s.remove_cases id <;> rw [hremove] <;>
      exact List.forall_mem_singleton.mpr (List.subset_cons_self _ _)
  | cleared | deselected => exact List.forall_mem_singleton.mpr (List.nil_subset _)

theorem Execution.Step.unbroken_report_iff (hs : Step s c step)
    (hscene : ∀ id ∈ s.scene.ids, Unbroken id.text)
    (hids : ∀ place, Unbroken (s.ids.candidate place).text) :
    Unbroken (report c step.answer).text ↔ c.LogsUnbroken := by
  rw [Event.unbroken_text_iff]
  cases hs with
  | refused h =>
    rw [Command.logsUnbroken_iff_verb h.reference?_ne]
    simp [fail, report, Event.repeated, unbroken_error_kind]
  | @created name kind props hv ht hk hp =>
    obtain ⟨place, -, hanswer, -⟩ := s.add_draws props
    rw [Command.logsUnbroken_iff_verb (by simp [hv])]
    simp [done, report, Event.repeated, CommandEffect.elementId?, hanswer, hids place]
  | @updated id e props hv hr he hp =>
    have hid := hscene id (Scene.mem_ids_of_get? he)
    rw [Command.logsUnbroken_iff_verb (by simp [hv])]
    simp [report, Event.repeated, CommandEffect.elementId?, hid]
  | deleted hv hr =>
    rw [Command.logsUnbroken_iff_id (.inl hv) hr]
    simp [done, report, Event.repeated, CommandEffect.elementId?]
  | selected hv hr =>
    rw [Command.logsUnbroken_iff_id (.inr hv) hr]
    simp [done, report, Event.repeated, CommandEffect.elementId?]
  | cleared hv | deselected hv =>
    rw [Command.logsUnbroken_iff_verb (by simp [hv])]
    simp [done, report, Event.repeated, CommandEffect.elementId?]

end Steps

/-- Every event of a command takes one line of the log if and only if what the log repeats of the
    command does. -/
theorem unbroken_execute_iff {s : Store} (hs : s.Reachable)
    (hids : ∀ place, Unbroken (s.ids.candidate place).text) (c : Command) :
    (∀ event ∈ (execute s c).events, Unbroken event.text) ↔ c.LogsUnbroken := by
  have hscene : ∀ id ∈ s.scene.ids, Unbroken id.text := by
    intro id hid
    obtain ⟨place, rfl⟩ := hs.ids_drawn id hid
    exact hids place
  have hstep := dispatch_step s c
  rw [← hstep.unbroken_report_iff hscene hids, execute_events, List.forall_mem_append,
    List.forall_mem_singleton]
  refine and_iff_right_of_imp fun hreport event hevent => ?_
  rw [Event.unbroken_text_iff] at hreport ⊢
  exact fun text htext => hreport text (hstep.repeated_subset event hevent htext)

theorem unbroken_executeAll_iff {s : Store} (hs : s.Reachable)
    (hids : ∀ place, Unbroken (s.ids.candidate place).text) (commands : List Command) :
    (∀ event ∈ (executeAll s commands).events, Unbroken event.text) ↔
      ∀ c ∈ commands, c.LogsUnbroken := by
  induction commands generalizing s with
  | nil => exact iff_of_true nofun nofun
  | cons c commands ih =>
    have hrest : ∀ place, Unbroken ((execute s c).store.ids.candidate place).text := by
      rw [(execute_ids s c).1]
      exact hids
    rw [executeAll_cons_events, List.forall_mem_append, List.forall_mem_cons,
      unbroken_execute_iff hs hids, ih (execute_reachable hs c) hrest]

theorem Inline.logsUnbroken {line : List Char} {parts : Parts} (h : parts? line = some parts) :
    (foundOf parts).command.LogsUnbroken where
  verb := by
    refine .of_ink fun c hc => verb_of_parts h c ?_
    simpa [foundOf] using hc
  id id _ hr := by
    obtain ⟨raw, hraw, -, rfl⟩ := reference?_eq_some_iff.mp hr
    simp only [foundOf] at hraw
    split_ifs at hraw
    obtain ⟨target, htarget, rfl⟩ := Option.map_eq_some_iff.mp hraw
    have hink := target_of_parts h htarget
    rw [Text.trim, String.toList_ofList, Text.trimChars_of_not_blank hink]
    exact .of_ink fun c hc => hink c (by simpa using hc)

theorem Block.repeated_events (content : Content) :
    ∀ event ∈ content.events, event.repeated = [] := by
  cases content with
  | invalid => exact List.forall_mem_singleton.mpr rfl
  | items entries => exact List.forall_mem_map.mpr fun _ _ => rfl
  | single item =>
    cases item with
    | ok => exact nofun
    | error => exact List.forall_mem_singleton.mpr rfl
  | other => exact List.forall_mem_singleton.mpr rfl

theorem repeated_parse (message : String) :
    ∀ event ∈ (parseMessage message).events, event.repeated = [] := by
  refine List.forall_mem_append.mpr ⟨?_, List.forall_mem_singleton.mpr rfl⟩
  cases Block.find? message.toList with
  | none => exact nofun
  | some content => exact Block.repeated_events content

theorem process_events (s : Store) (message : String) : ∃ summary : Event,
    summary.repeated = [] ∧ (process s message).events = (parseMessage message).events ++
      (executeAll s (parseMessage message).commands).events ++ [summary] :=
  ⟨_, rfl, rfl⟩

/-- Every event of a message takes one line of the log if and only if no command in the fenced block
    has an end of line in its verb, or in the id it deletes or selects. The commands on lines of the
    message cannot break the log, and neither can what is reported of the parser and the processor. -/
theorem log_lines_iff {s : Store} (hs : s.Reachable)
    (hids : ∀ place, Unbroken (s.ids.candidate place).text) (message : String) :
    (∀ event ∈ (process s message).events, Unbroken event.text) ↔
      ∀ c ∈ ((Block.find? message.toList).map Block.Content.commands).getD [],
        c.LogsUnbroken := by
  have hsilent : ∀ {event : Event}, event.repeated = [] → Unbroken event.text := by
    intro event hnone
    rw [Event.unbroken_text_iff, hnone]
    exact nofun
  have hinline : ∀ c ∈ Inline.commands (Inline.findAll message.toList), c.LogsUnbroken := by
    intro c hc
    obtain ⟨line, parts, hparts, rfl⟩ := Inline.exists_parts_of_mem hc
    exact Inline.logsUnbroken hparts
  obtain ⟨summary, hsummary, hevents⟩ := process_events s message
  have hparsed : ∀ event ∈ (parseMessage message).events, Unbroken event.text :=
    fun event hevent => hsilent (repeated_parse message event hevent)
  rw [hevents, List.forall_mem_append, List.forall_mem_append, List.forall_mem_singleton,
    and_iff_left (hsilent hsummary), and_iff_right hparsed, unbroken_executeAll_iff hs hids]
  exact List.forall_mem_append.trans (and_iff_right hinline)

theorem unbroken_uuid (seed place : ℕ) : Unbroken ((IdSource.uuids seed).candidate place).text :=
  .of_ink fun c hc =>
    ElementId.isBlank_of_isIdChar ((ElementId.isHex_uuid seed place).hex c hc)

/-- The end of a line around an id does no harm. -/
theorem select_in_block_logs_whole_lines :
    let s := Store.empty (.uuids 7)
    let message := "/canvas clear\n```\n\x7b\"command\":\"select\",\"elementId\":\" star\\n\"\x7d\n```"
    s.Reachable ∧ (∀ place, Unbroken (s.ids.candidate place).text) ∧
      ∀ event ∈ (process s message).events, Unbroken event.text := by
  intro s message
  have hs : s.Reachable := .empty _
  have hids : ∀ place, Unbroken (s.ids.candidate place).text := unbroken_uuid 7
  refine ⟨hs, hids, (log_lines_iff hs hids message).mpr fun c hc => ?_⟩
  have hfields := List.mem_map_of_mem (f := fun c : Command => (c.verb, c.elementId)) hc
  have hblock : (((Block.find? message.toList).map Block.Content.commands).getD []).map
      (fun c => (c.verb, c.elementId)) = [("select", some " star\n")] := by decide +kernel
  rw [hblock, List.mem_singleton, Prod.mk.injEq] at hfields
  obtain ⟨hverb, hid⟩ := hfields
  constructor
  · rw [hverb]
    decide
  · intro id _ hr
    obtain ⟨raw, hraw, -, rfl⟩ := reference?_eq_some_iff.mp hr
    rw [hid, Option.some.injEq] at hraw
    rw [← hraw]
    decide +kernel

/-- A line feed in a verb makes two lines of one event. -/
theorem verb_with_line_feed_breaks_the_log :
    let message := "```\n\x7b\"command\":\"a\\nb\"\x7d\n```"
    let event : Event := .commandFailed "a\nb" "unknown_verb"
    event ∈ (process (.empty (.uuids 0)) message).events ∧
      event.text =
        "event=command_execute module=executor status=error verb=a\nb error=unknown_verb" ∧
      ¬ Unbroken event.text ∧
      ¬ ∀ event ∈ (process (.empty (.uuids 0)) message).events, Unbroken event.text := by
  intro message event
  have hmem : event ∈ (process (.empty (.uuids 0)) message).events := by decide +kernel
  have hbroken : ¬ Unbroken event.text := by decide +kernel
  exact ⟨hmem, by decide +kernel, hbroken, fun h => hbroken (h event hmem)⟩

end AgentCanvas
