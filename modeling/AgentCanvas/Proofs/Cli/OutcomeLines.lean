import AgentCanvas.Cli.Run
import AgentCanvas.Proofs.Command.Identity
import AgentCanvas.Proofs.Element.Complaints
import AgentCanvas.Proofs.Lists
import AgentCanvas.Proofs.Message.Accounts

set_option autoImplicit false

namespace AgentCanvas

open Json Execution

/-! ## Issues -/

theorem Json.Fault.oneLine_message (fault : Fault) (text : String) :
    OneLine (fault.message text) := by
  have hat : OneLine " at line " := by decide
  have hcolumn : OneLine " column " := by decide
  have hcause : OneLine fault.cause.text := by cases fault.cause <;> decide
  exact (((hcause.append hat).append (OneLine.toString_nat _)).append hcolumn).append
    (OneLine.toString_nat _)

theorem invalidBlockItem_oneLine (index : ℕ) (fault : Command.BlockFault) :
    OneLine (ParseIssue.invalidBlockItem index fault).text := by
  have hblock : OneLine "fenced block item " := by decide
  have hskipped : OneLine " skipped: " := by decide
  have hfault : OneLine fault.message := by cases fault <;> decide
  exact ((hblock.append (OneLine.toString_nat index)).append hskipped).append hfault

theorem BlockGives.oneLine_issues {body : Option String} {commands : List Command}
    {issues : List ParseIssue} (h : BlockGives body commands issues) :
    ∀ issue ∈ issues, OneLine issue.text := by
  cases h with
  | noBlock | command => simp
  | items _ h =>
    intro issue hissue
    obtain ⟨index, -, _, fault, _, _, rfl⟩ := exists_of_mem h.issues_of_items.flip hissue
    exact invalidBlockItem_oneLine index fault
  | invalidItem =>
    rw [List.forall_mem_singleton]
    exact invalidBlockItem_oneLine 0 _
  | notCommand =>
    rw [List.forall_mem_singleton]
    decide
  | invalidJson =>
    rw [List.forall_mem_singleton]
    have hdropped : OneLine "fenced block dropped, invalid JSON: " := by decide
    exact hdropped.append (Fault.oneLine_message _ _)

theorem oneLine_issues (message : String) :
    ∀ issue ∈ (parseMessage message).issues, OneLine issue.text := by
  intro issue hissue
  rcases List.mem_append.mp hissue with hissue | hissue
  · rw [Inline.issues_eq_map, List.mem_map] at hissue
    obtain ⟨line, _, rfl⟩ := hissue
    have hline : OneLine "line " := by decide
    have hkept : OneLine ": inline payload is not a JSON object, kept as text" := by decide
    exact (hline.append (OneLine.toString_nat line)).append hkept
  · exact (block_gives message.toList).oneLine_issues issue hissue

/-! ## Outcomes -/

namespace CommandError

theorem message_malformed (message : String) :
    (malformed message).message = "malformed command: " ++ message := rfl

theorem message_unknownVerb (verb : String) :
    (unknownVerb verb).message = "unknown command verb: " ++ verb := rfl

theorem message_unknownElementType (name : String) :
    (unknownElementType name).message = "unknown element type: " ++ name := rfl

theorem message_missingReference (verb : CommandVerb) :
    (missingReference verb).message = verb.name ++ " requires an element id" := rfl

theorem message_notFound (id : ElementId) :
    (notFound id).message = "element not found: " ++ id.text := rfl

end CommandError

namespace Cli

def outcomeText (command : Command) : CommandResult → String
  | .ok effect => "ok " ++ command.verb ++ " " ++ effect.text
  | .error error => "error " ++ command.verb ++ " " ++ error.message

def issueText (issue : ParseIssue) : String :=
  "warn " ++ issue.text

theorem outcomeLine_eq (command : Command) (result : CommandResult) :
    outcomeLine command result = outcomeText command result ++ "\n" := by
  cases result <;> rfl

/-- What a result names as the agent wrote it: an id or an element type. -/
def named : CommandResult → List String
  | .ok effect => (effect.elementId?.map ElementId.text).toList
  | .error (.unknownElementType name) => [name]
  | .error (.notFound id) => [id.text]
  | .error _ => []

theorem oneLine_outcomeText_iff (command : Command) (result : CommandResult) :
    OneLine (outcomeText command result) ↔ OneLine command.verb ∧
      match result with
      | .ok effect => OneLine effect.text
      | .error error => OneLine error.message := by
  have hok : OneLine "ok " := by decide
  have herror : OneLine "error " := by decide
  have hblank : OneLine " " := by decide
  cases result <;> simp [outcomeText, OneLine.append_iff, hok, herror, hblank]

theorem oneLine_effect_iff (effect : CommandEffect) :
    OneLine effect.text ↔ ∀ text ∈ named (.ok effect), OneLine text := by
  cases effect with
  | created id =>
    have hcreated : OneLine "created " := by decide
    simp [CommandEffect.text, named, CommandEffect.elementId?, OneLine.append_iff, hcreated]
  | updated id =>
    have hupdated : OneLine "updated " := by decide
    simp [CommandEffect.text, named, CommandEffect.elementId?, OneLine.append_iff, hupdated]
  | deleted id existed =>
    have hdeleted : OneLine "deleted " := by decide
    have hmissed : OneLine " (not found, nothing removed)" := by decide
    cases existed <;>
      simp [CommandEffect.text, named, CommandEffect.elementId?, OneLine.append_iff, hdeleted,
        hmissed]
  | selected id =>
    have hselected : OneLine "selected " := by decide
    simp [CommandEffect.text, named, CommandEffect.elementId?, OneLine.append_iff, hselected]
  | cleared removed =>
    have hcleared : OneLine "cleared " := by decide
    have helements : OneLine " element(s)" := by decide
    have htext := (hcleared.append (OneLine.toString_nat removed)).append helements
    exact iff_of_true htext (by simp [named, CommandEffect.elementId?])
  | deselected => exact iff_of_true (by decide) (by simp [named, CommandEffect.elementId?])

/-- Neither the elements of a store nor those it may yet get have a line feed in their ids. -/
def OneLineIds (s : Store) : Prop :=
  (∀ e ∈ s.scene.elements, OneLine e.id.text) ∧ ∀ place, OneLine (s.ids.candidate place).text

theorem OneLineIds.execute {s : Store} (h : OneLineIds s) (c : Command) :
    OneLineIds (execute s c).store := by
  obtain ⟨helements, hcandidates⟩ := h
  constructor
  · intro e he
    obtain ⟨place, props, _, _, _, _, hnew⟩ | ⟨_, _, hold⟩ := execute_issue s c
    · rw [hnew, List.mem_append, List.mem_singleton] at he
      rcases he with he | rfl
      · exact helements e he
      · exact hcandidates place
    · obtain ⟨old, hmem, hid, _⟩ := hold e he
      rw [← hid]
      exact helements old hmem
  · rw [(execute_ids s c).1]
    exact hcandidates

theorem oneLine_malformed {message : String} (h : OneLine message) :
    OneLine (CommandError.malformed message).message := by
  have hmalformed : OneLine "malformed command: " := by decide
  rw [CommandError.message_malformed]
  exact hmalformed.append h

theorem oneLine_refusal_iff {s : Store} {c : Command} {error : CommandError} (hids : OneLineIds s)
    (hverb : OneLine c.verb) (h : Refusal s c error) :
    OneLine error.message ↔ ∀ text ∈ named (.error error), OneLine text := by
  cases h with
  | unknownVerb hv =>
    have hunknown : OneLine "unknown command verb: " := by decide
    rw [CommandError.message_unknownVerb]
    exact iff_of_true (hunknown.append hverb) (by simp [named])
  | missingElementType hv ht => exact iff_of_true (by decide) (by simp [named])
  | @unknownElementType name hv ht hk =>
    have hunknown : OneLine "unknown element type: " := by decide
    simp [CommandError.message_unknownElementType, named, OneLine.append_iff, hunknown]
  | badParams hv ht hk hp =>
    have hwhy := ElementProps.ofParams_oneLine _ _ _ hp
    exact iff_of_true (oneLine_malformed hwhy) (by simp [named])
  | @missingReference verb hv hneeds hr =>
    have hneeded : OneLine " requires an element id" := by decide
    have hname : OneLine verb.name := by cases verb <;> decide
    rw [CommandError.message_missingReference]
    exact iff_of_true (hname.append hneeded) (by simp [named])
  | @notFound id hv hr hid =>
    have hmissing : OneLine "element not found: " := by decide
    simp [CommandError.message_notFound, named, OneLine.append_iff, hmissing]
  | @badPatch id e why hv hr he hp =>
    -- the id in the complaint is the one of an element, not the one the agent wrote
    have hid : OneLine id.text := by
      rw [← Scene.get?_id he]
      exact hids.1 e (Scene.get?_mem he)
    have hwhy := ElementProps.merged_oneLine _ _ _ hp
    have hinvalid : OneLine "invalid patch for element " := by decide
    have hcolon : OneLine ": " := by decide
    have hpatch := ((hinvalid.append hid).append hcolon).append hwhy
    exact iff_of_true (oneLine_malformed hpatch) (by simp [named])

theorem oneLine_step_iff {s : Store} {c : Command} {step : StoreStep CommandResult}
    (hids : OneLineIds s) (h : Step s c step) :
    OneLine (outcomeText c step.answer) ↔
      OneLine c.verb ∧ ∀ text ∈ named step.answer, OneLine text := by
  rw [oneLine_outcomeText_iff]
  refine and_congr_right fun hverb => ?_
  cases h with
  | refused h => exact oneLine_refusal_iff hids hverb h
  | created | updated | deleted | cleared | selected | deselected => exact oneLine_effect_iff _

/-- The line about a command breaks only where it repeats what the agent wrote. -/
theorem oneLine_outcome_iff {s : Store} (hids : OneLineIds s) (c : Command) :
    OneLine (outcomeText c (execute s c).answer) ↔
      OneLine c.verb ∧ ∀ text ∈ named (execute s c).answer, OneLine text := by
  rw [execute_answer]
  exact oneLine_step_iff hids (dispatch_step s c)

/-! ## Reports -/

def reportLines (report : BatchReport) : List String :=
  report.issues.map issueText ++ report.commands.zipWith outcomeText report.results

theorem toList_reportText (report : BatchReport) :
    (reportText report).toList = ended ((reportLines report).map String.toList) := by
  have houtcomes : report.commands.zipWith outcomeLine report.results =
      (report.commands.zipWith outcomeText report.results).map fun line => line ++ "\n" := by
    rw [List.map_zipWith]
    exact congrArg (List.zipWith · _ _) (funext₂ outcomeLine_eq)
  have hjoin : ∀ lines : List String,
      (String.join (lines.map fun line => line ++ "\n")).toList =
        ended (lines.map String.toList) := by
    intro lines
    simp [ended, List.flatMap_map]
  have hissues : report.issues.map issueLine =
      (report.issues.map issueText).map fun line => line ++ "\n" := by
    rw [List.map_map]
    rfl
  rw [reportText, String.toList_append, houtcomes, hissues, hjoin, hjoin, reportLines,
    List.map_append, ended, ended, ended, List.flatMap_append]

/-- Nothing a report repeats from the agent has a line feed. -/
def RepeatsOneLine (report : BatchReport) : Prop :=
  ∀ entry ∈ report.commands.zip report.results,
    OneLine entry.1.verb ∧ ∀ text ∈ named entry.2, OneLine text

theorem oneLine_outcomes_iff {s : Store} (hids : OneLineIds s) (commands : List Command) :
    (∀ line ∈ commands.zipWith outcomeText (executeAll s commands).answer, OneLine line) ↔
      ∀ entry ∈ commands.zip (executeAll s commands).answer,
        OneLine entry.1.verb ∧ ∀ text ∈ named entry.2, OneLine text := by
  induction commands generalizing s with
  | nil => simp
  | cons c commands ih =>
    rw [executeAll_cons_answer, List.zipWith_cons_cons, List.zip_cons_cons, List.forall_mem_cons,
      List.forall_mem_cons, ih (hids.execute c), oneLine_outcome_iff hids c]

theorem length_executeAll_answer (s : Store) (commands : List Command) :
    (executeAll s commands).answer.length = commands.length := by
  induction commands generalizing s with
  | nil => rfl
  | cons c commands ih => rw [executeAll_cons_answer, List.length_cons, List.length_cons, ih]

theorem process_answer (s : Store) (message : String) :
    (process s message).answer = ⟨(parseMessage message).commands,
      (executeAll s (parseMessage message).commands).answer, (parseMessage message).issues⟩ := by
  simp only [process]

theorem oneLine_reportLines_iff {s : Store} (hids : OneLineIds s) (message : String) :
    (∀ line ∈ reportLines (process s message).answer, OneLine line) ↔
      RepeatsOneLine (process s message).answer := by
  have hissues : ∀ line ∈ (parseMessage message).issues.map issueText, OneLine line := by
    intro line hline
    obtain ⟨issue, hissue, rfl⟩ := List.mem_map.mp hline
    have hwarn : OneLine "warn " := by decide
    exact hwarn.append (oneLine_issues message issue hissue)
  have houtcomes := oneLine_outcomes_iff hids (parseMessage message).commands
  rw [process_answer, reportLines, List.forall_mem_append, houtcomes]
  exact and_iff_right hissues

theorem length_reportLines (s : Store) (message : String) :
    (reportLines (process s message).answer).length =
      (process s message).answer.issues.length + (process s message).answer.commands.length := by
  rw [process_answer, reportLines, List.length_append, List.length_map, List.length_zipWith,
    length_executeAll_answer, Nat.min_self]

/-! ## Runs -/

theorem oneLine_uuid (seed place : ℕ) : OneLine ((IdSource.uuids seed).candidate place).text := by
  have hdigit : ∀ n, '\n' ≠ Text.hexDigit (8 + n % 4) := fun n =>
    (Text.hexDigit_ne_lineFeed (by omega)).symm
  simp [IdSource.uuids, Uuid.candidate, OneLine, Uuid.layout, Text.not_mem_hexPadded, hdigit]

theorem stdout_runWith {σ : Type} [LogBackend σ] (build : Build) {options : Options}
    (hrun : options.protocol = false) (ids : IdSource) {input : ByteArray} {message : String}
    (hinput : String.fromUTF8? input = some message) (world : σ) :
    (runWith build options ids input world).1.stdout =
      reportText (process (.empty ids) message).answer ++
        (process (.empty ids) message).store.scene.snapshot.json.pretty ++ "\n" := by
  simp only [runWith, hrun, hinput, messageText, Bool.false_eq_true, if_false]

/-- What a run prints before the scene has as many line feeds as there are issues and commands if
    and only if no verb, and no id or type named by a result, has one; and then the lines it splits
    into are those of the issues and the outcomes, in order. -/
theorem outcome_lines_iff {σ : Type} [LogBackend σ] (build : Build) {options : Options}
    (hrun : options.protocol = false) {ids : IdSource}
    (hids : ∀ place, OneLine (ids.candidate place).text) {input : ByteArray} {message : String}
    (hinput : String.fromUTF8? input = some message) (world : σ) :
    let done := process (.empty ids) message
    let printed := (reportText done.answer).toList
    (runWith build options ids input world).1.stdout =
        reportText done.answer ++ done.store.scene.snapshot.json.pretty ++ "\n" ∧
      (printed.count '\n' = done.answer.issues.length + done.answer.commands.length ↔
        RepeatsOneLine done.answer) ∧
      (RepeatsOneLine done.answer →
        printed.splitOn '\n' = (reportLines done.answer).map String.toList ++ [[]]) := by
  intro done printed
  have hempty : OneLineIds (.empty ids) := ⟨fun e he => absurd he List.not_mem_nil, hids⟩
  have hlines : (∀ line ∈ (reportLines done.answer).map String.toList, '\n' ∉ line) ↔
      RepeatsOneLine done.answer := by
    rw [List.forall_mem_map]
    exact oneLine_reportLines_iff hempty message
  refine ⟨stdout_runWith build hrun ids hinput world, ?_, fun hquiet => ?_⟩
  · rw [← hlines, ← count_ended, ← toList_reportText, List.length_map, length_reportLines]
  · have hprinted : printed = ended ((reportLines done.answer).map String.toList) :=
      toList_reportText done.answer
    rw [hprinted]
    exact splitOn_ended (hlines.mpr hquiet)

theorem fromUTF8?_toUTF8 (message : String) : String.fromUTF8? message.toUTF8 = some message :=
  dif_pos message.isValidUTF8

def bareOptions : Options :=
  ⟨false, none, none⟩

def emptyDisk : LogWorld :=
  ⟨⟨[]⟩, false, false⟩

def bareRun (seed : ℕ) (message : String) : Output :=
  (runWith .debug bareOptions (.uuids seed) message.toUTF8 emptyDisk).1

theorem clear_and_select_take_a_line_each :
    let message := "/canvas clear\n/canvas select star"
    let done := process (.empty (.uuids 7)) message
    (∀ place, OneLine ((IdSource.uuids 7).candidate place).text) ∧
      String.fromUTF8? message.toUTF8 = some message ∧
      (bareRun 7 message).stdout =
        reportText done.answer ++ done.store.scene.snapshot.json.pretty ++ "\n" ∧
      (reportText done.answer).toList.splitOn '\n' =
        ["ok clear cleared 0 element(s)".toList, "ok select selected star".toList, []] := by
  intro message done
  have hids := oneLine_uuid 7
  have hrun : bareOptions.protocol = false := rfl
  obtain ⟨hstdout, hcount, hsplit⟩ :=
    outcome_lines_iff .debug hrun hids (fromUTF8?_toUTF8 message) emptyDisk
  have hquiet := hcount.mp (by decide +kernel)
  have hlines : reportLines done.answer =
      ["ok clear cleared 0 element(s)", "ok select selected star"] := by decide +kernel
  refine ⟨hids, fromUTF8?_toUTF8 message, hstdout, ?_⟩
  have hprinted := hsplit hquiet
  rw [hlines] at hprinted
  exact hprinted

/-- A line feed in a verb makes three lines of one outcome. -/
theorem verb_with_line_feed_breaks_its_line :
    let message := "```\n\x7b\"command\":\"a\\nb\"\x7d\n```"
    let done := process (.empty (.uuids 0)) message
    let printed := "error a\nb unknown command verb: a\nb\n"
    String.fromUTF8? message.toUTF8 = some message ∧
      (bareRun 0 message).stdout =
        printed ++ done.store.scene.snapshot.json.pretty ++ "\n" ∧
      done.answer.issues.length + done.answer.commands.length = 1 ∧
      printed.toList.count '\n' = 3 := by
  intro message done printed
  have hprinted : reportText done.answer = printed := by decide +kernel
  have hrun : bareOptions.protocol = false := rfl
  have hstdout :=
    stdout_runWith .debug hrun (.uuids 0) (fromUTF8?_toUTF8 message) emptyDisk
  refine ⟨fromUTF8?_toUTF8 message, ?_, by decide +kernel, by decide⟩
  rw [← hprinted]
  exact hstdout

end Cli

end AgentCanvas
