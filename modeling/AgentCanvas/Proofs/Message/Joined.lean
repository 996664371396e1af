import AgentCanvas.Message.Basic
import AgentCanvas.Proofs.Command.Steps
import AgentCanvas.Proofs.Lists
import AgentCanvas.Proofs.Message.BlockCut
import AgentCanvas.Proofs.Message.InlineGrammar

set_option autoImplicit false

namespace AgentCanvas

open Text

/-- An issue of a message before which so many lines are put. -/
def ParseIssue.moveDown (count : ℕ) : ParseIssue → ParseIssue
  | .inlineTailAsText line => .inlineTailAsText (line + count)
  | issue => issue

namespace Inline

variable {gap : List Char}

theorem endsWord_of_blank (h : ∀ c ∈ gap, isBlank c = true) : EndsWord gap := by
  cases gap with
  | nil => exact .inl rfl
  | cons b rest => exact .inr ⟨b, rest, rfl, h b List.mem_cons_self⟩

theorem pieces_append_of_blank (line : List Char) (h : ∀ c ∈ gap, isBlank c = true) :
    pieces (line ++ gap) = pieces line := by
  obtain ⟨first, hwords, hletters⟩ : ∃ first, words (line ++ gap) = first ++ words gap ∧
      first.map Word.letters = pieces line := words_append (endsWord_of_blank h)
  rw [words_of_trimStart_nil ((trimStart_eq_nil_iff gap).mpr h), List.append_nil] at hwords
  rw [← map_letters_words, hwords, hletters]

theorem HasForm.append_of_blank {line : List Char} {parts : Parts} (hform : HasForm line parts)
    (h : ∀ c ∈ gap, isBlank c = true) : HasForm (line ++ gap) parts := by
  obtain ⟨before, behind, front, rest, hpieces, hfirst, htarget, hline, hend, hfront, htail⟩ := hform
  refine ⟨before, behind, front, rest ++ gap, ?_, hfirst, htarget, ?_, ?_, hfront, ?_⟩
  · rw [pieces_append_of_blank line h, hpieces]
  · rw [hline, List.append_assoc]
  · exact hend.append (endsWord_of_blank h)
  · rw [trimChars_append_of_blank rest h, htail]

theorem parts?_append_of_blank (line : List Char) (h : ∀ c ∈ gap, isBlank c = true) :
    parts? (line ++ gap) = parts? line := by
  rw [parts?_eq_wordParts?, parts?_eq_wordParts?]
  cases hline : wordParts? line with
  | some parts =>
    have hform := (wordParts?_eq_some_iff line parts).mp hline
    exact (wordParts?_eq_some_iff _ parts).mpr (hform.append_of_blank h)
  | none =>
    -- the pieces, which tell whether there is a command, are the same
    rw [Option.eq_none_iff_forall_ne_some]
    intro parts hparts
    have hform := (exists_form_iff (line ++ gap)).mp
      ⟨parts, (wordParts?_eq_some_iff _ parts).mp hparts⟩
    rw [pieces_append_of_blank line h] at hform
    obtain ⟨other, hother⟩ := (exists_form_iff line).mpr hform
    rw [(wordParts?_eq_some_iff line other).mpr hother] at hline
    cases hline

theorem find?_append_of_blank (line : List Char) (h : ∀ c ∈ gap, isBlank c = true) :
    find? (line ++ gap) = find? line := by
  rw [find?_eq_map, find?_eq_map, parts?_append_of_blank line h]

theorem find?_dropReturn (line : List Char) : find? (dropReturn line) = find? line := by
  obtain h | h := dropReturn_eq_or line
  · rw [h]
  · have hreturn : ∀ c ∈ ['\r'], isBlank c = true := List.forall_mem_singleton.mpr rfl
    rw [← find?_append_of_blank (dropReturn line) hreturn, ← h]

theorem findAll_eq_numbered (text : List Char) : findAll text = numbered find? 1 (lines text) := rfl

/-- What was found, with the numbers of a text before which so many lines are put. -/
def moved (count : ℕ) (found : List (ℕ × Found)) : List (ℕ × Found) :=
  found.map fun (number, found) => (number + count, found)

theorem findAll_join (a b : List Char) :
    findAll (a ++ '\n' :: b) = findAll a ++ moved (1 + a.count '\n') (findAll b) := by
  obtain ⟨full, last, hjoined, halone, hlength⟩ := lines_join a b
  -- the last line of the first part says the same without its return, and nothing if it is empty
  have hlast : numbered find? (1 + full.length) [dropReturn last] =
      numbered find? (1 + full.length) (if last.isEmpty then [] else [last]) := by
    rw [numbered_cons, find?_dropReturn]
    cases last with
    | nil => rfl
    | cons c last => rw [List.isEmpty_cons, if_neg Bool.false_ne_true, numbered_cons]
  have hbelow : numbered find? (1 + full.length + 1) (lines b) =
      moved (1 + a.count '\n') (findAll b) := by
    have hfirst : 1 + full.length + 1 = 1 + (1 + a.count '\n') := by omega
    rw [hfirst, numbered_add, moved, findAll_eq_numbered]
  calc findAll (a ++ '\n' :: b)
      = numbered find? 1 (full ++ ([dropReturn last] ++ lines b)) := by
        rw [findAll_eq_numbered, hjoined, List.singleton_append]
    _ = numbered find? 1 full ++ (numbered find? (1 + full.length) [dropReturn last] ++
          numbered find? (1 + full.length + 1) (lines b)) := by
        rw [numbered_append, numbered_append, List.length_singleton]
    _ = numbered find? 1 (lines a) ++ numbered find? (1 + full.length + 1) (lines b) := by
        rw [hlast, ← List.append_assoc, ← numbered_append, ← halone]
    _ = _ := by rw [hbelow, findAll_eq_numbered a]

theorem commands_append_moved (count : ℕ) (above below : List (ℕ × Found)) :
    commands (above ++ moved count below) = commands above ++ commands below := by
  simp [commands, moved]

theorem issues_moved (count : ℕ) (found : List (ℕ × Found)) :
    issues (moved count found) = (issues found).map (.moveDown count) := by
  induction found with
  | nil => rfl
  | cons first found ih =>
    obtain ⟨number, one⟩ := first
    simp only [issues, moved, List.map_cons, List.filterMap_cons] at ih ⊢
    cases one.tailAsText with
    | false => exact ih
    | true => exact congrArg (ParseIssue.inlineTailAsText (number + count) :: ·) ih

theorem issues_append_moved (count : ℕ) (above below : List (ℕ × Found)) :
    issues (above ++ moved count below) =
      issues above ++ (issues below).map (.moveDown count) := by
  rw [← issues_moved]
  exact List.filterMap_append

end Inline

namespace Block

theorem inside?_of_not_infix {text : List Char} (h : ¬ fence <:+: text) : inside? text = none := by
  rw [inside?, splitAt?_eq_none_of_not_infix h]
  rfl

theorem inside?_join {a : List Char} (h : ¬ fence <:+: a) (b : List Char) :
    inside? (a ++ '\n' :: b) = inside? b := by
  rw [inside?, inside?, splitAt?_join (by decide) h]
  cases splitAt? fence b <;> rfl

theorem find?_join {a : List Char} (h : ¬ fence <:+: a) (b : List Char) :
    find? (a ++ '\n' :: b) = find? b := by
  rw [find?, body?, inside?_join h]
  rfl

theorem moveDown_issues (content : Content) (count : ℕ) :
    content.issues.map (.moveDown count) = content.issues := by
  cases content with
  | invalid position message => rfl
  | items entries => simp [Content.issues, ParseIssue.moveDown]
  | single item => cases item <;> rfl
  | other => rfl

end Block

theorem toList_join (a b : String) : (a ++ "\n" ++ b).toList = a.toList ++ '\n' :: b.toList := by
  rw [String.toList_append, String.toList_append, List.append_assoc]
  rfl

theorem parseMessage_of_not_fenced {a : String} (h : ¬ Block.fence <:+: a.toList) :
    (parseMessage a).commands = Inline.commands (Inline.findAll a.toList) ∧
      (parseMessage a).issues = Inline.issues (Inline.findAll a.toList) :=
  parseMessage_of_no_block (Block.find?_of_no_inside (Block.inside?_of_not_infix h))

theorem parseMessage_join_commands {a : String} (h : ¬ Block.fence <:+: a.toList) (b : String) :
    (parseMessage (a ++ "\n" ++ b)).commands =
      (parseMessage a).commands ++ (parseMessage b).commands := by
  rw [(parseMessage_of_not_fenced h).1]
  simp only [parseMessage, toList_join, Block.find?_join h, Inline.findAll_join,
    Inline.commands_append_moved, List.append_assoc]

theorem parseMessage_join_issues {a : String} (h : ¬ Block.fence <:+: a.toList) (b : String) :
    (parseMessage (a ++ "\n" ++ b)).issues =
      (parseMessage a).issues ++
        (parseMessage b).issues.map (.moveDown (1 + a.toList.count '\n')) := by
  have hblock : ((Block.find? b.toList).map Block.Content.issues).getD [] =
      (((Block.find? b.toList).map Block.Content.issues).getD []).map
        (.moveDown (1 + a.toList.count '\n')) := by
    cases Block.find? b.toList with
    | none => rfl
    | some content => exact (Block.moveDown_issues content _).symm
  rw [(parseMessage_of_not_fenced h).2]
  simp only [parseMessage, toList_join, Block.find?_join h, Inline.findAll_join,
    Inline.issues_append_moved, List.map_append, List.append_assoc]
  rw [← hblock]

theorem process_store (s : Store) (message : String) :
    (process s message).store = (executeAll s (parseMessage message).commands).store := rfl

theorem process_results (s : Store) (message : String) :
    (process s message).answer.results = (executeAll s (parseMessage message).commands).answer := rfl

/-- A message without a fence and another one behind a line feed are read as two messages, except
    that the lines of the second one are counted from the first line of the first one; and
    processing them as one message leaves the store, and reports the commands and results, of
    processing one after the other. -/
theorem message_cut_outside_fence {a : String} (h : ¬ Block.fence <:+: a.toList) (b : String) :
    (parseMessage (a ++ "\n" ++ b)).commands =
        (parseMessage a).commands ++ (parseMessage b).commands ∧
      (parseMessage (a ++ "\n" ++ b)).issues =
        (parseMessage a).issues ++
          (parseMessage b).issues.map (.moveDown (1 + a.toList.count '\n')) ∧
      ∀ s : Store,
        let whole := process s (a ++ "\n" ++ b)
        let first := process s a
        let second := process first.store b
        whole.store = second.store ∧
          whole.answer.commands = first.answer.commands ++ second.answer.commands ∧
          whole.answer.results = first.answer.results ++ second.answer.results := by
  have hcommands := parseMessage_join_commands h b
  refine ⟨hcommands, parseMessage_join_issues h b, ?_⟩
  intro s whole first second
  refine ⟨?_, hcommands, ?_⟩
  · rw [process_store, process_store, process_store, hcommands, executeAll_append_store]
  · rw [process_results, process_results, process_results, process_store, hcommands,
      executeAll_append_answer]

/-- A note that ends in a carriage return, before a line with a command and a block. -/
theorem note_before_block :
    let a := "a note\n/canvas create text hello there\r"
    let b := "/canvas update x big\n\x60\x60\x60json\n[\x7b\"command\": \"clear\"\x7d, 7]\n\x60\x60\x60"
    ¬ Block.fence <:+: a.toList ∧
      (parseMessage (a ++ "\n" ++ b)).commands.map Command.verb = ["create", "update", "clear"] ∧
      (parseMessage (a ++ "\n" ++ b)).issues =
        [.inlineTailAsText 2, .inlineTailAsText 3, .invalidBlockItem 1 .notAnObject] ∧
      (process (.empty (.uuids 0)) (a ++ "\n" ++ b)).store =
        (process (process (.empty (.uuids 0)) a).store b).store := by
  intro a b
  have ha : ¬ Block.fence <:+: a.toList := by decide
  obtain ⟨hcommands, hissues, hprocess⟩ := message_cut_outside_fence ha b
  refine ⟨ha, ?_, ?_, (hprocess _).1⟩
  · rw [hcommands]
    decide +kernel
  · rw [hissues]
    decide +kernel

end AgentCanvas
