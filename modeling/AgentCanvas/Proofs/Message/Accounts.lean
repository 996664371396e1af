import AgentCanvas.Message.Basic
import AgentCanvas.Proofs.Lists

set_option autoImplicit false

namespace AgentCanvas

open Json Text

def LineAt (lines : List (List Char)) (number : ℕ) (line : List Char) : Prop :=
  1 ≤ number ∧ lines[number - 1]? = some line

/-- What the lines of a text give: a command from each line in `numbers`, and an issue from each
    line in `tails`, whose tail was taken as text. -/
structure LinesGive (lines : List (List Char)) (numbers tails : List ℕ) (commands : List Command)
    (issues : List ParseIssue) : Prop where
  numbers_ascend : numbers.Pairwise (· < ·)
  tails_ascend : tails.Pairwise (· < ·)
  commands_of_lines : List.Forall₂ (fun number command => ∃ line found,
    LineAt lines number line ∧ Inline.find? line = some found ∧ found.command = command)
    numbers commands
  nothing_elsewhere : ∀ number line, LineAt lines number line → number ∉ numbers →
    Inline.find? line = none
  mem_tails_iff : ∀ number, number ∈ tails ↔ number ∈ numbers ∧ ∃ line found,
    LineAt lines number line ∧ Inline.find? line = some found ∧ found.tailAsText = true
  issues_of_tails : issues = tails.map .inlineTailAsText

/-- What the items of an array give: a command from each item in `good`, and an issue with its index
    from each item in `bad`. Indices count from zero. -/
structure ItemsGive (values : List Value) (good bad : List ℕ) (commands : List Command)
    (issues : List ParseIssue) : Prop where
  good_ascend : good.Pairwise (· < ·)
  bad_ascend : bad.Pairwise (· < ·)
  each_once : (good ++ bad).Perm (List.range values.length)
  commands_of_items : List.Forall₂ (fun index command => ∃ value,
    values[index]? = some value ∧ Command.ofBlock value = .ok command) good commands
  issues_of_items : List.Forall₂ (fun index issue => ∃ value fault,
    values[index]? = some value ∧ Command.ofBlock value = .error fault ∧
      issue = .invalidBlockItem index fault) bad issues
  nothing_lost : commands.length + issues.length = values.length

/-- What the body of a block gives, by what it says. -/
inductive BlockGives : Option String → List Command → List ParseIssue → Prop where
  | noBlock : BlockGives none [] []
  | items {body : String} {values : List Value} {good bad : List ℕ} {commands : List Command}
      {issues : List ParseIssue} (hp : parse body = .ok (.array values))
      (h : ItemsGive values good bad commands issues) : BlockGives (some body) commands issues
  | command {body : String} {fields : Fields} {command : Command}
      (hp : parse body = .ok (.object fields))
      (h : Command.ofBlock (.object fields) = .ok command) : BlockGives (some body) [command] []
  | invalidItem {body : String} {fields : Fields} {fault : Command.BlockFault}
      (hp : parse body = .ok (.object fields)) (hf : (Fields.get? fields "command").isSome = true)
      (h : Command.ofBlock (.object fields) = .error fault) :
      BlockGives (some body) [] [.invalidBlockItem 0 fault]
  | notCommand {body : String} {value : Value} (hp : parse body = .ok value)
      (ha : ∀ values, value ≠ .array values)
      (hf : ∀ fields, value = .object fields → Fields.get? fields "command" = none) :
      BlockGives (some body) [] [.blockNotCommand]
  | invalidJson {body : String} {fault : Fault} (hp : parse body = .error fault) :
      BlockGives (some body) [] [.invalidBlockJson (fault.message body)]

namespace Inline

theorem issues_eq_map (found : List (ℕ × Found)) :
    issues found =
      ((found.filter fun entry => entry.2.tailAsText).map Prod.fst).map .inlineTailAsText := by
  induction found with
  | nil => rfl
  | cons entry found ih =>
    simp only [issues, List.filterMap_cons, List.filter_cons] at ih ⊢
    cases entry.2.tailAsText with
    | false => exact ih
    | true => exact congrArg (ParseIssue.inlineTailAsText entry.1 :: ·) ih

end Inline

theorem lines_give (lines : List (List Char)) :
    let found := numbered Inline.find? 1 lines
    LinesGive lines (found.map Prod.fst)
      ((found.filter fun entry => entry.2.tailAsText).map Prod.fst) (Inline.commands found)
      (Inline.issues found) := by
  intro found
  have hfound : ∀ number one, (number, one) ∈ found ↔
      ∃ line, LineAt lines number line ∧ Inline.find? line = some one := by
    intro number one
    rw [mem_numbered_iff]
    simp only [LineAt, and_assoc]
  constructor
  case numbers_ascend => exact numbers_pairwise 1 lines
  case tails_ascend =>
    exact (numbers_pairwise 1 lines).sublist (List.filter_sublist.map Prod.fst)
  case commands_of_lines =>
    refine forall₂_numbers _ fun number line one hle hget hone => ?_
    exact ⟨line, one, ⟨hle, hget⟩, hone, rfl⟩
  case nothing_elsewhere =>
    intro number line hline hnot
    rw [Option.eq_none_iff_forall_ne_some]
    intro one hone
    exact hnot (List.mem_map_of_mem ((hfound number one).mpr ⟨line, hline, hone⟩))
  case mem_tails_iff =>
    intro number
    constructor
    · intro hnumber
      obtain ⟨entry, hentry, rfl⟩ := List.mem_map.mp hnumber
      obtain ⟨hmem, htail⟩ := List.mem_filter.mp hentry
      obtain ⟨line, hline, hone⟩ := (hfound entry.1 entry.2).mp hmem
      exact ⟨List.mem_map_of_mem hmem, line, entry.2, hline, hone, htail⟩
    · rintro ⟨-, line, one, hline, hone, htail⟩
      have hmem := (hfound number one).mpr ⟨line, hline, hone⟩
      have htailed : (number, one) ∈ found.filter fun entry => entry.2.tailAsText :=
        List.mem_filter.mpr ⟨hmem, htail⟩
      exact List.mem_map_of_mem htailed
  case issues_of_tails => exact Inline.issues_eq_map found

namespace Block

def fault? : Except Command.BlockFault Command → Option Command.BlockFault
  | .ok _ => none
  | .error fault => some fault

theorem itemFaults_eq_numbered (entries : List (Except Command.BlockFault Command)) :
    itemFaults entries = numbered fault? 0 entries := by
  rw [itemFaults, numbered]
  refine List.filterMap_congr fun entry _ => ?_
  obtain ⟨item, index⟩ := entry
  cases item <;> rfl

end Block

theorem items_give (values : List Value) :
    let entries := values.map Command.ofBlock
    let good := numbered Except.toOption 0 entries
    let bad := numbered Block.fault? 0 entries
    ItemsGive values (good.map Prod.fst) (bad.map Prod.fst)
      (Block.Content.items entries).commands (Block.Content.items entries).issues := by
  intro entries good bad
  have hentry : ∀ index entry, entries[index - 0]? = some entry →
      ∃ value, values[index]? = some value ∧ Command.ofBlock value = entry := by
    intro index entry h
    rwa [List.getElem?_map, Option.map_eq_some_iff] at h
  have hcommands : (Block.Content.items entries).commands = good.map Prod.snd :=
    (map_snd_numbered 0 entries).symm
  have hissues : (Block.Content.items entries).issues =
      bad.map fun found => .invalidBlockItem found.1 found.2 := by
    rw [Block.Content.issues, Block.itemFaults_eq_numbered]
  have honce : (good.map Prod.fst ++ bad.map Prod.fst).Perm (List.range values.length) := by
    have hshared : ∀ entry ∈ entries, (Block.fault? entry).isSome = entry.toOption.isNone :=
      fun entry _ => by cases entry <;> rfl
    have hperm := numbers_perm 0 hshared
    rwa [List.length_map, ← List.range_eq_range'] at hperm
  constructor
  case good_ascend => exact numbers_pairwise 0 entries
  case bad_ascend => exact numbers_pairwise 0 entries
  case each_once => exact honce
  case commands_of_items =>
    rw [hcommands]
    refine forall₂_numbers Prod.snd fun index item command _ hget hitem => ?_
    obtain ⟨value, hvalue, hof⟩ := hentry index item hget
    refine ⟨value, hvalue, ?_⟩
    cases item with
    | error fault => cases hitem
    | ok found =>
      cases hitem
      exact hof
  case issues_of_items =>
    rw [hissues]
    refine forall₂_numbers _ fun index item fault _ hget hitem => ?_
    obtain ⟨value, hvalue, hof⟩ := hentry index item hget
    refine ⟨value, fault, hvalue, ?_, rfl⟩
    cases item with
    | ok command => cases hitem
    | error found =>
      cases hitem
      exact hof
  case nothing_lost =>
    have hlength := honce.length_eq
    rw [List.length_append, List.length_map, List.length_map, List.length_range] at hlength
    rw [hcommands, hissues, List.length_map, List.length_map]
    exact hlength

theorem body_gives (body : String) :
    BlockGives (some body) (Block.readBody body).commands (Block.readBody body).issues := by
  cases hp : parse body with
  | error fault =>
    rw [Block.readBody, hp]
    exact .invalidJson hp
  | ok value =>
    cases value with
    | array values =>
      rw [Block.readBody, hp]
      exact .items hp (items_give values)
    | object fields =>
      cases hf : Fields.get? fields "command" with
      | none =>
        rw [Block.readBody, hp]
        simp only [hf, Option.isSome_none, Bool.false_eq_true, if_false]
        refine .notCommand hp (by simp) fun other h => ?_
        cases h
        exact hf
      | some verb =>
        rw [Block.readBody, hp]
        simp only [hf, Option.isSome_some, if_true]
        cases hc : Command.ofBlockFields fields with
        | ok command => exact .command hp hc
        | error fault => exact .invalidItem hp (by simp [hf]) hc
    | null | bool | number | string =>
      rw [Block.readBody, hp]
      exact .notCommand hp (by simp) (by simp)

theorem block_gives (text : List Char) :
    BlockGives (Block.body? text) (((Block.find? text).map Block.Content.commands).getD [])
      (((Block.find? text).map Block.Content.issues).getD []) := by
  rw [Block.find?]
  cases Block.body? text with
  | none => exact .noBlock
  | some body => exact body_gives body

/-- Nothing in a message is lost or counted twice: its commands are those of its lines and then
    those of its block, and so are its issues. A line gives at most one command, and an issue only
    with a command; an item of an array in the block gives either one command or one issue; and any
    other block gives one command or one issue in all. -/
theorem reading_accounts_for_all (message : String) :
    ∃ numbers tails lineCommands lineIssues blockCommands blockIssues,
      (parseMessage message).commands = lineCommands ++ blockCommands ∧
        (parseMessage message).issues = lineIssues ++ blockIssues ∧
        LinesGive (lines message.toList) numbers tails lineCommands lineIssues ∧
        BlockGives (Block.body? message.toList) blockCommands blockIssues :=
  ⟨_, _, _, _, _, _, rfl, rfl, lines_give (lines message.toList), block_gives message.toList⟩

end AgentCanvas
