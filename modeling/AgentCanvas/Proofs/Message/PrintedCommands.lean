import AgentCanvas.Proofs.Json.Reread
import AgentCanvas.Proofs.Message.FencedBlock

set_option autoImplicit false

/-!
# Printed commands

What is found in a block that holds the printed form of some commands. The block gives these
commands or nothing: where a string holds a fence, the block ends inside that string and is no
document. But the lines of a block are read like any others, so that a string which quotes the
syntax of a command gives one more.
-/
namespace AgentCanvas

open Json Text

namespace Inline

/-! ## Quoted syntax -/

def QuotedMark (mark : List Char) : Prop :=
  ∃ b₁ b₂, isBlank b₁ = true ∧ isBlank b₂ = true ∧ mark = b₁ :: (commandMark.toList ++ [b₂])

/-- A text that quotes the syntax of a command between blanks that print as they are, which those
    below U+0020 do not; the next line U+0085 is one that does. -/
def Quotes (text : String) : Prop :=
  ∃ mark, QuotedMark mark ∧ Value.Prints mark ∧ mark <:+: text.toList

theorem QuotedMark.prose {mark : List Char} (h : QuotedMark mark) (hprints : Value.Prints mark) :
    Value.ProseMark mark := by
  obtain ⟨b₁, b₂, h₁, h₂, rfl⟩ := h
  have hmem : ∀ c ∈ b₁ :: (commandMark.toList ++ [b₂]),
      isBlank c = true ∨ c ∈ commandMark.toList := by
    intro c hc
    rw [List.mem_cons, List.mem_append, List.mem_singleton] at hc
    obtain rfl | hc | rfl := hc
    · exact .inl h₁
    · exact .inr hc
    · exact .inl h₂
  have hne : ∀ x ∈ [',', ':', '"', ']', '\x7d', '\\'],
      x ∉ b₁ :: (commandMark.toList ++ [b₂]) := by
    have hall : ∀ x ∈ [',', ':', '"', ']', '\x7d', '\\'],
        ¬ (isBlank x = true ∨ x ∈ commandMark.toList) := List.all_iff_forall_prop.mp (by decide)
    exact fun x hx hc => hall x hx (hmem x hc)
  refine ⟨⟨b₁, _, rfl, h₁⟩, fun c hc => ?_, fun c hc => ?_⟩
  · refine escapedChar_of_prints (hprints c hc) ?_ ?_
    · rintro rfl
      exact hne '"' (by decide) hc
    · rintro rfl
      exact hne '\\' (by decide) hc
  · exact hne c (List.mem_append_left ['\\'] hc)

def StartsMarked (text : List Char) : Prop :=
  ∃ b, isBlank b = true ∧ commandMark.toList ++ [b] <+: text

theorem behindMark?_isSome_iff {text : List Char}
    (hend : ∀ b ∈ text.getLast?, isBlank b = false) :
    (behindMark? text).isSome ↔ StartsMarked text := by
  by_cases hpre : commandMark.toList <+: text
  · obtain ⟨rest, rfl⟩ := hpre
    cases rest with
    | nil =>
      refine iff_of_false (by simp) ?_
      rintro ⟨b, -, hb⟩
      have hlength := hb.length_le
      simp at hlength
    | cons b rest =>
      have hmarked : StartsMarked (commandMark.toList ++ b :: rest) ↔ isBlank b = true := by
        constructor
        · rintro ⟨b', hb', hmark⟩
          obtain ⟨rfl, -⟩ := List.cons_prefix_cons.mp ((List.prefix_append_right_inj _).mp hmark)
          exact hb'
        · intro hb
          exact ⟨b, hb, (List.prefix_append_right_inj _).mpr ⟨rest, rfl⟩⟩
      -- a word follows the blank, if only at the end of the text
      have hword : isBlank b = true → trimStart rest ≠ [] := by
        intro hb hnil
        have hall : ∀ x ∈ b :: rest, isBlank x = true :=
          List.forall_mem_cons.mpr ⟨hb, (trimStart_eq_nil_iff rest).mp hnil⟩
        rw [List.getLast?_append_of_ne_nil _ (List.cons_ne_nil b rest),
          List.getLast?_eq_some_getLast (List.cons_ne_nil b rest)] at hend
        have hlast := hend _ rfl
        rw [hall _ (List.getLast_mem _)] at hlast
        cases hlast
      rw [hmarked, behindMark?_append_cons]
      simpa using hword
  · refine iff_of_false (by simp [behindMark?_of_not hpre]) ?_
    rintro ⟨b, -, hb⟩
    exact hpre ((List.prefix_append _ [b]).trans hb)

theorem quotedMark_infix_cons_iff (c : Char) (rest : List Char) :
    (∃ mark, QuotedMark mark ∧ mark <:+: c :: rest) ↔
      (isBlank c = true ∧ StartsMarked rest) ∨ ∃ mark, QuotedMark mark ∧ mark <:+: rest := by
  constructor
  · rintro ⟨mark, hmark, hstands⟩
    obtain hhere | hrest := List.infix_cons_iff.mp hstands
    · obtain ⟨b₁, b₂, h₁, h₂, rfl⟩ := hmark
      obtain ⟨rfl, hbehind⟩ := List.cons_prefix_cons.mp hhere
      exact .inl ⟨h₁, b₂, h₂, hbehind⟩
    · exact .inr ⟨mark, hmark, hrest⟩
  · rintro (⟨hc, b, hb, hbehind⟩ | ⟨mark, hmark, hrest⟩)
    · exact ⟨_, ⟨c, b, hc, hb, rfl⟩, (List.cons_prefix_cons.mpr ⟨rfl, hbehind⟩).isInfix⟩
    · exact ⟨mark, hmark, List.infix_cons hrest⟩

theorem afterMark?_isSome_iff {text : List Char}
    (hend : ∀ b ∈ text.getLast?, isBlank b = false) (fresh : Bool) :
    (afterMark? fresh text).isSome ↔
      (fresh = true ∧ StartsMarked text) ∨ ∃ mark, QuotedMark mark ∧ mark <:+: text := by
  induction text generalizing fresh with
  | nil =>
    refine iff_of_false (by simp [afterMark?]) ?_
    rintro (⟨-, b, -, hb⟩ | ⟨mark, ⟨b₁, b₂, -, -, rfl⟩, hmark⟩)
    · simp at hb
    · simp at hmark
  | cons c rest ih =>
    have hrest : ∀ b ∈ rest.getLast?, isBlank b = false := by
      cases rest with
      | nil =>
        intro b hb
        cases hb
      | cons d rest => rwa [List.getLast?_cons_cons] at hend
    have hbehind : afterMark? false (c :: rest) = afterMark? (isBlank c) rest := by
      simp [afterMark?]
    rw [afterMark?_eq, Option.isSome_or, Bool.or_eq_true, hbehind, ih hrest,
      quotedMark_infix_cons_iff]
    cases fresh with
    | false => simp
    | true => simp [behindMark?_isSome_iff hend]

end Inline

/-! ## The printed form -/

namespace Command

def printed (commands : List Command) : Value :=
  .array (commands.map json)

/-- The parameters are a document with its fields in order. -/
def Ordered (command : Command) : Prop :=
  ∀ params ∈ command.params, Value.sorted (.object params) = .object params

def reread (command : Command) : Command :=
  { command with params := command.params.map Value.rereadFields }

theorem json_reread (command : Command) : command.json.reread = command.reread.json := by
  obtain ⟨verb, _ | type, _ | id, _ | params⟩ := command <;> rfl

theorem Ordered.reread {command : Command} (h : command.Ordered) : command.reread.Ordered := by
  intro params hparams
  obtain ⟨written, hwritten, rfl⟩ := Option.map_eq_some_iff.mp hparams
  have hsorted := Value.sorted_reread (.object written)
  rwa [h written hwritten] at hsorted

theorem sorted_json_reread {command : Command} (h : command.Ordered) :
    command.json.sorted.reread = command.reread.wire := by
  rw [← Value.sorted_reread, json_reread, sorted_json _ h.reread]

theorem printed_reread {commands : List Command} (h : ∀ command ∈ commands, command.Ordered) :
    (printed commands).sorted.reread = .array ((commands.map reread).map wire) := by
  rw [printed, Value.sorted, Value.reread, Value.sortedItems_eq_map, Value.rereadItems_eq_map,
    List.map_map, List.map_map, List.map_map]
  exact congrArg Value.array (List.map_congr_left fun command hcommand =>
    sorted_json_reread (h command hcommand))

/-- A string of a command quotes the syntax of a command. -/
def Quotes (command : Command) : Prop :=
  ∃ s, Value.Holds s command.json ∧ Inline.Quotes s

end Command

namespace Block

variable {commands : List Command}

theorem chars_printed (commands : List Command) :
    ∃ inner, (Command.printed commands).chars = '[' :: (inner ++ [']']) :=
  ⟨_, Value.chars_array _⟩

theorem trimChars_printed (commands : List Command) :
    trimChars (Command.printed commands).chars = (Command.printed commands).chars := by
  obtain ⟨inner, hinner⟩ := chars_printed commands
  have hlast : (Command.printed commands).chars = ('[' :: inner) ++ [']'] := hinner
  exact trimChars_of_ends hinner hlast (by decide) (by decide)

theorem trimChars_front {front behind : List Char}
    (h : (Command.printed commands).chars = front ++ (fence ++ behind)) :
    ∃ lost, Cut (lost ++ (fence ++ behind)) ∧ front = trimChars front ++ lost := by
  obtain ⟨gap, hgap, hfront⟩ := exists_gap_trimEnd front
  refine ⟨gap, fun x hx => ?_, ?_⟩
  · cases gap with
    | nil => exact .inl (Option.some.inj hx).symm
    | cons y gap =>
      obtain rfl : y = x := Option.some.inj hx
      exact .inr (hgap y List.mem_cons_self)
  · obtain ⟨inner, hinner⟩ := chars_printed commands
    rw [hinner] at h
    cases front with
    | nil =>
      have hfirst : '[' = '\x60' := (List.cons.inj h).1
      exact absurd hfirst (by decide)
    | cons y front =>
      obtain rfl : '[' = y := (List.cons.inj h).1
      rwa [trimChars, trimStart_of_not_blank (by decide)]

/-- A text of the commands, which may be cut off, is read as these commands or not at all. -/
theorem commands_readBody {text lost : List Char} (hlost : Cut lost)
    (htext : text ++ lost = (Command.printed commands).chars)
    (h : ∀ command ∈ commands, command.Ordered) :
    (readBody (String.ofList text)).commands =
      if lost = [] ∧ (parse (String.ofList text)).isOk then commands.map Command.reread
      else [] := by
  cases hparse : parse (String.ofList text) with
  | error fault =>
    rw [if_neg (by simp [Except.isOk, Except.toBool]), readBody, hparse]
    rfl
  | ok document =>
    obtain ⟨rfl, hdocument⟩ := parse_chars hlost htext hparse
    rw [hdocument, Command.printed_reread h] at hparse
    rw [if_pos ⟨rfl, rfl⟩, readBody_wire hparse, commands_items_ok]

theorem inside?_of_infix {tag inner : List Char} (htag : ∀ c ∈ tag, isTag c = true)
    (h : fence <:+: inner) : ∃ front behind, inside? (fenced tag inner) = some front ∧
      inner = front ++ (fence ++ behind) := by
  obtain ⟨front, behind, hsplit, hinner⟩ := splitAt?_of_infix (by decide) h ('\n' :: fence)
  refine ⟨front, behind, ?_, hinner⟩
  rw [fenced, List.append_assoc, inside?, splitAt?_append_mark (by decide)]
  change (splitAt? fence (skipHeader _)).bind _ = _
  rw [skipHeader_of_tag htag, hsplit]
  rfl

theorem commands_printed {tag : List Char} (htag : ∀ c ∈ tag, isTag c = true)
    (h : ∀ command ∈ commands, command.Ordered) :
    let text := (Command.printed commands).chars
    ∃ content, find? (fenced tag text) = some content ∧ content.commands =
      if ¬ fence <:+: text ∧ (parse (String.ofList text)).isOk then commands.map Command.reread
      else [] := by
  intro text
  by_cases hfence : fence <:+: text
  · -- the block ends inside the text, of which a fence at least is lost
    obtain ⟨front, behind, hinside, htext⟩ := inside?_of_infix htag hfence
    obtain ⟨gap, hlost, hfront⟩ := trimChars_front htext
    have hwhole : trimChars front ++ (gap ++ (fence ++ behind)) = text := by
      rw [← List.append_assoc, ← hfront, ← htext]
    refine ⟨_, find?_of_inside hinside, ?_⟩
    rw [commands_readBody hlost hwhole h, if_neg (by simp [fence]), if_neg (by simp [hfence])]
  · have hnil : ¬ fence <:+: [] := by decide
    have hinside := inside?_fenced (.inl rfl) hnil htag hfence []
    rw [List.nil_append, List.append_nil] at hinside
    have hfeed : ∀ c ∈ ['\n'], isBlank c = true := List.forall_mem_singleton.mpr rfl
    refine ⟨_, find?_of_inside hinside, ?_⟩
    rw [trimChars_append_of_blank text hfeed, trimChars_printed,
      commands_readBody cut_nil (List.append_nil text) h]
    simp [hfence]

end Block

/-! ## The message -/

theorem lineFeed_not_mem_chars (value : Value) : '\n' ∉ value.chars := by
  intro h
  have hprints := value.prints_chars '\n' h
  contradiction

theorem parseCommands_printed {commands : List Command}
    (h : ∀ command ∈ commands, command.Ordered) {message : String} {tag : List Char}
    (htag : ∀ c ∈ tag, Block.isTag c = true)
    (hmessage : message.toList = Block.fenced tag (Command.printed commands).chars) :
    let text := (Command.printed commands).chars
    parseCommands message =
      ((Inline.find? text).map Inline.Found.command).toList ++
        if ¬ Block.fence <:+: text ∧ (parse (String.ofList text)).isOk then
          commands.map Command.reread
        else [] := by
  intro text
  have hline : Inline.findAll message.toList =
      Inline.moved 1 ((Inline.find? text).map fun found => (1, found)).toList := by
    rw [hmessage, Block.findAll_fenced htag, Inline.findAll_of_line (lineFeed_not_mem_chars _)]
  have hinline : Inline.commands (Inline.findAll message.toList) =
      ((Inline.find? text).map Inline.Found.command).toList := by
    rw [hline]
    cases Inline.find? text <;> rfl
  obtain ⟨content, hblock, hcommands⟩ := Block.commands_printed htag h
  rw [← hmessage] at hblock
  rw [parseCommands, (parseMessage_of_block hblock).1, hinline, hcommands]

theorem find?_printed_isSome_iff (commands : List Command) :
    (Inline.find? (Command.printed commands).chars).isSome ↔
      ∃ command ∈ commands, command.Quotes := by
  obtain ⟨inner, hinner⟩ := Block.chars_printed commands
  have hend : ∀ b ∈ (Command.printed commands).chars.getLast?, isBlank b = false := by
    have hlast : (Command.printed commands).chars = ('[' :: inner) ++ [']'] := hinner
    rw [hlast, List.getLast?_concat]
    rintro b ⟨⟩
    decide
  have hstart : ¬ Inline.StartsMarked (Command.printed commands).chars := by
    rw [hinner]
    rintro ⟨b, -, hb⟩
    exact absurd (List.cons_prefix_cons.mp hb).1 (by decide)
  rw [Inline.find?_eq_map, Inline.parts?_eq_map, Option.isSome_map, Option.isSome_map,
    Inline.afterMark?_isSome_iff hend, or_iff_right (fun hmarked => hstart hmarked.2)]
  constructor
  · rintro ⟨mark, hmark, hstands⟩
    have hprints : Value.Prints mark := fun c hc => Value.prints_chars _ c (hstands.subset hc)
    obtain ⟨s, hs, hquoted⟩ := ((hmark.prose hprints).infix_chars_iff _).mp hstands
    cases hs with
    | item hitem hs =>
      obtain ⟨command, hcommand, rfl⟩ := List.mem_map.mp hitem
      exact ⟨command, hcommand, s, hs, mark, hmark, hprints, hquoted⟩
  · rintro ⟨command, hcommand, s, hs, mark, hmark, hprints, hquoted⟩
    have hholds : Value.Holds s (Command.printed commands) :=
      .item (List.mem_map_of_mem hcommand) hs
    exact ⟨mark, hmark, ((hmark.prose hprints).infix_chars_iff _).mpr ⟨s, hholds, hquoted⟩⟩

/-- Commands that are printed into a block are read back, with their numbers as these are read, or
    not at all. One more command is found if and only if a string of them quotes the syntax of a
    command. Without such a string and with numbers that are read as they were, no command is found
    that was not printed. -/
theorem strings_in_block_are_data {commands : List Command}
    (h : ∀ command ∈ commands, command.Ordered) :
    let text := (Command.printed commands).text
    let message := "\x60\x60\x60json\n" ++ text ++ "\n\x60\x60\x60"
    let quoted := ((Inline.find? text.toList).map Inline.Found.command).toList
    let fenced :=
      if ¬ Block.fence <:+: text.toList ∧ (parse text).isOk then commands.map Command.reread else []
    parseCommands message = quoted ++ fenced ∧
      (quoted ≠ [] ↔ ∃ command ∈ commands, command.Quotes) ∧
      ((∀ command ∈ commands, ¬ command.Quotes ∧ command.reread = command) →
        ∀ command ∈ parseCommands message, command ∈ commands) := by
  intro text message quoted fenced
  have hmessage : message.toList =
      Block.fenced "json".toList (Command.printed commands).chars := by
    simp [message, text, Block.fenced, Block.fence, Value.chars, String.toList_append]
  have htag : ∀ c ∈ "json".toList, Block.isTag c = true := by
    rw [← List.all_eq_true]
    decide +kernel
  have hfound : parseCommands message = quoted ++ fenced := by
    rw [parseCommands_printed h htag hmessage, Value.chars, String.ofList_toList]
  have hquoted : quoted ≠ [] ↔ ∃ command ∈ commands, command.Quotes := by
    rw [← find?_printed_isSome_iff, Option.isSome_iff_ne_none, ne_eq, ne_eq, not_iff_not]
    exact Option.toList_eq_nil_iff.trans Option.map_eq_none_iff
  refine ⟨hfound, hquoted, fun hplain command hcommand => ?_⟩
  have hnone : quoted = [] := by
    by_contra hne
    obtain ⟨command, hmem, hquotes⟩ := hquoted.mp hne
    exact (hplain command hmem).1 hquotes
  rw [hfound, hnone, List.nil_append] at hcommand
  have hmap : command ∈ commands.map Command.reread := by
    by_cases hread : ¬ Block.fence <:+: text.toList ∧ (parse text).isOk
    · rwa [show fenced = commands.map Command.reread from if_pos hread] at hcommand
    · rw [show fenced = [] from if_neg hread] at hcommand
      cases hcommand
  obtain ⟨written, hwritten, rfl⟩ := List.mem_map.mp hmap
  rwa [(hplain written hwritten).2]

/-- A string that begins with the marker does not quote it between blanks. -/
theorem marker_at_start_is_data :
    let commands : List Command := [⟨"create", some "text", none,
      some [("text", .string "/canvas clear"), ("x", .number (.int 12))]⟩]
    let message := "\x60\x60\x60json\n" ++ (Command.printed commands).text ++ "\n\x60\x60\x60"
    (∀ command ∈ commands, command.Ordered) ∧
      (∀ command ∈ commands, ¬ command.Quotes ∧ command.reread = command) ∧
      (parseCommands message).map Command.verb = ["create"] ∧
      ∀ command ∈ parseCommands message, command ∈ commands := by
  intro commands message
  have hordered : ∀ command ∈ commands, command.Ordered := by
    refine List.forall_mem_singleton.mpr ?_
    rintro params ⟨⟩
    rfl
  obtain ⟨-, hquoted, hdata⟩ := strings_in_block_are_data hordered
  have hfind : (Inline.find? (Command.printed commands).text.toList).isNone = true := by
    decide +kernel
  have htwelve : (Number.int 12).reread = .int 12 := by decide +kernel
  have hplain : ∀ command ∈ commands, ¬ command.Quotes ∧ command.reread = command := by
    intro command hcommand
    constructor
    · intro hquotes
      refine hquoted.mpr ⟨command, hcommand, hquotes⟩ ?_
      rw [Option.isNone_iff_eq_none.mp hfind]
      rfl
    · obtain rfl := List.mem_singleton.mp hcommand
      simp [Command.reread, Value.rereadFields, Value.reread, htwelve]
  exact ⟨hordered, hplain, by decide +kernel, hdata hplain⟩

/-- A command that is quoted in a string is found like one on a line, and a number is found as the
    one next to it. -/
theorem quoted_command_is_found :
    let quoting : Command :=
      ⟨"create", some "text", none, some [("text", .string "type /canvas clear to wipe")]⟩
    let placed : Command :=
      ⟨"create", none, none, some [("x", .number (.real ⟨false, 7907530437066127, 1030⟩))]⟩
    let message (command : Command) :=
      "\x60\x60\x60json\n" ++ (Command.printed [command]).text ++ "\n\x60\x60\x60"
    (∃ found ∈ parseCommands (message quoting), found ∉ [quoting]) ∧
      ∃ found ∈ parseCommands (message placed), found ∉ [placed] := by
  intro quoting placed message
  have hquoting : (parseCommands (message quoting)).map Command.verb = ["clear", "create"] := by
    decide +kernel
  have hplaced : (parseCommands (message placed)).map (fun found => found.json.text) =
      ["\x7b\"command\":\"create\",\"params\":\x7b\"x\":449.4910647887382\x7d\x7d"] := by
    decide +kernel
  constructor
  · obtain ⟨found, hfound, hverb⟩ := List.mem_map.mp (hquoting ▸ List.mem_cons_self)
    refine ⟨found, hfound, fun hmem => ?_⟩
    rw [List.mem_singleton.mp hmem] at hverb
    exact absurd hverb (by decide)
  · obtain ⟨found, hfound, htext⟩ := List.mem_map.mp (hplaced ▸ List.mem_cons_self)
    refine ⟨found, hfound, fun hmem => ?_⟩
    rw [List.mem_singleton.mp hmem] at htext
    exact absurd htext (by decide +kernel)

end AgentCanvas
