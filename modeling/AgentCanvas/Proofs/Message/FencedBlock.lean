import AgentCanvas.Proofs.Command.Readers
import AgentCanvas.Proofs.Json.Documents
import AgentCanvas.Proofs.Json.Fields
import AgentCanvas.Proofs.Message.Joined

set_option autoImplicit false

namespace AgentCanvas

open Json Text

namespace Inline

/-! ## Lines around a block -/

theorem moved_moved (m n : ℕ) (found : List (ℕ × Found)) :
    moved m (moved n found) = moved (n + m) found := by
  simp [moved, Nat.add_assoc]

/-- What follows the end of a line is found like a text of its own. -/
theorem findAll_behind {front : List Char} (h : front = [] ∨ ∃ text, front = text ++ ['\n'])
    (text : List Char) :
    findAll (front ++ text) = findAll front ++ moved (front.count '\n') (findAll text) := by
  obtain rfl | ⟨front, rfl⟩ := h
  · simp [moved, findAll, lines, linesFrom]
  · have hfront : findAll (front ++ ['\n']) = findAll front := by
      rw [findAll_join front []]
      exact List.append_nil _
    rw [hfront, List.append_assoc, List.singleton_append, findAll_join, List.count_append,
      Nat.add_comm 1]
    rfl

theorem findAll_before {behind : List Char} (h : behind = [] ∨ ∃ text, behind = '\n' :: text)
    (text : List Char) :
    findAll (text ++ behind) = findAll text ++ moved (text.count '\n') (findAll behind) := by
  obtain rfl | ⟨behind, rfl⟩ := h
  · rw [List.append_nil]
    exact (List.append_nil _).symm
  · have hbehind : findAll ('\n' :: behind) = moved 1 (findAll behind) := findAll_join [] behind
    rw [findAll_join, hbehind, moved_moved]

theorem afterMark?_of_not_mem {line : List Char} (h : '/' ∉ line) (fresh : Bool) :
    afterMark? fresh line = none := by
  induction line generalizing fresh with
  | nil => rfl
  | cons c rest ih =>
    have hmark : behindMark? (c :: rest) = none :=
      behindMark?_of_not fun hmark => h (hmark.subset (by decide))
    have hrest : '/' ∉ rest := fun hmem => h (List.mem_cons_of_mem c hmem)
    rw [afterMark?, hmark, ite_self]
    exact ih hrest (isBlank c)

theorem find?_of_not_mem {line : List Char} (h : '/' ∉ line) : find? line = none := by
  rw [find?, parts?, afterMark?_of_not_mem h]
  rfl

theorem findAll_of_forall {text : List Char} (h : ∀ line ∈ lines text, find? line = none) :
    findAll text = [] := by
  rw [findAll_eq_numbered, List.eq_nil_iff_forall_not_mem]
  rintro ⟨number, found⟩ hfound
  obtain ⟨line, -, hline, hfind⟩ := mem_numbered_iff.mp hfound
  rw [h line (List.mem_of_getElem? hline)] at hfind
  cases hfind

theorem findAll_of_not_mem {line : List Char} (hline : '\n' ∉ line) (h : '/' ∉ line) :
    findAll line = [] := by
  rw [findAll_of_line hline, find?_of_not_mem h]
  rfl

end Inline

namespace Block

theorem not_mem_tag {tag : List Char} (h : ∀ c ∈ tag, isTag c = true) {c : Char}
    (hc : isTag c = false) : c ∉ tag := by
  intro hmem
  rw [h c hmem] at hc
  cases hc

theorem skipHeader_of_tag {tag : List Char} (h : ∀ c ∈ tag, isTag c = true) (text : List Char) :
    skipHeader (tag ++ '\n' :: text) = text := by
  have htag : (tag ++ '\n' :: text).dropWhile isTag = '\n' :: text := by
    rw [List.dropWhile_append_of_pos h]
    exact List.dropWhile_cons_of_neg (by decide +kernel)
  rw [skipHeader, htag]
  rfl

theorem splitAt?_fence {front : List Char}
    (hfront : front = [] ∨ ∃ text, front = text ++ ['\n']) (h : ¬ fence <:+: front)
    (behind : List Char) : splitAt? fence (front ++ (fence ++ behind)) = some (front, behind) := by
  obtain rfl | ⟨front, rfl⟩ := hfront
  · exact splitAt?_append_mark (by decide) behind
  · have hclear : ¬ fence <:+: front := fun hmark => h (hmark.trans (List.infix_append' [] _ _))
    rw [List.append_assoc, List.singleton_append, splitAt?_join (by decide) hclear,
      splitAt?_append_mark (by decide)]
    rfl

theorem itemFaults_of_ok (commands : List Command) :
    itemFaults (commands.map .ok) = [] := by
  refine List.filterMap_eq_nil_iff.mpr fun entry hentry => ?_
  obtain ⟨command, -, hcommand⟩ := List.mem_map.mp (List.fst_mem_of_mem_zipIdx hentry)
  simp only [← hcommand]

/-- A body that decodes to the documents of commands is read as these commands. -/
theorem readBody_wire {body : String} {commands : List Command}
    (h : parse body = .ok (.array (commands.map Command.wire))) :
    readBody body = .items (commands.map .ok) := by
  rw [readBody, h]
  change Content.items _ = _
  rw [List.map_map]
  exact congrArg Content.items (List.map_congr_left fun command _ => Command.ofBlock_wire command)

theorem commands_items_ok (commands : List Command) :
    (Content.items (commands.map .ok)).commands = commands := by
  rw [Content.commands, List.filterMap_map]
  exact List.filterMap_some

theorem issues_items_ok (commands : List Command) :
    (Content.items (commands.map .ok)).issues = [] := by
  rw [Content.issues, itemFaults_of_ok]
  rfl

/-- A block on lines of its own: the fence with the tag, the lines inside, and the closing fence. -/
def fenced (tag inner : List Char) : List Char :=
  fence ++ tag ++ '\n' :: (inner ++ '\n' :: fence)

theorem not_mem_header {tag : List Char} (h : ∀ c ∈ tag, isTag c = true) {c : Char}
    (hc : isTag c = false) (hfence : c ∉ fence) : c ∉ fence ++ tag := by
  rw [List.mem_append, not_or]
  exact ⟨hfence, not_mem_tag h hc⟩

theorem findAll_fenced {tag : List Char} (htag : ∀ c ∈ tag, isTag c = true) (inner : List Char) :
    Inline.findAll (fenced tag inner) = Inline.moved 1 (Inline.findAll inner) := by
  have hline : '\n' ∉ fence ++ tag := not_mem_header htag (by decide +kernel) (by decide)
  have hopen : Inline.findAll (fence ++ tag) = [] :=
    Inline.findAll_of_not_mem hline (not_mem_header htag (by decide +kernel) (by decide))
  have hclose : Inline.findAll fence = [] := rfl
  rw [fenced, Inline.findAll_join, Inline.findAll_join, hopen, hclose, List.count_eq_zero.mpr hline]
  exact congrArg (Inline.moved 1) (List.append_nil _)

theorem count_fenced {tag : List Char} (htag : ∀ c ∈ tag, isTag c = true) (inner : List Char) :
    (fenced tag inner).count '\n' = inner.count '\n' + 2 := by
  have hopen : (fence ++ tag).count '\n' = 0 :=
    List.count_eq_zero.mpr (not_mem_header htag (by decide +kernel) (by decide))
  have hclose : fence.count '\n' = 0 := rfl
  rw [fenced, List.count_append, hopen, List.count_cons_self, List.count_append,
    List.count_cons_self, hclose]
  omega

theorem inside?_fenced {front tag inner : List Char}
    (hfront : front = [] ∨ ∃ text, front = text ++ ['\n']) (hfence : ¬ fence <:+: front)
    (htag : ∀ c ∈ tag, isTag c = true) (hinner : ¬ fence <:+: inner) (behind : List Char) :
    inside? (front ++ (fenced tag inner ++ behind)) = some (inner ++ ['\n']) := by
  have hshape : fenced tag inner ++ behind =
      fence ++ (tag ++ '\n' :: (inner ++ '\n' :: (fence ++ behind))) := by
    simp [fenced]
  -- the closing fence starts a line, so that it is the first one behind the header
  rw [hshape, inside?, splitAt?_fence hfront hfence]
  change (splitAt? fence (skipHeader _)).bind _ = _
  rw [skipHeader_of_tag htag, splitAt?_join (by decide) hinner, splitAt?_append_mark (by decide)]
  rfl

theorem find?_fenced {front tag inner : List Char} {commands : List Command}
    (hfront : front = [] ∨ ∃ text, front = text ++ ['\n']) (hfence : ¬ fence <:+: front)
    (htag : ∀ c ∈ tag, isTag c = true) (hinner : ¬ fence <:+: inner)
    (hparse : parse (String.ofList inner) = .ok (.array (commands.map Command.wire)))
    (behind : List Char) :
    find? (front ++ (fenced tag inner ++ behind)) = some (.items (commands.map .ok)) := by
  have hblank : ∀ c ∈ ['\n'], isBlank c = true := List.forall_mem_singleton.mpr rfl
  rw [find?_of_inside (inside?_fenced hfront hfence htag hinner behind),
    trimChars_append_of_blank inner hblank, readBody_wire (parse_trimChars hparse)]

end Block

/-! ## A message with a block -/

theorem parseMessage_fenced {front tag inner behind : List Char} {commands : List Command}
    (hfront : front = [] ∨ ∃ text, front = text ++ ['\n']) (hfence : ¬ Block.fence <:+: front)
    (htag : ∀ c ∈ tag, Block.isTag c = true) (hinner : ¬ Block.fence <:+: inner)
    (hlines : ∀ line ∈ lines inner, Inline.find? line = none)
    (hparse : parse (String.ofList inner) = .ok (.array (commands.map Command.wire)))
    (hbehind : behind = [] ∨ ∃ text, behind = '\n' :: text) {message : String}
    (hmessage : message.toList = front ++ (Block.fenced tag inner ++ behind)) :
    let found := Inline.findAll front ++
      Inline.moved (front.count '\n' + (inner.count '\n' + 2)) (Inline.findAll behind)
    (parseMessage message).commands = Inline.commands found ++ commands ∧
      (parseMessage message).issues = Inline.issues found := by
  intro found
  have hfound : Inline.findAll message.toList = found := by
    rw [hmessage, Inline.findAll_behind hfront, Inline.findAll_before hbehind,
      Block.findAll_fenced htag, Inline.findAll_of_forall hlines]
    change Inline.findAll front ++ Inline.moved _ (Inline.moved _ _) = _
    rw [Inline.moved_moved, Block.count_fenced htag, Nat.add_comm]
  have hblock := Block.find?_fenced hfront hfence htag hinner hparse behind
  rw [← hmessage] at hblock
  obtain ⟨hcommands, hissues⟩ := parseMessage_of_block hblock
  rw [hcommands, hissues, hfound, Block.commands_items_ok, Block.issues_items_ok, List.append_nil]
  exact ⟨rfl, rfl⟩

/-- A block that opens on a line of its own and whose text holds the documents of commands, but no
    fence and no command on a line, gives these commands after those on the lines before and behind
    it, and no issue; and a later block gives nothing. -/
theorem well_formed_block_is_found {front tag inner behind : String} {commands : List Command}
    (hfront : front = "" ∨ ∃ text, front = text ++ "\n") (hfence : ¬ Block.fence <:+: front.toList)
    (htag : ∀ c ∈ tag.toList, Block.isTag c = true) (hinner : ¬ Block.fence <:+: inner.toList)
    (hlines : ∀ line ∈ lines inner.toList, Inline.find? line = none)
    (hparse : parse inner = .ok (.array (commands.map Command.wire)))
    (hbehind : behind = "" ∨ ∃ text, behind = "\n" ++ text) :
    let message := front ++ "\x60\x60\x60" ++ tag ++ "\n" ++ inner ++ "\n\x60\x60\x60" ++ behind
    let above := Inline.findAll front.toList
    let below := Inline.findAll behind.toList
    let linesAbove := front.toList.count '\n' + (inner.toList.count '\n' + 2)
    (parseMessage message).commands =
        Inline.commands above ++ Inline.commands below ++ commands ∧
      (parseMessage message).issues =
        Inline.issues above ++ (Inline.issues below).map (.moveDown linesAbove) := by
  intro message above below linesAbove
  have hstart : front.toList = [] ∨ ∃ text, front.toList = text ++ ['\n'] := by
    obtain rfl | ⟨text, rfl⟩ := hfront
    · exact .inl rfl
    · exact .inr ⟨text.toList, String.toList_append⟩
  have hend : behind.toList = [] ∨ ∃ text, behind.toList = '\n' :: text := by
    obtain rfl | ⟨text, rfl⟩ := hbehind
    · exact .inl rfl
    · exact .inr ⟨text.toList, String.toList_append⟩
  have hmessage : message.toList =
      front.toList ++ (Block.fenced tag.toList inner.toList ++ behind.toList) := by
    simp [message, Block.fenced, Block.fence, String.toList_append]
  rw [← String.ofList_toList (s := inner)] at hparse
  obtain ⟨hcommands, hissues⟩ :=
    parseMessage_fenced hstart hfence htag hinner hlines hparse hend hmessage
  rw [hcommands, hissues]
  exact ⟨by rw [Inline.commands_append_moved], Inline.issues_append_moved _ _ _⟩

/-- A block behind a line with a command, and before another such line and a second block. -/
theorem block_between_lines :
    let front := "/canvas create sphere\n"
    let inner := "[\n \x7b\"command\": \"delete\", \"elementId\": \"a\"\x7d]"
    let behind := "\n/canvas update a red\n\x60\x60\x60\nno commands\n\x60\x60\x60"
    let message := front ++ "\x60\x60\x60" ++ "json" ++ "\n" ++ inner ++ "\n\x60\x60\x60" ++ behind
    (parseMessage message).commands.map Command.verb = ["create", "update", "delete"] ∧
      (parseMessage message).issues = [.inlineTailAsText 6] := by
  intro front inner behind message
  have hfront : front = "" ∨ ∃ text, front = text ++ "\n" := .inr ⟨"/canvas create sphere", rfl⟩
  have hfence : ¬ Block.fence <:+: front.toList := by decide
  have htag : ∀ c ∈ "json".toList, Block.isTag c = true := by
    rw [← List.all_eq_true]
    decide +kernel
  have hinner : ¬ Block.fence <:+: inner.toList := by decide
  have hlines : ∀ line ∈ lines inner.toList, Inline.find? line = none := by decide +kernel
  have hparse : parse inner =
      .ok (.array ([⟨"delete", none, some "a", none⟩].map Command.wire)) := by
    decide +kernel
  have hbehind : behind = "" ∨ ∃ text, behind = "\n" ++ text :=
    .inr ⟨"/canvas update a red\n\x60\x60\x60\nno commands\n\x60\x60\x60", rfl⟩
  obtain ⟨hcommands, hissues⟩ :=
    well_formed_block_is_found hfront hfence htag hinner hlines hparse hbehind
  refine ⟨?_, ?_⟩
  · rw [hcommands]
    decide +kernel
  · rw [hissues]
    decide +kernel

end AgentCanvas
