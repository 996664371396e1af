import AgentCanvas.Message.Basic
import AgentCanvas.Proofs.Message.BlockPattern

set_option autoImplicit false

namespace AgentCanvas

open Text Text.Pattern

namespace Block

/-- The character is taken once, or it does not stand here. -/
def OnceIfThere (c : Char) (taken behind : List Char) : Prop :=
  taken = [c] ∨ taken = [] ∧ behind.head? ≠ some c

structure Header where
  tag : List Char
  gap : List Char
  cr : List Char
  lf : List Char

def Header.chars (header : Header) : List Char :=
  header.tag ++ (header.gap ++ (header.cr ++ header.lf))

/-- Each part of the header is as long as it can be in front of a text. -/
structure Header.Longest (header : Header) (behind : List Char) : Prop where
  tag : LongestRun isTag header.tag (header.gap ++ (header.cr ++ (header.lf ++ behind)))
  gap : LongestRun isGap header.gap (header.cr ++ (header.lf ++ behind))
  cr : OnceIfThere '\r' header.cr (header.lf ++ behind)
  lf : OnceIfThere '\n' header.lf behind

/-- The block of a text, from the first fence to the first fence behind the header. -/
structure CutAt (text front : List Char) (header : Header) (inside behind : List Char) : Prop where
  opens : FirstAt fence text front (header.chars ++ (inside ++ (fence ++ behind)))
  header : header.Longest (inside ++ (fence ++ behind))
  closes : FirstAt fence (inside ++ (fence ++ behind)) inside behind

variable {text front inside behind : List Char} {header : Header}

/-! ## The header -/

theorem exists_onceIfThere (c : Char) (text : List Char) :
    ∃ taken, text = taken ++ dropOne c text ∧ OnceIfThere c taken (dropOne c text) := by
  obtain htext | ⟨hnot, hsame⟩ := dropOne_cases c text
  · exact ⟨[c], htext, .inl rfl⟩
  · exact ⟨[], hsame.symm, .inr ⟨rfl, hsame.symm ▸ hnot⟩⟩

theorem OnceIfThere.dropOne_eq {c : Char} {taken : List Char} (h : OnceIfThere c taken behind) :
    dropOne c (taken ++ behind) = behind := by
  obtain rfl | ⟨rfl, hnot⟩ := h
  · simp [dropOne]
  · simp [dropOne, hnot]

theorem Header.Longest.skipHeader_eq (h : header.Longest behind) :
    skipHeader (header.chars ++ behind) = behind := by
  have hchars : header.chars ++ behind =
      header.tag ++ (header.gap ++ (header.cr ++ (header.lf ++ behind))) := by
    simp [Header.chars]
  have hgap : (header.gap ++ (header.cr ++ (header.lf ++ behind))).dropWhile
      (fun c => c == ' ' || c == '\t') = header.cr ++ (header.lf ++ behind) :=
    h.gap.dropWhile_eq
  rw [skipHeader, hchars, h.tag.dropWhile_eq, hgap, h.cr.dropOne_eq, h.lf.dropOne_eq]

theorem exists_header (text : List Char) :
    ∃ header : Header, text = header.chars ++ skipHeader text ∧
      header.Longest (skipHeader text) := by
  let untagged := text.dropWhile isTag
  let gapless := untagged.dropWhile isGap
  obtain ⟨cr, hcr, hreturn⟩ := exists_onceIfThere '\r' gapless
  obtain ⟨lf, hlf, hfeed⟩ := exists_onceIfThere '\n' (dropOne '\r' gapless)
  change dropOne '\r' gapless = lf ++ skipHeader text at hlf
  have hbehindGap : cr ++ (lf ++ skipHeader text) = gapless := by rw [← hlf, ← hcr]
  have hbehindTag : untagged.takeWhile isGap ++ (cr ++ (lf ++ skipHeader text)) = untagged := by
    rw [hbehindGap, List.takeWhile_append_dropWhile]
  refine ⟨⟨text.takeWhile isTag, untagged.takeWhile isGap, cr, lf⟩, ?_, ?_, ?_, ?_, hfeed⟩
  · simp only [Header.chars, List.append_assoc]
    rw [hbehindTag, List.takeWhile_append_dropWhile]
  · rw [hbehindTag]
    exact longestRun_takeWhile isTag text
  · rw [hbehindGap]
    exact longestRun_takeWhile isGap untagged
  · rw [← hlf]
    exact hreturn

/-! ## The cut -/

/-- The reader finds the cut. -/
theorem exists_cut_iff : (∃ header, CutAt text front header inside behind) ↔
    ∃ opened, FirstAt fence text front opened ∧
      splitAt? fence (skipHeader opened) = some (inside, behind) := by
  constructor
  · rintro ⟨header, hopens, hheader, hcloses⟩
    refine ⟨_, hopens, ?_⟩
    rw [hheader.skipHeader_eq]
    exact (splitAt?_eq_some_iff (by decide)).mpr hcloses
  · rintro ⟨opened, hopens, hsplit⟩
    have hcloses := (splitAt?_eq_some_iff (by decide)).mp hsplit
    obtain ⟨header, hchars, hheader⟩ := exists_header opened
    rw [hcloses.cut] at hchars hheader hcloses
    exact ⟨header, hchars ▸ hopens, hheader, hcloses⟩

theorem inside?_eq_some_iff :
    inside? text = some inside ↔ ∃ front header behind, CutAt text front header inside behind := by
  have hread : inside? text = some inside ↔ ∃ front opened behind,
      splitAt? fence text = some (front, opened) ∧
        splitAt? fence (skipHeader opened) = some (inside, behind) := by
    simp [inside?, Option.bind_eq_some_iff]
  rw [hread]
  constructor
  · rintro ⟨front, opened, behind, hopens, hcloses⟩
    have hfirst := (splitAt?_eq_some_iff (by decide)).mp hopens
    obtain ⟨header, hcut⟩ := exists_cut_iff.mpr ⟨opened, hfirst, hcloses⟩
    exact ⟨front, header, behind, hcut⟩
  · rintro ⟨front, header, behind, hcut⟩
    obtain ⟨opened, hfirst, hcloses⟩ := exists_cut_iff.mp ⟨header, hcut⟩
    exact ⟨front, opened, behind, (splitAt?_eq_some_iff (by decide)).mpr hfirst, hcloses⟩

theorem firstMatch_iff_cut {f : Bool} {place : Progress} : pattern.FirstMatch f text front place ↔
    ∃ header inside behind, CutAt text front header inside behind ∧
      place = ⟨false, behind, [(1, inside)]⟩ := by
  rw [firstMatch_iff]
  simp only [closed, Option.map_eq_some_iff, Prod.exists]
  constructor
  · rintro ⟨opened, hopens, inside, behind, hcloses, rfl⟩
    obtain ⟨header, hcut⟩ := exists_cut_iff.mpr ⟨opened, hopens, hcloses⟩
    exact ⟨header, inside, behind, hcut, rfl⟩
  · rintro ⟨header, inside, behind, hcut, rfl⟩
    obtain ⟨opened, hopens, hcloses⟩ := exists_cut_iff.mp ⟨header, hcut⟩
    exact ⟨opened, hopens, inside, behind, hcloses, rfl⟩

theorem insideMatched?_eq_inside? (text : List Char) : insideMatched? text = inside? text := by
  refine Option.ext fun inside => ?_
  rw [inside?_eq_some_iff, insideMatched?]
  simp only [Option.bind_eq_bind, Option.bind_eq_some_iff, search?, searchFrom?_eq_some_iff,
    firstMatch_iff_cut]
  constructor
  · rintro ⟨_, ⟨front, _, ⟨header, found, behind, hcut, rfl⟩, rfl⟩, hfound⟩
    obtain rfl : found = inside := Option.some.inj hfound
    exact ⟨front, header, behind, hcut⟩
  · rintro ⟨front, header, behind, hcut⟩
    exact ⟨_, ⟨front, _, ⟨header, inside, behind, hcut, rfl⟩, rfl⟩, rfl⟩

theorem exists_cut_iff_two_fences :
    (∃ front header inside behind, CutAt text front header inside behind) ↔
      ∃ a b c, text = a ++ (fence ++ (b ++ (fence ++ c))) := by
  constructor
  · rintro ⟨front, header, inside, behind, hcut⟩
    refine ⟨front, header.chars ++ inside, behind, ?_⟩
    rw [hcut.opens.cut, List.append_assoc]
  · rintro ⟨a, b, c, htext⟩
    have hfence : fence <:+: text := ⟨a, b ++ (fence ++ c), by rw [htext, List.append_assoc]⟩
    obtain ⟨front, opened, hopens⟩ := (exists_firstAt_iff (by decide)).mpr hfence
    have hsuffix := suffix_of_later hopens.cut htext (hopens.first a _ htext)
    have hbehind : fence <:+: opened :=
      (List.infix_append' b fence c).trans hsuffix.isInfix
    obtain ⟨inside, behind, hcloses⟩ :=
      (exists_firstAt_iff (by decide)).mpr ((infix_skipHeader_iff opened).mpr hbehind)
    obtain ⟨header, hcut⟩ :=
      exists_cut_iff.mpr ⟨opened, hopens, (splitAt?_eq_some_iff (by decide)).mpr hcloses⟩
    exact ⟨front, header, inside, behind, hcut⟩

theorem find?_of_inside (h : inside? text = some inside) :
    find? text = some (readBody (String.ofList (trimChars inside))) := by
  rw [find?, body?, h, Option.map_some, Option.map_some]

theorem find?_of_no_inside (h : inside? text = none) : find? text = none := by
  rw [find?, body?, h, Option.map_none, Option.map_none]

end Block

/-! ## The block of a message -/

theorem parseMessage_of_block {message : String} {content : Block.Content}
    (h : Block.find? message.toList = some content) :
    (parseMessage message).commands =
        Inline.commands (Inline.findAll message.toList) ++ content.commands ∧
      (parseMessage message).issues =
        Inline.issues (Inline.findAll message.toList) ++ content.issues := by
  constructor
  · simp only [parseMessage, h, Option.map_some, Option.getD_some]
  · simp only [parseMessage, h, Option.map_some, Option.getD_some]

theorem parseMessage_of_no_block {message : String} (h : Block.find? message.toList = none) :
    (parseMessage message).commands = Inline.commands (Inline.findAll message.toList) ∧
      (parseMessage message).issues = Inline.issues (Inline.findAll message.toList) := by
  constructor
  · simp [parseMessage, h]
  · simp [parseMessage, h]

/-- The pattern finds a block if and only if a message holds two fences, one behind the other. Its
    match is the cut at the first fence, behind the longest header, and at the first fence from
    there on; and the inside of that cut is all that the block adds to the commands and issues on
    the lines of the message. -/
theorem block_is_cut_at_first_fences (message : String) :
    let text := message.toList
    let found := Inline.findAll text
    ((∃ front place, Block.pattern.FirstMatch true text front place) ↔
      ∃ a b c, text = a ++ (Block.fence ++ (b ++ (Block.fence ++ c)))) ∧
    (∀ front place, Block.pattern.FirstMatch true text front place ↔
      ∃ header inside behind, Block.CutAt text front header inside behind ∧
        place = ⟨false, behind, [(1, inside)]⟩) ∧
    (∀ front header inside behind, Block.CutAt text front header inside behind →
      let content := Block.readBody (String.ofList (trimChars inside))
      (parseMessage message).commands = Inline.commands found ++ content.commands ∧
        (parseMessage message).issues = Inline.issues found ++ content.issues) ∧
    ((∀ front place, ¬ Block.pattern.FirstMatch true text front place) →
      (parseMessage message).commands = Inline.commands found ∧
        (parseMessage message).issues = Inline.issues found) := by
  intro text found
  refine ⟨?_, fun front place => Block.firstMatch_iff_cut, ?_, fun hnone => ?_⟩
  · rw [← Block.exists_cut_iff_two_fences]
    simp only [Block.firstMatch_iff_cut]
    constructor
    · rintro ⟨front, _, header, inside, behind, hcut, -⟩
      exact ⟨front, header, inside, behind, hcut⟩
    · rintro ⟨front, header, inside, behind, hcut⟩
      exact ⟨front, _, header, inside, behind, hcut, rfl⟩
  · intro front header inside behind hcut
    have hinside := Block.inside?_eq_some_iff.mpr ⟨front, header, behind, hcut⟩
    exact parseMessage_of_block (Block.find?_of_inside hinside)
  · apply parseMessage_of_no_block
    apply Block.find?_of_no_inside
    rw [Option.eq_none_iff_forall_ne_some]
    intro inside hinside
    obtain ⟨front, header, behind, hcut⟩ := Block.inside?_eq_some_iff.mp hinside
    exact hnone front _ (Block.firstMatch_iff_cut.mpr ⟨header, inside, behind, hcut, rfl⟩)

/-- The tag runs into the command, and the block is closed by the first three of four back ticks.
    A block that is not closed is none. -/
theorem tag_runs_into_command :
    let message :=
      "so: \x60\x60\x60json5+\x7b\"command\":\"clear\"\x7d\x60\x60\x60\x60[]\x60\x60\x60"
    let inside := "\x7b\"command\":\"clear\"\x7d".toList
    let behind := "\x60[]\x60\x60\x60".toList
    let unclosed := "\x60\x60\x60json\n[]\x60\x60"
    Block.pattern.FirstMatch true message.toList "so: ".toList ⟨false, behind, [(1, inside)]⟩ ∧
      (parseMessage message).commands.map Command.verb = ["clear"] ∧
      (parseMessage unclosed).issues = [] := by
  intro message inside behind unclosed
  obtain ⟨-, hmatch, hblock, -⟩ := block_is_cut_at_first_fences message
  obtain ⟨header, hcut⟩ :
      ∃ header, Block.CutAt message.toList "so: ".toList header inside behind :=
    Block.exists_cut_iff.mpr ⟨"json5+".toList ++ (inside ++ (Block.fence ++ behind)),
      (splitAt?_eq_some_iff (by decide)).mp (by decide +kernel), by decide +kernel⟩
  obtain ⟨-, -, -, hnone⟩ := block_is_cut_at_first_fences unclosed
  have hunclosed : ∀ front place,
      ¬ Block.pattern.FirstMatch true unclosed.toList front place := by
    intro front place hplace
    obtain ⟨header, inside, behind, hcut, -⟩ := Block.firstMatch_iff_cut.mp hplace
    have hinside : Block.inside? unclosed.toList = none := by decide +kernel
    rw [Block.inside?_eq_some_iff.mpr ⟨front, header, behind, hcut⟩] at hinside
    cases hinside
  refine ⟨(hmatch _ _).mpr ⟨header, inside, behind, hcut, rfl⟩, ?_, ?_⟩
  · rw [(hblock _ _ _ _ hcut).1]
    decide +kernel
  · rw [(hnone hunclosed).2]
    decide +kernel

end AgentCanvas
