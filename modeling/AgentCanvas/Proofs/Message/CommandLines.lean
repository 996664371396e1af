import AgentCanvas.Proofs.Message.Joined

set_option autoImplicit false

namespace AgentCanvas

open Text

namespace Inline

structure IsWord (word : List Char) : Prop where
  nonempty : word ≠ []
  ink : ∀ c ∈ word, isBlank c = false

theorem IsWord.of_all {word : List Char} (hne : word ≠ []) (h : word.all isInk = true) :
    IsWord word where
  nonempty := hne
  ink c hc := by simpa [isInk] using List.all_eq_true.mp h c hc

theorem isWord_mark : IsWord commandMark.toList :=
  .of_all (by decide) rfl

theorem endsWord_space (tail : List Char) : EndsWord (' ' :: tail) :=
  .inr ⟨' ', tail, rfl, rfl⟩

theorem IsWord.pieces {word : List Char} (h : IsWord word) : pieces word = [word] := by
  have hpieces := pieces_append h.nonempty h.ink (.inl rfl)
  rw [List.append_nil] at hpieces
  rw [hpieces]
  simp [Inline.pieces, List.splitOnP_nil]

theorem IsWord.pieces_append {word : List Char} (h : IsWord word) (tail : List Char) :
    Inline.pieces (word ++ ' ' :: tail) = word :: Inline.pieces tail := by
  have hspace : trimStart (' ' :: tail) = trimStart tail := rfl
  rw [Inline.pieces_append h.nonempty h.ink (endsWord_space tail), pieces_trimStart, hspace,
    ← pieces_trimStart]

def commandLine (verb target tail : List Char) : List Char :=
  commandMark.toList ++ ' ' :: (verb ++ ' ' :: (target ++ ' ' :: tail))

variable {verb target : List Char}

theorem hasForm_commandLine (hverb : IsWord verb) (htarget : IsWord target)
    (hplain : plain target = true) (tail : List Char) :
    HasForm (commandLine verb target tail) ⟨verb, some target, trimChars tail⟩ := by
  refine ⟨[], target :: pieces tail, commandMark.toList ++ ' ' :: (verb ++ ' ' :: target),
    ' ' :: tail, ?_, List.not_mem_nil, ?_, ?_, endsWord_space tail, ?_, rfl⟩
  · rw [commandLine, isWord_mark.pieces_append, hverb.pieces_append, htarget.pieces_append,
      List.nil_append]
  · rw [List.head?_cons, Option.filter_some, if_pos hplain]
  · simp [commandLine]
  · rw [isWord_mark.pieces_append, hverb.pieces_append, htarget.pieces]
    rfl

theorem lineFeed_not_mem_commandLine (hverb : IsWord verb) (htarget : IsWord target)
    {tail : List Char} (h : '\n' ∉ tail) : '\n' ∉ commandLine verb target tail := by
  have hword : ∀ {word}, IsWord word → '\n' ∉ word := by
    intro word hword hmem
    have hink := hword.ink '\n' hmem
    contradiction
  simp [commandLine, hword isWord_mark, hword hverb, hword htarget, h]

/-- A command line is what its words and the text behind them say. -/
theorem findAll_commandLine (hverb : IsWord verb) (htarget : IsWord target)
    (hplain : plain target = true) {tail : List Char} (h : '\n' ∉ tail) :
    findAll (commandLine verb target tail) = [(1, foundOf ⟨verb, some target, trimChars tail⟩)] := by
  have hform := hasForm_commandLine hverb htarget hplain tail
  rw [findAll_of_line (lineFeed_not_mem_commandLine hverb htarget h), find?_eq_map,
    parts?_eq_wordParts?, (wordParts?_eq_some_iff _ _).mpr hform]
  rfl

theorem fence_not_infix_commandLine (hverb : '\x60' ∉ verb) (htarget : '\x60' ∉ target)
    {tail : List Char} (h : ¬ Block.fence <:+: tail) :
    ¬ Block.fence <:+: commandLine verb target tail := by
  have hspace : ' ' ∉ Block.fence := by decide
  have hword : ∀ {word : List Char}, '\x60' ∉ word → ¬ Block.fence <:+: word :=
    fun hmem hfence => hmem (hfence.subset List.mem_cons_self)
  rw [commandLine, infix_append_cons_iff hspace, infix_append_cons_iff hspace,
    infix_append_cons_iff hspace]
  simp [hword hverb, hword htarget, hword (show '\x60' ∉ commandMark.toList by decide), h]

end Inline

/-- A message of one command line without a fence is that command and nothing else. -/
theorem parseMessage_commandLine {message : String} {verb target tail : List Char}
    (hmessage : message.toList = Inline.commandLine verb target tail) (hverb : Inline.IsWord verb)
    (htarget : Inline.IsWord target) (hplain : Inline.plain target = true)
    (hticks : '\x60' ∉ verb ∧ '\x60' ∉ target) (hline : '\n' ∉ tail)
    (hfence : ¬ Block.fence <:+: tail) :
    let found := Inline.foundOf ⟨verb, some target, trimChars tail⟩
    (parseMessage message).commands = [found.command] ∧
      (parseMessage message).issues = Inline.issues [(1, found)] := by
  intro found
  have hunfenced : ¬ Block.fence <:+: message.toList := by
    rw [hmessage]
    exact Inline.fence_not_infix_commandLine hticks.1 hticks.2 hfence
  have hfound := Inline.findAll_commandLine hverb htarget hplain hline
  obtain ⟨hcommands, hissues⟩ := parseMessage_of_not_fenced hunfenced
  rw [hcommands, hissues, hmessage, hfound]
  exact ⟨rfl, rfl⟩

end AgentCanvas
