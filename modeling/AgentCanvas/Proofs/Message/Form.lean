import AgentCanvas.Proofs.Message.Words

set_option autoImplicit false

namespace AgentCanvas.Inline

open Text

/-- The first piece that is the marker has the verb behind it and, if it is plain, the target; what
    is left on the line is the tail. -/
def HasForm (line : List Char) (parts : Parts) : Prop :=
  ∃ before behind front rest,
    pieces line = before ++ commandMark.toList :: parts.verb :: behind ∧
    commandMark.toList ∉ before ∧
    parts.target = behind.head?.filter plain ∧
    line = front ++ rest ∧ EndsWord rest ∧
    pieces front = before ++ commandMark.toList :: parts.verb :: parts.target.toList ∧
    parts.tail = trimChars rest

theorem words_congr {a b : List Char} (h : trimStart a = trimStart b) : words a = words b := by
  cases hb : trimStart b with
  | nil => rw [words_of_trimStart_nil hb, words_of_trimStart_nil (h.trans hb)]
  | cons c rest => rw [words_of_trimStart_cons hb, words_of_trimStart_cons (h.trans hb)]

theorem trimStart_eq_word {line : List Char} {word : Word} {others : List Word}
    (h : words line = word :: others) : trimStart line = word.letters ++ word.behind := by
  cases hline : trimStart line with
  | nil => simp [words_of_trimStart_nil hline] at h
  | cons c rest =>
    rw [words_of_trimStart_cons hline] at h
    obtain ⟨rfl, -⟩ := List.cons.inj h
    simp

theorem trimStart_of_words {a b : List Char} (h : words a = words b) :
    trimStart a = trimStart b := by
  cases hb : words b with
  | cons word others => rw [trimStart_eq_word hb, trimStart_eq_word (h.trans hb)]
  | nil =>
    have hnil : ∀ line, words line = [] → trimStart line = [] := by
      intro line hline
      cases htrim : trimStart line with
      | nil => rfl
      | cons c rest => simp [words_of_trimStart_cons htrim] at hline
    rw [hnil b hb, hnil a (h.trans hb)]

theorem EndsWord.of_append {a b : List Char} (h : EndsWord (a ++ b)) : EndsWord a := by
  cases a with
  | nil => exact .inl rfl
  | cons c a =>
    obtain hnil | ⟨x, rest, hcons, hx⟩ := h
    · cases hnil
    · rw [List.cons_append] at hcons
      obtain ⟨rfl, -⟩ := List.cons.inj hcons
      exact .inr ⟨c, a, rfl, hx⟩

theorem front_of_words {line : List Char} {before others : List Word} {word : Word}
    (h : words line = before ++ word :: others) :
    ∃ front, line = front ++ word.behind ∧ EndsWord word.behind ∧
      pieces front = (before ++ [word]).map Word.letters ∧ words word.behind = others := by
  induction before generalizing line with
  | nil =>
    obtain ⟨gap, hgap, hline, hne, hink, hend, hothers⟩ := line_of_words h
    refine ⟨gap ++ word.letters, by rw [hline, List.append_assoc], hend, ?_, hothers⟩
    have hletters := pieces_append hne hink (.inl rfl)
    rw [List.append_nil] at hletters
    rw [pieces_trimStart, trimStart_append_of_blank hgap, ← pieces_trimStart, hletters]
    simp [pieces, List.splitOnP_nil]
  | cons first before ih =>
    obtain ⟨gap, hgap, hline, hne, hink, hend, hothers⟩ := line_of_words h
    obtain ⟨front, hbehind, hend', hpieces, hwords⟩ := ih hothers
    refine ⟨gap ++ (first.letters ++ front), ?_, hend', ?_, hwords⟩
    · rw [hline, hbehind]
      simp only [List.append_assoc]
    · rw [hbehind] at hend
      rw [pieces_trimStart, trimStart_append_of_blank hgap, ← pieces_trimStart,
        pieces_append hne hink hend.of_append, hpieces]
      rfl

theorem words_of_word {gap letters behind : List Char} (hgap : ∀ c ∈ gap, isBlank c = true)
    (hne : letters ≠ []) (hink : ∀ c ∈ letters, isBlank c = false) (hend : EndsWord behind) :
    words (gap ++ (letters ++ behind)) = ⟨letters, behind⟩ :: words behind := by
  obtain ⟨c, more, rfl⟩ := List.exists_cons_of_ne_nil hne
  obtain ⟨hc, hmore⟩ := List.forall_mem_cons.mp hink
  have htrim : trimStart (gap ++ (c :: more ++ behind)) = c :: (more ++ behind) := by
    rw [trimStart_append_of_blank hgap, List.cons_append, trimStart_of_not_blank hc]
  have hall : ∀ x ∈ more, isInk x = true := fun x hx => by simp [isInk, hmore x hx]
  have htake : behind.takeWhile isInk = [] ∧ behind.dropWhile isInk = behind := by
    obtain rfl | ⟨b, rest, rfl, hb⟩ := hend
    · exact ⟨rfl, rfl⟩
    · simp [isInk, hb]
  rw [words_of_trimStart_cons htrim, List.takeWhile_append_of_pos hall,
    List.dropWhile_append_of_pos hall, htake.1, htake.2, List.append_nil]

theorem EndsWord.append {a b : List Char} (ha : EndsWord a) (hb : EndsWord b) :
    EndsWord (a ++ b) := by
  obtain rfl | ⟨x, rest, rfl, hx⟩ := ha
  · exact hb
  · exact .inr ⟨x, rest ++ b, rfl, hx⟩

theorem words_append {front rest : List Char} (h : EndsWord rest) :
    ∃ first, words (front ++ rest) = first ++ words rest ∧
      first.map Word.letters = pieces front := by
  rw [← map_letters_words]
  generalize hfront : words front = found
  induction found generalizing front with
  | nil =>
    refine ⟨[], words_congr ?_, rfl⟩
    have hblank : trimStart front = trimStart [] :=
      trimStart_of_words (by rw [hfront, words_of_trimStart_nil rfl])
    exact trimStart_append_of_blank ((trimStart_eq_nil_iff front).mp hblank) rest
  | cons word others ih =>
    obtain ⟨gap, hgap, hline, hne, hink, hend, hothers⟩ := line_of_words hfront
    obtain ⟨first, hwords, hletters⟩ := ih hothers
    refine ⟨⟨word.letters, word.behind ++ rest⟩ :: first, ?_, by rw [List.map_cons, hletters]; rfl⟩
    rw [hline, List.append_assoc, List.append_assoc, words_of_word hgap hne hink (hend.append h),
      hwords]
    rfl

theorem words_from_mark {found others : List Word} {mark : Word}
    (h : found.dropWhile (fun word => word.letters != commandMark.toList) = mark :: others) :
    ∃ before, found = before ++ mark :: others ∧ mark.letters = commandMark.toList ∧
      commandMark.toList ∉ before.map Word.letters := by
  refine ⟨found.takeWhile fun word => word.letters != commandMark.toList, ?_, ?_, ?_⟩
  · rw [← h, List.takeWhile_append_dropWhile]
  · have hhead := List.dropWhile_get_zero_not (fun word : Word => word.letters != commandMark.toList)
      found (by simp [h])
    simpa [h] using hhead
  · intro hmem
    obtain ⟨word, hword, hmark⟩ := List.mem_map.mp hmem
    have hne := List.mem_takeWhile_imp hword
    simp [hmark] at hne

theorem dropWhile_to_mark {before others : List Word} {mark : Word}
    (hmark : mark.letters = commandMark.toList) (h : commandMark.toList ∉ before.map Word.letters) :
    (before ++ mark :: others).dropWhile (fun word => word.letters != commandMark.toList) =
      mark :: others := by
  have hall : ∀ word ∈ before, (word.letters != commandMark.toList) = true := by
    intro word hword
    simpa using fun heq => h (List.mem_map.mpr ⟨word, hword, heq⟩)
  rw [List.dropWhile_append_of_pos hall, List.dropWhile_cons_of_neg (by simp [hmark])]

theorem target_of_words (others : List Word) :
    (others.map Word.letters).head?.filter plain =
      (others.head?.filter fun word => plain word.letters).map Word.letters := by
  cases others with
  | nil => rfl
  | cons word others =>
    rw [List.map_cons, List.head?_cons, List.head?_cons, Option.filter_some, Option.filter_some]
    split_ifs
    · rfl
    · rfl

theorem hasForm_of_wordParts {line : List Char} {parts : Parts} (h : wordParts? line = some parts) :
    HasForm line parts := by
  unfold wordParts? at h
  split at h
  case h_2 => cases h
  case h_1 mark verb others hdrop =>
    obtain ⟨before, hwords, hmark, hfirst⟩ := words_from_mark hdrop
    have hparts : partsFrom verb others = parts := Option.some.inj h
    have hpieces : pieces line =
        before.map Word.letters ++ commandMark.toList :: verb.letters :: others.map Word.letters := by
      rw [← map_letters_words, hwords, ← hmark]
      simp
    rw [partsFrom] at hparts
    split at hparts
    case h_1 target htarget =>
      obtain ⟨more, rfl⟩ : ∃ more, others = target :: more :=
        List.head?_eq_some_iff.mp (Option.filter_eq_some_iff.mp htarget).1
      have hcut : words line = (before ++ [mark, verb]) ++ target :: more := by simp [hwords]
      obtain ⟨front, hline, hend, hfront, -⟩ := front_of_words hcut
      subst hparts
      refine ⟨_, _, front, target.behind, hpieces, hfirst, ?_, hline, hend, ?_, rfl⟩
      · rw [target_of_words, htarget]
        rfl
      · rw [hfront, ← hmark]
        simp
    case h_2 htarget =>
      have hcut : words line = (before ++ [mark]) ++ verb :: others := by simp [hwords]
      obtain ⟨front, hline, hend, hfront, -⟩ := front_of_words hcut
      subst hparts
      refine ⟨_, _, front, verb.behind, hpieces, hfirst, ?_, hline, hend, ?_, rfl⟩
      · rw [target_of_words, htarget]
        rfl
      · rw [hfront, ← hmark]
        simp

/-- What follows a word tells the tail as well as any other cut behind that word. -/
theorem trimChars_behind {line rest : List Char} {before : List Word} {word : Word}
    (h : words line = before ++ word :: words rest) : trimChars word.behind = trimChars rest := by
  obtain ⟨-, -, -, -, hwords⟩ := front_of_words h
  rw [trimChars, trimStart_of_words hwords, trimChars]

theorem wordParts_of_hasForm {line : List Char} {parts : Parts} (h : HasForm line parts) :
    wordParts? line = some parts := by
  obtain ⟨before, behind, front, rest, hpieces, hfirst, htarget, rfl, hrest, hfront, htail⟩ := h
  obtain ⟨first, hwords, hletters⟩ := words_append hrest
  rw [hfront] at hletters
  obtain ⟨found, fromMark, rfl, rfl, hfromMark⟩ := List.map_eq_append_iff.mp hletters
  obtain ⟨mark, fromVerb, rfl, hmark, hfromVerb⟩ := List.map_eq_cons_iff.mp hfromMark
  obtain ⟨verb, target, rfl, hverb, hnamed⟩ := List.map_eq_cons_iff.mp hfromVerb
  have hline : words (front ++ rest) = found ++ mark :: verb :: (target ++ words rest) := by
    rw [hwords]
    simp
  have hothers : behind = (target ++ words rest).map Word.letters := by
    rw [← map_letters_words, hline, List.map_append, List.map_cons, List.map_cons, hmark,
      hverb] at hpieces
    simpa using hpieces.symm
  rw [hothers, target_of_words] at htarget
  obtain ⟨name, goal, tail⟩ := parts
  simp only at hverb htarget hnamed htail
  rw [wordParts?, hline, dropWhile_to_mark hmark hfirst, htail]
  -- whether the last named part is the target or the verb, the cut is behind it
  cases goal with
  | none =>
    have hnil : target = [] := List.map_eq_nil_iff.mp hnamed
    subst hnil
    have hnone := Option.map_eq_none_iff.mp htarget.symm
    have hcut : words (front ++ rest) = (found ++ [mark]) ++ verb :: words rest := by simp [hline]
    simp only [partsFrom, hnone, hverb, trimChars_behind hcut]
  | some goal =>
    obtain ⟨word, rfl, hword⟩ := List.map_eq_singleton_iff.mp hnamed
    obtain ⟨chosen, hchosen, -⟩ := Option.map_eq_some_iff.mp htarget.symm
    have hsame : word = chosen := by
      simpa using (Option.filter_eq_some_iff.mp hchosen).1
    have hcut : words (front ++ rest) = (found ++ [mark, verb]) ++ word :: words rest := by
      simp [hline]
    simp only [partsFrom, hchosen, hverb, ← hsame, hword, trimChars_behind hcut]

/-- The words tell the parts that have the form, and no others. -/
theorem wordParts?_eq_some_iff (line : List Char) (parts : Parts) :
    wordParts? line = some parts ↔ HasForm line parts :=
  ⟨hasForm_of_wordParts, wordParts_of_hasForm⟩

end AgentCanvas.Inline
