import AgentCanvas.Message.Inline
import AgentCanvas.Proofs.Text.Joining
import Mathlib.Tactic.SplitIfs

set_option autoImplicit false

namespace AgentCanvas.Inline

open Text

/-- A word of a line, and what follows it on the line. -/
structure Word where
  letters : List Char
  behind : List Char
  deriving DecidableEq, Repr

def words (line : List Char) : List Word :=
  match _h : trimStart line with
  | [] => []
  | c :: rest =>
    ⟨c :: rest.takeWhile isInk, rest.dropWhile isInk⟩ :: words (rest.dropWhile isInk)
termination_by line.length
decreasing_by
  have hline : (trimStart line).length ≤ line.length := List.length_dropWhile_le isBlank line
  have hrest : (rest.dropWhile isInk).length ≤ rest.length := List.length_dropWhile_le isInk rest
  rw [_h, List.length_cons] at hline
  omega

theorem words_of_trimStart_nil {line : List Char} (h : trimStart line = []) : words line = [] := by
  rw [words]
  split
  · rfl
  · simp_all

theorem words_of_trimStart_cons {line rest : List Char} {c : Char} (h : trimStart line = c :: rest) :
    words line =
      ⟨c :: rest.takeWhile isInk, rest.dropWhile isInk⟩ :: words (rest.dropWhile isInk) := by
  rw [words]
  split
  · simp_all
  · simp_all

theorem isInk_of_trimStart {line rest : List Char} {c : Char} (h : trimStart line = c :: rest) :
    isInk c = true := by
  simp [isInk, isBlank_of_trimStart h]

/-- Whether a word that comes before a text is complete. -/
def EndsWord (behind : List Char) : Prop :=
  behind = [] ∨ ∃ b rest, behind = b :: rest ∧ isBlank b = true

theorem endsWord_dropWhile (text : List Char) : EndsWord (text.dropWhile isInk) := by
  cases h : text.dropWhile isInk with
  | nil => exact .inl rfl
  | cons b rest =>
    have hb := List.dropWhile_get_zero_not isInk text (by simp [h])
    exact .inr ⟨b, rest, rfl, by simpa [h, isInk] using hb⟩

theorem line_of_words {line : List Char} {word : Word} {others : List Word}
    (h : words line = word :: others) :
    ∃ gap, (∀ c ∈ gap, isBlank c = true) ∧ line = gap ++ (word.letters ++ word.behind) ∧
      word.letters ≠ [] ∧ (∀ c ∈ word.letters, isBlank c = false) ∧ EndsWord word.behind ∧
      words word.behind = others := by
  cases hline : trimStart line with
  | nil => simp [words_of_trimStart_nil hline] at h
  | cons c rest =>
    rw [words_of_trimStart_cons hline] at h
    obtain ⟨rfl, rfl⟩ := List.cons.inj h
    refine ⟨line.takeWhile isBlank, fun _ => List.mem_takeWhile_imp, ?_, by simp, ?_,
      endsWord_dropWhile rest, rfl⟩
    · rw [List.cons_append, List.takeWhile_append_dropWhile, ← hline]
      exact List.takeWhile_append_dropWhile.symm
    · refine List.forall_mem_cons.mpr ⟨isBlank_of_trimStart hline, fun x hx => ?_⟩
      simpa [isInk] using List.mem_takeWhile_imp hx

/-- What stands between the blanks of a line. -/
def pieces (line : List Char) : List (List Char) :=
  (line.splitOnP isBlank).filter fun piece => !piece.isEmpty

theorem pieces_trimStart (line : List Char) : pieces line = pieces (trimStart line) := by
  unfold pieces
  induction line with
  | nil => rfl
  | cons c line ih =>
    by_cases hc : isBlank c = true
    · simpa [List.splitOnP_cons_eq_if_modifyHead, trimStart, hc] using ih
    · rw [trimStart_of_not_blank (by simpa using hc)]

theorem pieces_append {word behind : List Char} (hne : word ≠ [])
    (hword : ∀ c ∈ word, isBlank c = false) (hbehind : EndsWord behind) :
    pieces (word ++ behind) = word :: pieces behind := by
  obtain rfl | ⟨b, rest, rfl, hb⟩ := hbehind
  · rw [List.append_nil, pieces, List.splitOnP_eq_singleton hword]
    simp [hne, pieces, List.splitOnP_nil]
  · rw [pieces, List.splitOnP_append_cons_of_forall_mem hword b hb]
    simp [hne, hb, pieces, List.splitOnP_cons_eq_if_modifyHead]

theorem map_letters_words (line : List Char) : (words line).map Word.letters = pieces line := by
  fun_induction words line with
  | case1 line h =>
    rw [pieces_trimStart, h]
    simp [pieces, List.splitOnP_nil]
  | case2 line c rest h ih =>
    have hword : ∀ x ∈ c :: rest.takeWhile isInk, isBlank x = false := by
      refine List.forall_mem_cons.mpr ⟨isBlank_of_trimStart h, fun x hx => ?_⟩
      simpa [isInk] using List.mem_takeWhile_imp hx
    have hline : c :: rest = (c :: rest.takeWhile isInk) ++ rest.dropWhile isInk := by simp
    rw [pieces_trimStart, h, hline, pieces_append (by simp) hword (endsWord_dropWhile rest),
      List.map_cons, ih]

def plain (piece : List Char) : Bool :=
  piece.head? != some '\x7b' && piece.head? != some '['

def partsFrom (verb : Word) (others : List Word) : Parts :=
  match others.head?.filter fun word => plain word.letters with
  | some target => ⟨verb.letters, some target.letters, trimChars target.behind⟩
  | none => ⟨verb.letters, none, trimChars verb.behind⟩

/-- The parts of a command by the words of its line: the first word that is the marker must not be
    the last one. -/
def wordParts? (line : List Char) : Option Parts :=
  match (words line).dropWhile fun word => word.letters != commandMark.toList with
  | _ :: verb :: others => some (partsFrom verb others)
  | _ => none

/-! ## The reader and the words -/

theorem behindMark?_of_not {text : List Char} (h : ¬ commandMark.toList <+: text) :
    behindMark? text = none := by
  simp [behindMark?, List.isPrefixOf_iff_prefix, h]

theorem behindMark?_of_blank {c : Char} (hc : isBlank c = true) (rest : List Char) :
    behindMark? (c :: rest) = none := by
  apply behindMark?_of_not
  intro hpre
  have hslash : c = '/' := (List.cons_prefix_cons.mp hpre).1.symm
  subst hslash
  exact absurd hc (by decide)

@[simp] theorem behindMark?_mark : behindMark? commandMark.toList = none := rfl

theorem behindMark?_append_cons (c : Char) (rest : List Char) :
    behindMark? (commandMark.toList ++ c :: rest) =
      if isBlank c = true ∧ trimStart rest ≠ [] then some (trimStart rest) else none := by
  have hdrop : (commandMark.toList ++ c :: rest).drop commandMark.length = c :: rest := rfl
  simp only [behindMark?, List.isPrefixOf_iff_prefix, List.prefix_append, if_true, hdrop]
  cases hc : isBlank c <;> cases trimStart rest <;> simp

theorem afterMark?_eq (fresh : Bool) (text : List Char) :
    afterMark? fresh text =
      (if fresh then behindMark? text else none).or (afterMark? false text) := by
  cases text with
  | nil => cases fresh <;> rfl
  | cons c rest =>
    cases fresh with
    | false => simp
    | true =>
      simp only [afterMark?, if_true, Bool.false_eq_true, if_false]
      cases behindMark? (c :: rest) <;> rfl

theorem afterMark?_trimStart (text : List Char) :
    afterMark? true text = afterMark? true (trimStart text) := by
  induction text with
  | nil => rfl
  | cons c rest ih =>
    by_cases hc : isBlank c = true
    · simpa [afterMark?, behindMark?_of_blank hc, hc, trimStart] using ih
    · rw [trimStart_of_not_blank (by simpa using hc)]

theorem afterMark?_dropWhile_isInk (text : List Char) :
    afterMark? false text = afterMark? true (text.dropWhile isInk) := by
  induction text with
  | nil => rfl
  | cons c rest ih =>
    by_cases hc : isBlank c = true
    · rw [afterMark?_eq true, List.dropWhile_cons_of_neg (by simp [isInk, hc]), if_pos rfl,
        behindMark?_of_blank hc, Option.none_or]
    · have hf : isBlank c = false := by simpa using hc
      simpa [afterMark?, isInk, hf] using ih

theorem mark_prefix_letters {letters behind : List Char}
    (hbehind : EndsWord behind) (h : commandMark.toList <+: letters ++ behind) :
    commandMark.toList <+: letters := by
  obtain rfl | ⟨b, tail, rfl, hb⟩ := hbehind
  · rwa [List.append_nil] at h
  · have hink : ∀ c ∈ commandMark.toList, isInk c = true := List.all_eq_true.mp rfl
    have hout : b ∉ commandMark.toList := by
      intro hmem
      have hbink := hink b hmem
      rw [isInk, hb] at hbink
      cases hbink
    exact prefix_of_prefix_join hout h

/-- At the beginning of a word the marker is found if it is the whole word and not the last one. -/
theorem behindMark?_word {letters behind : List Char} (hletters : ∀ c ∈ letters, isInk c = true)
    (hbehind : EndsWord behind) :
    behindMark? (letters ++ behind) =
      if letters = commandMark.toList ∧ trimStart behind ≠ [] then some (trimStart behind)
      else none := by
  by_cases hpre : commandMark.toList <+: letters ++ behind
  · obtain ⟨extra, rfl⟩ := mark_prefix_letters hbehind hpre
    cases extra with
    | nil =>
      obtain rfl | ⟨b, rest, rfl, hb⟩ := hbehind
      · simp [trimStart]
      · simp [behindMark?_append_cons, hb, trimStart]
    | cons x extra =>
      have hx : isBlank x = false := by simpa [isInk] using hletters x (by simp)
      rw [List.append_assoc, List.cons_append, behindMark?_append_cons]
      simp [hx]
  · have hne : letters ≠ commandMark.toList := fun h => hpre (h ▸ List.prefix_append _ _)
    simp [behindMark?_of_not hpre, hne]

def partsBehind (text : List Char) : Parts :=
  let (target, rest) := takeTarget (trimStart (text.dropWhile isInk))
  { verb := text.takeWhile isInk, target, tail := trimEnd rest }

theorem parts?_eq_map (line : List Char) : parts? line = (afterMark? true line).map partsBehind := by
  unfold parts?
  cases afterMark? true line <;> rfl

theorem partsBehind_eq {c : Char} {rest : List Char} (hc : isInk c = true) :
    partsBehind (c :: rest) =
      partsFrom ⟨c :: rest.takeWhile isInk, rest.dropWhile isInk⟩ (words (rest.dropWhile isInk)) := by
  simp only [partsBehind, List.takeWhile_cons_of_pos hc, List.dropWhile_cons_of_pos hc]
  cases hnext : trimStart (rest.dropWhile isInk) with
  | nil => simp [words_of_trimStart_nil hnext, takeTarget, partsFrom, trimChars, hnext]
  | cons d tail =>
    have hd := isInk_of_trimStart hnext
    have hplain : plain (d :: tail.takeWhile isInk) = startsTarget d := by
      simp [plain, startsTarget, hd, bne]
    rw [words_of_trimStart_cons hnext, partsFrom, List.head?_cons, Option.filter_some, hplain]
    cases hstart : startsTarget d
    · simp [takeTarget, hstart, trimChars, hnext]
    · simp [takeTarget, hstart, hd, trimChars]

theorem afterMark?_word {line rest : List Char} {c : Char} (h : trimStart line = c :: rest) :
    afterMark? true line =
      if c :: rest.takeWhile isInk = commandMark.toList ∧ trimStart (rest.dropWhile isInk) ≠ [] then
        some (trimStart (rest.dropWhile isInk))
      else afterMark? true (rest.dropWhile isInk) := by
  have hc := isInk_of_trimStart h
  have hletters : ∀ x ∈ c :: rest.takeWhile isInk, isInk x = true :=
    List.forall_mem_cons.mpr ⟨hc, fun x => List.mem_takeWhile_imp⟩
  have hhere := behindMark?_word hletters (endsWord_dropWhile rest)
  rw [List.cons_append, List.takeWhile_append_dropWhile] at hhere
  rw [afterMark?_trimStart, h, afterMark?_eq, if_pos rfl, hhere, afterMark?_dropWhile_isInk,
    List.dropWhile_cons_of_pos hc]
  split_ifs
  · rfl
  · rfl

theorem parts?_eq_wordParts? (line : List Char) : parts? line = wordParts? line := by
  rw [parts?_eq_map]
  fun_induction words line with
  | case1 line h =>
    rw [afterMark?_trimStart, h, wordParts?, words_of_trimStart_nil h]
    rfl
  | case2 line c rest h ih =>
    rw [afterMark?_word h, wordParts?, words_of_trimStart_cons h]
    by_cases hmark : c :: rest.takeWhile isInk = commandMark.toList
    · rw [List.dropWhile_cons_of_neg (by simp [hmark])]
      cases hnext : trimStart (rest.dropWhile isInk) with
      | nil =>
        rw [afterMark?_trimStart, hnext, words_of_trimStart_nil hnext]
        simp [afterMark?]
      | cons d tail =>
        rw [words_of_trimStart_cons hnext, if_pos ⟨hmark, List.cons_ne_nil d tail⟩, Option.map_some,
          partsBehind_eq (isInk_of_trimStart hnext)]
    · rw [if_neg fun h => hmark h.1, List.dropWhile_cons_of_pos (by simpa using hmark), ih, wordParts?]

end AgentCanvas.Inline
