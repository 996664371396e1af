import AgentCanvas.Message.Grammar
import AgentCanvas.Proofs.Message.Words
import AgentCanvas.Proofs.Text.Matching

set_option autoImplicit false

namespace AgentCanvas.Inline

open Text Text.Pattern

variable {groups : Groups} {text : List Char}

/-- What is left of the pattern behind the tail. -/
def onEnd : Progress → Option Groups :=
  (many true isBlank).firstWith (stop.firstWith matched)

def onTail : Progress → Option Groups :=
  (optional (.sequence [blanks, .group 3 (.many false fun c => c != '\n')])).firstWith onEnd

def onTarget : Progress → Option Groups :=
  (optional (.sequence [blanks, .group 2 (.seq (.one startsTarget) (.many true isInk))])).firstWith
    onTail

def onVerb : Progress → Option Groups :=
  (group 1 (Pattern.some isInk)).firstWith onTarget

def onMark : Progress → Option Groups :=
  (literal commandMark.toList).firstWith (blanks.firstWith onVerb)

theorem firstWith_pattern :
    pattern.firstWith matched = (either start (one isBlank)).firstWith onMark := by
  simp only [pattern, firstWith_sequence_cons, firstWith_sequence_nil, onMark, onVerb, onTarget,
    onTail, onEnd]

/-! ## The end of the line and the tail -/

theorem onEnd_of_blank (f : Bool) (h : trimStart text = []) :
    onEnd ⟨f, text, groups⟩ = some groups := by
  apply firstWith_greedy_of_some f
  intro f'
  have hrest : text.dropWhile isBlank = [] := h
  simp [hrest, matched]

theorem onEnd_of_not (f : Bool) (h : trimStart text ≠ []) : onEnd ⟨f, text, groups⟩ = none := by
  apply firstWith_greedy_of_none f
  intro f' taken rest htext hall
  cases rest with
  | nil =>
    rw [List.append_nil] at htext
    exact absurd ((trimStart_eq_nil_iff text).mpr (htext ▸ hall)) h
  | cons c rest => simp

/-- The lazy tail stops where only blanks are left, however far it has come. -/
theorem lazyTail_from (f f' : Bool) (taken : List Char) (h : '\n' ∉ text) :
    (many false fun c => c != '\n').firstWith
        (fun after => onEnd (Progress.close 3 ⟨f, taken ++ text, groups⟩ after))
        ⟨f', text, groups⟩ = some ((3, taken ++ trimEnd text) :: groups) := by
  induction text generalizing taken f' with
  | nil =>
    rw [firstWith_many_nil, close_of_append rfl]
    simpa [trimEnd] using onEnd_of_blank f' rfl
  | cons c rest ih =>
    rw [firstWith_lazy_cons, close_of_append rfl]
    by_cases hblank : trimStart (c :: rest) = []
    · have hend : trimEnd (c :: rest) = [] :=
        (trimEnd_eq_nil_iff _).mpr ((trimStart_eq_nil_iff _).mp hblank)
      rw [onEnd_of_blank f' hblank, Option.some_or, hend, List.append_nil]
    · have hc : (c != '\n') = true := by
        simpa using fun hc : c = '\n' => h (by simp [hc])
      have hend : taken ++ trimEnd (c :: rest) = (taken ++ [c]) ++ trimEnd rest := by
        rw [trimEnd_cons c rest fun hall => hblank ((trimStart_eq_nil_iff _).mpr hall)]
        simp
      rw [onEnd_of_not f' hblank, Option.none_or, if_pos hc, hend, List.append_cons]
      exact ih false (taken ++ [c]) fun hmem => h (List.mem_cons_of_mem c hmem)

def tailGroups (text : List Char) (groups : Groups) : Groups :=
  if text.isEmpty then groups else (3, trimChars text) :: groups

theorem onTail_eq (f : Bool) (hgap : EndsWord text) (h : '\n' ∉ text) :
    onTail ⟨f, text, groups⟩ = some (tailGroups text groups) := by
  rw [onTail, firstWith_optional, firstWith_sequence_cons, firstWith_sequence_cons,
    firstWith_sequence_nil]
  obtain rfl | ⟨b, rest, rfl, hb⟩ := hgap
  · have hnone : blanks.firstWith ((group 3 (many false fun c => c != '\n')).firstWith onEnd)
        ⟨f, [], groups⟩ = none := by
      simp [blanks, Pattern.some]
    rw [hnone, Option.none_or, onEnd_of_blank f rfl]
    rfl
  · have htail : trimChars (b :: rest) = trimEnd (rest.dropWhile isBlank) := by
      simp [trimChars, trimStart, hb]
    have hsome : blanks.firstWith ((group 3 (many false fun c => c != '\n')).firstWith onEnd)
        ⟨f, b :: rest, groups⟩ = some ((3, trimChars (b :: rest)) :: groups) := by
      apply firstWith_some_of_some f hb
      intro f'
      rw [firstWith_group, htail]
      refine lazyTail_from f' f' [] fun hmem => h (List.mem_cons_of_mem b ?_)
      exact (List.dropWhile_sublist isBlank).mem hmem
    rw [hsome, Option.some_or]
    rfl

/-! ## The target and the verb -/

def targetGroups (text : List Char) (groups : Groups) : Groups :=
  match trimStart text with
  | [] => tailGroups text groups
  | c :: rest =>
    if startsTarget c then
      tailGroups (rest.dropWhile isInk) ((2, c :: rest.takeWhile isInk) :: groups)
    else tailGroups text groups

theorem target_none (f : Bool) (next : Progress → Option Groups)
    (h : ∀ c rest, trimStart text = c :: rest → startsTarget c = false) :
    blanks.firstWith ((group 2 (seq (one startsTarget) (many true isInk))).firstWith next)
      ⟨f, text, groups⟩ = none := by
  apply firstWith_some_of_none f
  intro f' b taken rest htext hall
  rw [firstWith_group, firstWith_seq]
  cases rest with
  | nil => rw [firstWith_one_nil]
  | cons c rest =>
    have hc : startsTarget c = false := by
      by_contra hne
      have hink : isBlank c = false := by
        simp only [startsTarget, isInk] at hne
        grind
      have htrim : trimStart text = c :: rest := by
        rw [htext, trimStart_append_of_blank hall, trimStart_of_not_blank hink]
      exact hne (h c rest htrim)
    rw [firstWith_one_cons, hc]
    rfl

theorem target_some {next : Progress → Option Groups} {result : Groups} {b c : Char}
    {rest after : List Char} (f : Bool) (hb : isBlank b = true) (hrest : trimStart rest = c :: after)
    (hc : startsTarget c = true)
    (h : ∀ f', next ⟨f', after.dropWhile isInk, (2, c :: after.takeWhile isInk) :: groups⟩ =
      some result) :
    blanks.firstWith ((group 2 (seq (one startsTarget) (many true isInk))).firstWith next)
      ⟨f, b :: rest, groups⟩ = some result := by
  apply firstWith_some_of_some f hb
  intro f'
  have hword : c :: after = (c :: after.takeWhile isInk) ++ after.dropWhile isInk := by simp
  have hdrop : rest.dropWhile isBlank = c :: after := hrest
  rw [hdrop, firstWith_group, firstWith_seq, firstWith_one_cons, if_pos hc]
  apply firstWith_greedy_of_some false
  intro f''
  rw [close_of_append hword]
  exact h f''

theorem onTarget_eq (f : Bool) (hgap : EndsWord text) (h : '\n' ∉ text) :
    onTarget ⟨f, text, groups⟩ = some (targetGroups text groups) := by
  rw [onTarget, firstWith_optional, firstWith_sequence_cons, firstWith_sequence_cons,
    firstWith_sequence_nil, targetGroups]
  split
  case h_1 htrim =>
    rw [target_none f onTail (by simp [htrim]), Option.none_or, onTail_eq f hgap h]
  case h_2 c rest htrim =>
    split_ifs with hc
    · obtain rfl | ⟨b, more, rfl, hb⟩ := hgap
      · cases htrim
      · have hmore : trimStart more = c :: rest := by simpa [trimStart, hb] using htrim
        have hline : '\n' ∉ rest.dropWhile isInk := by
          intro hmem
          have hrest : '\n' ∈ c :: rest :=
            List.mem_cons_of_mem c ((List.dropWhile_sublist isInk).mem hmem)
          rw [← hmore] at hrest
          exact h (List.mem_cons_of_mem b ((List.dropWhile_sublist isBlank).mem hrest))
        rw [target_some f hb hmore hc fun f' => onTail_eq f' (endsWord_dropWhile rest) hline,
          Option.some_or]
    · have hnone : ∀ d more, trimStart text = d :: more → startsTarget d = false := by
        intro d more hd
        rw [htrim] at hd
        obtain ⟨rfl, -⟩ := List.cons.inj hd
        simpa using hc
      rw [target_none f onTail hnone, Option.none_or, onTail_eq f hgap h]

def verbGroups (text : List Char) : Groups :=
  targetGroups (text.dropWhile isInk) [(1, text.takeWhile isInk)]

theorem onVerb_eq {c : Char} {rest : List Char} (f : Bool) (hc : isInk c = true)
    (h : '\n' ∉ rest) : onVerb ⟨f, c :: rest, []⟩ = some (verbGroups (c :: rest)) := by
  apply firstWith_group_some f hc
  intro f'
  refine onTarget_eq f' (endsWord_dropWhile (c :: rest)) fun hmem => h ?_
  rw [List.dropWhile_cons_of_pos hc] at hmem
  exact (List.dropWhile_sublist isInk).mem hmem

theorem onVerb_of_not_ink {c : Char} {rest : List Char} (f : Bool) (hc : isInk c = false) :
    onVerb ⟨f, c :: rest, groups⟩ = none := by
  simp [onVerb, Pattern.some, hc]

/-! ## The marker and the search -/

theorem verb_behind_blanks (f : Bool) (b : Char) (rest : List Char) (h : '\n' ∉ rest) :
    blanks.firstWith onVerb ⟨f, b :: rest, []⟩ =
      if isBlank b = true ∧ trimStart rest ≠ [] then some (verbGroups (trimStart rest))
      else none := by
  split_ifs with hword
  · obtain ⟨hb, hne⟩ := hword
    apply firstWith_some_of_some f hb
    intro f'
    obtain ⟨c, more, hrest⟩ := List.exists_cons_of_ne_nil hne
    have hdrop : rest.dropWhile isBlank = c :: more := hrest
    rw [hdrop, hrest]
    refine onVerb_eq f' (isInk_of_trimStart hrest) fun hmem => h ?_
    refine (List.dropWhile_sublist isBlank).mem (hdrop ▸ List.mem_cons_of_mem c hmem)
  · apply firstWith_some_of_none f
    intro f' x taken tail htext hall
    cases tail with
    | nil => simp [onVerb, Pattern.some]
    | cons c tail =>
      apply onVerb_of_not_ink
      by_contra hc
      have hink : isBlank c = false := by simpa [isInk] using hc
      rw [List.cons_append] at htext
      obtain ⟨rfl, hrest⟩ := List.cons.inj htext
      obtain ⟨hb, htaken⟩ := List.forall_mem_cons.mp hall
      refine hword ⟨hb, ?_⟩
      rw [hrest, trimStart_append_of_blank htaken, trimStart_of_not_blank hink]
      exact List.cons_ne_nil c tail

theorem onMark_eq (f : Bool) (h : '\n' ∉ text) :
    onMark ⟨f, text, []⟩ = (behindMark? text).map verbGroups := by
  by_cases hpre : commandMark.toList <+: text
  · obtain ⟨rest, rfl⟩ := hpre
    apply firstWith_literal_append f
    intro f'
    cases rest with
    | nil => simp [blanks, Pattern.some]
    | cons b rest =>
      have hrest : '\n' ∉ rest := fun hmem => h (by simp [hmem])
      rw [verb_behind_blanks f' b rest hrest, behindMark?_append_cons]
      split_ifs
      · rfl
      · rfl
  · rw [behindMark?_of_not hpre]
    exact firstWith_literal_of_not f hpre

theorem match_here (f : Bool) (c : Char) (rest : List Char) (h : '\n' ∉ c :: rest) :
    pattern.firstWith matched ⟨f, c :: rest, []⟩ =
      ((if f then behindMark? (c :: rest) else none).or
        (if isBlank c then behindMark? rest else none)).map verbGroups := by
  have hrest : '\n' ∉ rest := fun hmem => h (List.mem_cons_of_mem c hmem)
  rw [firstWith_pattern, firstWith_either, firstWith_start, firstWith_one_cons, Option.map_or,
    onMark_eq f h, onMark_eq false hrest]
  cases f <;> cases isBlank c <;> rfl

/-- The search stops at the marker at which the reader stops. -/
theorem searchFrom?_pattern (f : Bool) (h : '\n' ∉ text) :
    pattern.searchFrom? f text = (afterMark? f text).map verbGroups := by
  induction text generalizing f with
  | nil =>
    rw [searchFrom?_nil, firstWith_pattern, firstWith_either, firstWith_start, firstWith_one_nil,
      onMark_eq f h]
    cases f <;> rfl
  | cons c rest ih =>
    have hrest : '\n' ∉ rest := fun hmem => h (List.mem_cons_of_mem c hmem)
    have hnext : afterMark? f (c :: rest) =
        (if f then behindMark? (c :: rest) else none).or (afterMark? (isBlank c) rest) := by
      rw [afterMark?]
      cases (if f then behindMark? (c :: rest) else none) <;> rfl
    rw [searchFrom?_cons, match_here f c rest h, ih false hrest, hnext, afterMark?_eq (isBlank c),
      ← Option.map_or, Option.or_assoc]

theorem get?_tailGroups (index : Nat) (text : List Char) (groups : Groups) (h : index ≠ 3) :
    (tailGroups text groups).get? index = groups.get? index := by
  unfold tailGroups
  split_ifs
  · rfl
  · simp [Groups.get?, h.symm]

theorem get?_tailGroups_tail (text : List Char) (groups : Groups) (h : groups.get? 3 = none) :
    trimChars (((tailGroups text groups).get? 3).getD []) = trimChars text := by
  unfold tailGroups
  split_ifs with htext
  · rw [List.isEmpty_iff.mp htext, h]
    rfl
  · simp [Groups.get?, trimChars_trimChars]

theorem read_targetGroups (text verb : List Char) :
    let groups := targetGroups text [(1, verb)]
    groups.get? 1 = some verb ∧ groups.get? 2 = (takeTarget (trimStart text)).1 ∧
      trimChars ((groups.get? 3).getD []) = trimEnd (takeTarget (trimStart text)).2 := by
  have hplain : ∀ groups, tailGroups text [(1, verb)] = groups →
      groups.get? 1 = some verb ∧ groups.get? 2 = none ∧
        trimChars ((groups.get? 3).getD []) = trimChars text := by
    rintro groups rfl
    refine ⟨?_, ?_, get?_tailGroups_tail text _ rfl⟩
    · exact get?_tailGroups 1 text _ (by decide)
    · exact get?_tailGroups 2 text _ (by decide)
  cases htrim : trimStart text with
  | nil => simpa [targetGroups, takeTarget, trimChars, htrim] using hplain _ rfl
  | cons c rest =>
    by_cases hc : startsTarget c = true
    · have hink : isInk c = true := isInk_of_trimStart htrim
      simp only [targetGroups, takeTarget, htrim, hc, if_true, List.takeWhile_cons_of_pos hink,
        List.dropWhile_cons_of_pos hink]
      refine ⟨?_, ?_, get?_tailGroups_tail _ _ rfl⟩
      · exact get?_tailGroups 1 _ _ (by decide)
      · exact get?_tailGroups 2 _ _ (by decide)
    · simpa [targetGroups, takeTarget, trimChars, htrim, hc] using hplain _ rfl

theorem partsMatched?_eq_parts? {line : List Char} (h : '\n' ∉ line) :
    partsMatched? line = parts? line := by
  rw [partsMatched?, search?, searchFrom?_pattern true h, parts?_eq_map]
  cases afterMark? true line with
  | none => rfl
  | some text =>
    obtain ⟨hverb, htarget, htail⟩ :=
      read_targetGroups (text.dropWhile isInk) (text.takeWhile isInk)
    simp [verbGroups, partsBehind, hverb, htarget, htail]

end AgentCanvas.Inline
