import AgentCanvas.Proofs.Text.Joining

set_option autoImplicit false

namespace AgentCanvas.Text

variable {mark text front behind before after rest run : List Char} {c : Char}
  {isMember : Char → Bool}

/-- The text holds the mark behind `front`, and nowhere before that place. -/
structure FirstAt (mark text front behind : List Char) : Prop where
  cut : text = front ++ (mark ++ behind)
  first : ∀ before after, text = before ++ (mark ++ after) → front.length ≤ before.length

theorem firstAt_append_iff (mark rest : List Char) :
    FirstAt mark (mark ++ rest) front behind ↔ front = [] ∧ behind = rest := by
  constructor
  · rintro ⟨hcut, hfirst⟩
    obtain rfl : front = [] := List.eq_nil_of_length_eq_zero (Nat.le_zero.mp (hfirst [] rest rfl))
    exact ⟨rfl, (List.append_cancel_left hcut).symm⟩
  · rintro ⟨rfl, rfl⟩
    exact ⟨rfl, fun _ _ _ => Nat.zero_le _⟩

theorem firstAt_cons_iff (h : ¬ mark <+: c :: rest) :
    FirstAt mark (c :: rest) front behind ↔
      ∃ more, front = c :: more ∧ FirstAt mark rest more behind := by
  constructor
  · rintro ⟨hcut, hfirst⟩
    cases front with
    | nil => exact absurd ⟨behind, hcut.symm⟩ h
    | cons x more =>
      obtain ⟨rfl, rfl⟩ := List.cons.inj hcut
      refine ⟨more, rfl, rfl, fun before after hrest => ?_⟩
      have hlength := hfirst (c :: before) after (by rw [hrest, List.cons_append])
      simpa using hlength
  · rintro ⟨more, rfl, rfl, hfirst⟩
    refine ⟨rfl, fun before after htext => ?_⟩
    cases before with
    | nil => exact absurd ⟨after, htext.symm⟩ h
    | cons x before =>
      obtain ⟨rfl, hrest⟩ := List.cons.inj htext
      exact Nat.succ_le_succ (hfirst before after hrest)

theorem suffix_of_later (hcut : text = front ++ (mark ++ behind))
    (hlater : text = before ++ (mark ++ after)) (hle : front.length ≤ before.length) :
    after <:+ behind := by
  have hbehind : behind <:+ text := hcut ▸ List.suffix_append_of_suffix (List.suffix_append _ _)
  have hafter : after <:+ text := hlater ▸ List.suffix_append_of_suffix (List.suffix_append _ _)
  refine List.suffix_of_suffix_length_le hafter hbehind ?_
  have hlength := congrArg List.length (hcut.symm.trans hlater)
  simp only [List.length_append] at hlength
  omega

theorem splitAt?_eq_some_iff (hne : mark ≠ []) :
    splitAt? mark text = some (front, behind) ↔ FirstAt mark text front behind := by
  induction text generalizing front behind with
  | nil =>
    have hnone := splitAt?_eq_none_of_not_infix fun h => hne (List.infix_nil.mp h)
    rw [hnone]
    refine iff_of_false nofun fun h => hne ?_
    exact (List.append_eq_nil_iff.mp (List.append_eq_nil_iff.mp h.cut.symm).2).1
  | cons c rest ih =>
    by_cases hhere : mark <+: c :: rest
    · obtain ⟨more, hmore⟩ := hhere
      rw [← hmore, splitAt?_append_mark hne, firstAt_append_iff]
      simp [eq_comm]
    · rw [splitAt?_cons_of_not hhere, firstAt_cons_iff hhere]
      simp only [Option.map_eq_some_iff, Prod.exists, Prod.mk.injEq, ih]
      constructor
      · rintro ⟨more, _, hmore, rfl, rfl⟩
        exact ⟨more, rfl, hmore⟩
      · rintro ⟨more, rfl, hmore⟩
        exact ⟨more, behind, hmore, rfl, rfl⟩

theorem splitAt?_eq_none_iff (hne : mark ≠ []) : splitAt? mark text = none ↔ ¬ mark <:+: text := by
  refine ⟨fun hnone h => ?_, splitAt?_eq_none_of_not_infix⟩
  obtain ⟨front, behind, hsplit, -⟩ := splitAt?_of_infix hne h []
  rw [List.append_nil, hnone] at hsplit
  cases hsplit

theorem exists_firstAt_iff (hne : mark ≠ []) :
    (∃ front behind, FirstAt mark text front behind) ↔ mark <:+: text := by
  rw [← not_iff_not, ← splitAt?_eq_none_iff hne, Option.eq_none_iff_forall_ne_some]
  simp [← splitAt?_eq_some_iff hne]

theorem infix_cons_iff_of_not_mem (hne : mark ≠ []) (hc : c ∉ mark) :
    mark <:+: c :: rest ↔ mark <:+: rest := by
  have hjoint : mark <:+: [] ++ c :: rest ↔ mark <:+: [] ∨ mark <:+: rest :=
    infix_append_cons_iff hc
  rwa [List.infix_nil, or_iff_right hne] at hjoint

theorem infix_append_iff_of_not_mem (hne : mark ≠ []) (hrun : ∀ c ∈ run, c ∉ mark) :
    mark <:+: run ++ rest ↔ mark <:+: rest := by
  induction run with
  | nil => rfl
  | cons c run ih =>
    obtain ⟨hc, hrun⟩ := List.forall_mem_cons.mp hrun
    rw [List.cons_append, infix_cons_iff_of_not_mem hne hc, ih hrun]

theorem infix_dropWhile_iff (hne : mark ≠ []) (h : ∀ c, isMember c = true → c ∉ mark)
    (text : List Char) : mark <:+: text.dropWhile isMember ↔ mark <:+: text := by
  have hrun : ∀ c ∈ text.takeWhile isMember, c ∉ mark := fun c hc => h c (List.mem_takeWhile_imp hc)
  rw [← infix_append_iff_of_not_mem hne hrun, List.takeWhile_append_dropWhile]

/-- The characters are of the class, and the text behind them does not go on with another. -/
structure LongestRun (isMember : Char → Bool) (run behind : List Char) : Prop where
  all : ∀ c ∈ run, isMember c = true
  ends : ∀ c ∈ behind.head?, isMember c = false

theorem longestRun_takeWhile (isMember : Char → Bool) (text : List Char) :
    LongestRun isMember (text.takeWhile isMember) (text.dropWhile isMember) := by
  refine ⟨fun c hc => List.mem_takeWhile_imp hc, fun c hc => ?_⟩
  obtain ⟨rest, hrest⟩ := List.head?_eq_some_iff.mp hc
  have hhead := List.dropWhile_get_zero_not isMember text (by simp [hrest])
  simpa [hrest] using hhead

theorem LongestRun.dropWhile_eq (h : LongestRun isMember run behind) :
    (run ++ behind).dropWhile isMember = behind := by
  rw [List.dropWhile_append_of_pos h.all]
  cases behind with
  | nil => rfl
  | cons c rest => exact List.dropWhile_cons_of_neg (by simp [h.ends c rfl])

end AgentCanvas.Text
