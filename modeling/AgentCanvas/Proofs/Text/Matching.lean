import AgentCanvas.Text.Pattern
import Mathlib.Data.List.TakeWhile
import Mathlib.Tactic.SplitIfs

set_option autoImplicit false

/-!
# The first way that can be continued

A match is the first of all ways of a pattern. For a sequence that is the first way of its first
part that the rest can continue, so a match is followed from left to right: `firstWith` takes what
comes after a pattern as a function and tries the ways of the pattern in their order. The laws below
say what that is for each form of pattern.
-/
namespace AgentCanvas.Text.Pattern

variable {β : Type} {next : Progress → Option β} {isMember : Char → Bool}

/-- What the first way of a pattern leads to from which `next` can go on. -/
def firstWith (pattern : Pattern) (next : Progress → Option β) (place : Progress) : Option β :=
  (pattern.ways place).findSome? next

theorem findSome?_flatMap {α γ : Type} (f : α → List γ) (g : γ → Option β) (xs : List α) :
    (xs.flatMap f).findSome? g = xs.findSome? fun x => (f x).findSome? g := by
  induction xs with
  | nil => rfl
  | cons x xs ih =>
    rw [List.flatMap_cons, List.findSome?_append, ih, List.findSome?_cons]
    cases (f x).findSome? g <;> rfl

@[simp] theorem firstWith_start (next : Progress → Option β) (place : Progress) :
    start.firstWith next place = if place.atStart then next place else none := by
  unfold firstWith ways
  split_ifs <;> simp

@[simp] theorem firstWith_stop (next : Progress → Option β) (place : Progress) :
    stop.firstWith next place = if place.rest.isEmpty then next place else none := by
  unfold firstWith ways
  split_ifs <;> simp

@[simp] theorem firstWith_nothing (next : Progress → Option β) : nothing.firstWith next = next := by
  funext place
  simp [firstWith, ways]

@[simp] theorem firstWith_one_nil (f : Bool) (groups : Groups) :
    (one isMember).firstWith next ⟨f, [], groups⟩ = none := rfl

@[simp] theorem firstWith_one_cons (f : Bool) (c : Char) (rest : List Char) (groups : Groups) :
    (one isMember).firstWith next ⟨f, c :: rest, groups⟩ =
      if isMember c then next ⟨false, rest, groups⟩ else none := by
  simp only [firstWith, ways]
  split_ifs <;> simp

@[simp] theorem firstWith_seq (first second : Pattern) (next : Progress → Option β) :
    (seq first second).firstWith next = first.firstWith (second.firstWith next) :=
  funext fun place => findSome?_flatMap second.ways next (first.ways place)

@[simp] theorem firstWith_either (first second : Pattern) (next : Progress → Option β)
    (place : Progress) :
    (either first second).firstWith next place =
      (first.firstWith next place).or (second.firstWith next place) :=
  List.findSome?_append

@[simp] theorem firstWith_optional (part : Pattern) (next : Progress → Option β)
    (place : Progress) :
    (optional part).firstWith next place = (part.firstWith next place).or (next place) := by
  simp [optional]

@[simp] theorem firstWith_group (index : Nat) (part : Pattern) (next : Progress → Option β)
    (place : Progress) :
    (group index part).firstWith next place =
      part.firstWith (fun after => next (place.close index after)) place :=
  List.findSome?_map

@[simp] theorem firstWith_sequence_nil (next : Progress → Option β) :
    (sequence []).firstWith next = next :=
  firstWith_nothing next

@[simp] theorem firstWith_sequence_cons (part : Pattern) (parts : List Pattern)
    (next : Progress → Option β) :
    (sequence (part :: parts)).firstWith next =
      part.firstWith ((sequence parts).firstWith next) :=
  firstWith_seq part (sequence parts) next

theorem close_of_append {index : Nat} {before after : Progress} {taken : List Char}
    (h : before.rest = taken ++ after.rest) :
    before.close index after = ⟨after.atStart, after.rest, (index, taken) :: after.groups⟩ := by
  simp [Progress.close, h]

/-! ## Repeated characters -/

theorem firstWith_greedy_cons (f : Bool) (c : Char) (rest : List Char) (groups : Groups) :
    (many true isMember).firstWith next ⟨f, c :: rest, groups⟩ =
      if isMember c then
        ((many true isMember).firstWith next ⟨false, rest, groups⟩).or (next ⟨f, c :: rest, groups⟩)
      else next ⟨f, c :: rest, groups⟩ := by
  simp only [firstWith, ways, stops, if_true, List.reverse_cons, List.findSome?_append]
  split_ifs
  · simp
  · simp

theorem firstWith_lazy_cons (f : Bool) (c : Char) (rest : List Char) (groups : Groups) :
    (many false isMember).firstWith next ⟨f, c :: rest, groups⟩ =
      (next ⟨f, c :: rest, groups⟩).or
        (if isMember c then (many false isMember).firstWith next ⟨false, rest, groups⟩ else none) := by
  simp only [firstWith, ways, stops, Bool.false_eq_true, if_false, List.findSome?_cons]
  split_ifs <;> cases next ⟨f, c :: rest, groups⟩ <;> simp

@[simp] theorem firstWith_many_nil (greedy f : Bool) (groups : Groups) :
    (many greedy isMember).firstWith next ⟨f, [], groups⟩ = next ⟨f, [], groups⟩ := by
  cases greedy <;> simp [firstWith, ways, stops]

/-- If the rest can go on behind all characters of a class, they are all taken. -/
theorem firstWith_greedy_of_some {groups : Groups} {result : β} {text : List Char} (f : Bool)
    (h : ∀ f', next ⟨f', text.dropWhile isMember, groups⟩ = .some result) :
    (many true isMember).firstWith next ⟨f, text, groups⟩ = .some result := by
  induction text generalizing f with
  | nil => simpa using h f
  | cons c rest ih =>
    rw [firstWith_greedy_cons]
    by_cases hc : isMember c = true
    · have hrest : ∀ f', next ⟨f', rest.dropWhile isMember, groups⟩ = .some result := by
        simpa [hc] using h
      simp [hc, ih false hrest]
    · simpa [hc] using h f

theorem firstWith_greedy_of_none {groups : Groups} {text : List Char} (f : Bool)
    (h : ∀ f' taken rest, text = taken ++ rest → (∀ c ∈ taken, isMember c = true) →
      next ⟨f', rest, groups⟩ = none) :
    (many true isMember).firstWith next ⟨f, text, groups⟩ = none := by
  induction text generalizing f with
  | nil => simpa using h f [] [] rfl (by simp)
  | cons c rest ih =>
    rw [firstWith_greedy_cons]
    have hhere : next ⟨f, c :: rest, groups⟩ = none := h f [] (c :: rest) rfl (by simp)
    by_cases hc : isMember c = true
    · have hrest := ih false fun f' taken tail htail hall =>
        h f' (c :: taken) tail (by rw [htail, List.cons_append])
          (List.forall_mem_cons.mpr ⟨hc, hall⟩)
      simp [hc, hrest, hhere]
    · simp [hc, hhere]

/-- Characters of a class are all taken, if taking them spoils nothing: what the rest of the pattern
    finds in front of such a character it finds behind it, too. -/
theorem firstWith_greedy_eq {groups : Groups} {found : List Char → Option β}
    (hnext : ∀ f rest, next ⟨f, rest, groups⟩ = found rest)
    (hkept : ∀ c rest, isMember c = true → found rest = none → found (c :: rest) = none)
    (f : Bool) (text : List Char) :
    (many true isMember).firstWith next ⟨f, text, groups⟩ = found (text.dropWhile isMember) := by
  have hrun : ∀ run rest, (∀ c ∈ run, isMember c = true) → found rest = none →
      found (run ++ rest) = none := by
    intro run rest hall hnone
    induction run with
    | nil => exact hnone
    | cons c run ih =>
      obtain ⟨hc, hall⟩ := List.forall_mem_cons.mp hall
      exact hkept c (run ++ rest) hc (ih hall)
  cases hend : found (text.dropWhile isMember) with
  | some result => exact firstWith_greedy_of_some f fun f' => (hnext f' _).trans hend
  | none =>
    refine firstWith_greedy_of_none f fun f' taken rest htext hall => ?_
    rw [htext, List.dropWhile_append_of_pos hall] at hend
    rw [hnext, ← @List.takeWhile_append_dropWhile _ isMember rest]
    exact hrun _ _ (fun c hc => List.mem_takeWhile_imp hc) hend

theorem firstWith_some_of_some {groups : Groups} {result : β} {c : Char} {rest : List Char}
    (f : Bool) (hc : isMember c = true)
    (h : ∀ f', next ⟨f', rest.dropWhile isMember, groups⟩ = .some result) :
    (Pattern.some isMember).firstWith next ⟨f, c :: rest, groups⟩ = .some result := by
  simp [Pattern.some, hc, firstWith_greedy_of_some false h]

theorem firstWith_some_of_none {groups : Groups} {text : List Char} (f : Bool)
    (h : ∀ f' c taken rest, text = c :: taken ++ rest → (∀ x ∈ c :: taken, isMember x = true) →
      next ⟨f', rest, groups⟩ = none) :
    (Pattern.some isMember).firstWith next ⟨f, text, groups⟩ = none := by
  cases text with
  | nil => simp [Pattern.some]
  | cons c text =>
    by_cases hc : isMember c = true
    · have hrest : (many true isMember).firstWith next ⟨false, text, groups⟩ = none :=
        firstWith_greedy_of_none false fun f' taken rest htext hall =>
          h f' c taken rest (by rw [htext, List.cons_append])
            (List.forall_mem_cons.mpr ⟨hc, hall⟩)
      simp [Pattern.some, hc, hrest]
    · simp [Pattern.some, hc]

theorem firstWith_group_some {index : Nat} {groups : Groups} {result : β} {c : Char}
    {rest : List Char} (f : Bool) (hc : isMember c = true)
    (h : ∀ f', next ⟨f', (c :: rest).dropWhile isMember,
      (index, (c :: rest).takeWhile isMember) :: groups⟩ = .some result) :
    (group index (Pattern.some isMember)).firstWith next ⟨f, c :: rest, groups⟩ = .some result := by
  rw [firstWith_group]
  apply firstWith_some_of_some f hc
  intro f'
  have hrun : c :: rest = (c :: rest).takeWhile isMember ++ rest.dropWhile isMember := by
    simp [hc, List.takeWhile_append_dropWhile]
  rw [close_of_append hrun]
  simpa [hc] using h f'

/-! ## Given characters -/

theorem firstWith_literal_append {chars rest : List Char} {groups : Groups} {result : Option β}
    (f : Bool) (h : ∀ f', next ⟨f', rest, groups⟩ = result) :
    (literal chars).firstWith next ⟨f, chars ++ rest, groups⟩ = result := by
  induction chars generalizing f with
  | nil => simpa [literal] using h f
  | cons c chars ih =>
    simp only [literal, List.map_cons, firstWith_sequence_cons, List.cons_append,
      firstWith_one_cons, beq_self_eq_true, if_true]
    exact ih false

theorem firstWith_literal_of_not {chars text : List Char} {groups : Groups} (f : Bool)
    (h : ¬ chars <+: text) : (literal chars).firstWith next ⟨f, text, groups⟩ = none := by
  induction chars generalizing f text with
  | nil => exact absurd List.nil_prefix h
  | cons c chars ih =>
    simp only [literal, List.map_cons, firstWith_sequence_cons]
    cases text with
    | nil => simp
    | cons x text =>
      by_cases hx : x = c
      · have hrest : ¬ chars <+: text := fun hpre => h (hx ▸ List.cons_prefix_cons.mpr ⟨rfl, hpre⟩)
        simp only [firstWith_one_cons, hx, beq_self_eq_true, if_true]
        exact ih false hrest
      · simp [hx]

/-! ## The search -/

def matched (place : Progress) : Option Groups := .some place.groups

theorem searchFrom?_nil (pattern : Pattern) (f : Bool) :
    pattern.searchFrom? f [] = pattern.firstWith matched ⟨f, [], []⟩ := by
  unfold searchFrom? firstWith
  cases pattern.ways ⟨f, [], []⟩ <;> simp [matched, List.findSome?_cons]

theorem searchFrom?_cons (pattern : Pattern) (f : Bool) (c : Char) (rest : List Char) :
    pattern.searchFrom? f (c :: rest) =
      (pattern.firstWith matched ⟨f, c :: rest, []⟩).or (pattern.searchFrom? false rest) := by
  rw [searchFrom?]
  unfold firstWith
  cases pattern.ways ⟨f, c :: rest, []⟩ <;> simp [matched, List.findSome?_cons]

/-- The pattern fits first behind `front`, and its first way from there leads to a place. The flag
    tells whether the text stands at the start. -/
structure FirstMatch (pattern : Pattern) (f : Bool) (text front : List Char) (place : Progress) :
    Prop where
  here : ∃ rest, text = front ++ rest ∧
    (pattern.ways ⟨f && front.isEmpty, rest, []⟩).head? = .some place
  first : ∀ before rest, text = before ++ rest →
    pattern.ways ⟨f && before.isEmpty, rest, []⟩ ≠ [] → front.length ≤ before.length

variable {pattern : Pattern} {f : Bool} {text front rest : List Char} {c : Char}
  {place found : Progress}

theorem firstWith_eq_head? (pattern : Pattern) (place : Progress) :
    pattern.firstWith .some place = (pattern.ways place).head? := by
  unfold firstWith
  cases pattern.ways place with
  | nil => rfl
  | cons way ways => rfl

theorem firstMatch_here_iff (h : (pattern.ways ⟨f, text, []⟩).head? = .some found) :
    pattern.FirstMatch f text front place ↔ front = [] ∧ place = found := by
  have hways : pattern.ways ⟨f && ([] : List Char).isEmpty, text, []⟩ ≠ [] := by
    intro hnil
    simp only [List.isEmpty_nil, Bool.and_true] at hnil
    simp [hnil] at h
  constructor
  · rintro ⟨⟨rest, rfl, hplace⟩, hfirst⟩
    obtain rfl : front = [] :=
      List.eq_nil_of_length_eq_zero (Nat.le_zero.mp (hfirst [] _ rfl hways))
    simp only [List.isEmpty_nil, Bool.and_true, List.nil_append] at hplace h
    exact ⟨rfl, Option.some.inj (hplace.symm.trans h)⟩
  · rintro ⟨rfl, rfl⟩
    refine ⟨⟨text, rfl, ?_⟩, fun _ _ _ _ => Nat.zero_le _⟩
    simpa using h

theorem firstMatch_cons_iff (h : pattern.ways ⟨f, c :: rest, []⟩ = []) :
    pattern.FirstMatch f (c :: rest) front place ↔
      ∃ more, front = c :: more ∧ pattern.FirstMatch false rest more place := by
  constructor
  · rintro ⟨⟨tail, hcut, hplace⟩, hfirst⟩
    cases front with
    | nil =>
      obtain rfl : c :: rest = tail := hcut
      simp [h] at hplace
    | cons x more =>
      obtain ⟨rfl, rfl⟩ := List.cons.inj hcut
      refine ⟨more, rfl, ⟨tail, rfl, by simpa using hplace⟩, fun before after hrest hways => ?_⟩
      have hlength := hfirst (c :: before) after (by rw [hrest, List.cons_append])
        (by simpa using hways)
      simpa using hlength
  · rintro ⟨more, rfl, ⟨tail, rfl, hplace⟩, hfirst⟩
    refine ⟨⟨tail, rfl, by simpa using hplace⟩, fun before after htext hways => ?_⟩
    cases before with
    | nil =>
      obtain rfl : c :: (more ++ tail) = after := htext
      simp [h] at hways
    | cons x before =>
      obtain ⟨rfl, hrest⟩ := List.cons.inj htext
      exact Nat.succ_le_succ (hfirst before after hrest (by simpa using hways))

theorem searchFrom?_here (h : (pattern.ways ⟨f, text, []⟩).head? = .some found) :
    pattern.searchFrom? f text = .some found.groups := by
  obtain ⟨others, hways⟩ := List.head?_eq_some_iff.mp h
  cases text with
  | nil => simp [searchFrom?, hways]
  | cons c rest => simp [searchFrom?, hways]

theorem searchFrom?_eq_some_iff {groups : Groups} :
    pattern.searchFrom? f text = .some groups ↔
      ∃ front place, pattern.FirstMatch f text front place ∧ place.groups = groups := by
  induction text generalizing f with
  | nil =>
    cases hways : (pattern.ways ⟨f, [], []⟩).head? with
    | some found => simp [searchFrom?_here hways, firstMatch_here_iff hways, and_assoc]
    | none =>
      refine iff_of_false (by simp [searchFrom?, hways]) ?_
      rintro ⟨front, place, ⟨⟨rest, hcut, hplace⟩, -⟩, -⟩
      obtain ⟨rfl, rfl⟩ := List.append_eq_nil_iff.mp hcut.symm
      simp [hways] at hplace
  | cons c rest ih =>
    cases hways : pattern.ways ⟨f, c :: rest, []⟩ with
    | nil =>
      rw [searchFrom?, hways]
      simp only [ih, firstMatch_cons_iff hways]
      constructor
      · rintro ⟨more, place, hmatch, hgroups⟩
        exact ⟨c :: more, place, ⟨more, rfl, hmatch⟩, hgroups⟩
      · rintro ⟨_, place, ⟨more, -, hmatch⟩, hgroups⟩
        exact ⟨more, place, hmatch, hgroups⟩
    | cons found others =>
      have hhead : (pattern.ways ⟨f, c :: rest, []⟩).head? = .some found := by rw [hways]; rfl
      simp [searchFrom?_here hhead, firstMatch_here_iff hhead, and_assoc]

end AgentCanvas.Text.Pattern
