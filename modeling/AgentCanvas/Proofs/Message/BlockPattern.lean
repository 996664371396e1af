import AgentCanvas.Message.Grammar
import AgentCanvas.Proofs.Text.Cuts
import AgentCanvas.Proofs.Text.Matching

set_option autoImplicit false

/-!
# The pattern of a fenced block

The parts of the header leave nothing to the parts behind them that would help: no part takes a back
tick, so that a fence stands behind the header if and only if it stands behind any piece of it. So
each part takes what it can, and the lazy inside ends at the first fence.
-/
namespace AgentCanvas.Block

open Text Text.Pattern

variable {text front : List Char} {place : Progress} {c : Char}

def isGap (c : Char) : Bool :=
  c == ' ' || c == '\t'

def onClose : Progress → Option Progress :=
  (literal fence).firstWith some

def onInside : Progress → Option Progress :=
  (group 1 (many false fun _ => true)).firstWith onClose

def onFeed : Progress → Option Progress :=
  (optional (one fun c => c == '\n')).firstWith onInside

def onReturn : Progress → Option Progress :=
  (optional (one fun c => c == '\r')).firstWith onFeed

def onGap : Progress → Option Progress :=
  (many true isGap).firstWith onReturn

def onTag : Progress → Option Progress :=
  (many true isTag).firstWith onGap

theorem firstWith_pattern : pattern.firstWith some = (literal fence).firstWith onTag := by
  simp only [pattern, firstWith_sequence_cons, firstWith_sequence_nil, onTag, onGap, onReturn,
    onFeed, onInside, onClose]
  rfl

theorem firstWith_fence {β : Type} {next : Progress → Option β} {groups : Groups} (f : Bool)
    (rest : List Char) : (literal fence).firstWith next ⟨f, fence ++ rest, groups⟩ =
      next ⟨false, rest, groups⟩ := by
  simp [literal, fence]

def closed (text : List Char) : Option Progress :=
  (splitAt? fence text).map fun (inside, behind) => ⟨false, behind, [(1, inside)]⟩

theorem closed_eq_none_iff : closed text = none ↔ ¬ fence <:+: text := by
  rw [closed, Option.map_eq_none_iff, splitAt?_eq_none_iff (by decide)]

/-- The lazy inside ends at the next fence, however far it has come. -/
theorem inside_from (f f' : Bool) (taken : List Char) :
    (many false fun _ => true).firstWith
        (fun after => onClose (Progress.close 1 ⟨f, taken ++ text, []⟩ after)) ⟨f', text, []⟩ =
      (splitAt? fence text).map fun (inside, behind) =>
        ⟨false, behind, [(1, taken ++ inside)]⟩ := by
  induction text generalizing taken f' with
  | nil =>
    rw [firstWith_many_nil, close_of_append rfl]
    rfl
  | cons c rest ih =>
    rw [firstWith_lazy_cons, close_of_append rfl]
    by_cases hfence : fence <+: c :: rest
    · obtain ⟨behind, hbehind⟩ := hfence
      rw [← hbehind, splitAt?_append_mark (by decide), onClose, firstWith_fence]
      simp
    · have hnone : onClose ⟨f', c :: rest, [(1, taken)]⟩ = none :=
        firstWith_literal_of_not f' hfence
      rw [hnone, Option.none_or, if_pos rfl, splitAt?_cons_of_not hfence, List.append_cons, ih]
      cases splitAt? fence rest <;> simp

theorem onInside_eq (f : Bool) (text : List Char) : onInside ⟨f, text, []⟩ = closed text := by
  rw [onInside, firstWith_group]
  exact inside_from f f []

theorem dropOne_cases (c : Char) (text : List Char) :
    (text = c :: dropOne c text) ∨ (text.head? ≠ some c ∧ dropOne c text = text) := by
  unfold dropOne
  split_ifs with h
  · obtain ⟨rest, rfl⟩ := List.head?_eq_some_iff.mp h
    exact .inl rfl
  · exact .inr ⟨h, rfl⟩

theorem infix_dropOne_iff (hc : c ∉ fence) (text : List Char) :
    fence <:+: dropOne c text ↔ fence <:+: text := by
  obtain htext | ⟨-, hsame⟩ := dropOne_cases c text
  · conv_rhs => rw [htext]
    exact (infix_cons_iff_of_not_mem (by decide) hc).symm
  · rw [hsame]

/-- No part of the header helps to close the block, since none takes a back tick. -/
theorem closed_cons {part : List Char → List Char}
    (hpart : ∀ text, fence <:+: part text ↔ fence <:+: text) (hc : c ∉ fence) (rest : List Char)
    (h : closed (part rest) = none) : closed (part (c :: rest)) = none := by
  rw [closed_eq_none_iff, hpart] at h ⊢
  rwa [infix_cons_iff_of_not_mem (by decide) hc]

theorem optional_eq {next : Progress → Option Progress} {found : List Char → Option Progress}
    (hnext : ∀ f rest, next ⟨f, rest, []⟩ = found rest)
    (hkept : ∀ rest, found rest = none → found (c :: rest) = none) (f : Bool) (text : List Char) :
    (optional (one fun x => x == c)).firstWith next ⟨f, text, []⟩ = found (dropOne c text) := by
  rw [firstWith_optional, hnext, dropOne]
  cases text with
  | nil => simp
  | cons x rest =>
    by_cases hx : x = c
    · subst hx
      have hone : (one fun y => y == x).firstWith next ⟨f, x :: rest, []⟩ = found rest := by
        simp [hnext]
      rw [hone, List.head?_cons, if_pos rfl, List.drop_one, List.tail_cons]
      cases hrest : found rest with
      | some place => rfl
      | none => rw [Option.none_or, hkept rest hrest]
    · simp [hx]

theorem onFeed_eq (f : Bool) (text : List Char) :
    onFeed ⟨f, text, []⟩ = closed (dropOne '\n' text) :=
  optional_eq onInside_eq (closed_cons (fun _ => Iff.rfl) (by decide)) f text

theorem infix_behind_feed (text : List Char) :
    fence <:+: dropOne '\n' text ↔ fence <:+: text :=
  infix_dropOne_iff (by decide) text

theorem onReturn_eq (f : Bool) (text : List Char) :
    onReturn ⟨f, text, []⟩ = closed (dropOne '\n' (dropOne '\r' text)) :=
  optional_eq onFeed_eq (closed_cons infix_behind_feed (by decide)) f text

theorem infix_behind_return (text : List Char) :
    fence <:+: dropOne '\n' (dropOne '\r' text) ↔ fence <:+: text := by
  rw [infix_behind_feed, infix_dropOne_iff (by decide)]

theorem not_mem_fence_iff : c ∉ fence ↔ c ≠ '\x60' := by
  simp [fence]

theorem not_mem_fence_of_gap (h : isGap c = true) : c ∉ fence := by
  refine not_mem_fence_iff.mpr fun hc => ?_
  rw [hc] at h
  exact absurd h (by decide)

theorem not_mem_fence_of_tag (h : isTag c = true) : c ∉ fence := by
  refine not_mem_fence_iff.mpr fun hc => ?_
  rw [hc] at h
  exact absurd h (by decide +kernel)

theorem onGap_eq (f : Bool) (text : List Char) :
    onGap ⟨f, text, []⟩ = closed (dropOne '\n' (dropOne '\r' (text.dropWhile isGap))) :=
  firstWith_greedy_eq onReturn_eq
    (fun _ rest hc => closed_cons infix_behind_return (not_mem_fence_of_gap hc) rest) f text

theorem infix_behind_gap (text : List Char) :
    fence <:+: dropOne '\n' (dropOne '\r' (text.dropWhile isGap)) ↔ fence <:+: text := by
  rw [infix_behind_return, infix_dropWhile_iff (by decide) fun _ => not_mem_fence_of_gap]

theorem onTag_eq (f : Bool) (text : List Char) :
    onTag ⟨f, text, []⟩ = closed (skipHeader text) :=
  firstWith_greedy_eq onGap_eq
    (fun _ rest hc => closed_cons infix_behind_gap (not_mem_fence_of_tag hc) rest) f text

theorem infix_skipHeader_iff (text : List Char) :
    fence <:+: skipHeader text ↔ fence <:+: text :=
  (infix_behind_gap (text.dropWhile isTag)).trans
    (infix_dropWhile_iff (by decide) (fun _ => not_mem_fence_of_tag) text)

theorem head?_ways_fence (f : Bool) (opened : List Char) :
    (pattern.ways ⟨f, fence ++ opened, []⟩).head? = closed (skipHeader opened) := by
  rw [← firstWith_eq_head?, firstWith_pattern, firstWith_fence, onTag_eq]

theorem ways_fence_ne_nil_iff (f : Bool) (opened : List Char) :
    pattern.ways ⟨f, fence ++ opened, []⟩ ≠ [] ↔ fence <:+: opened := by
  rw [← infix_skipHeader_iff, ← not_iff_not, not_not, ← closed_eq_none_iff, ← head?_ways_fence f,
    List.head?_eq_none_iff]

theorem fence_prefix_of_ways {f : Bool} (h : pattern.ways ⟨f, text, []⟩ ≠ []) :
    fence <+: text := by
  by_contra hfence
  have hnone : (pattern.ways ⟨f, text, []⟩).head? = none := by
    rw [← firstWith_eq_head?, firstWith_pattern]
    exact firstWith_literal_of_not f hfence
  exact h (List.head?_eq_none_iff.mp hnone)

/-- The first match begins at the first fence: if a later fence opens a block, it is closed behind
    the first one, too. -/
theorem firstMatch_iff {f : Bool} : pattern.FirstMatch f text front place ↔
    ∃ opened, FirstAt fence text front opened ∧ closed (skipHeader opened) = some place := by
  constructor
  · rintro ⟨⟨rest, hcut, hplace⟩, hfirst⟩
    have hways : pattern.ways ⟨f && front.isEmpty, rest, []⟩ ≠ [] := by
      intro hnil
      rw [hnil] at hplace
      cases hplace
    obtain ⟨opened, rfl⟩ := fence_prefix_of_ways hways
    rw [head?_ways_fence] at hplace
    refine ⟨opened, ⟨hcut, fun before after hbefore => ?_⟩, hplace⟩
    by_contra hlater
    have hsuffix := suffix_of_later hbefore hcut (Nat.le_of_not_le hlater)
    have hbehind : fence <:+: after :=
      ((ways_fence_ne_nil_iff _ _).mp hways).trans hsuffix.isInfix
    exact hlater (hfirst before _ hbefore ((ways_fence_ne_nil_iff _ _).mpr hbehind))
  · rintro ⟨opened, ⟨hcut, hfirst⟩, hclosed⟩
    refine ⟨⟨fence ++ opened, hcut, (head?_ways_fence _ opened).trans hclosed⟩, ?_⟩
    intro before rest hbefore hways
    obtain ⟨after, rfl⟩ := fence_prefix_of_ways hways
    exact hfirst before after hbefore

end AgentCanvas.Block
