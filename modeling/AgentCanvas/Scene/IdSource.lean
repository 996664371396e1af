import AgentCanvas.Element.Basic

set_option autoImplicit false

/-!
# Fresh ids

New ids are drawn from a sequence of candidates, and a candidate that is taken is passed over. A
source may repeat itself as often as a run needs it to.
-/
namespace AgentCanvas

/-- A sequence that has, from any place on, a candidate outside any finite set. This only makes the
    search for a fresh id total. No endless sequence of UUIDs of 36 characters has the property, for
    there are finitely many of them; but a run looks at the beginning of a sequence only, and every
    finite beginning is that of a source (`IdSource.exists_beginning`). -/
def LeavesEveryList (candidate : Nat → ElementId) : Prop :=
  ∀ (taken : List ElementId) (place : Nat), ∃ n, place ≤ n ∧ candidate n ∉ taken

/-- Candidates for ids, and how many of them were drawn. What `leaves` says of the candidates behind
    those a run draws makes no difference to the run. -/
structure IdSource where
  candidate : Nat → ElementId
  drawn : Nat
  leaves : LeavesEveryList candidate

/-- The place of the first candidate that is not taken, from `place` on. The search began at
    `origin` and passed only candidates that are taken. -/
def searchFree (candidate : Nat → ElementId) (taken : List ElementId) (origin : Nat)
    (someFree : ∃ n, origin ≤ n ∧ candidate n ∉ taken) (place : Nat)
    (passed : ∀ n, origin ≤ n → n < place → candidate n ∈ taken) : Nat :=
  if free : candidate place ∈ taken then
    searchFree candidate taken origin someFree (place + 1) fun n above below =>
      if same : n = place then same ▸ free else passed n above (by omega)
  else place
termination_by Classical.choose someFree - place
decreasing_by
  have ⟨above, notTaken⟩ := Classical.choose_spec someFree
  have notBefore : ¬ Classical.choose someFree < place := fun below =>
    notTaken (passed _ above below)
  have notHere : Classical.choose someFree ≠ place := fun same => notTaken (same ▸ free)
  omega

theorem searchFree_free (candidate : Nat → ElementId) (taken : List ElementId) (origin : Nat)
    (someFree : ∃ n, origin ≤ n ∧ candidate n ∉ taken) (place : Nat)
    (passed : ∀ n, origin ≤ n → n < place → candidate n ∈ taken) :
    candidate (searchFree candidate taken origin someFree place passed) ∉ taken := by
  fun_induction searchFree candidate taken origin someFree place passed with
  | case1 place passed held ih => exact ih
  | case2 place passed free => exact free

def firstFree (candidate : Nat → ElementId) (taken : List ElementId) (place : Nat)
    (someFree : ∃ n, place ≤ n ∧ candidate n ∉ taken) : Nat :=
  searchFree candidate taken place someFree place fun _ above below =>
    absurd above (Nat.not_le_of_lt below)

namespace IdSource

/-- The first candidate that is not taken, and the source behind it. -/
def draw (source : IdSource) (taken : List ElementId) : ElementId × IdSource :=
  let place := firstFree source.candidate taken source.drawn (source.leaves taken source.drawn)
  (source.candidate place, { source with drawn := place + 1 })

theorem draw_free (source : IdSource) (taken : List ElementId) : (source.draw taken).1 ∉ taken :=
  searchFree_free source.candidate taken source.drawn _ _ _

def take (source : IdSource) (count : Nat) : List ElementId :=
  (List.range count).map fun place => source.candidate (source.drawn + place)

end IdSource
end AgentCanvas
