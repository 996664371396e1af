import AgentCanvas.Scene.IdSource
import AgentCanvas.Text.Basic

set_option autoImplicit false

namespace AgentCanvas

namespace Uuid

def freeBits : Nat := 122

/-- The UUID of version 4 whose free bits are those of a number. -/
def layout (n : Nat) : List Char :=
  Text.hexPadded 8 (n >>> 90) ++ ['-'] ++ Text.hexPadded 4 (n >>> 74) ++ ['-', '4'] ++
    Text.hexPadded 3 (n >>> 62) ++ ['-', Text.hexDigit (8 + (n >>> 60) % 4)] ++
    Text.hexPadded 3 (n >>> 48) ++ ['-'] ++ Text.hexPadded 12 n

/-- An odd number, so that its multiples run through all bit patterns before one repeats. -/
def stride : Nat := 0x2545F4914F6CDD1D9E3779B97F4A7C1

def total : Nat := 1 <<< freeBits

def candidate (seed n : Nat) : ElementId :=
  ⟨String.ofList (layout (((seed + n) * stride) % total) ++ List.replicate (n / total) '0')⟩

theorem total_pos : 0 < total := by decide

theorem candidate_length (seed n : Nat) : n / total ≤ (candidate seed n).text.length := by
  simp [candidate, String.length_ofList]

def longest : List ElementId → Nat
  | [] => 0
  | id :: rest => max id.text.length (longest rest)

theorem length_le_longest (taken : List ElementId) (id : ElementId) (member : id ∈ taken) :
    id.text.length ≤ longest taken := by
  induction taken with
  | nil => cases member
  | cons first rest ih =>
    cases member with
    | head => exact Nat.le_max_left ..
    | tail _ later => exact Nat.le_trans (ih later) (Nat.le_max_right ..)

/-- Candidates grow beyond the length of any given ids. -/
theorem candidate_leaves (seed : Nat) : LeavesEveryList (candidate seed) := by
  intro taken place
  refine ⟨place + (longest taken + 1) * total, Nat.le_add_right .., fun member => ?_⟩
  have short := length_le_longest taken _ member
  have long := candidate_length seed (place + (longest taken + 1) * total)
  have grown : longest taken + 1 ≤ (place + (longest taken + 1) * total) / total :=
    (Nat.le_div_iff_mul_le total_pos).mpr (Nat.le_add_left ..)
  omega

end Uuid

def IdSource.uuids (seed : Nat) : IdSource where
  candidate := Uuid.candidate seed
  drawn := 0
  leaves := Uuid.candidate_leaves seed

end AgentCanvas
