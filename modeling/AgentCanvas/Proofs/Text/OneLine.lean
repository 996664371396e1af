import AgentCanvas.Proofs.Number.Characters
import AgentCanvas.Text.Basic
import AgentCanvas.Text.Printable
import Mathlib.Data.List.Basic

set_option autoImplicit false

namespace AgentCanvas

def OneLine (text : String) : Prop :=
  '\n' ∉ text.toList

instance (text : String) : Decidable (OneLine text) :=
  inferInstanceAs (Decidable ('\n' ∉ text.toList))

namespace OneLine

theorem append_iff {s t : String} : OneLine (s ++ t) ↔ OneLine s ∧ OneLine t := by
  rw [OneLine, String.toList_append, List.mem_append, not_or]
  rfl

theorem append {s t : String} (hs : OneLine s) (ht : OneLine t) : OneLine (s ++ t) :=
  append_iff.mpr ⟨hs, ht⟩

theorem of_numeric {text : String} (h : Numeric text) : OneLine text := by
  intro hmem
  have hfalse := h '\n' hmem
  contradiction

theorem toString_nat (n : Nat) : OneLine (toString n) :=
  of_numeric (Numeric.toString_nat n)

theorem toString_int (n : Int) : OneLine (toString n) :=
  of_numeric (Numeric.toString_int n)

end OneLine

/-- A text without line feeds and carriage returns. -/
def Unbroken (text : String) : Prop :=
  '\n' ∉ text.toList ∧ '\r' ∉ text.toList

instance (text : String) : Decidable (Unbroken text) :=
  inferInstanceAs (Decidable ('\n' ∉ text.toList ∧ '\r' ∉ text.toList))

namespace Unbroken

theorem append_iff {s t : String} : Unbroken (s ++ t) ↔ Unbroken s ∧ Unbroken t := by
  rw [Unbroken, String.toList_append, List.mem_append, List.mem_append, not_or, not_or,
    and_and_and_comm]
  rfl

theorem of_forall {p : Char → Bool} (hfeed : p '\n' = false) (hreturn : p '\r' = false)
    {text : String} (h : ∀ c ∈ text.toList, p c = true) : Unbroken text :=
  ⟨fun hmem => Bool.eq_false_iff.mp hfeed (h _ hmem),
    fun hmem => Bool.eq_false_iff.mp hreturn (h _ hmem)⟩

theorem toString_nat (n : Nat) : Unbroken (toString n) :=
  of_forall (by decide) (by decide) (Numeric.toString_nat n)

theorem of_ink {text : String} (h : ∀ c ∈ text.toList, Text.isBlank c = false) :
    Unbroken text :=
  of_forall (p := fun c => !Text.isBlank c) (by decide) (by decide) fun c hc => by
    rw [h c hc, Bool.not_false]

end Unbroken

namespace Text

theorem hexDigit_ne_lineFeed {n : Nat} (h : n < 16) : hexDigit n ≠ '\n' := by
  have hall : ∀ n < 16, hexDigit n ≠ '\n' := by decide
  exact hall n h

theorem not_mem_hexPadded (width n : Nat) : '\n' ∉ hexPadded width n := by
  intro h
  obtain ⟨m, hm, hfeed⟩ := mem_hexPadded h
  exact hexDigit_ne_lineFeed hm hfeed.symm

theorem not_mem_quotedChar (c : Char) : '\n' ∉ quotedChar c := by
  unfold quotedChar
  by_cases hfeed : c = '\n'
  · subst hfeed
    decide
  · have hhex : '\n' ∉ hex c.toNat := not_mem_hexPadded _ _
    split_ifs <;> simp [Ne.symm hfeed, hhex]

theorem oneLine_quoted (text : String) : OneLine (quoted text) := by
  simp [OneLine, quoted, not_mem_quotedChar]

end Text

def ended (lines : List (List Char)) : List Char :=
  lines.flatMap fun line => line ++ ['\n']

theorem ended_eq_intercalate (lines : List (List Char)) :
    ended lines = ['\n'].intercalate (lines ++ [[]]) := by
  induction lines with
  | nil => rfl
  | cons line lines ih =>
    have hne : lines ++ [[]] ≠ [] := List.append_ne_nil_of_right_ne_nil _ (by simp)
    rw [List.cons_append, List.intercalate_cons_of_ne_nil hne, ← ih]
    simp [ended]

theorem splitOn_ended {lines : List (List Char)} (h : ∀ line ∈ lines, '\n' ∉ line) :
    (ended lines).splitOn '\n' = lines ++ [[]] := by
  rw [ended_eq_intercalate]
  refine List.splitOn_intercalate '\n' (fun line hline => ?_) (by simp)
  rcases List.mem_append.mp hline with hline | hline
  · exact h line hline
  · simp [List.mem_singleton.mp hline]

theorem count_ended_cons (line : List Char) (lines : List (List Char)) :
    (ended (line :: lines)).count '\n' = line.count '\n' + 1 + (ended lines).count '\n' := by
  rw [ended, List.flatMap_cons, List.count_append, List.count_append]
  rfl

theorem length_le_count_ended (lines : List (List Char)) :
    lines.length ≤ (ended lines).count '\n' := by
  induction lines with
  | nil => exact le_rfl
  | cons line lines ih =>
    rw [List.length_cons, count_ended_cons]
    omega

/-- As many line feeds as lines stand in a text if and only if no line has one of its own. -/
theorem count_ended (lines : List (List Char)) :
    (ended lines).count '\n' = lines.length ↔ ∀ line ∈ lines, '\n' ∉ line := by
  induction lines with
  | nil => simp [ended]
  | cons line lines ih =>
    have hrest := length_le_count_ended lines
    rw [List.forall_mem_cons, ← List.count_eq_zero, count_ended_cons, List.length_cons]
    constructor
    · intro h
      exact ⟨by omega, ih.mp (by omega)⟩
    · rintro ⟨hline, hlines⟩
      have hequal := ih.mpr hlines
      omega

end AgentCanvas
