import AgentCanvas.Text.Basic
import Mathlib.Data.List.DropRight
import Mathlib.Tactic.SplitIfs

set_option autoImplicit false

namespace AgentCanvas.Text

theorem trimStart_eq_nil_iff (text : List Char) :
    trimStart text = [] ↔ ∀ c ∈ text, isBlank c = true :=
  List.dropWhile_eq_nil_iff

theorem trimEnd_eq_nil_iff (text : List Char) :
    trimEnd text = [] ↔ ∀ c ∈ text, isBlank c = true :=
  List.rdropWhile_eq_nil_iff

theorem trimEnd_cons (c : Char) (text : List Char) (h : ¬ ∀ x ∈ c :: text, isBlank x = true) :
    trimEnd (c :: text) = c :: trimEnd text := by
  unfold trimEnd
  rw [List.reverse_cons, List.dropWhile_append]
  by_cases htext : text.reverse.dropWhile isBlank = []
  · have hall : ∀ x ∈ text, isBlank x = true := (trimEnd_eq_nil_iff text).mp (by simp [trimEnd, htext])
    have hc : isBlank c = false := by
      by_contra hne
      exact h (List.forall_mem_cons.mpr ⟨by simpa using hne, hall⟩)
    simp [htext, hc]
  · simp [htext]

theorem isBlank_of_trimStart {text rest : List Char} {c : Char} (h : trimStart text = c :: rest) :
    isBlank c = false := by
  have hne : text.dropWhile isBlank ≠ [] := by
    intro hnil
    rw [trimStart, hnil] at h
    cases h
  have hhead := List.dropWhile_get_zero_not isBlank text (List.length_pos_iff.mpr hne)
  simp only [trimStart] at h
  simpa [h] using hhead

theorem trimChars_eq_nil_iff (text : List Char) :
    trimChars text = [] ↔ ∀ c ∈ text, isBlank c = true := by
  rw [trimChars, trimEnd_eq_nil_iff]
  constructor
  case mp =>
    intro h
    cases hstart : trimStart text with
    | nil => exact (trimStart_eq_nil_iff text).mp hstart
    | cons c rest =>
      rw [hstart] at h
      have hink := isBlank_of_trimStart hstart
      rw [h c List.mem_cons_self] at hink
      cases hink
  case mpr =>
    intro h
    rw [(trimStart_eq_nil_iff text).mpr h]
    exact nofun

theorem trim_eq_empty_iff (text : String) :
    trim text = "" ↔ ∀ c ∈ text.toList, isBlank c = true := by
  rw [trim, ← String.toList_inj, String.toList_ofList, String.toList_empty, trimChars_eq_nil_iff]

theorem trimStart_of_not_blank {c : Char} (h : isBlank c = false) (rest : List Char) :
    trimStart (c :: rest) = c :: rest := by
  simp [trimStart, h]

theorem trimStart_append_of_blank {gap : List Char} (h : ∀ c ∈ gap, isBlank c = true)
    (text : List Char) : trimStart (gap ++ text) = trimStart text :=
  List.dropWhile_append_of_pos h

theorem exists_gap_trimEnd (text : List Char) :
    ∃ gap, (∀ c ∈ gap, isBlank c = true) ∧ text = trimEnd text ++ gap := by
  have hgap : ∀ c ∈ text.reverse.takeWhile isBlank, isBlank c = true :=
    fun _ => List.mem_takeWhile_imp
  refine ⟨(text.reverse.takeWhile isBlank).reverse,
    fun c hc => hgap c (List.mem_reverse.mp hc), ?_⟩
  rw [trimEnd, ← List.reverse_append, List.takeWhile_append_dropWhile, List.reverse_reverse]

theorem trimStart_trimEnd_trimStart (text : List Char) :
    trimStart (trimEnd (trimStart text)) = trimEnd (trimStart text) := by
  cases h : trimStart text with
  | nil => rfl
  | cons c rest =>
    have hc := isBlank_of_trimStart h
    have hnot : ¬ ∀ x ∈ c :: rest, isBlank x = true := by
      intro hall
      rw [hall c List.mem_cons_self] at hc
      cases hc
    rw [trimEnd_cons c rest hnot, trimStart_of_not_blank hc]

theorem trimChars_of_ends {text rest before : List Char} {x y : Char} (hx : text = x :: rest)
    (hy : text = before ++ [y]) (hx' : isBlank x = false) (hy' : isBlank y = false) :
    trimChars text = text := by
  have hstart : trimStart text = text := by
    rw [hx]
    exact trimStart_of_not_blank hx' rest
  rw [trimChars, hstart, hy]
  exact List.rdropWhile_concat_neg isBlank before y (by simp [hy'])

theorem trimChars_of_not_blank {text : List Char} (h : ∀ c ∈ text, isBlank c = false) :
    trimChars text = text := by
  cases text with
  | nil => rfl
  | cons c rest =>
    have hsplit := (List.dropLast_concat_getLast (List.cons_ne_nil c rest)).symm
    exact trimChars_of_ends rfl hsplit (h c List.mem_cons_self) (h _ (List.getLast_mem _))

theorem trimEnd_append_of_blank (text : List Char) {gap : List Char}
    (h : ∀ c ∈ gap, isBlank c = true) : trimEnd (text ++ gap) = trimEnd text := by
  have hgap : ∀ c ∈ gap.reverse, isBlank c = true := fun c hc => h c (List.mem_reverse.mp hc)
  rw [trimEnd, List.reverse_append, List.dropWhile_append_of_pos hgap, trimEnd]

theorem trimChars_append_of_blank (text : List Char) {gap : List Char}
    (h : ∀ c ∈ gap, isBlank c = true) : trimChars (text ++ gap) = trimChars text := by
  have hgap : trimStart gap = [] := (trimStart_eq_nil_iff gap).mpr h
  rw [trimChars, trimStart, List.dropWhile_append]
  split_ifs with htext
  · -- nothing but blanks
    have hnil : trimStart text = [] := List.isEmpty_iff.mp htext
    rw [trimChars, hnil, ← hgap]
    rfl
  · exact trimEnd_append_of_blank (trimStart text) h

theorem trimChars_trimChars (text : List Char) : trimChars (trimChars text) = trimChars text := by
  simp only [trimChars, trimStart_trimEnd_trimStart]
  exact List.rdropWhile_idempotent isBlank (trimStart text)

end AgentCanvas.Text
