import AgentCanvas.Json.Value
import AgentCanvas.Text.Basic
import Mathlib.Data.Nat.Digits.Defs

set_option autoImplicit false

namespace AgentCanvas

def isNumeric (c : Char) : Bool :=
  c.isDigit || c == '-' || c == '+' || c == '.' || c == 'e'

def Numeric (text : String) : Prop :=
  ∀ c ∈ text.toList, isNumeric c = true

namespace Numeric

theorem append {s t : String} (hs : Numeric s) (ht : Numeric t) : Numeric (s ++ t) := by
  intro c hc
  rw [String.toList_append, List.mem_append] at hc
  exact hc.elim (hs c) (ht c)

theorem toString_nat (n : Nat) : Numeric (toString n) := by
  intro c hc
  have hdigit : c.isDigit = true :=
    Nat.isDigit_of_mem_toDigits (b := 10) (n := n) (by decide) (by decide) (by simpa using hc)
  simp [isNumeric, hdigit]

theorem toString_int (n : Int) : Numeric (toString n) := by
  cases n with
  | ofNat n => exact toString_nat n
  | negSucc n => exact append (s := "-") (by simp [Numeric, isNumeric]) (toString_nat (n + 1))

theorem sublist {s : String} (hs : Numeric s) {chars : List Char} (h : chars.Sublist s.toList) :
    Numeric (String.ofList chars) := by
  intro c hc
  rw [String.toList_ofList] at hc
  exact hs c (h.subset hc)

end Numeric

namespace Layout

theorem numeric_zeros (n : Nat) : Numeric (zeros n) := by
  intro c hc
  rw [zeros, String.toList_ofList] at hc
  rw [List.eq_of_mem_replicate hc]
  rfl

theorem numeric_plain {digits : String} (h : Numeric digits) (lead : Int) :
    Numeric (plain digits lead) := by
  have hzero : Numeric "0." := by simp [Numeric, isNumeric]
  have hend : Numeric ".0" := by simp [Numeric, isNumeric]
  have hpoint : Numeric "." := by simp [Numeric, isNumeric]
  unfold plain
  simp only
  split_ifs
  · exact (hzero.append (numeric_zeros _)).append h
  · exact (h.append (numeric_zeros _)).append hend
  · exact ((h.sublist (List.take_sublist _ _)).append hpoint).append
      (h.sublist (List.drop_sublist _ _))

theorem numeric_scientific {plus digits : String} (hplus : Numeric plus) (h : Numeric digits)
    (lead : Int) : Numeric (scientific plus digits lead) := by
  have hpoint : Numeric "." := by simp [Numeric, isNumeric]
  have hmark : Numeric "e" := by simp [Numeric, isNumeric]
  have hminus : Numeric "-" := by simp [Numeric, isNumeric]
  have hfirst := h.sublist (List.take_sublist 1 _)
  have hothers := h.sublist (List.drop_sublist 1 _)
  unfold scientific
  simp only
  refine ((Numeric.append ?_ hmark).append ?_).append (Numeric.toString_nat _)
  · split_ifs
    · exact hfirst
    · exact (hfirst.append hpoint).append hothers
  · split_ifs
    · exact hminus
    · exact hplus

theorem numeric_text {layout : Layout} (hplus : Numeric layout.plus) (x : Binary64) :
    Numeric (layout.text x) := by
  have hzero : Numeric "0.0" := by simp [Numeric, isNumeric]
  have hminus : Numeric "-" := by simp [Numeric, isNumeric]
  have hdigits := Numeric.toString_nat (x.shortest layout.tie).digits
  refine Numeric.append ?_ ?_
  · split_ifs
    · exact hminus
    · simp [Numeric]
  · unfold magnitude
    simp only
    split_ifs
    · exact hzero
    · exact numeric_plain hdigits _
    · exact numeric_scientific hplus hdigits _

end Layout

theorem Text.mem_hexPadded {width n : Nat} {c : Char} (h : c ∈ hexPadded width n) :
    ∃ m < 16, c = hexDigit m := by
  induction width generalizing n with
  | zero => cases h
  | succ width ih =>
    rw [hexPadded, List.mem_append, List.mem_singleton] at h
    obtain h | rfl := h
    · exact ih h
    · exact ⟨n % 16, Nat.mod_lt n (by decide), rfl⟩

theorem Json.Number.numeric_text (n : Json.Number) : Numeric n.text := by
  cases n with
  | int n => exact Numeric.toString_int n
  | real x => exact Layout.numeric_text (by simp [Numeric, isNumeric, Layout.document]) x

namespace Layout

theorem toList_plain_ne_nil (digits : String) (lead : Int) : (plain digits lead).toList ≠ [] := by
  unfold plain
  simp only
  split_ifs <;> simp

theorem toList_scientific_ne_nil (plus digits : String) (lead : Int) :
    (scientific plus digits lead).toList ≠ [] := by
  simp [scientific]

theorem toList_text_ne_nil (layout : Layout) (x : Binary64) : (layout.text x).toList ≠ [] := by
  rw [text, String.toList_append]
  refine List.append_ne_nil_of_right_ne_nil _ ?_
  unfold magnitude
  simp only
  split_ifs
  · simp
  · exact toList_plain_ne_nil _ _
  · exact toList_scientific_ne_nil _ _ _

end Layout

theorem Json.Number.toList_text_ne_nil (n : Json.Number) : n.text.toList ≠ [] := by
  cases n with
  | int n =>
    cases n with
    | ofNat n =>
      change (toString n).toList ≠ []
      simp
    | negSucc n =>
      change ("-" ++ toString (n + 1)).toList ≠ []
      simp
  | real x => exact Layout.toList_text_ne_nil _ x

end AgentCanvas
