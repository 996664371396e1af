import AgentCanvas.Proofs.Text.Trimming
import AgentCanvas.Text.Basic
import Mathlib.Data.List.Infix

set_option autoImplicit false

namespace AgentCanvas.Text

theorem linesFrom_join (line a b : List Char) : ∃ full last,
    linesFrom line (a ++ '\n' :: b) = full ++ dropReturn last :: lines b ∧
      linesFrom line a = full ++ (if last.isEmpty then [] else [last]) ∧
      full.length = a.count '\n' := by
  induction a generalizing line with
  | nil => exact ⟨[], line.reverse, rfl, by simp [linesFrom], rfl⟩
  | cons c a ih =>
    by_cases hc : c = '\n'
    · subst hc
      obtain ⟨full, last, hjoined, halone, hlength⟩ := ih []
      refine ⟨dropReturn line.reverse :: full, last, ?_, ?_, ?_⟩
      · rw [List.cons_append, linesFrom, hjoined, List.cons_append]
      · rw [linesFrom, halone, List.cons_append]
      · rw [List.length_cons, hlength, List.count_cons_self]
    · obtain ⟨full, last, hjoined, halone, hlength⟩ := ih (c :: line)
      refine ⟨full, last, ?_, ?_, ?_⟩
      · rw [List.cons_append, linesFrom, hjoined]
        exact hc
      · rw [linesFrom, halone]
        exact hc
      · rw [hlength, List.count_cons_of_ne hc]

/-- The full lines of a text are as many as its line feeds; what follows them is the last line,
    which the text alone has only if it is not empty. -/
theorem lines_join (a b : List Char) : ∃ full last,
    lines (a ++ '\n' :: b) = full ++ dropReturn last :: lines b ∧
      lines a = full ++ (if last.isEmpty then [] else [last]) ∧ full.length = a.count '\n' :=
  linesFrom_join [] a b

theorem dropReturn_eq_or (line : List Char) :
    dropReturn line = line ∨ line = dropReturn line ++ ['\r'] := by
  unfold dropReturn
  split_ifs with h
  · refine .inr (List.dropLast_append_getLast? '\r' h).symm
  · exact .inl rfl

theorem prefix_of_prefix_join {mark a b : List Char} {c : Char} (hc : c ∉ mark)
    (h : mark <+: a ++ c :: b) : mark <+: a := by
  obtain ⟨rest, hrest⟩ := h
  obtain ⟨extra, ha, -⟩ | ⟨extra, hmark, hextra⟩ := List.append_eq_append_iff.mp hrest
  · exact ⟨extra, ha.symm⟩
  · cases extra with
    | nil => exact ⟨[], by rw [List.append_nil, hmark, List.append_nil]⟩
    | cons x extra =>
      have hx : c = x := (List.cons.inj hextra).1
      exact absurd (by simp [hmark, hx]) hc

theorem infix_append_cons_iff {mark a b : List Char} {c : Char} (hc : c ∉ mark) :
    mark <:+: a ++ c :: b ↔ mark <:+: a ∨ mark <:+: b := by
  constructor
  · intro h
    induction a with
    | nil =>
      obtain h | h := List.infix_cons_iff.mp h
      · exact .inl (prefix_of_prefix_join hc (a := []) h).isInfix
      · exact .inr h
    | cons x a ih =>
      obtain h | h := List.infix_cons_iff.mp h
      · exact .inl (prefix_of_prefix_join hc (a := x :: a) h).isInfix
      · exact (ih h).imp_left List.infix_cons
  · rintro (h | h)
    · exact h.trans (List.prefix_append a _).isInfix
    · exact h.trans ((List.suffix_cons c b).isInfix.trans (List.suffix_append a _).isInfix)

theorem splitFrom?_eq_map (mark before text : List Char) :
    splitFrom? mark before text =
      (splitAt? mark text).map fun (front, behind) => (before.reverse ++ front, behind) := by
  unfold splitAt?
  induction text generalizing before with
  | nil =>
    unfold splitFrom?
    split_ifs <;> simp
  | cons c rest ih =>
    rw [splitFrom?, splitFrom?]
    split_ifs
    · simp
    · rw [ih (c :: before), ih [c]]
      cases splitFrom? mark [] rest <;> simp

theorem splitAt?_cons_of_not {mark rest : List Char} {c : Char} (h : ¬ mark <+: c :: rest) :
    splitAt? mark (c :: rest) =
      (splitAt? mark rest).map fun (front, behind) => (c :: front, behind) := by
  have hfalse : mark.isPrefixOf (c :: rest) = false := by
    rw [← Bool.not_eq_true, List.isPrefixOf_iff_prefix]
    exact h
  rw [splitAt?, splitFrom?, hfalse, if_neg Bool.false_ne_true, splitFrom?_eq_map]
  rfl

theorem splitAt?_append_mark {mark : List Char} (hne : mark ≠ []) (rest : List Char) :
    splitAt? mark (mark ++ rest) = some ([], rest) := by
  obtain ⟨c, more, rfl⟩ := List.exists_cons_of_ne_nil hne
  have htrue : (c :: more).isPrefixOf (c :: (more ++ rest)) = true :=
    List.isPrefixOf_iff_prefix.mpr (List.prefix_append (c :: more) rest)
  rw [splitAt?, List.cons_append, splitFrom?, htrue, if_pos rfl, ← List.cons_append,
    List.drop_left]
  rfl

theorem splitAt?_eq_none_of_not_infix {mark text : List Char} (h : ¬ mark <:+: text) :
    splitAt? mark text = none := by
  induction text with
  | nil =>
    have hmark : mark ≠ [] := fun hnil => h (hnil ▸ List.nil_infix)
    simp [splitAt?, splitFrom?, hmark]
  | cons c rest ih =>
    rw [List.infix_cons_iff, not_or] at h
    rw [splitAt?_cons_of_not h.1, ih h.2]
    rfl

/-- The first mark of a joined text is the first one of the second part, if there is none in the
    first part. -/
theorem splitAt?_join {mark a : List Char} (hline : '\n' ∉ mark) (h : ¬ mark <:+: a)
    (b : List Char) :
    splitAt? mark (a ++ '\n' :: b) =
      (splitAt? mark b).map fun (front, behind) => (a ++ '\n' :: front, behind) := by
  have hnone : ∀ a', ¬ mark <+: a' → ¬ mark <+: a' ++ '\n' :: b := fun a' ha' hmark =>
    ha' (prefix_of_prefix_join hline hmark)
  induction a with
  | nil => exact splitAt?_cons_of_not (hnone [] fun hmark => h hmark.isInfix)
  | cons c a ih =>
    rw [List.infix_cons_iff, not_or] at h
    have hhere : ¬ mark <+: c :: (a ++ '\n' :: b) := hnone (c :: a) h.1
    rw [List.cons_append, splitAt?_cons_of_not hhere, ih h.2]
    cases splitAt? mark b <;> rfl

theorem splitAt?_of_infix {mark text : List Char} (hne : mark ≠ []) (h : mark <:+: text)
    (more : List Char) : ∃ front behind,
      splitAt? mark (text ++ more) = some (front, behind ++ more) ∧
        text = front ++ (mark ++ behind) := by
  induction text with
  | nil => exact absurd (List.infix_nil.mp h) hne
  | cons c rest ih =>
    by_cases hhere : mark <+: c :: rest
    · obtain ⟨behind, hbehind⟩ := hhere
      refine ⟨[], behind, ?_, hbehind.symm⟩
      rw [← hbehind, List.append_assoc]
      exact splitAt?_append_mark hne (behind ++ more)
    · have hrest : mark <:+: rest := (List.infix_cons_iff.mp h).resolve_left hhere
      obtain ⟨front, behind, hsplit, rfl⟩ := ih hrest
      refine ⟨c :: front, behind, ?_, rfl⟩
      -- a mark that begins here would end before the one behind it does
      have hnot : ¬ mark <+: c :: (front ++ (mark ++ behind) ++ more) := by
        intro hlong
        refine hhere (List.prefix_of_prefix_length_le hlong (List.prefix_append _ more) ?_)
        simp only [List.length_cons, List.length_append]
        omega
      rw [List.cons_append, splitAt?_cons_of_not hnot, hsplit]
      rfl

end AgentCanvas.Text
