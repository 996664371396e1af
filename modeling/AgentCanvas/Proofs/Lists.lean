import Mathlib.Data.List.Basic
import Mathlib.Data.List.Forall2
import Mathlib.Data.List.Range

set_option autoImplicit false

namespace AgentCanvas

variable {α β γ : Type} {R : α → β → Prop} {P : α → γ → Prop} {xs : List α} {ys : List β}

theorem forall₂_zip_iff {Q : α → β × γ → Prop} {zs : List γ} (h : List.Forall₂ R xs ys)
    (hlength : zs.length = ys.length) (hiff : ∀ x y z, R x y → (P x z ↔ Q x (y, z))) :
    List.Forall₂ P xs zs ↔ List.Forall₂ Q xs (ys.zip zs) := by
  induction h generalizing zs with
  | nil => simp [List.eq_nil_of_length_eq_zero hlength]
  | cons hxy _ ih =>
    cases zs with
    | nil => cases hlength
    | cons z zs =>
      have hrest := ih (Nat.succ.inj hlength)
      rw [List.zip_cons_cons, List.forall₂_cons, List.forall₂_cons, hiff _ _ z hxy, hrest]

theorem exists_forall₂ (h : List.Forall₂ R xs ys) (hstep : ∀ x y, R x y → ∃ z, P x z) :
    ∃ zs, List.Forall₂ P xs zs := by
  induction h with
  | nil => exact ⟨[], .nil⟩
  | cons hxy _ ih =>
    obtain ⟨z, hz⟩ := hstep _ _ hxy
    obtain ⟨zs, hzs⟩ := ih
    exact ⟨z :: zs, .cons hz hzs⟩

theorem forall₂_congr_of_mem {S : α → β → Prop} (h : ∀ x ∈ xs, ∀ y, R x y ↔ S x y) :
    List.Forall₂ R xs ys ↔ List.Forall₂ S xs ys := by
  induction xs generalizing ys with
  | nil => cases ys <;> simp
  | cons x xs ih =>
    obtain ⟨hx, hxs⟩ := List.forall_mem_cons.mp h
    cases ys with
    | nil => simp
    | cons y ys => rw [List.forall₂_cons, List.forall₂_cons, hx y, ih hxs]

theorem exists_of_mem (h : List.Forall₂ R xs ys) {x : α} (hx : x ∈ xs) : ∃ y ∈ ys, R x y := by
  obtain ⟨i, hi, rfl⟩ := List.mem_iff_getElem.mp hx
  exact ⟨_, List.getElem_mem (h.length_eq ▸ hi), h.get hi _⟩

/-- What is picked from the entries of a list, each with the number of its entry. -/
def numbered (pick : α → Option β) (first : ℕ) (entries : List α) : List (ℕ × β) :=
  (entries.zipIdx first).filterMap fun (entry, number) => (pick entry).map (number, ·)

variable {pick : α → Option β} {other : α → Option γ}

theorem numbered_cons (first : ℕ) (entry : α) (entries : List α) :
    numbered pick first (entry :: entries) =
      ((pick entry).map (first, ·)).toList ++ numbered pick (first + 1) entries := by
  cases h : pick entry with
  | none => simp [numbered, h]
  | some found => simp [numbered, h]

theorem numbered_append (first : ℕ) (above below : List α) :
    numbered pick first (above ++ below) =
      numbered pick first above ++ numbered pick (first + above.length) below := by
  rw [numbered, List.zipIdx_append, List.filterMap_append]
  rfl

theorem numbered_add (first count : ℕ) (entries : List α) :
    numbered pick (first + count) entries =
      (numbered pick first entries).map fun (number, found) => (number + count, found) := by
  induction entries generalizing first with
  | nil => rfl
  | cons entry entries ih =>
    have hnext : first + count + 1 = first + 1 + count := by omega
    rw [numbered_cons, numbered_cons, List.map_append, hnext, ih]
    cases pick entry <;> rfl

theorem mem_numbered_iff {first number : ℕ} {entries : List α} {found : β} :
    (number, found) ∈ numbered pick first entries ↔
      ∃ entry, first ≤ number ∧ entries[number - first]? = some entry ∧ pick entry = some found := by
  simp only [numbered, List.mem_filterMap, Option.map_eq_some_iff, Prod.mk.injEq]
  constructor
  · rintro ⟨⟨entry, place⟩, hmem, _, hpick, rfl, rfl⟩
    obtain ⟨hle, hget⟩ := List.mk_mem_zipIdx_iff_le_and_getElem?_sub.mp hmem
    exact ⟨entry, hle, hget, hpick⟩
  · rintro ⟨entry, hle, hget, hpick⟩
    exact ⟨(entry, number), List.mk_mem_zipIdx_iff_le_and_getElem?_sub.mpr ⟨hle, hget⟩, found,
      hpick, rfl, rfl⟩

theorem map_snd_numbered (first : ℕ) (entries : List α) :
    (numbered pick first entries).map Prod.snd = entries.filterMap pick := by
  induction entries generalizing first with
  | nil => rfl
  | cons entry entries ih =>
    rw [numbered_cons, List.map_append, ih, List.filterMap_cons]
    cases pick entry <;> rfl

theorem numbers_pairwise (first : ℕ) (entries : List α) :
    ((numbered pick first entries).map Prod.fst).Pairwise (· < ·) := by
  induction entries generalizing first with
  | nil => exact .nil
  | cons entry entries ih =>
    rw [numbered_cons, List.map_append]
    cases pick entry with
    | none => exact ih (first + 1)
    | some found =>
      refine List.pairwise_cons.mpr ⟨fun number hnumber => ?_, ih (first + 1)⟩
      obtain ⟨⟨_, later⟩, hlater, rfl⟩ := List.mem_map.mp hnumber
      obtain ⟨_, hle, -⟩ := mem_numbered_iff.mp hlater
      exact hle

theorem forall₂_numbers {δ : Type} {first : ℕ} {entries : List α} {R : ℕ → δ → Prop}
    (give : ℕ × β → δ)
    (h : ∀ number entry found, first ≤ number → entries[number - first]? = some entry →
      pick entry = some found → R number (give (number, found))) :
    List.Forall₂ R ((numbered pick first entries).map Prod.fst)
      ((numbered pick first entries).map give) := by
  refine List.forall₂_map_left_iff.mpr (List.forall₂_map_right_iff.mpr ?_)
  refine List.forall₂_same.mpr fun find hfind => ?_
  obtain ⟨entry, hle, hget, hpick⟩ := mem_numbered_iff.mp hfind
  exact h find.1 entry find.2 hle hget hpick

/-- Where each entry is taken by one of two readers, and not by both, every number comes once. -/
theorem numbers_perm (first : ℕ) {entries : List α}
    (h : ∀ entry ∈ entries, (other entry).isSome = (pick entry).isNone) :
    ((numbered pick first entries).map Prod.fst ++
      (numbered other first entries).map Prod.fst).Perm (List.range' first entries.length) := by
  induction entries generalizing first with
  | nil => exact .nil
  | cons entry entries ih =>
    obtain ⟨hhere, hrest⟩ := List.forall_mem_cons.mp h
    have hperm := (ih (first + 1) hrest).cons first
    rw [numbered_cons, numbered_cons, List.length_cons, List.range'_succ]
    cases hpick : pick entry with
    | some found =>
      have hother : other entry = none := by simpa [hpick] using hhere
      rw [hother]
      exact hperm
    | none =>
      obtain ⟨found, hother⟩ := Option.isSome_iff_exists.mp (by simpa [hpick] using hhere)
      rw [hother]
      exact List.perm_middle.trans hperm

end AgentCanvas
