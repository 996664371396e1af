import AgentCanvas.Proofs.Scene.Runs

set_option autoImplicit false

/-!
# The search for a fresh id

The search keeps no count of its candidates, and that it ends is a matter of what they are. A scene
takes the ids of its elements and at most one id more, the selected one, so that a few candidates
cannot all be taken unless one of them is repeated. The search stops at the first that is not taken.
-/
namespace AgentCanvas

def candidatesFrom (candidate : ℕ → ElementId) (start count : ℕ) : List ElementId :=
  (List.range count).map fun n => candidate (start + n)

namespace Scene

def Free (scene : Scene) (id : ElementId) : Prop :=
  id ∉ scene.ids ∧ scene.selected ≠ some id

theorem free_iff (scene : Scene) (id : ElementId) : scene.Free id ↔ id ∉ scene.taken := by
  rw [Free, taken, List.mem_append, not_or, Option.mem_toList, and_comm]

theorem length_taken_le (scene : Scene) : scene.taken.length ≤ scene.elements.length + 1 := by
  have hselected : scene.selected.toList.length ≤ 1 := Option.length_toList_le
  rw [taken, List.length_append, length_ids]
  omega

end Scene

variable {candidate : ℕ → ElementId} {taken : List ElementId} {start : ℕ}

/-- Of distinct candidates, more than there are ids taken, one is free. -/
theorem exists_free_candidate {count : ℕ} (h : (candidatesFrom candidate start count).Nodup)
    (hcount : taken.length < count) :
    ∃ n, start ≤ n ∧ n < start + count ∧ candidate n ∉ taken := by
  by_contra hnone
  have hsubset : candidatesFrom candidate start count ⊆ taken := by
    intro id hid
    obtain ⟨n, hn, rfl⟩ := List.mem_map.mp hid
    by_contra hfree
    exact hnone ⟨start + n, by omega, by simpa using hn, hfree⟩
  have hlength := h.length_le_of_subset hsubset
  rw [candidatesFrom, List.length_map, List.length_range] at hlength
  omega

theorem le_searchFree (candidate : ℕ → ElementId) (taken : List ElementId) (origin : ℕ)
    (someFree : ∃ n, origin ≤ n ∧ candidate n ∉ taken) (place : ℕ)
    (passed : ∀ n, origin ≤ n → n < place → candidate n ∈ taken) :
    place ≤ searchFree candidate taken origin someFree place passed := by
  fun_induction searchFree candidate taken origin someFree place passed with
  | case1 place passed held ih => exact Nat.le_of_succ_le ih
  | case2 place passed free => exact Nat.le_refl place

theorem searchFree_passed (candidate : ℕ → ElementId) (taken : List ElementId) (origin : ℕ)
    (someFree : ∃ n, origin ≤ n ∧ candidate n ∉ taken) (place : ℕ)
    (passed : ∀ n, origin ≤ n → n < place → candidate n ∈ taken) :
    ∀ n, origin ≤ n → n < searchFree candidate taken origin someFree place passed →
      candidate n ∈ taken := by
  fun_induction searchFree candidate taken origin someFree place passed with
  | case1 place passed held ih => exact ih
  | case2 place passed free => exact passed

section FirstFree

variable (someFree : ∃ n, start ≤ n ∧ candidate n ∉ taken)

theorem le_firstFree : start ≤ firstFree candidate taken start someFree :=
  le_searchFree candidate taken start someFree start _

theorem firstFree_free : candidate (firstFree candidate taken start someFree) ∉ taken :=
  searchFree_free candidate taken start someFree start _

theorem firstFree_passed : ∀ n, start ≤ n → n < firstFree candidate taken start someFree →
    candidate n ∈ taken :=
  searchFree_passed candidate taken start someFree start _

/-- No candidate that is free is passed over. -/
theorem firstFree_le {n : ℕ} (hn : start ≤ n) (hfree : candidate n ∉ taken) :
    firstFree candidate taken start someFree ≤ n := by
  by_contra hlater
  exact hfree (firstFree_passed someFree n hn (by omega))

theorem firstFree_of_free (hfree : candidate start ∉ taken) :
    firstFree candidate taken start someFree = start :=
  Nat.le_antisymm (firstFree_le someFree (Nat.le_refl start) hfree) (le_firstFree someFree)

end FirstFree

theorem IdSource.draw_of_free {source : IdSource} {taken : List ElementId}
    (hfree : source.candidate source.drawn ∉ taken) :
    source.draw taken =
      (source.candidate source.drawn, { source with drawn := source.drawn + 1 }) := by
  rw [draw, firstFree_of_free _ hfree]

theorem IdSource.draw_eq (source : IdSource) (taken : List ElementId) :
    ∃ place, source.drawn ≤ place ∧
      source.draw taken = (source.candidate place, { source with drawn := place + 1 }) :=
  ⟨_, le_firstFree (source.leaves taken source.drawn), rfl⟩

theorem Store.add_draws (s : Store) (props : ElementProps) : ∃ place, s.ids.drawn ≤ place ∧
    (s.add props).answer = s.ids.candidate place ∧
      (s.add props).store.ids = { s.ids with drawn := place + 1 } := by
  obtain ⟨place, hplace, hdraw⟩ := s.ids.draw_eq s.scene.taken
  refine ⟨place, hplace, ?_, ?_⟩
  · exact congrArg Prod.fst hdraw
  · exact congrArg Prod.snd hdraw

theorem Store.add_of_free {s : Store} (hfree : s.ids.candidate s.ids.drawn ∉ s.scene.taken)
    (props : ElementProps) : (s.add props).answer = s.ids.candidate s.ids.drawn ∧
      (s.add props).store.ids = { s.ids with drawn := s.ids.drawn + 1 } := by
  have hdraw := IdSource.draw_of_free hfree
  constructor
  · exact congrArg Prod.fst hdraw
  · exact congrArg Prod.snd hdraw

/-- Over candidates of which the next ones, two more than there are elements, are distinct, the
    search for a free one ends among these, whatever the sequence goes on with. It stops at the first
    that is neither the id of an element nor selected, and that is the id a new element gets: the
    candidates up to it are drawn, and no others. -/
theorem search_ends_at_first_free (scene : Scene)
    (h : (candidatesFrom candidate start (scene.elements.length + 2)).Nodup) :
    ∃ someFree : ∃ n, start ≤ n ∧ candidate n ∉ scene.taken,
      let place := firstFree candidate scene.taken start someFree
      start ≤ place ∧ place < start + (scene.elements.length + 2) ∧
        scene.Free (candidate place) ∧
        (∀ n, start ≤ n → n < place → ¬ scene.Free (candidate n)) ∧
        ∀ (inboxes : List (List Snapshot)) (leaves : LeavesEveryList candidate)
          (props : ElementProps),
          let step := (Store.mk scene inboxes ⟨candidate, start, leaves⟩).add props
          step.answer = candidate place ∧ step.store.ids.drawn = place + 1 := by
  have hcount : scene.taken.length < scene.elements.length + 2 :=
    Nat.lt_succ_of_le scene.length_taken_le
  obtain ⟨n, hn, hsoon, hfree⟩ := exists_free_candidate h hcount
  have someFree : ∃ n, start ≤ n ∧ candidate n ∉ scene.taken := ⟨n, hn, hfree⟩
  refine ⟨someFree, le_firstFree someFree, ?_, ?_, ?_, fun _ _ _ => ⟨rfl, rfl⟩⟩
  · exact Nat.lt_of_le_of_lt (firstFree_le someFree hn hfree) hsoon
  · exact (scene.free_iff _).mpr (firstFree_free someFree)
  · intro m hm hbefore hmfree
    exact (scene.free_iff _).mp hmfree (firstFree_passed someFree m hm hbefore)

/-- The last of three candidates is found beside one element and a selected id that none has,
    although the sequence only repeats an id from there on. -/
theorem third_candidate_is_free :
    let scene : Scene := ⟨[⟨⟨"a"⟩, .initial .circle⟩], some ⟨"b"⟩⟩
    let candidate (n : ℕ) : ElementId := ⟨["a", "b", "c"].getD n "a"⟩
    (candidatesFrom candidate 0 (scene.elements.length + 2)).Nodup ∧
      ∃ someFree, firstFree candidate scene.taken 0 someFree = 2 := by
  intro scene candidate
  have hdistinct : (candidatesFrom candidate 0 (scene.elements.length + 2)).Nodup := by decide
  obtain ⟨someFree, -, hsoon, hfree, -⟩ := search_ends_at_first_free scene hdistinct
  refine ⟨hdistinct, someFree, ?_⟩
  generalize firstFree candidate scene.taken 0 someFree = place at hsoon hfree ⊢
  have hfirst : place ≠ 0 := by
    rintro rfl
    exact hfree.1 (by decide)
  have hsecond : place ≠ 1 := by
    rintro rfl
    exact hfree.2 rfl
  have hthree : place < 3 := hsoon
  omega

end AgentCanvas
