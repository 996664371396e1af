import AgentCanvas.Proofs.Element.Contents
import AgentCanvas.Proofs.Lists

set_option autoImplicit false

namespace AgentCanvas

open Json

namespace ElementProps

variable {p q : ElementProps} {patch : Fields}

/-- What counts of a patch: of each key that may be set the last value. -/
def setBy (patch : Fields) : Fields :=
  Fields.overlay [] (patch.filter fun field => !isReserved field.1)

theorem get?_patched (p : ElementProps) (patch : Fields) (key : String) :
    (p.patched patch).get? key = ((setBy patch).get? key).or (p.fields.get? key) := by
  rw [patched, Fields.get?_overlay_eq_or, Fields.get?_overlay p.keys_nodup]
  exact congrArg _ Option.or_none

theorem merged_unreserved (p : ElementProps) (patch : Fields) :
    p.merged (patch.filter fun field => !isReserved field.1) = p.merged patch := by
  rw [merged, merged, patched, patched, List.filter_filter]
  simp only [Bool.and_self]

theorem patched_nodup (p : ElementProps) (patch : Fields) :
    ((p.patched patch).map Prod.fst).Nodup :=
  ((Fields.ascending_nil.overlay p.fields).overlay _).nodup

/-- A patch makes other properties of some if they are of the same kind and every slot of the
    patched record reads as their content. -/
theorem merged_ok_iff : p.merged patch = .ok q ↔ q.kind = p.kind ∧
    List.Forall₂ (fun slot content => slot.contentIn (p.patched patch) = .ok content)
      (p.kind.allSlots .ofArray) q.contents :=
  ofFields_ok_iff (p.patched_nodup patch) (p.patched_type patch)

theorem written_at {slot : Slot} {excess : Vec3.Excess} (h : slot ∈ p.kind.allSlots excess) :
    ∃ content, slot.type.Holds content ∧ p.fields.get? slot.key = content.json? := by
  obtain ⟨content, -, hwritten⟩ := exists_of_mem (p.written_contents excess) h
  exact ⟨content, hwritten⟩

theorem merged_again (h : p.merged patch = .ok q) : q.merged patch = .ok q := by
  obtain ⟨hkind, hread⟩ := merged_ok_iff.mp h
  refine merged_ok_iff.mpr ⟨rfl, ?_⟩
  have hwritten := q.written_contents .ofArray
  rw [hkind] at hwritten ⊢
  have hslots := (List.forall₂_and_left _ _).mpr ⟨fun _ hslot => hslot, hread⟩
  refine List.Forall₂.mp ?_ hslots hwritten
  rintro slot content ⟨hslot, hread⟩ ⟨hholds, hwritten⟩
  cases hset : (setBy patch).get? slot.key with
  | some value =>
    have hp : (p.patched patch).get? slot.key = some value := by
      rw [get?_patched, hset, Option.some_or]
    have hq : (q.patched patch).get? slot.key = some value := by
      rw [get?_patched, hset, Option.some_or]
    rw [Slot.contentIn_congr (hq.trans hp.symm)]
    exact hread
  | none =>
    have hp : (p.patched patch).get? slot.key = p.fields.get? slot.key := by
      rw [get?_patched, hset, Option.none_or]
    have hq : (q.patched patch).get? slot.key = q.fields.get? slot.key := by
      rw [get?_patched, hset, Option.none_or]
    -- what was read from a written field can be written and read again
    obtain ⟨before, hbefore, hheld⟩ := written_at hslot
    have hfinite := Slot.isFinite_of_contentIn hbefore (hp.trans hheld) hread
    exact Slot.contentIn_written hholds hfinite (hq.trans hwritten)

end ElementProps

namespace Slot

variable {slots : List Slot} {first second : Fields}

def declares (slots : List Slot) (key : String) : Bool :=
  slots.any fun slot => slot.key == key

theorem checkPresent_declared (slots : List Slot) (seen : List String) (fields : Fields) :
    checkPresent slots seen (fields.filter fun field => declares slots field.1) =
      checkPresent slots seen fields := by
  induction fields generalizing seen with
  | nil => rfl
  | cons field fields ih =>
    obtain ⟨key, value⟩ := field
    have hdeclares : declares slots key = (slots.find? fun slot => slot.key == key).isSome :=
      List.isSome_find?.symm
    cases hfind : slots.find? fun slot => slot.key == key with
    | none =>
      rw [hfind] at hdeclares
      rw [List.filter_cons_of_neg (by simp [hdeclares]), ih, checkPresent, hfind]
    | some slot =>
      rw [hfind] at hdeclares
      rw [List.filter_cons_of_pos (by simp [hdeclares]), checkPresent, checkPresent, hfind]
      simp only [ih]

/-- Ascending records that agree on the slots meet the same complaint, or none. -/
theorem checkAll_congr (hfirst : first.Ascending) (hsecond : second.Ascending)
    (h : ∀ slot ∈ slots, first.get? slot.key = second.get? slot.key) :
    checkAll slots first = checkAll slots second := by
  have hdeclared : first.filter (fun field => declares slots field.1) =
      second.filter fun field => declares slots field.1 := by
    have hfirst' : Fields.Ascending (first.filter fun field => declares slots field.1) :=
      List.Pairwise.filter _ hfirst
    refine hfirst'.ext (List.Pairwise.filter _ hsecond) fun key => ?_
    cases hkey : declares slots key with
    | true =>
      obtain ⟨slot, hslot, heq⟩ := List.any_eq_true.mp hkey
      rw [Fields.get?_filter _ hkey, Fields.get?_filter _ hkey, ← beq_iff_eq.mp heq, h slot hslot]
    | false => rw [Fields.get?_filter_of_not _ hkey, Fields.get?_filter_of_not _ hkey]
  have hmissing : ∀ rest : List Slot, (∀ slot ∈ rest, first.get? slot.key = second.get? slot.key) →
      checkMissing first rest = checkMissing second rest := by
    intro rest hrest
    induction rest with
    | nil => rfl
    | cons slot rest ih =>
      obtain ⟨hslot, hothers⟩ := List.forall_mem_cons.mp hrest
      rw [checkMissing, checkMissing, hslot, ih hothers]
  rw [checkAll, checkAll, ← checkPresent_declared, hdeclared, checkPresent_declared, hmissing _ h]

end Slot

theorem Shape.ofOwnFields_congr {kind : ElementKind} {first second : Fields}
    (hfirst : first.Ascending) (hsecond : second.Ascending)
    (h : ∀ slot ∈ kind.slots, first.get? slot.key = second.get? slot.key) :
    ofOwnFields kind first = ofOwnFields kind second := by
  unfold ofOwnFields
  rw [Slot.checkAll_congr hfirst hsecond h]
  cases kind <;> simp only [ElementKind.slots, List.forall_mem_cons] at h <;>
    simp only [Fields.required, Fields.optional, h]

theorem ElementProps.ofFields_congr {kind : ElementKind} {excess : Vec3.Excess}
    {first second : Fields} (hfirst : first.Ascending) (hsecond : second.Ascending)
    (htype : first.get? "type" = some kind.json) (htype' : second.get? "type" = some kind.json)
    (h : ∀ slot ∈ kind.allSlots excess, first.get? slot.key = second.get? slot.key) :
    ofFields excess first = ofFields excess second := by
  obtain ⟨hown, hcommon⟩ := List.forall_mem_append.mp h
  have hshape : Shape.ofFields first = Shape.ofFields second := by
    rw [Shape.ofFields, Shape.ofFields, Shape.tag_ok hfirst.nodup htype kind.ofTagOrIndex_json,
      Shape.tag_ok hsecond.nodup htype' kind.ofTagOrIndex_json]
    exact Shape.ofOwnFields_congr hfirst hsecond hown
  unfold ofFields
  rw [Slot.checkAll_congr hfirst hsecond hcommon, hshape]
  simp only [commonSlots, List.forall_mem_cons] at hcommon
  simp only [Fields.required, hcommon]

end AgentCanvas
