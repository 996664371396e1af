import AgentCanvas.Element.Slot
import AgentCanvas.Proofs.Json.Fields
import Mathlib.Data.List.Nodup

set_option autoImplicit false

namespace AgentCanvas

open Json

namespace Slot

/-- What a slot asks of a document: a value that fits, or none if it may be absent. -/
def FilledBy (slot : Slot) (fields : Fields) : Prop :=
  match fields.get? slot.key with
  | some value => slot.check value = .ok ()
  | none => slot.isOptional = true

theorem checkPresent_ok {slots : List Slot} {fields : Fields} {seen : List String}
    (hkeys : (fields.map Prod.fst).Nodup) (hseen : ∀ key ∈ seen, key ∉ fields.map Prod.fst)
    (h : ∀ slot ∈ slots, ∀ value, (slot.key, value) ∈ fields → slot.check value = .ok ()) :
    checkPresent slots seen fields = .ok () := by
  induction fields generalizing seen with
  | nil => rfl
  | cons field fields ih =>
    obtain ⟨key, value⟩ := field
    obtain ⟨hkey, hfields⟩ := List.nodup_cons.mp hkeys
    have hrest : ∀ slot ∈ slots, ∀ value, (slot.key, value) ∈ fields → slot.check value = .ok () :=
      fun slot hslot value hvalue => h slot hslot value (List.mem_cons_of_mem _ hvalue)
    have hold : ∀ other ∈ seen, other ∉ fields.map Prod.fst :=
      fun other hother hmem => hseen other hother (List.mem_cons_of_mem _ hmem)
    unfold checkPresent
    cases hfind : slots.find? fun slot => slot.key == key with
    | none => exact ih hfields hold hrest
    | some slot =>
      have hslot : slot.key = key := by simpa using List.find?_some hfind
      have hnew : seen.contains key = false := by
        rw [← Bool.not_eq_true, List.contains_iff_mem]
        exact fun hmem => hseen key hmem List.mem_cons_self
      have hcheck := h slot (List.mem_of_find?_eq_some hfind) value (hslot ▸ List.mem_cons_self)
      have hseen' : ∀ other ∈ key :: seen, other ∉ fields.map Prod.fst := by
        intro other hother
        rcases List.mem_cons.mp hother with rfl | hother
        · exact hkey
        · exact hold other hother
      simp only [hnew, hcheck, Bool.false_eq_true, if_false]
      exact ih hfields hseen' hrest

theorem checkMissing_ok {slots : List Slot} {fields : Fields}
    (h : ∀ slot ∈ slots, slot.FilledBy fields) : checkMissing fields slots = .ok () := by
  induction slots with
  | nil => rfl
  | cons slot slots ih =>
    have hslot := h slot List.mem_cons_self
    have hhere : (slot.isOptional || (fields.get? slot.key).isSome) = true := by
      unfold FilledBy at hslot
      split at hslot
      case h_1 value hvalue => simp [hvalue]
      case h_2 => simp [hslot]
    rw [checkMissing, if_pos hhere]
    exact ih fun other hother => h other (List.mem_cons_of_mem _ hother)

theorem checkAll_ok {slots : List Slot} {fields : Fields} (hkeys : (fields.map Prod.fst).Nodup)
    (h : ∀ slot ∈ slots, slot.FilledBy fields) : checkAll slots fields = .ok () := by
  have hpresent : checkPresent slots [] fields = .ok () := by
    have hseen : ∀ key ∈ [], key ∉ fields.map Prod.fst := fun _ h => absurd h List.not_mem_nil
    refine checkPresent_ok hkeys hseen fun slot hslot value hv => ?_
    have hfilled := h slot hslot
    rw [FilledBy, Fields.get?_of_mem hkeys hv] at hfilled
    exact hfilled
  rw [checkAll, hpresent]
  exact checkMissing_ok h

end Slot

theorem asDouble_ofDouble_iff {x y : Double} :
    (ofDouble x).asDouble = .ok y ↔ x.isFinite = true ∧ x = y := by
  cases x with
  | finite x => simp [ofDouble, Value.asDouble, Number.toDouble, Double.isFinite]
  | infinite _ => simp [ofDouble, Value.asDouble, Double.isFinite]
  | nan => simp [ofDouble, Value.asDouble, Double.isFinite]

@[simp] theorem asOptional_ofDouble {x : Double} (h : x.isFinite = true) :
    (ofDouble x).asOptional Value.asDouble = .ok (some x) := by
  cases x with
  | finite x => rfl
  | infinite _ => cases h
  | nan => cases h

namespace Vec3

def coordinates (v : Vec3) : List Double :=
  [v.x, v.y, v.z]

theorem ofJson_json_iff {u v : Vec3} {excess : Excess} :
    ofJson excess v.json = .ok u ↔ (∀ x ∈ v.coordinates, x.isFinite = true) ∧ v = u := by
  simp only [json, ofJson, ofItems, bind_eq_ok, asDouble_ofDouble_iff, coordinates,
    List.forall_mem_cons]
  constructor
  · rintro ⟨x, ⟨hx, rfl⟩, y, ⟨hy, rfl⟩, z, ⟨hz, rfl⟩, h⟩
    cases h
    exact ⟨⟨hx, hy, hz, List.forall_mem_nil _⟩, rfl⟩
  · rintro ⟨⟨hx, hy, hz, -⟩, rfl⟩
    exact ⟨v.x, ⟨hx, rfl⟩, v.y, ⟨hy, rfl⟩, v.z, ⟨hz, rfl⟩, rfl⟩

theorem listOfJson_listJson_iff {points read : List Vec3} :
    listOfJson (listJson points) = .ok read ↔
      (∀ v ∈ points, ∀ x ∈ v.coordinates, x.isFinite = true) ∧ points = read := by
  change (points.map json).mapM (ofJson .ofVector) = .ok read ↔ _
  simp only [mapM_eq_ok, List.forall₂_map_left_iff, ofJson_json_iff]
  rw [List.forall₂_and_left, List.forall₂_eq_eq_eq]

end Vec3

end AgentCanvas
