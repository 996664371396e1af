import AgentCanvas.Proofs.Element.Decoding
import AgentCanvas.Proofs.Element.Documents
import AgentCanvas.Proofs.Element.Patches
import AgentCanvas.Proofs.Json.Fields
import Mathlib.Tactic.MkIffOfInductiveProp

set_option autoImplicit false

/-!
# A patch as an overlay of fields

A patch is applied to a whole document, which is written, changed and read again. What comes of it is
told here by single fields: a field the patch names gets what its value stands for, every other one
stays as it was, and the patch is refused exactly if one of its values does not fit its field.
-/
namespace AgentCanvas

open Json

/-! ## Fields under a patch -/

/-- What a field holds after a patch: what the last value under its key stands for, or else what it
    held before. -/
def Slot.Overlaid (slot : Slot) (patch : Fields) (old new : Slot.Content) : Prop :=
  match patch.last? slot.key with
  | some value => slot.type.Decodes value new
  | none => new = old

/-- A patch sets a field of a kind to a value that does not fit it. -/
def ElementKind.Misfits (kind : ElementKind) (patch : Fields) : Prop :=
  ∃ slot ∈ kind.allSlots .ofArray, ∃ value,
    patch.last? slot.key = some value ∧ ¬ slot.type.Fits value

/-- A patch leaves a field as it is that needs a number no document can hold. -/
def ElementProps.KeepsUnwritable (p : ElementProps) (patch : Fields) : Prop :=
  ∃ slot content, (slot, content) ∈ (p.kind.allSlots .ofArray).zip p.contents ∧
    patch.last? slot.key = none ∧ ∃ x ∈ content.required, x.isFinite = false

def ElementProps.OverlaidBy (p : ElementProps) (patch : Fields) (q : ElementProps) : Prop :=
  q.kind = p.kind ∧
    List.Forall₂ (fun slot contents => slot.Overlaid patch contents.1 contents.2)
      (p.kind.allSlots .ofArray) (p.contents.zip q.contents)

namespace ElementKind

theorem not_reserved {kind : ElementKind} {slot : Slot} (h : slot ∈ kind.allSlots .ofArray) :
    isReserved slot.key = false := by
  revert slot
  cases kind <;> decide

end ElementKind

/-! ## Properties from contents -/

attribute [mk_iff] SlotType.Holds

namespace Shape

theorem exists_of_contents {kind : ElementKind} {contents : List Slot.Content}
    (h : List.Forall₂ (fun slot content => slot.type.Holds content) kind.slots contents) :
    ∃ shape : Shape, shape.kind = kind ∧ shape.contents = contents := by
  cases kind <;>
    simp [ElementKind.slots, SlotType.holds_iff, List.forall₂_cons_left_iff, -Bool.exists_bool] at h
  case circle =>
    obtain ⟨radius, segments, filled, width, rfl⟩ := h
    exact ⟨.circle radius segments filled width, rfl, rfl⟩
  case rectangle =>
    obtain ⟨width, height, filled, line, rfl⟩ := h
    exact ⟨.rectangle width height filled line, rfl, rfl⟩
  case line =>
    obtain ⟨points, width, rfl⟩ := h
    exact ⟨.line points width, rfl, rfl⟩
  case polygon =>
    obtain ⟨points, filled, width, rfl⟩ := h
    exact ⟨.polygon points filled width, rfl, rfl⟩
  case text =>
    obtain ⟨content, size, color, rfl⟩ := h
    exact ⟨.text content size color, rfl, rfl⟩
  case image =>
    obtain ⟨url, width, height, rfl⟩ := h
    exact ⟨.image url width height, rfl, rfl⟩

end Shape

namespace ElementProps

variable {p q : ElementProps} {patch : Fields}

theorem exists_of_contents {kind : ElementKind} {excess : Vec3.Excess}
    {contents : List Slot.Content}
    (h : List.Forall₂ (fun slot content => slot.type.Holds content) (kind.allSlots excess)
      contents) : ∃ props : ElementProps, props.kind = kind ∧ props.contents = contents := by
  have hown := List.forall₂_take kind.slots.length h
  have hcommon := List.forall₂_drop kind.slots.length h
  rw [ElementKind.allSlots, List.take_left] at hown
  rw [ElementKind.allSlots, List.drop_left] at hcommon
  obtain ⟨shape, hkind, hshape⟩ := Shape.exists_of_contents hown
  rw [← List.take_append_drop kind.slots.length contents]
  generalize contents.drop kind.slots.length = rest at hcommon
  simp [commonSlots, SlotType.holds_iff, List.forall₂_cons_left_iff] at hcommon
  obtain ⟨place, turn, size, color, opacity, rfl⟩ := hcommon
  exact ⟨⟨shape, place, turn, size, color, opacity⟩, hkind, congrArg (· ++ _) hshape⟩

/-! ## Fields of the patched record -/

theorem get?_setBy {key : String} (h : isReserved key = false) (patch : Fields) :
    (setBy patch).get? key = patch.last? key := by
  have hkeep : (!isReserved key) = true := by rw [h]; rfl
  have hnil : Fields.get? [] key = none := rfl
  rw [setBy, Fields.get?_overlay_last?, Fields.last?_filter (fun key => !isReserved key) hkeep,
    hnil, Option.or_none]

theorem get?_patched_slot {slot : Slot} (hslot : slot ∈ p.kind.allSlots .ofArray)
    (patch : Fields) : (p.patched patch).get? slot.key =
      (patch.last? slot.key).or (p.fields.get? slot.key) := by
  rw [get?_patched, get?_setBy (ElementKind.not_reserved hslot)]

theorem contentIn_patched_set {slot : Slot} {value : Value}
    (hslot : slot ∈ p.kind.allSlots .ofArray) (hset : patch.last? slot.key = some value) :
    slot.contentIn (p.patched patch) = slot.type.read value := by
  rw [Slot.contentIn, get?_patched_slot hslot, hset, Option.some_or]

/-- A slot of the patched record reads as what the patch makes of the old content. -/
theorem contentIn_patched_iff {slot : Slot} {old new : Slot.Content}
    (hslot : slot ∈ p.kind.allSlots .ofArray) (hholds : slot.type.Holds old)
    (hwritten : p.fields.get? slot.key = old.json?) (hfinite : old.IsFinite) :
    slot.contentIn (p.patched patch) = .ok new ↔ slot.Overlaid patch old new := by
  unfold Slot.Overlaid
  cases hset : patch.last? slot.key with
  | some value =>
    rw [contentIn_patched_set hslot hset]
    exact SlotType.read_ok_iff
  | none =>
    have hget : (p.patched patch).get? slot.key = p.fields.get? slot.key := by
      rw [get?_patched_slot hslot, hset, Option.none_or]
    rw [Slot.contentIn_written hholds hfinite (hget.trans hwritten), Except.ok.injEq, eq_comm]

theorem written_finite (hp : ∀ x ∈ p.numbers, x.isFinite = true) :
    List.Forall₂ (fun slot old => slot ∈ p.kind.allSlots .ofArray ∧ slot.type.Holds old ∧
        p.fields.get? slot.key = old.json? ∧ old.IsFinite)
      (p.kind.allSlots .ofArray) p.contents := by
  obtain ⟨hlength, hwritten⟩ := List.forall₂_iff_zip.mp (p.written_contents .ofArray)
  refine List.forall₂_iff_zip.mpr ⟨hlength, fun {slot old} hmem => ?_⟩
  obtain ⟨hslot, hold⟩ := List.of_mem_zip hmem
  obtain ⟨hholds, hheld⟩ := hwritten hmem
  exact ⟨hslot, hholds, hheld, isFinite_contents hp old hold⟩

theorem merged_ok_iff_overlaid (hp : ∀ x ∈ p.numbers, x.isFinite = true) :
    p.merged patch = .ok q ↔ p.OverlaidBy patch q := by
  rw [merged_ok_iff, OverlaidBy]
  refine and_congr_right fun hkind => ?_
  have hlength : q.contents.length = p.contents.length := by
    rw [← (p.written_contents .ofArray).length_eq, ← hkind,
      (q.written_contents .ofArray).length_eq]
  refine forall₂_zip_iff (written_finite hp) hlength ?_
  rintro slot old new ⟨hslot, hholds, hwritten, hfinite⟩
  exact contentIn_patched_iff hslot hholds hwritten hfinite

/-! ## Success and failure -/

theorem exists_merged_iff : (∃ q, p.merged patch = .ok q) ↔
    ∀ slot ∈ p.kind.allSlots .ofArray, ∃ new, slot.contentIn (p.patched patch) = .ok new := by
  constructor
  case mp =>
    rintro ⟨q, hq⟩ slot hslot
    obtain ⟨new, -, hnew⟩ := exists_of_mem (merged_ok_iff.mp hq).2 hslot
    exact ⟨new, hnew⟩
  case mpr =>
    intro h
    have hread := (List.forall₂_and_left _ _).mpr ⟨h, p.written_contents .ofArray⟩
    obtain ⟨news, hnews⟩ := exists_forall₂ hread fun slot old h => h.1
    have hholds := hnews.imp fun _ _ h => Slot.holds_of_contentIn h
    obtain ⟨q, hkind, rfl⟩ := exists_of_contents hholds
    exact ⟨q, merged_ok_iff.mpr ⟨hkind, hnews⟩⟩

/-- A field of the patched record can be read if its new value fits, or its old one was written. -/
theorem exists_contentIn_patched_iff {slot : Slot} {old : Slot.Content}
    (hmem : (slot, old) ∈ (p.kind.allSlots .ofArray).zip p.contents) :
    (∃ new, slot.contentIn (p.patched patch) = .ok new) ↔
      (∀ value, patch.last? slot.key = some value → slot.type.Fits value) ∧
        (patch.last? slot.key = none → ∀ x ∈ old.required, x.isFinite = true) := by
  have hslot := (List.of_mem_zip hmem).1
  obtain ⟨hholds, hwritten⟩ := (List.forall₂_iff_zip.mp (p.written_contents .ofArray)).2 hmem
  cases hset : patch.last? slot.key with
  | some value =>
    rw [contentIn_patched_set hslot hset]
    simp [SlotType.read_ok_iff, SlotType.Fits]
  | none =>
    have hget : (p.patched patch).get? slot.key = p.fields.get? slot.key := by
      rw [get?_patched_slot hslot, hset, Option.none_or]
    rw [Slot.exists_contentIn_iff hholds (hget.trans hwritten)]
    simp

theorem exists_merged_iff_fits : (∃ q, p.merged patch = .ok q) ↔
    ¬ p.kind.Misfits patch ∧ ¬ p.KeepsUnwritable patch := by
  rw [exists_merged_iff]
  constructor
  case mp =>
    intro hread
    constructor
    · rintro ⟨slot, hslot, value, hset, hmisfit⟩
      obtain ⟨new, hnew⟩ := hread slot hslot
      rw [contentIn_patched_set hslot hset] at hnew
      exact hmisfit ⟨new, SlotType.read_ok_iff.mp hnew⟩
    · rintro ⟨slot, old, hmem, hunset, x, hx, hinfinite⟩
      obtain ⟨-, hfinite⟩ := (exists_contentIn_patched_iff hmem).mp
        (hread slot (List.of_mem_zip hmem).1)
      exact absurd (hfinite hunset x hx) (ne_true_of_eq_false hinfinite)
  case mpr =>
    rintro ⟨hfits, hkept⟩ slot hslot
    have hpaired : List.Forall₂
        (fun slot old => (slot, old) ∈ (p.kind.allSlots .ofArray).zip p.contents)
        (p.kind.allSlots .ofArray) p.contents :=
      List.forall₂_iff_zip.mpr ⟨(p.written_contents .ofArray).length_eq, id⟩
    obtain ⟨old, -, hmem⟩ := exists_of_mem hpaired hslot
    refine (exists_contentIn_patched_iff hmem).mpr ⟨fun value hset => ?_, fun hunset x hx => ?_⟩
    · by_contra hmisfit
      exact hfits ⟨slot, hslot, value, hset, hmisfit⟩
    · by_contra hinfinite
      exact hkept ⟨slot, old, hmem, hunset, x, hx, eq_false_of_ne_true hinfinite⟩

/-- A patch is refused if and only if one of its values does not fit its field, or a field it leaves
    as it is cannot be written. -/
theorem merged_error_iff :
    (∃ why, p.merged patch = .error why) ↔ p.kind.Misfits patch ∨ p.KeepsUnwritable patch := by
  have hfails : (∃ why, p.merged patch = .error why) ↔ ¬ ∃ q, p.merged patch = .ok q := by
    cases p.merged patch <;> simp
  rw [hfails, exists_merged_iff_fits, ← not_or, not_not]

theorem not_keepsUnwritable (hp : ∀ x ∈ p.numbers, x.isFinite = true) (patch : Fields) :
    ¬ p.KeepsUnwritable patch := by
  rintro ⟨slot, content, hmem, -, x, hx, hinfinite⟩
  have hfinite := isFinite_contents hp content (List.of_mem_zip hmem).2
  rw [hfinite x (content.required_subset hx)] at hinfinite
  cases hinfinite

theorem merged_error_iff_misfits (hp : ∀ x ∈ p.numbers, x.isFinite = true) :
    (∃ why, p.merged patch = .error why) ↔ p.kind.Misfits patch :=
  merged_error_iff.trans (or_iff_left (not_keepsUnwritable hp patch))

theorem merged_nil (hp : ∀ x ∈ p.numbers, x.isFinite = true) : p.merged [] = .ok p := by
  refine merged_ok_iff.mpr ⟨rfl, (written_finite hp).imp ?_⟩
  rintro slot old ⟨hslot, hholds, hwritten, hfinite⟩
  exact (contentIn_patched_iff hslot hholds hwritten hfinite).mpr rfl

theorem isFinite_initial (kind : ElementKind) :
    ∀ x ∈ (initial kind).numbers, x.isFinite = true := by
  refine List.all_eq_true.mp ?_
  cases kind <;> decide +kernel

/-- Patches that agree on the slots of a kind do the same to properties of that kind, or meet the
    same complaint. -/
theorem merged_congr {other : Fields}
    (h : ∀ slot ∈ p.kind.allSlots .ofArray, patch.last? slot.key = other.last? slot.key) :
    p.merged patch = p.merged other := by
  have hascending : ∀ patch, (p.patched patch).Ascending := fun patch =>
    (Fields.ascending_nil.overlay _).overlay _
  refine ofFields_congr (hascending patch) (hascending other) (p.patched_type patch)
    (p.patched_type other) fun slot hslot => ?_
  rw [get?_patched_slot hslot, get?_patched_slot hslot, h slot hslot]

end ElementProps

/-- Properties with finite numbers are patched field by field. The patch is refused exactly if it sets
    a common field, or one of their kind, to a value that does not fit that field. Otherwise the kind
    stays, a field the patch sets gets what its value stands for, and every other field is as it was.
    What a patch says of other keys, the reserved ones among them, makes no difference at all. -/
theorem patches_are_fieldwise (p : ElementProps) (hp : ∀ x ∈ p.numbers, x.isFinite = true)
    (patch : Fields) :
    ((∃ why, p.merged patch = .error why) ↔ p.kind.Misfits patch) ∧
      (∀ q, p.merged patch = .ok q ↔ p.OverlaidBy patch q) ∧
      ∀ other : Fields,
        (∀ slot ∈ p.kind.allSlots .ofArray, patch.last? slot.key = other.last? slot.key) →
          p.merged patch = p.merged other :=
  ⟨ElementProps.merged_error_iff_misfits hp, fun _ => ElementProps.merged_ok_iff_overlaid hp,
    fun _ => ElementProps.merged_congr⟩

/-- A circle gets another radius and loses its segments, whatever else the patch says; and it cannot be
    filled with null. -/
theorem circle_without_segments :
    let p : ElementProps := .ofShape (.circle (.ofInt 1) (some (.ofInt 8)) true (.ofInt 1))
    let q : ElementProps := .ofShape (.circle (.ofInt 3) none true (.ofInt 1))
    let sizes : Fields := [("radius", .number (.int 3)), ("segments", .null)]
    let patch : Fields := sizes ++ [("type", .string "line"), ("points", .null), ("x", .null)]
    let hollow : Fields := [("filled", .null)]
    (∀ x ∈ p.numbers, x.isFinite = true) ∧ p.merged patch = .ok q ∧ p.OverlaidBy patch q ∧
      p.merged sizes = .ok q ∧ p.kind.Misfits hollow ∧ ∃ why, p.merged hollow = .error why := by
  intro p q sizes patch hollow
  have hp : ∀ x ∈ p.numbers, x.isFinite = true :=
    List.all_eq_true.mp (by decide +kernel : p.numbers.all Double.isFinite = true)
  have hmerged : p.merged patch = .ok q := eq_ok_of_toOption (by decide +kernel)
  have hmisfit : p.kind.Misfits hollow :=
    ⟨⟨"filled", .flag⟩, by simp [p, ElementProps.kind, ElementProps.ofShape, Shape.kind,
      ElementKind.allSlots, ElementKind.slots], .null, rfl, nofun⟩
  obtain ⟨-, hoverlaid, hothers⟩ := patches_are_fieldwise p hp patch
  have hsizes : p.merged patch = p.merged sizes := hothers sizes (by decide +kernel)
  exact ⟨hp, hmerged, (hoverlaid q).mp hmerged, hsizes ▸ hmerged, hmisfit,
    (patches_are_fieldwise p hp hollow).1.mpr hmisfit⟩

end AgentCanvas
