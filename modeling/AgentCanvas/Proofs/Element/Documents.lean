import AgentCanvas.Element.Basic
import AgentCanvas.Proofs.Element.Contents

set_option autoImplicit false

namespace AgentCanvas

open Json

namespace Shape

def numbers : Shape → List Double
  | circle radius segments _ lineWidth => radius :: segments.toList ++ [lineWidth]
  | rectangle width height _ lineWidth => [width, height, lineWidth]
  | line points lineWidth => points.flatMap Vec3.coordinates ++ [lineWidth]
  | polygon points _ lineWidth => points.flatMap Vec3.coordinates ++ [lineWidth]
  | text _ fontSize _ => [fontSize]
  | image _ width height => [width, height]

theorem mem_numbers {shape : Shape} {content : Slot.Content} {x : Double}
    (hcontent : content ∈ shape.contents) (hx : x ∈ content.numbers) : x ∈ shape.numbers := by
  revert content
  cases shape <;> simp +contextual [contents, numbers, Slot.Content.numbers]

end Shape

namespace ElementProps

def numbers (props : ElementProps) : List Double :=
  props.shape.numbers ++ props.position.coordinates ++ props.rotation.coordinates ++
    props.scale.coordinates ++ [props.opacity]

/-- The keys a reader of properties of a kind looks at. -/
def declaredKeys (kind : ElementKind) : List String :=
  "type" :: (kind.slots ++ commonSlots .ofArray).map Slot.key

theorem key_declared {props : ElementProps} {field : String × Value} (h : field ∈ props.fields) :
    field.1 ∈ declaredKeys props.kind := by
  have hown : ∀ field ∈ props.shape.ownFields, field.1 ∈ props.kind.slots.map Slot.key := by
    unfold kind
    cases props.shape with
    | circle _ segments _ _ =>
      cases segments <;> simp [Shape.kind, Shape.ownFields, Shape.whenSet, ElementKind.slots]
    | text _ _ fontColor =>
      cases fontColor <;> simp [Shape.kind, Shape.ownFields, Shape.whenSet, ElementKind.slots]
    | rectangle | line | polygon | image => simp [Shape.kind, Shape.ownFields, ElementKind.slots]
  rw [declaredKeys, List.map_append]
  rcases List.mem_cons.mp h with rfl | h
  · exact List.mem_cons_self
  · refine List.mem_cons_of_mem _ (List.mem_append.mpr ?_)
    exact (List.mem_append.mp h).imp (hown field) fun h => List.mem_map_of_mem (f := Prod.fst) h

theorem isFinite_contents {props : ElementProps} (h : ∀ x ∈ props.numbers, x.isFinite = true) :
    ∀ content ∈ props.contents, content.IsFinite := by
  have hcommon : ∀ content ∈ props.commonContents, ∀ x ∈ content.numbers, x ∈ props.numbers := by
    simp +contextual [commonContents, Slot.Content.numbers, numbers]
  have hown : ∀ content ∈ props.shape.contents, ∀ x ∈ content.numbers, x ∈ props.numbers := by
    intro content hcontent x hx
    simp [numbers, Shape.mem_numbers hcontent hx]
  intro content hcontent x hx
  obtain hcontent | hcontent := List.mem_append.mp hcontent
  · exact h x (hown content hcontent x hx)
  · exact h x (hcommon content hcontent x hx)

theorem key_mem_declaredKeys {kind : ElementKind} {excess : Vec3.Excess} {slot : Slot}
    (h : slot ∈ kind.allSlots excess) : slot.key ∈ declaredKeys kind := by
  have hkeys : (kind.allSlots excess).map Slot.key = (kind.allSlots .ofArray).map Slot.key := by
    rw [ElementKind.allSlots, ElementKind.allSlots, List.map_append, List.map_append]
    rfl
  exact List.mem_cons_of_mem _ (hkeys ▸ List.mem_map_of_mem h)

/-- Properties are read back from a record that has their fields, whatever else it has. -/
theorem ofFields_ok {props : ElementProps} {fields : Fields} (hkeys : (fields.map Prod.fst).Nodup)
    (hfinite : ∀ x ∈ props.numbers, x.isFinite = true)
    (h : ∀ key ∈ declaredKeys props.kind, fields.get? key = props.fields.get? key)
    (excess : Vec3.Excess) : ofFields excess fields = .ok props := by
  have htype : fields.get? "type" = some props.kind.json :=
    (h "type" List.mem_cons_self).trans props.get?_type
  refine (ofFields_ok_iff hkeys htype).mpr ⟨rfl, ?_⟩
  obtain ⟨hlength, hwritten⟩ := List.forall₂_iff_zip.mp (props.written_contents excess)
  refine List.forall₂_iff_zip.mpr ⟨hlength, fun {slot content} hmem => ?_⟩
  obtain ⟨hslot, hcontent⟩ := List.of_mem_zip hmem
  obtain ⟨hholds, hheld⟩ := hwritten hmem
  have hread := (h slot.key (key_mem_declaredKeys hslot)).trans hheld
  exact Slot.contentIn_written hholds (isFinite_contents hfinite content hcontent) hread

end ElementProps

namespace Element

def IsFinite (element : Element) : Prop :=
  ∀ x ∈ element.props.numbers, x.isFinite = true

def declaredKeys (kind : ElementKind) : List String :=
  "id" :: ElementProps.declaredKeys kind

theorem id_apart (kind : ElementKind) : "id" ∉ ElementProps.declaredKeys kind := by
  cases kind <;> simp [ElementProps.declaredKeys, ElementKind.slots, ElementProps.commonSlots]

theorem keys_nodup (element : Element) : (element.fields.map Prod.fst).Nodup := by
  refine List.nodup_cons.mpr ⟨fun h => id_apart element.kind ?_, element.props.keys_nodup⟩
  obtain ⟨field, hfield, hkey⟩ := List.mem_map.mp h
  have hdeclared := ElementProps.key_declared hfield
  rwa [hkey] at hdeclared

def document (element : Element) : Fields :=
  Fields.overlay [] element.fields

theorem extended_nodup (element : Element) (extra : Fields) :
    ((element.document.overlay extra).map Prod.fst).Nodup :=
  ((Fields.ascending_nil.overlay element.fields).overlay extra).nodup

theorem get?_extended {element : Element} {extra : Fields}
    (h : ∀ key ∈ extra.map Prod.fst, key ∉ declaredKeys element.kind) {key : String}
    (hkey : key ∈ declaredKeys element.kind) :
    (element.document.overlay extra).get? key = element.fields.get? key := by
  have hextra : extra.get? key = none :=
    Fields.get?_eq_none_of_not_mem fun hmem => h key hmem hkey
  rw [Fields.get?_overlay_of_get?_none hextra, document, Fields.get?_overlay element.keys_nodup]
  exact Option.or_none

theorem props_of_extended {element : Element} {extra : Fields} (hfinite : element.IsFinite)
    (h : ∀ key ∈ extra.map Prod.fst, key ∉ declaredKeys element.kind) (excess : Vec3.Excess) :
    ElementProps.ofFields excess (element.document.overlay extra) = .ok element.props := by
  refine ElementProps.ofFields_ok (element.extended_nodup extra) hfinite (fun key hkey => ?_) excess
  have hid : "id" ≠ key := fun hid => id_apart element.kind (hid ▸ hkey)
  rw [get?_extended h (List.mem_cons_of_mem _ hkey), fields, Fields.get?_cons, if_neg hid]

theorem ofFields_extended {element : Element} {extra : Fields} (hfinite : element.IsFinite)
    (h : ∀ key ∈ extra.map Prod.fst, key ∉ declaredKeys element.kind) :
    ofFields (element.document.overlay extra) = .ok element := by
  have hid : (element.document.overlay extra).get? "id" = some element.id.json := by
    rw [get?_extended h List.mem_cons_self, fields, Fields.get?_cons, if_pos rfl]
  have hread : ElementId.ofJson element.id.json = .ok element.id := rfl
  have hslots : Slot.checkAll idSlots (element.document.overlay extra) = .ok () := by
    refine Slot.checkAll_ok (element.extended_nodup extra) ?_
    simp [idSlots, Slot.FilledBy, hid, Slot.check, ElementId.json, Value.asString, Except.map]
  rw [ofFields, hslots, Fields.required, hid, props_of_extended hfinite h]
  rfl

end Element
end AgentCanvas
