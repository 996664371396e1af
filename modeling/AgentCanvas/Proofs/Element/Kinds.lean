import AgentCanvas.Element.Basic
import AgentCanvas.Proofs.Json.Fields

set_option autoImplicit false

namespace AgentCanvas

open Json

theorem ElementKind.ofTagOrIndex_json (kind : ElementKind) : ofTagOrIndex kind.json = .ok kind := by
  simp [json, ofTagOrIndex, ofTag, ofVariant, ofName?_name]

namespace Shape

theorem tag_some {ofTag : Value → Except Mismatch ElementKind} {found kind : ElementKind}
    {fields : Fields} (h : tag ofTag (some found) fields = .ok kind) : kind = found := by
  induction fields with
  | nil => simpa [tag] using h.symm
  | cons field fields ih =>
    by_cases hkey : field.1 = "type"
    · simp [tag, hkey] at h
    · exact ih (by simpa [tag, hkey] using h)

theorem tag_none {ofTag : Value → Except Mismatch ElementKind} {kind : ElementKind}
    {fields : Fields} (h : tag ofTag none fields = .ok kind) :
    ∃ value, fields.get? "type" = some value ∧ ofTag value = .ok kind := by
  induction fields with
  | nil => simp [tag] at h
  | cons field fields ih =>
    obtain ⟨key, value⟩ := field
    rw [Fields.get?_cons]
    by_cases hkey : key = "type"
    · simp only [tag, hkey, if_true, bind_eq_ok] at h
      obtain ⟨found, hfound, hrest⟩ := h
      exact ⟨value, by simp [hkey], tag_some hrest ▸ hfound⟩
    · simpa [hkey] using ih (by simpa [tag, hkey] using h)

theorem tag_ok {ofTag : Value → Except Mismatch ElementKind} {fields : Fields} {kind : ElementKind}
    {value : Value} (hkeys : (fields.map Prod.fst).Nodup) (hvalue : fields.get? "type" = some value)
    (htag : ofTag value = .ok kind) : tag ofTag none fields = .ok kind := by
  have hrest : ∀ {fields : Fields}, "type" ∉ fields.map Prod.fst →
      tag ofTag (some kind) fields = .ok kind := by
    intro fields hfields
    induction fields with
    | nil => rfl
    | cons field fields ih =>
      rw [List.map_cons, List.mem_cons, not_or] at hfields
      rw [tag, if_neg (Ne.symm hfields.1)]
      exact ih hfields.2
  induction fields with
  | nil => cases hvalue
  | cons field fields ih =>
    obtain ⟨key, found⟩ := field
    obtain ⟨hkey, hfields⟩ := List.nodup_cons.mp hkeys
    rw [Fields.get?_cons] at hvalue
    by_cases htype : key = "type"
    · subst htype
      obtain rfl : found = value := by simpa using hvalue
      rw [tag, if_pos rfl]
      simp only [htag]
      exact hrest hkey
    · rw [if_neg htype] at hvalue
      rw [tag, if_neg htype]
      exact ih hfields hvalue

theorem ofOwnFields_kind {kind : ElementKind} {fields : Fields} {shape : Shape}
    (h : ofOwnFields kind fields = .ok shape) : shape.kind = kind := by
  unfold ofOwnFields at h
  simp only [bind_eq_ok] at h
  obtain ⟨_, _, h⟩ := h
  cases kind <;> simp only [bind_eq_ok] at h
  · obtain ⟨_, _, _, _, _, _, _, _, h⟩ := h
    cases h; rfl
  · obtain ⟨_, _, _, _, _, _, _, _, h⟩ := h
    cases h; rfl
  · obtain ⟨_, _, _, _, h⟩ := h
    cases h; rfl
  · obtain ⟨_, _, _, _, _, _, h⟩ := h
    cases h; rfl
  · obtain ⟨_, _, _, _, _, _, h⟩ := h
    cases h; rfl
  · obtain ⟨_, _, _, _, _, _, h⟩ := h
    cases h; rfl

theorem kind_initial (kind : ElementKind) : (initial kind).kind = kind := by
  cases kind <;> rfl

theorem ownFields_type (shape : Shape) : Fields.get? shape.ownFields "type" = none := by
  cases shape with
  | circle _ segments _ _ => cases segments <;> simp [ownFields, whenSet, Fields.get?]
  | text _ _ fontColor => cases fontColor <;> simp [ownFields, whenSet, Fields.get?]
  | rectangle | line | polygon | image => simp [ownFields, Fields.get?]

end Shape

namespace ElementProps

theorem get?_unreserved {key : String} (h : isReserved key = true) (patch : Fields) :
    Fields.get? (patch.filter fun field => !isReserved field.1) key = none := by
  rw [Fields.get?, Option.map_eq_none_iff, List.find?_eq_none]
  intro field hfield heq
  rw [List.mem_filter, eq_of_beq heq] at hfield
  simp [h] at hfield

theorem patched_type (p : ElementProps) (patch : Fields) :
    Fields.get? (p.patched patch) "type" = some p.kind.json := by
  have hpatch := get?_unreserved (show isReserved "type" = true by decide) patch
  have hrest : Fields.get? (p.shape.ownFields ++ p.commonFields) "type" = none := by
    have hown := p.shape.ownFields_type
    simp only [Fields.get?, Option.map_eq_none_iff] at hown
    simp [Fields.get?, List.find?_append, hown, commonFields]
  rw [patched, Fields.get?_overlay_of_get?_none hpatch, fields, Shape.fields, List.cons_append]
  exact (Fields.get?_overlay_of_get?_none hrest _).trans (Fields.get?_put_self _ _ _)

theorem ofFields_kind {excess : Vec3.Excess} {fields : Fields} {p : ElementProps}
    (h : ofFields excess fields = .ok p) :
    ∃ value, fields.get? "type" = some value ∧ ElementKind.ofTagOrIndex value = .ok p.kind := by
  simp only [ofFields, Shape.ofFields, bind_eq_ok] at h
  obtain ⟨_, _, shape, ⟨named, htag, hshape⟩, _, _, _, _, _, _, _, _, _, _, h⟩ := h
  cases h
  obtain ⟨value, hvalue, hkind⟩ := Shape.tag_none htag
  exact ⟨value, hvalue, by rw [hkind, kind, Shape.ofOwnFields_kind hshape]⟩

/-- A patch does not change the kind. -/
theorem merged_kind {p q : ElementProps} {patch : Fields} (h : p.merged patch = .ok q) :
    q.kind = p.kind := by
  obtain ⟨value, hvalue, hkind⟩ := ofFields_kind h
  rw [patched_type] at hvalue
  cases hvalue
  simpa [ElementKind.json, ElementKind.ofTagOrIndex, ElementKind.ofTag, ElementKind.ofVariant,
    ElementKind.ofName?_name] using hkind.symm

theorem ofParams_kind {kind : ElementKind} {params : Option Fields} {p : ElementProps}
    (h : ofParams kind params = .ok p) : p.kind = kind := by
  cases params with
  | none =>
    cases h
    exact Shape.kind_initial kind
  | some params => exact (merged_kind h).trans (Shape.kind_initial kind)

end ElementProps
end AgentCanvas
