import AgentCanvas.Proofs.Element.Documents
import AgentCanvas.Scene.Basic

set_option autoImplicit false

namespace AgentCanvas

open Json

@[simp] theorem sorted_ofDouble (x : Double) : (ofDouble x).sorted = ofDouble x := by
  cases x <;> rfl

theorem Vec3.sorted_json (v : Vec3) : v.json.sorted = v.json := by
  simp [json, Value.sorted, Value.sortedItems]

theorem Vec3.sorted_listJson (points : List Vec3) : (listJson points).sorted = listJson points := by
  rw [listJson, Value.sorted, Value.sortedItems_eq_map, List.map_map]
  exact congrArg Value.array (List.map_congr_left fun v _ => sorted_json v)

theorem Shape.sorted_fields (shape : Shape) : ∀ field ∈ shape.fields, field.2.sorted = field.2 := by
  cases shape with
  | circle _ segments _ _ =>
    cases segments <;> simp [fields, ownFields, whenSet, ElementKind.json, Value.sorted]
  | text _ _ fontColor =>
    cases fontColor <;> simp [fields, ownFields, whenSet, ElementKind.json, Value.sorted]
  | rectangle | line | polygon | image =>
    simp [fields, ownFields, ElementKind.json, Value.sorted, Vec3.sorted_listJson]

namespace Element

theorem sorted_fields (element : Element) : ∀ field ∈ element.fields, field.2.sorted = field.2 := by
  have hcommon : ∀ field ∈ element.props.commonFields, field.2.sorted = field.2 := by
    simp [ElementProps.commonFields, Vec3.sorted_json, Value.sorted]
  intro field hfield
  rcases List.mem_cons.mp hfield with rfl | hfield
  · rfl
  · rcases List.mem_append.mp hfield with hfield | hfield
    · exact element.props.shape.sorted_fields field hfield
    · exact hcommon field hfield

theorem sorted_json (element : Element) : element.json.sorted = .object element.document := by
  rw [json, Value.sorted, Value.sortedFields_of_sorted element.sorted_fields]
  rfl

end Element

namespace SnapshotEntry

/-- The fields of an entry: those of its element and the flag. -/
def document (entry : SnapshotEntry) : Fields :=
  entry.element.document.overlay [("selected", .bool entry.selected)]

theorem sorted_json (entry : SnapshotEntry) : entry.json.sorted = .object entry.document := by
  have hfields : ∀ field ∈ entry.element.fields ++ [("selected", Value.bool entry.selected)],
      field.2.sorted = field.2 := by
    intro field hfield
    rcases List.mem_append.mp hfield with hfield | hfield
    · exact entry.element.sorted_fields field hfield
    · rw [List.mem_singleton.mp hfield]
      rfl
  rw [json, Value.sorted, Value.sortedFields_of_sorted hfields, Fields.overlay_append]
  rfl

theorem selected_apart (kind : ElementKind) : "selected" ∉ Element.declaredKeys kind := by
  cases kind <;>
    simp [Element.declaredKeys, ElementProps.declaredKeys, ElementKind.slots,
      ElementProps.commonSlots]

theorem element_of_document {entry : SnapshotEntry} (h : entry.element.IsFinite) :
    Element.ofJson (.object entry.document) = .ok entry.element := by
  refine Element.ofFields_extended h fun key hkey => ?_
  rw [List.mem_singleton.mp hkey]
  exact selected_apart _

theorem flag_of_document (entry : SnapshotEntry) :
    entry.document.get? "selected" = some (.bool entry.selected) :=
  Fields.get?_put_self _ _ _

end SnapshotEntry

/-- An item of a snapshot that stands for an element: the element is read from it, and its flag says
    whether that is the selected one. -/
def IsEntryOf (selected : Option ElementId) (item : Value) (element : Element) : Prop :=
  Element.ofJson item = .ok element ∧
    ∃ fields : Fields, item = .object fields ∧
      fields.get? "selected" = some (.bool (decide (selected = some element.id)))

namespace Snapshot

def selectedJson : Option ElementId → Value
  | some id => id.json
  | none => .null

def items (snapshot : Snapshot) : List Value :=
  snapshot.entries.map fun entry => .object entry.document

theorem sorted_json (snapshot : Snapshot) :
    snapshot.json.sorted = .object [("elements", .array snapshot.items),
      ("selectedId", selectedJson snapshot.selectedId)] := by
  obtain ⟨entries, selected⟩ := snapshot
  have hentries : Value.sortedItems (entries.map SnapshotEntry.json) =
      entries.map fun entry => .object entry.document := by
    rw [Value.sortedItems_eq_map, List.map_map]
    exact List.map_congr_left fun entry _ => SnapshotEntry.sorted_json entry
  have hkeys : ¬"selectedId" < "elements" := by decide
  cases selected with
  | none | some =>
    simp only [json, Value.sorted, Value.sortedFields, hentries, Fields.put, if_neg hkeys]
    rfl

theorem items_are_entries {elements : List Element} (h : ∀ element ∈ elements, element.IsFinite)
    (selected : Option ElementId) :
    List.Forall₂ (IsEntryOf selected) (capture elements selected).items elements := by
  induction elements with
  | nil => exact .nil
  | cons element elements ih =>
    have hread : Element.ofJson
        (.object (SnapshotEntry.document ⟨element, selected == some element.id⟩)) = .ok element :=
      SnapshotEntry.element_of_document (h element List.mem_cons_self)
    have hrest := ih fun other hother => h other (List.mem_cons_of_mem _ hother)
    refine .cons ⟨hread, _, rfl, ?_⟩ hrest
    simp [SnapshotEntry.flag_of_document, beq_eq_decide]

def rebuild : Value → Except Mismatch Scene
  | .object fields => do
    let elements ← Fields.required fields "elements" fun
      | .array items => items.mapM Element.ofJson
      | value => .error (.wrongType value "a sequence")
    let selected ← Fields.optional fields "selectedId" ElementId.ofJson
    return { elements, selected }
  | value => .error (.wrongType value "struct SceneSnapshot")

theorem rebuild_sorted_json {elements : List Element} (h : ∀ element ∈ elements, element.IsFinite)
    (selected : Option ElementId) :
    rebuild (capture elements selected).json.sorted = .ok ⟨elements, selected⟩ := by
  have helements := mapM_eq_ok.mpr ((items_are_entries h selected).imp fun _ _ hentry => hentry.1)
  have hselected : (selectedJson (capture elements selected).selectedId).asOptional
      ElementId.ofJson = .ok selected := by
    cases selected <;> rfl
  simp [sorted_json, rebuild, Fields.required, Fields.optional, Fields.get?, helements, hselected,
    bind, Except.bind, pure, Except.pure]

end Snapshot

/-- The document of an element gives the element and its properties back, whatever undeclared keys
    are added to it, and the document of a snapshot gives the elements, their flags and the
    selection back. -/
theorem wire_form_loses_nothing :
    (∀ element : Element, element.IsFinite → ∀ extra : Fields,
      (∀ key ∈ extra.map Prod.fst, key ∉ Element.declaredKeys element.kind) →
        ∃ own, element.json.sorted = .object own ∧
          Element.ofJson (.object (Fields.overlay own extra)) = .ok element ∧
          ElementProps.ofJson (.object (Fields.overlay own extra)) = .ok element.props) ∧
    (∀ elements : List Element, (∀ element ∈ elements, element.IsFinite) →
      ∀ selected : Option ElementId, ∃ items,
        (Snapshot.capture elements selected).json.sorted =
          .object [("elements", .array items), ("selectedId", Snapshot.selectedJson selected)] ∧
        List.Forall₂ (IsEntryOf selected) items elements ∧
        Snapshot.rebuild (Snapshot.capture elements selected).json.sorted =
          .ok ⟨elements, selected⟩) := by
  constructor
  case left =>
    intro element hfinite extra hextra
    refine ⟨element.document, element.sorted_json, ?_, ?_⟩
    · exact Element.ofFields_extended hfinite hextra
    · exact Element.props_of_extended hfinite hextra .ofArray
  case right =>
    intro elements hfinite selected
    refine ⟨_, Snapshot.sorted_json _, ?_, ?_⟩
    · exact Snapshot.items_are_entries hfinite selected
    · exact Snapshot.rebuild_sorted_json hfinite selected

def starCaption : Element where
  id := ⟨"caption"⟩
  props := { ElementProps.initial .text with shape := .text "a star" (.ofInt 2) (some "#ffaa00") }

/-- A text is read back with fields of other kinds beside its own, and so is a scene that has it
    selected. -/
theorem star_caption_is_read_back :
    (∃ own, starCaption.json.sorted = .object own ∧
      Element.ofJson (.object (Fields.overlay own
        [("points", .null), ("selected", .bool false), ("radius", .string "wide")])) =
          .ok starCaption) ∧
    Snapshot.rebuild (Snapshot.capture [starCaption] (some ⟨"caption"⟩)).json.sorted =
      .ok ⟨[starCaption], some ⟨"caption"⟩⟩ := by
  have hfinite : starCaption.IsFinite :=
    List.all_eq_true.mp (by decide +kernel : starCaption.props.numbers.all Double.isFinite = true)
  constructor
  case left =>
    obtain ⟨own, hown, hread, -⟩ := wire_form_loses_nothing.1 starCaption hfinite
      [("points", .null), ("selected", .bool false), ("radius", .string "wide")] (by decide)
    exact ⟨own, hown, hread⟩
  case right =>
    obtain ⟨items, -, -, hscene⟩ := wire_form_loses_nothing.2 [starCaption]
      (List.forall_mem_singleton.mpr hfinite) (some ⟨"caption"⟩)
    exact hscene

end AgentCanvas
