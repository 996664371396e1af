import AgentCanvas.Proofs.Element.Kinds
import AgentCanvas.Proofs.Element.Slots
import Mathlib.Data.List.Forall2

set_option autoImplicit false

namespace AgentCanvas

open Json

namespace Slot

/-- What a field was read as. -/
inductive Content where
  | number (x : Double)
  | flag (value : Bool)
  | text (text : String)
  | vector (v : Vec3)
  | points (points : List Vec3)
  | optionalNumber (x : Option Double)
  | optionalText (text : Option String)
  | optionalObject (fields : Option Fields)

namespace Content

def json? : Content → Option Value
  | .number x => some (ofDouble x)
  | .flag value => some (.bool value)
  | .text content => some (.string content)
  | .vector v => some v.json
  | .points vectors => some (Vec3.listJson vectors)
  | .optionalNumber x => x.map ofDouble
  | .optionalText content => content.map Value.string
  | .optionalObject fields => fields.map Value.object

def numbers : Content → List Double
  | .number x => [x]
  | .vector v => v.coordinates
  | .points vectors => vectors.flatMap Vec3.coordinates
  | .optionalNumber x => x.toList
  | .flag _ | .text _ | .optionalText _ | .optionalObject _ => []

def IsFinite (content : Content) : Prop :=
  ∀ x ∈ content.numbers, x.isFinite = true

/-- The numbers a document must hold. An optional one that it cannot hold is written as null, which
    stands for none. -/
def required : Content → List Double
  | .number x => [x]
  | .vector v => v.coordinates
  | .points vectors => vectors.flatMap Vec3.coordinates
  | .optionalNumber _ | .flag _ | .text _ | .optionalText _ | .optionalObject _ => []

theorem required_subset (content : Content) : content.required ⊆ content.numbers := by
  cases content with
  | optionalNumber x => exact List.nil_subset _
  | number | vector | points | flag | text | optionalText | optionalObject => exact List.Subset.refl _

end Content

end Slot

inductive SlotType.Holds : SlotType → Slot.Content → Prop
  | number (x : Double) : Holds .number (.number x)
  | flag (value : Bool) : Holds .flag (.flag value)
  | text (content : String) : Holds .text (.text content)
  | vector (excess : Vec3.Excess) (v : Vec3) : Holds (.vector excess) (.vector v)
  | points (vectors : List Vec3) : Holds .points (.points vectors)
  | optionalNumber (x : Option Double) : Holds .optionalNumber (.optionalNumber x)
  | optionalText (content : Option String) : Holds .optionalText (.optionalText content)
  | optionalObject (fields : Option Fields) : Holds .optionalObject (.optionalObject fields)

/-! ## Reading one field -/

namespace SlotType

open Slot

def read : SlotType → Value → Except Mismatch Content
  | .number, value => value.asDouble.map .number
  | .flag, value => value.asBool.map .flag
  | .text, value => value.asString.map .text
  | .vector excess, value => (Vec3.ofJson excess value).map .vector
  | .points, value => (Vec3.listOfJson value).map .points
  | .optionalNumber, value => (value.asOptional Value.asDouble).map .optionalNumber
  | .optionalText, value => (value.asOptional Value.asString).map .optionalText
  | .optionalObject, value => (value.asOptional Value.asObject).map .optionalObject

def absent? : SlotType → Option Content
  | .optionalNumber => some (.optionalNumber none)
  | .optionalText => some (.optionalText none)
  | .optionalObject => some (.optionalObject none)
  | _ => none

variable {type : SlotType} {written content : Content} {value : Value}

theorem map_ok_iff {α : Type} {reading : Except Mismatch α} {make : α → Content} :
    reading.map make = .ok content ↔ ∃ a, reading = .ok a ∧ make a = content := by
  cases reading <;> simp [Except.map]

/-- What is read from a value that was written has no numbers but finite ones. -/
theorem isFinite_of_read (hholds : type.Holds written) (hwritten : written.json? = some value)
    (h : type.read value = .ok content) : content.IsFinite := by
  cases hholds with
  | number x =>
    cases hwritten
    obtain ⟨y, hy, rfl⟩ := map_ok_iff.mp h
    obtain ⟨hx, rfl⟩ := asDouble_ofDouble_iff.mp hy
    exact List.forall_mem_singleton.mpr hx
  | vector excess v =>
    cases hwritten
    obtain ⟨u, hu, rfl⟩ := map_ok_iff.mp h
    obtain ⟨hv, rfl⟩ := Vec3.ofJson_json_iff.mp hu
    exact hv
  | points vectors =>
    cases hwritten
    obtain ⟨us, hus, rfl⟩ := map_ok_iff.mp h
    obtain ⟨hvectors, rfl⟩ := Vec3.listOfJson_listJson_iff.mp hus
    exact List.forall_mem_flatMap.mpr hvectors
  | optionalNumber x =>
    obtain ⟨x, -, rfl⟩ := Option.map_eq_some_iff.mp hwritten
    obtain ⟨y, hy, rfl⟩ := map_ok_iff.mp h
    -- a number that is not finite is written as null, which stands for none
    cases x with
    | finite x =>
      cases hy
      exact List.forall_mem_singleton.mpr rfl
    | infinite _ | nan =>
      cases hy
      exact nofun
  | flag | text | optionalText | optionalObject =>
    obtain ⟨_, -, rfl⟩ := map_ok_iff.mp h
    exact nofun

theorem read_written (hholds : type.Holds content) (hfinite : content.IsFinite)
    (hwritten : content.json? = some value) : type.read value = .ok content := by
  cases hholds with
  | number x =>
    cases hwritten
    have hx : x.isFinite = true := hfinite x (List.mem_singleton_self x)
    exact map_ok_iff.mpr ⟨x, asDouble_ofDouble_iff.mpr ⟨hx, rfl⟩, rfl⟩
  | vector excess v =>
    cases hwritten
    exact map_ok_iff.mpr ⟨v, Vec3.ofJson_json_iff.mpr ⟨hfinite, rfl⟩, rfl⟩
  | points vectors =>
    cases hwritten
    have hvectors : ∀ v ∈ vectors, ∀ x ∈ v.coordinates, x.isFinite = true :=
      fun v hv x hx => hfinite x (List.mem_flatMap.mpr ⟨v, hv, hx⟩)
    exact map_ok_iff.mpr ⟨vectors, Vec3.listOfJson_listJson_iff.mpr ⟨hvectors, rfl⟩, rfl⟩
  | optionalNumber x =>
    obtain ⟨x, rfl, rfl⟩ := Option.map_eq_some_iff.mp hwritten
    have hx : x.isFinite = true := hfinite x (List.mem_singleton_self x)
    exact map_ok_iff.mpr ⟨some x, asOptional_ofDouble hx, rfl⟩
  | optionalText content =>
    obtain ⟨content, rfl, rfl⟩ := Option.map_eq_some_iff.mp hwritten
    rfl
  | optionalObject fields =>
    obtain ⟨fields, rfl, rfl⟩ := Option.map_eq_some_iff.mp hwritten
    rfl
  | flag | text =>
    cases hwritten
    rfl

/-- A value that was written can be read again if and only if it has every number it must have. -/
theorem exists_read_iff (hholds : type.Holds written) (hwritten : written.json? = some value) :
    (∃ content, type.read value = .ok content) ↔ ∀ x ∈ written.required, x.isFinite = true := by
  constructor
  case mp =>
    rintro ⟨content, h⟩
    cases hholds with
    | number x =>
      cases hwritten
      obtain ⟨y, hy, -⟩ := map_ok_iff.mp h
      exact List.forall_mem_singleton.mpr (asDouble_ofDouble_iff.mp hy).1
    | vector excess v =>
      cases hwritten
      obtain ⟨u, hu, -⟩ := map_ok_iff.mp h
      exact (Vec3.ofJson_json_iff.mp hu).1
    | points vectors =>
      cases hwritten
      obtain ⟨us, hus, -⟩ := map_ok_iff.mp h
      exact List.forall_mem_flatMap.mpr (Vec3.listOfJson_listJson_iff.mp hus).1
    | flag | text | optionalNumber | optionalText | optionalObject => exact nofun
  case mpr =>
    intro h
    cases hholds with
    | optionalNumber x =>
      obtain ⟨x, rfl, rfl⟩ := Option.map_eq_some_iff.mp hwritten
      cases x with
      | finite | infinite | nan => exact ⟨_, rfl⟩
    | number x => exact ⟨_, read_written (.number x) h hwritten⟩
    | vector excess v => exact ⟨_, read_written (.vector excess v) h hwritten⟩
    | points vectors => exact ⟨_, read_written (.points vectors) h hwritten⟩
    | flag x => exact ⟨_, read_written (.flag x) nofun hwritten⟩
    | text x => exact ⟨_, read_written (.text x) nofun hwritten⟩
    | optionalText x => exact ⟨_, read_written (.optionalText x) nofun hwritten⟩
    | optionalObject x => exact ⟨_, read_written (.optionalObject x) nofun hwritten⟩

theorem holds_of_read (h : type.read value = .ok content) : type.Holds content := by
  cases type <;>
    (obtain ⟨_, -, rfl⟩ := map_ok_iff.mp h
     constructor)

theorem holds_of_absent (h : type.absent? = some content) : type.Holds content := by
  cases type <;> cases h <;> constructor

theorem absent?_of_unwritten (hholds : type.Holds content) (h : content.json? = none) :
    type.absent? = some content := by
  cases hholds with
  | optionalNumber x | optionalText x | optionalObject x =>
    obtain rfl := Option.map_eq_none_iff.mp h
    rfl
  | number | flag | text | vector | points => cases h

theorem isFinite_of_absent (h : type.absent? = some content) : content.IsFinite := by
  cases type with
  | optionalNumber | optionalText | optionalObject =>
    cases h
    exact nofun
  | number | flag | text | vector | points => cases h

end SlotType

namespace Slot

variable {slot : Slot} {fields : Fields} {written content : Content}

def contentIn (slot : Slot) (fields : Fields) : Except Mismatch Content :=
  match fields.get? slot.key with
  | some value => slot.type.read value
  | none =>
    match slot.type.absent? with
    | some content => .ok content
    | none => .error (.missingField slot.key)

theorem contentIn_congr {other : Fields} (h : fields.get? slot.key = other.get? slot.key) :
    slot.contentIn fields = slot.contentIn other := by
  rw [contentIn, contentIn, h]

theorem check_eq_map (slot : Slot) (value : Value) :
    slot.check value = (slot.type.read value).map fun _ => () := by
  have hmap : ∀ {α : Type} (reading : Except Mismatch α) (make : α → Content),
      reading.map (fun _ => ()) = (reading.map make).map fun _ => () := by
    intro α reading make
    cases reading <;> rfl
  obtain ⟨key, type⟩ := slot
  cases type <;> exact hmap _ _

theorem filled_of_contentIn (h : slot.contentIn fields = .ok content) : slot.FilledBy fields := by
  unfold contentIn at h
  unfold FilledBy
  cases hget : fields.get? slot.key with
  | some value =>
    rw [hget] at h
    simp only at h ⊢
    rw [check_eq_map, h]
    rfl
  | none =>
    obtain ⟨key, type⟩ := slot
    cases type with
    | optionalNumber | optionalText | optionalObject => rfl
    | number | flag | text | vector | points => simp [hget, SlotType.absent?] at h

theorem isFinite_of_contentIn (hholds : slot.type.Holds written)
    (hwritten : fields.get? slot.key = written.json?) (h : slot.contentIn fields = .ok content) :
    content.IsFinite := by
  rw [contentIn, hwritten] at h
  cases hjson : written.json? with
  | some value =>
    rw [hjson] at h
    exact SlotType.isFinite_of_read hholds hjson h
  | none =>
    have habsent := SlotType.absent?_of_unwritten hholds hjson
    rw [hjson, habsent] at h
    cases h
    exact SlotType.isFinite_of_absent habsent

theorem contentIn_written (hholds : slot.type.Holds content) (hfinite : content.IsFinite)
    (hwritten : fields.get? slot.key = content.json?) : slot.contentIn fields = .ok content := by
  rw [contentIn, hwritten]
  cases hjson : content.json? with
  | some value => exact SlotType.read_written hholds hfinite hjson
  | none => simp only [SlotType.absent?_of_unwritten hholds hjson]

theorem exists_contentIn_iff (hholds : slot.type.Holds written)
    (hwritten : fields.get? slot.key = written.json?) :
    (∃ content, slot.contentIn fields = .ok content) ↔
      ∀ x ∈ written.required, x.isFinite = true := by
  rw [contentIn, hwritten]
  cases hjson : written.json? with
  | some value => exact SlotType.exists_read_iff hholds hjson
  | none =>
    have habsent := SlotType.absent?_of_unwritten hholds hjson
    have hfinite := SlotType.isFinite_of_absent habsent
    simp only [habsent]
    exact iff_of_true ⟨written, rfl⟩ fun x hx => hfinite x (written.required_subset hx)

theorem holds_of_contentIn (h : slot.contentIn fields = .ok content) : slot.type.Holds content := by
  unfold contentIn at h
  cases hget : fields.get? slot.key with
  | some value =>
    rw [hget] at h
    exact SlotType.holds_of_read h
  | none =>
    cases habsent : slot.type.absent? with
    | none => simp [hget, habsent] at h
    | some absent =>
      simp only [hget, habsent, Except.ok.injEq] at h
      exact SlotType.holds_of_absent (h ▸ habsent)

theorem contentIn_required {α : Type} {type : SlotType} {read : Value → Except Mismatch α}
    {make : α → Content} (habsent : type.absent? = none)
    (hread : ∀ value, type.read value = (read value).map make) (key : String) (fields : Fields) :
    contentIn ⟨key, type⟩ fields = (fields.required key read).map make := by
  unfold contentIn Fields.required
  cases fields.get? key with
  | some value => exact hread value
  | none =>
    rw [habsent]
    rfl

theorem contentIn_optional {α : Type} {type : SlotType} {read : Value → Except Mismatch α}
    {make : Option α → Content} (habsent : type.absent? = some (make none))
    (hread : ∀ value, type.read value = (value.asOptional read).map make) (key : String)
    (fields : Fields) :
    contentIn ⟨key, type⟩ fields = (fields.optional key read).map make := by
  unfold contentIn Fields.optional
  cases fields.get? key with
  | some value => exact hread value
  | none =>
    rw [habsent]
    rfl

variable {key : String}

@[simp] theorem contentIn_number_iff {x : Double} :
    contentIn ⟨key, .number⟩ fields = .ok (.number x) ↔
      fields.required key Value.asDouble = .ok x := by
  rw [contentIn_required rfl fun _ => rfl, SlotType.map_ok_iff]
  simp

@[simp] theorem contentIn_flag_iff {value : Bool} :
    contentIn ⟨key, .flag⟩ fields = .ok (.flag value) ↔
      fields.required key Value.asBool = .ok value := by
  rw [contentIn_required rfl fun _ => rfl, SlotType.map_ok_iff]
  simp

@[simp] theorem contentIn_text_iff {text : String} :
    contentIn ⟨key, .text⟩ fields = .ok (.text text) ↔
      fields.required key Value.asString = .ok text := by
  rw [contentIn_required rfl fun _ => rfl, SlotType.map_ok_iff]
  simp

@[simp] theorem contentIn_vector_iff {excess : Vec3.Excess} {v : Vec3} :
    contentIn ⟨key, .vector excess⟩ fields = .ok (.vector v) ↔
      fields.required key (Vec3.ofJson excess) = .ok v := by
  rw [contentIn_required rfl fun _ => rfl, SlotType.map_ok_iff]
  simp

@[simp] theorem contentIn_points_iff {points : List Vec3} :
    contentIn ⟨key, .points⟩ fields = .ok (.points points) ↔
      fields.required key Vec3.listOfJson = .ok points := by
  rw [contentIn_required rfl fun _ => rfl, SlotType.map_ok_iff]
  simp

@[simp] theorem contentIn_optionalNumber_iff {x : Option Double} :
    contentIn ⟨key, .optionalNumber⟩ fields = .ok (.optionalNumber x) ↔
      fields.optional key Value.asDouble = .ok x := by
  rw [contentIn_optional rfl fun _ => rfl, SlotType.map_ok_iff]
  simp

@[simp] theorem contentIn_optionalText_iff {text : Option String} :
    contentIn ⟨key, .optionalText⟩ fields = .ok (.optionalText text) ↔
      fields.optional key Value.asString = .ok text := by
  rw [contentIn_optional rfl fun _ => rfl, SlotType.map_ok_iff]
  simp

@[simp] theorem contentIn_optionalObject_iff {found : Option Fields} :
    contentIn ⟨key, .optionalObject⟩ fields = .ok (.optionalObject found) ↔
      fields.optional key Value.asObject = .ok found := by
  rw [contentIn_optional rfl fun _ => rfl, SlotType.map_ok_iff]
  simp

theorem checkAll_of_contents {slots : List Slot} {contents : List Content}
    (hkeys : (fields.map Prod.fst).Nodup)
    (h : List.Forall₂ (fun slot content => slot.contentIn fields = .ok content) slots contents) :
    checkAll slots fields = .ok () := by
  refine checkAll_ok hkeys ?_
  clear hkeys
  induction h with
  | nil => exact nofun
  | cons hread _ ih => exact List.forall_mem_cons.mpr ⟨filled_of_contentIn hread, ih⟩

end Slot

/-! ## The contents of properties -/

def ElementKind.allSlots (kind : ElementKind) (excess : Vec3.Excess) : List Slot :=
  kind.slots ++ ElementProps.commonSlots excess

namespace Shape

def contents : Shape → List Slot.Content
  | circle radius segments filled lineWidth =>
    [.number radius, .optionalNumber segments, .flag filled, .number lineWidth]
  | rectangle width height filled lineWidth =>
    [.number width, .number height, .flag filled, .number lineWidth]
  | line points lineWidth => [.points points, .number lineWidth]
  | polygon points filled lineWidth => [.points points, .flag filled, .number lineWidth]
  | text content fontSize fontColor =>
    [.text content, .number fontSize, .optionalText fontColor]
  | image url width height => [.text url, .number width, .number height]

/-- A record reads as a shape of a kind if its slots read as the contents of the shape. -/
theorem ofOwnFields_ok_iff {kind : ElementKind} {fields : Fields}
    (hkeys : (fields.map Prod.fst).Nodup) {shape : Shape} :
    ofOwnFields kind fields = .ok shape ↔ shape.kind = kind ∧
      List.Forall₂ (fun slot content => slot.contentIn fields = .ok content)
        kind.slots shape.contents := by
  constructor
  case mp =>
    intro h
    refine ⟨ofOwnFields_kind h, ?_⟩
    unfold ofOwnFields at h
    cases kind <;> simp only [bind_eq_ok] at h
    case circle =>
      obtain ⟨_, _, radius, hradius, segments, hsegments, filled, hfilled, width, hwidth, h⟩ := h
      cases h
      simp [ElementKind.slots, contents, hradius, hsegments, hfilled, hwidth]
    case rectangle =>
      obtain ⟨_, _, width, hwidth, height, hheight, filled, hfilled, line, hline, h⟩ := h
      cases h
      simp [ElementKind.slots, contents, hwidth, hheight, hfilled, hline]
    case line =>
      obtain ⟨_, _, points, hpoints, width, hwidth, h⟩ := h
      cases h
      simp [ElementKind.slots, contents, hpoints, hwidth]
    case polygon =>
      obtain ⟨_, _, points, hpoints, filled, hfilled, width, hwidth, h⟩ := h
      cases h
      simp [ElementKind.slots, contents, hpoints, hfilled, hwidth]
    case text =>
      obtain ⟨_, _, content, hcontent, size, hsize, color, hcolor, h⟩ := h
      cases h
      simp [ElementKind.slots, contents, hcontent, hsize, hcolor]
    case image =>
      obtain ⟨_, _, url, hurl, width, hwidth, height, hheight, h⟩ := h
      cases h
      simp [ElementKind.slots, contents, hurl, hwidth, hheight]
  case mpr =>
    rintro ⟨rfl, h⟩
    have hslots := Slot.checkAll_of_contents hkeys h
    unfold ofOwnFields
    rw [hslots]
    cases shape <;> simp [kind, ElementKind.slots, contents] at h <;>
      simp [kind, h, bind, Except.bind, pure, Except.pure]

theorem length_contents (shape : Shape) : shape.contents.length = shape.kind.slots.length := by
  cases shape <;> rfl

theorem written_contents (shape : Shape) :
    List.Forall₂ (fun slot content => slot.type.Holds content ∧
        Fields.get? shape.ownFields slot.key = content.json?)
      shape.kind.slots shape.contents := by
  cases shape with
  | circle radius segments filled lineWidth =>
    cases segments <;>
      simp [kind, ElementKind.slots, contents, ownFields, whenSet, Fields.get?,
        Slot.Content.json?, SlotType.Holds.number, SlotType.Holds.optionalNumber,
        SlotType.Holds.flag]
  | rectangle width height filled lineWidth =>
    simp [kind, ElementKind.slots, contents, ownFields, Fields.get?, Slot.Content.json?,
      SlotType.Holds.number, SlotType.Holds.flag]
  | line points lineWidth =>
    simp [kind, ElementKind.slots, contents, ownFields, Fields.get?, Slot.Content.json?,
      SlotType.Holds.points, SlotType.Holds.number]
  | polygon points filled lineWidth =>
    simp [kind, ElementKind.slots, contents, ownFields, Fields.get?, Slot.Content.json?,
      SlotType.Holds.points, SlotType.Holds.number, SlotType.Holds.flag]
  | text content fontSize fontColor =>
    cases fontColor <;>
      simp [kind, ElementKind.slots, contents, ownFields, whenSet, Fields.get?,
        Slot.Content.json?, SlotType.Holds.text, SlotType.Holds.number,
        SlotType.Holds.optionalText]
  | image url width height =>
    simp [kind, ElementKind.slots, contents, ownFields, Fields.get?, Slot.Content.json?,
      SlotType.Holds.text, SlotType.Holds.number]

end Shape

namespace ElementProps

def commonContents (props : ElementProps) : List Slot.Content :=
  [.vector props.position, .vector props.rotation, .vector props.scale, .text props.color,
    .number props.opacity]

def contents (props : ElementProps) : List Slot.Content :=
  props.shape.contents ++ props.commonContents

theorem ofFields_ok_iff {excess : Vec3.Excess} {fields : Fields}
    (hkeys : (fields.map Prod.fst).Nodup) {kind : ElementKind}
    (htype : fields.get? "type" = some kind.json) {props : ElementProps} :
    ofFields excess fields = .ok props ↔ props.kind = kind ∧
      List.Forall₂ (fun slot content => slot.contentIn fields = .ok content)
        (kind.allSlots excess) props.contents := by
  constructor
  case mp =>
    intro h
    simp only [ofFields, bind_eq_ok] at h
    obtain ⟨_, _, shape, hshape, position, hposition, rotation, hrotation, scale, hscale, color,
      hcolor, opacity, hopacity, h⟩ := h
    cases h
    rw [Shape.ofFields, Shape.tag_ok hkeys htype kind.ofTagOrIndex_json] at hshape
    obtain ⟨hkind, hown⟩ := (Shape.ofOwnFields_ok_iff hkeys).mp hshape
    refine ⟨hkind, List.rel_append hown ?_⟩
    simp [commonSlots, commonContents, hposition, hrotation, hscale, hcolor, hopacity]
  case mpr =>
    rintro ⟨rfl, h⟩
    have hown := List.forall₂_take_append _ _ _ h
    have hcommon := List.forall₂_drop_append _ _ _ h
    rw [Shape.length_contents, ElementKind.allSlots, kind, List.take_left] at hown
    rw [Shape.length_contents, ElementKind.allSlots, kind, List.drop_left] at hcommon
    have hshape : Shape.ofFields fields = .ok props.shape := by
      rw [Shape.ofFields, Shape.tag_ok hkeys htype props.kind.ofTagOrIndex_json]
      exact (Shape.ofOwnFields_ok_iff hkeys).mpr ⟨rfl, hown⟩
    rw [ofFields, Slot.checkAll_of_contents hkeys hcommon, hshape]
    simp [commonSlots, commonContents] at hcommon
    simp [hcommon, bind, Except.bind, pure, Except.pure]

/-! ## Written properties -/

theorem keys_nodup (props : ElementProps) : (props.fields.map Prod.fst).Nodup := by
  obtain ⟨shape, _, _, _, _, _⟩ := props
  cases shape with
  | circle _ segments _ _ =>
    cases segments <;> simp [fields, Shape.fields, Shape.ownFields, Shape.whenSet, commonFields]
  | text _ _ fontColor =>
    cases fontColor <;> simp [fields, Shape.fields, Shape.ownFields, Shape.whenSet, commonFields]
  | rectangle | line | polygon | image =>
    simp [fields, Shape.fields, Shape.ownFields, commonFields]

theorem own_apart {kind : ElementKind} {slot : Slot} (h : slot ∈ kind.slots) :
    slot.key ∉ "type" :: (commonSlots .ofArray).map Slot.key := by
  revert slot
  cases kind <;> simp [ElementKind.slots, commonSlots]

theorem get?_own {props : ElementProps} {slot : Slot} (h : slot ∈ props.kind.slots) :
    props.fields.get? slot.key = Fields.get? props.shape.ownFields slot.key := by
  obtain ⟨htype, hcommon⟩ := not_or.mp (mt List.mem_cons.mpr (own_apart h))
  have hnone : Fields.get? props.commonFields slot.key = none :=
    Fields.get?_eq_none_of_not_mem hcommon
  rw [fields, Shape.fields, List.cons_append, Fields.get?_cons, if_neg (Ne.symm htype),
    Fields.get?_append, hnone, Option.or_none]

theorem get?_type (props : ElementProps) : props.fields.get? "type" = some props.kind.json := by
  rw [fields, Shape.fields, List.cons_append, Fields.get?_cons, if_pos rfl]
  rfl

theorem get?_common {props : ElementProps} {key : String} {value : Value}
    (h : (key, value) ∈ props.commonFields) : props.fields.get? key = some value :=
  Fields.get?_of_mem props.keys_nodup (List.mem_append_right _ h)

theorem written_contents (props : ElementProps) (excess : Vec3.Excess) :
    List.Forall₂ (fun slot content => slot.type.Holds content ∧
        props.fields.get? slot.key = content.json?)
      (props.kind.allSlots excess) props.contents := by
  refine List.rel_append ?own ?common
  case own =>
    have hown := (List.forall₂_and_left _ _).mpr ⟨fun _ h => h, props.shape.written_contents⟩
    refine hown.imp ?_
    rintro slot content ⟨hslot, hholds, hwritten⟩
    exact ⟨hholds, (get?_own hslot).trans hwritten⟩
  case common =>
    have hcommon : ∀ field ∈ props.commonFields, props.fields.get? field.1 = some field.2 :=
      fun field hfield => get?_common hfield
    simp only [commonFields, List.forall_mem_cons] at hcommon
    simp [commonSlots, commonContents, hcommon, Slot.Content.json?, SlotType.Holds.vector,
      SlotType.Holds.text, SlotType.Holds.number]

end ElementProps
end AgentCanvas
