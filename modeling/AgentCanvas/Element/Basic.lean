import AgentCanvas.Element.Shape

set_option autoImplicit false

/-!
# Elements

An element is its properties under an id: its shape, and the place and style that every kind has. New
properties come from old ones by a patch: the old ones are written as a document, the fields of the
patch are laid over it, and the document is read again.
-/
namespace AgentCanvas

open Json

structure ElementProps where
  shape : Shape
  position : Vec3
  rotation : Vec3
  scale : Vec3
  color : String
  opacity : Double
  deriving DecidableEq, Repr

def reservedKeys : List String :=
  ["id", "type", "variant", "elementType", "selected"]

def isReserved (key : String) : Bool :=
  reservedKeys.contains key

namespace ElementProps

def ofShape (shape : Shape) : ElementProps where
  shape
  position := .ofInts 0 0 0
  rotation := .ofInts 0 0 0
  scale := .ofInts 1 1 1
  color := "#ffffff"
  opacity := .ofInt 1

def initial (kind : ElementKind) : ElementProps :=
  ofShape (.initial kind)

def kind (props : ElementProps) : ElementKind :=
  props.shape.kind

/-- The fields every kind has, in declared order. -/
def commonSlots (excess : Vec3.Excess) : List Slot :=
  [⟨"position", .vector excess⟩, ⟨"rotation", .vector excess⟩, ⟨"scale", .vector excess⟩,
    ⟨"color", .text⟩, ⟨"opacity", .number⟩]

def commonFields (props : ElementProps) : Fields :=
  [("position", props.position.json), ("rotation", props.rotation.json),
    ("scale", props.scale.json), ("color", .string props.color),
    ("opacity", ofDouble props.opacity)]

def fields (props : ElementProps) : Fields :=
  props.shape.fields ++ props.commonFields

def json (props : ElementProps) : Value :=
  .object props.fields

def same (p q : ElementProps) : Bool :=
  p.shape.same q.shape && p.position.same q.position && p.rotation.same q.rotation &&
    p.scale.same q.scale && p.color == q.color && p.opacity.same q.opacity

/-- The properties among the fields of a record, the common ones held to their slots first. -/
def ofFields (excess : Vec3.Excess) (fields : Fields) : Except Mismatch ElementProps := do
  Slot.checkAll (commonSlots excess) fields
  let shape ← Shape.ofFields fields
  let vector (key : String) := fields.required key (Vec3.ofJson excess)
  return {
    shape
    position := ← vector "position"
    rotation := ← vector "rotation"
    scale := ← vector "scale"
    color := ← fields.required "color" Value.asString
    opacity := ← fields.required "opacity" Value.asDouble }

def ofJson : Value → Except Mismatch ElementProps
  | .object fields => ofFields .ofArray fields
  | value => .error (.wrongType value "struct ElementProps")

/-- The document a patch makes of some properties. Reserved keys of the patch are left out. -/
def patched (props : ElementProps) (patch : Fields) : Fields :=
  (Fields.overlay [] props.fields).overlay (patch.filter fun field => !isReserved field.1)

/-- The properties after a patch, or the first field that does not fit. Keys that are no fields of
    the kind have no effect. -/
def merged (props : ElementProps) (patch : Fields) : Except Mismatch ElementProps :=
  ofFields .ofArray (props.patched patch)

/-- The properties of a new element, its parameters laid over what its kind starts with. -/
def ofParams (kind : ElementKind) : Option Fields → Except Mismatch ElementProps
  | none => .ok (initial kind)
  | some params => (initial kind).merged params

end ElementProps

structure ElementId where
  text : String
  deriving DecidableEq, Repr

structure Element where
  id : ElementId
  props : ElementProps
  deriving DecidableEq, Repr

def ElementId.json (id : ElementId) : Value :=
  .string id.text

def ElementId.ofJson (value : Value) : Except Mismatch ElementId :=
  value.asString.map ElementId.mk

namespace ElementId

def insert (id : ElementId) : List ElementId → List ElementId
  | [] => [id]
  | other :: rest =>
    if id.text < other.text then id :: other :: rest
    else if id = other then other :: rest
    else other :: insert id rest

def sorted (ids : List ElementId) : List ElementId :=
  ids.foldr insert []

end ElementId

namespace Element

def kind (element : Element) : ElementKind :=
  element.props.kind

def fields (element : Element) : Fields :=
  ("id", element.id.json) :: element.props.fields

def json (element : Element) : Value :=
  .object element.fields

def same (a b : Element) : Bool :=
  a.id == b.id && a.props.same b.props

def idSlots : List Slot := [⟨"id", .text⟩]

def ofFields (fields : Fields) : Except Mismatch Element := do
  Slot.checkAll idSlots fields
  let id ← fields.required "id" ElementId.ofJson
  let props ← ElementProps.ofFields .ofVector fields
  return { id, props }

def ofJson : Value → Except Mismatch Element
  | .object fields => ofFields fields
  | value => .error (.wrongType value "struct Element")

end Element

end AgentCanvas
