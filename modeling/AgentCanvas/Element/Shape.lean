import AgentCanvas.Element.Kind
import AgentCanvas.Element.Slot

set_option autoImplicit false

namespace AgentCanvas

open Json

inductive Shape where
  | circle (radius : Double) (segments : Option Double) (filled : Bool) (lineWidth : Double)
  | rectangle (width height : Double) (filled : Bool) (lineWidth : Double)
  | line (points : List Vec3) (lineWidth : Double)
  | polygon (points : List Vec3) (filled : Bool) (lineWidth : Double)
  | text (content : String) (fontSize : Double) (fontColor : Option String)
  | image (url : String) (width height : Double)
  deriving DecidableEq, Repr

def ElementKind.slots : ElementKind → List Slot
  | .circle =>
    [⟨"radius", .number⟩, ⟨"segments", .optionalNumber⟩, ⟨"filled", .flag⟩, ⟨"lineWidth", .number⟩]
  | .rectangle =>
    [⟨"width", .number⟩, ⟨"height", .number⟩, ⟨"filled", .flag⟩, ⟨"lineWidth", .number⟩]
  | .line => [⟨"points", .points⟩, ⟨"lineWidth", .number⟩]
  | .polygon => [⟨"points", .points⟩, ⟨"filled", .flag⟩, ⟨"lineWidth", .number⟩]
  | .text => [⟨"text", .text⟩, ⟨"fontSize", .number⟩, ⟨"fontColor", .optionalText⟩]
  | .image => [⟨"url", .text⟩, ⟨"width", .number⟩, ⟨"height", .number⟩]

namespace Shape

def kind : Shape → ElementKind
  | circle .. => .circle
  | rectangle .. => .rectangle
  | line .. => .line
  | polygon .. => .polygon
  | text .. => .text
  | image .. => .image

def initial : ElementKind → Shape
  | .circle => circle (.ofInt 1) none true (.ofInt 1)
  | .rectangle => rectangle (.ofInt 2) (.ofInt 1) true (.ofInt 1)
  | .line => line [.ofInts 0 0 0, .ofInts 1 1 0] (.ofInt 1)
  | .polygon =>
    polygon [.ofInts (-1) (-1) 0, .ofInts 1 (-1) 0, .ofInts 1 1 0, .ofInts (-1) 1 0] true (.ofInt 1)
  | .text => text "Text" (.ofInt 1) none
  | .image => image "/logo.jpg" (.ofInt 3) (.ofInt 2)

def whenSet {α : Type} (key : String) (json : α → Value) : Option α → Fields
  | none => []
  | some value => [(key, json value)]

def ownFields : Shape → Fields
  | circle radius segments filled lineWidth =>
    ("radius", ofDouble radius) :: whenSet "segments" ofDouble segments ++
      [("filled", .bool filled), ("lineWidth", ofDouble lineWidth)]
  | rectangle width height filled lineWidth =>
    [("width", ofDouble width), ("height", ofDouble height), ("filled", .bool filled),
      ("lineWidth", ofDouble lineWidth)]
  | line points lineWidth =>
    [("points", Vec3.listJson points), ("lineWidth", ofDouble lineWidth)]
  | polygon points filled lineWidth =>
    [("points", Vec3.listJson points), ("filled", .bool filled), ("lineWidth", ofDouble lineWidth)]
  | text content fontSize fontColor =>
    [("text", .string content), ("fontSize", ofDouble fontSize)] ++
      whenSet "fontColor" Value.string fontColor
  | image url width height =>
    [("url", .string url), ("width", ofDouble width), ("height", ofDouble height)]

def fields (shape : Shape) : Fields :=
  ("type", shape.kind.json) :: shape.ownFields

def json (shape : Shape) : Value :=
  .object shape.fields

def same : Shape → Shape → Bool
  | circle r s f w, circle r' s' f' w' => r.same r' && sameOption s s' && f == f' && w.same w'
  | rectangle w h f l, rectangle w' h' f' l' => w.same w' && h.same h' && f == f' && l.same l'
  | line p l, line p' l' => Vec3.sameList p p' && l.same l'
  | polygon p f l, polygon p' f' l' => Vec3.sameList p p' && f == f' && l.same l'
  | text t s c, text t' s' c' => t == t' && s.same s' && c == c'
  | image u w h, image u' w' h' => u == u' && w.same w' && h.same h'
  | _, _ => false
where
  sameOption : Option Double → Option Double → Bool
    | none, none => true
    | some x, some y => x.same y
    | _, _ => false

def ofOwnFields (kind : ElementKind) (fields : Fields) : Except Mismatch Shape := do
  let number (key : String) := fields.required key Value.asDouble
  let flag (key : String) := fields.required key Value.asBool
  let string (key : String) := fields.required key Value.asString
  let points := fields.required "points" Vec3.listOfJson
  Slot.checkAll kind.slots fields
  match kind with
  | .circle =>
    return circle (← number "radius") (← fields.optional "segments" Value.asDouble)
      (← flag "filled") (← number "lineWidth")
  | .rectangle =>
    return rectangle (← number "width") (← number "height") (← flag "filled") (← number "lineWidth")
  | .line => return line (← points) (← number "lineWidth")
  | .polygon => return polygon (← points) (← flag "filled") (← number "lineWidth")
  | .text =>
    return text (← string "text") (← number "fontSize")
      (← fields.optional "fontColor" Value.asString)
  | .image => return image (← string "url") (← number "width") (← number "height")

/-- The kind the `type` field names. It is read where it stands, so that what is wrong with it comes
    before a second `type`. -/
def tag (ofTag : Value → Except Mismatch ElementKind) (found : Option ElementKind) :
    Fields → Except Mismatch ElementKind
  | [] =>
    match found with
    | some kind => .ok kind
    | none => .error (.missingField "type")
  | (key, value) :: rest =>
    if key = "type" then
      match found with
      | some _ => .error (.duplicateField "type")
      | none => do
        let kind ← ofTag value
        tag ofTag (some kind) rest
    else tag ofTag found rest

def ofFields (fields : Fields) : Except Mismatch Shape := do
  let kind ← tag ElementKind.ofTagOrIndex none fields
  ofOwnFields kind fields

def title : ElementKind → String
  | .circle => "Circle"
  | .rectangle => "Rectangle"
  | .line => "Line"
  | .polygon => "Polygon"
  | .text => "Text"
  | .image => "Image"

/-- The shape of a kind from the values of its fields in declared order. -/
def ofItems (kind : ElementKind) (items : List Value) : Except Mismatch Shape := do
  let count := toString kind.slots.length
  Slot.checkItems ("struct variant Shape::" ++ title kind ++ " with " ++ count ++ " elements") 0
    kind.slots items
  if kind.slots.length < items.length then
    throw (.wrongLength items.length (count ++ " elements in sequence"))
  ofOwnFields kind ((kind.slots.map Slot.key).zip items)

def expectation : String :=
  "internally tagged enum Shape"

/-- A shape by itself: an object with its `type`, or an array that starts with it. -/
def ofJson : Value → Except Mismatch Shape
  | .object fields => do
    let kind ← tag ElementKind.ofTag none fields
    ofOwnFields kind fields
  | .array [] => .error (.missingField "type")
  | .array (tag :: items) => do
    let kind ← ElementKind.ofTag tag
    ofItems kind items
  | value => .error (.wrongType value expectation)

end Shape
end AgentCanvas
