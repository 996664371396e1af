import AgentCanvas.Scene.Store
import AgentCanvas.Text.Printable

set_option autoImplicit false

namespace AgentCanvas

namespace Debug

def record (name : String) (fields : List (String × String)) : String :=
  let shown := fields.map fun (key, value) => key ++ ": " ++ value
  name ++ " \x7b " ++ ", ".intercalate shown ++ " \x7d"

def wrapped (name inner : String) : String :=
  name ++ "(" ++ inner ++ ")"

def list (items : List String) : String :=
  "[" ++ ", ".intercalate items ++ "]"

def option {α : Type} (render : α → String) : Option α → String
  | none => "None"
  | some value => wrapped "Some" (render value)

def flag (value : Bool) : String :=
  if value then "true" else "false"

def vector (v : Vec3) : String :=
  list [v.x.debugText, v.y.debugText, v.z.debugText]

def shapeFields : Shape → List (String × String)
  | .circle radius segments filled lineWidth =>
    [("radius", radius.debugText), ("segments", option Double.debugText segments),
      ("filled", flag filled), ("line_width", lineWidth.debugText)]
  | .rectangle width height filled lineWidth =>
    [("width", width.debugText), ("height", height.debugText), ("filled", flag filled),
      ("line_width", lineWidth.debugText)]
  | .line points lineWidth =>
    [("points", list (points.map vector)), ("line_width", lineWidth.debugText)]
  | .polygon points filled lineWidth =>
    [("points", list (points.map vector)), ("filled", flag filled),
      ("line_width", lineWidth.debugText)]
  | .text content fontSize fontColor =>
    [("text", Text.quoted content), ("font_size", fontSize.debugText),
      ("font_color", option Text.quoted fontColor)]
  | .image url width height =>
    [("url", Text.quoted url), ("width", width.debugText), ("height", height.debugText)]

def shape (shape : Shape) : String :=
  record (Shape.title shape.kind) (shapeFields shape)

def props (props : ElementProps) : String :=
  record "ElementProps" [
    ("shape", shape props.shape),
    ("position", vector props.position),
    ("rotation", vector props.rotation),
    ("scale", vector props.scale),
    ("color", Text.quoted props.color),
    ("opacity", props.opacity.debugText)]

def elementId (id : ElementId) : String :=
  wrapped "ElementId" (Text.quoted id.text)

def element (element : Element) : String :=
  record "Element" [("id", elementId element.id), ("props", props element.props)]

end Debug

def Store.debugText (store : Store) : String :=
  Debug.record "InMemoryElementStore" [
    ("elements", Debug.list (store.scene.elements.map Debug.element)),
    ("selected_id", Debug.option Debug.elementId store.scene.selected),
    ("observers", toString store.inboxes.length)]

end AgentCanvas
