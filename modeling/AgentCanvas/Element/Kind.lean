import AgentCanvas.Json.Mismatch
import AgentCanvas.Text.Basic

set_option autoImplicit false

namespace AgentCanvas

open Json

inductive ElementKind where
  | circle
  | rectangle
  | line
  | polygon
  | text
  | image
  deriving DecidableEq, Repr

namespace ElementKind

def all : List ElementKind := [circle, rectangle, line, polygon, text, image]

def name : ElementKind → String
  | circle => "circle"
  | rectangle => "rectangle"
  | line => "line"
  | polygon => "polygon"
  | text => "text"
  | image => "image"

def ofName? (name : String) : Option ElementKind :=
  all.find? fun kind => kind.name == name

theorem ofName?_name (kind : ElementKind) : ofName? kind.name = some kind := by
  cases kind <;> decide

/-- The kind an agent names, in any letter case and between blanks. -/
def parse? (raw : String) : Option ElementKind :=
  ofName? (Text.lower (Text.trim raw))

def names : List String :=
  all.map name

def ofVariant (name : String) : Except Mismatch ElementKind :=
  match ofName? name with
  | some kind => .ok kind
  | none => .error (.unknownVariant name names)

def ofTag : Value → Except Mismatch ElementKind
  | .string name => ofVariant name
  | value => .error (.wrongType value "variant identifier")

/-- The kind a `type` field names by a string or by its place in the list of all kinds. -/
def ofTagOrIndex : Value → Except Mismatch ElementKind
  | .number (.int (.ofNat index)) =>
    match all[index]? with
    | some kind => .ok kind
    | none => .error (.variantIndex index all.length)
  | value => ofTag value

/-- A kind by itself is its name, or an object whose only key is the name and whose value is null.
    -/
def ofJson : Value → Except Mismatch ElementKind
  | .string name => ofVariant name
  | .object [(name, payload)] => do
    let kind ← ofVariant name
    match payload with
    | .null => return kind
    | payload => throw (.wrongType payload "unit")
  | .object _ => .error .notSingleKey
  | value => .error (.wrongType value "string or map")

def json (kind : ElementKind) : Value :=
  .string kind.name

end ElementKind

def unknownKindMessage (raw : String) : String :=
  "unknown element type: " ++ raw

end AgentCanvas
