import AgentCanvas.Element.Basic
import AgentCanvas.Json.Stream

set_option autoImplicit false

namespace AgentCanvas

open Json Json.Stream

namespace Vec3

def readCoordinates : Nat → (Cursor → Except Fault (Bool × Cursor)) → List Value → Cursor →
    Except StreamFault (List Value × Cursor)
  | 0, _, found, c => return (found, ← readListEnd c)
  | missing + 1, more, found, c => do
    match ← ofDocument (more c) with
    | (false, c) => throw (.mismatch (tooShort found.length) (some c.offset))
    | (true, c) =>
      let (x, c) ← readTyped Value.asDouble c
      readCoordinates missing nextItem (found ++ [ofDouble x]) c

def read (c : Cursor) : Except StreamFault (Value × Cursor) := do
  let c := c.skipSpace
  match c.rest with
  | '[' :: _ =>
    let (items, c) ← readCoordinates 3 openItems [] (c.skip 1)
    return (.array items, c)
  | _ => readTyped (fun value => (ofJson .ofArray value).map Vec3.json) c

end Vec3

namespace Slot

def read (slot : Slot) (c : Cursor) : Except StreamFault (Value × Cursor) :=
  let typed := readTyped (fun value => (slot.check value).map fun _ => value) c
  match slot.type with
  | .vector _ => Vec3.read c
  | .optionalObject =>
    if c.skipSpace.rest.head? = some '\x7b' then do
      let (value, c) ← readAny 1 c
      return (value.sorted, c)
    else typed
  | _ => typed

/-- One member of a record: a declared one is held to its slot and must not come twice, any other
    one is left to `other`. -/
def readMember (slots : List Slot) (other : Cursor → Except StreamFault (Option Value × Cursor))
    (fields : Fields) (key : String) (c : Cursor) : Except StreamFault (Fields × Cursor) :=
  match slots.find? fun slot => slot.key == key with
  | some slot =>
    if (fields.get? key).isSome then duplicate key c
    else do
      let (value, c) ← readField slot.read c
      return (fields ++ [(key, value)], c)
  | none => do
    let (value, c) ← readField other c
    return (fields ++ (value.toList.map fun value => (key, value)), c)

def keep (c : Cursor) : Except StreamFault (Option Value × Cursor) := do
  let (value, c) ← readAny 1 c
  return (some value, c)

end Slot

namespace ElementKind

def asNull : Value → Except Mismatch Unit
  | .null => .ok ()
  | value => .error (.wrongType value "unit")

def readTag (c : Cursor) : Except StreamFault (ElementKind × Cursor) :=
  let c := c.skipSpace
  match c.rest with
  | '"' :: _ => readTyped ofTag c
  | '\x7d' :: _ => .error (.document (c.faultAhead .expectedValue))
  | [] => .error (.document (c.faultAhead .endInObject))
  | _ => .error (.document (c.faultAhead .keyNotString))

def read (c : Cursor) : Except StreamFault (ElementKind × Cursor) := do
  let c := c.skipSpace
  match c.rest with
  | '"' :: _ => readTyped ofTag c
  | '\x7b' :: _ =>
    let (kind, c) ← readTag (c.skip 1)
    let (_, c) ← readField (readTyped asNull) c
    let c := c.skipSpace
    match c.rest with
    | '\x7d' :: _ => return (kind, c.skip 1)
    | [] => throw (.document (c.faultHere .endInObject))
    | _ => throw (.document (c.faultHere .expectedValue))
  | [] => throw (.document (c.faultAhead .endInValue))
  | _ => throw (.document (c.faultAhead .expectedValue))

end ElementKind

def ElementId.read : Cursor → Except StreamFault (ElementId × Cursor) :=
  readTyped ElementId.ofJson

namespace Shape

/-- One member of a shape: its `type` is looked at, the others are kept. -/
def readMember (fields : Fields) (key : String) (c : Cursor) :
    Except StreamFault (Fields × Cursor) :=
  if key = "type" then
    if (fields.get? key).isSome then duplicate key c
    else do
      let (kind, c) ← readField (readTyped ElementKind.ofTag) c
      return (fields ++ [(key, kind.json)], c)
  else Slot.readMember [] Slot.keep fields key c

/-- A shape as an array, from behind its bracket. -/
def readArray (c : Cursor) : Except StreamFault (Shape × Cursor) := do
  match ← ofDocument (openItems c) with
  | (false, c) => throw (.mismatch (.missingField "type") (some c.offset))
  | (true, c) =>
    let (kind, c) ← readTyped ElementKind.ofTag c
    let (items, c) ← ofDocument (readItems (depthLimit - 1) (stepsFor c) nextItem c)
    return (← foundLate (ofItems kind items), c)

def read (c : Cursor) : Except StreamFault (Shape × Cursor) := do
  let c := c.skipSpace
  match c.rest with
  | '[' :: _ => readArray (c.skip 1)
  | _ =>
    let (fields, c) ← readObject expectation readMember [] c
    let kind ← foundAt c.offset (tag ElementKind.ofTag none fields)
    return (← foundLate (ofOwnFields kind fields), c)

end Shape

def ElementProps.read (c : Cursor) : Except StreamFault (ElementProps × Cursor) := do
  let (fields, c) ←
    readObject "struct ElementProps" (Slot.readMember (commonSlots .ofArray) Slot.keep) [] c
  return (← foundAt c.offset (ofFields .ofArray fields), c)

def Element.read (c : Cursor) : Except StreamFault (Element × Cursor) := do
  let (fields, c) ← readObject "struct Element" (Slot.readMember idSlots Slot.keep) [] c
  return (← foundAt c.offset (ofFields fields), c)

end AgentCanvas
