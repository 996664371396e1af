import AgentCanvas.Json.Mismatch

set_option autoImplicit false

namespace AgentCanvas

open Json

structure Vec3 where
  x : Double
  y : Double
  z : Double
  deriving DecidableEq, Repr

namespace Vec3

def ofInts (x y z : Int) : Vec3 :=
  ⟨.ofInt x, .ofInt y, .ofInt z⟩

def same (u v : Vec3) : Bool :=
  u.x.same v.x && u.y.same v.y && u.z.same v.z

def json (v : Vec3) : Value :=
  .array [ofDouble v.x, ofDouble v.y, ofDouble v.z]

/-- How an array with more than three numbers is refused: where the items are counted against the
    array, or where they are counted against the vector. -/
inductive Excess where
  | ofArray
  | ofVector

def Excess.expected : Excess → String
  | .ofArray => "fewer elements in array"
  | .ofVector => "3 elements in sequence"

def tooShort (length : Nat) : Mismatch :=
  .wrongLength length "an array of length 3"

/-- A vector from an array. The first three items are looked at before their number is. -/
def ofItems (excess : Excess) : List Value → Except Mismatch Vec3
  | [] => .error (tooShort 0)
  | [x] => do
    let _ ← x.asDouble
    throw (tooShort 1)
  | [x, y] => do
    let _ ← x.asDouble
    let _ ← y.asDouble
    throw (tooShort 2)
  | x :: y :: z :: rest => do
    let v : Vec3 := ⟨← x.asDouble, ← y.asDouble, ← z.asDouble⟩
    if rest.isEmpty then return v
    else throw (.wrongLength (rest.length + 3) excess.expected)

def ofJson (excess : Excess) : Value → Except Mismatch Vec3
  | .array items => ofItems excess items
  | value => .error (.wrongType value "an array of length 3")

def listOfJson : Value → Except Mismatch (List Vec3)
  | .array items => items.mapM (ofJson .ofVector)
  | value => .error (.wrongType value "a sequence")

def listJson (points : List Vec3) : Value :=
  .array (points.map json)

def sameList : List Vec3 → List Vec3 → Bool
  | [], [] => true
  | u :: us, v :: vs => u.same v && sameList us vs
  | _, _ => false

end Vec3

inductive SlotType where
  | number
  | flag
  | text
  | vector (excess : Vec3.Excess)
  | points
  | optionalNumber
  | optionalText
  | optionalObject

structure Slot where
  key : String
  type : SlotType

namespace Slot

def isOptional (slot : Slot) : Bool :=
  match slot.type with
  | .optionalNumber | .optionalText | .optionalObject => true
  | _ => false

def check (slot : Slot) (value : Value) : Except Mismatch Unit :=
  match slot.type with
  | .number => value.asDouble.map fun _ => ()
  | .flag => value.asBool.map fun _ => ()
  | .text => value.asString.map fun _ => ()
  | .vector excess => (Vec3.ofJson excess value).map fun _ => ()
  | .points => (Vec3.listOfJson value).map fun _ => ()
  | .optionalNumber => (value.asOptional Value.asDouble).map fun _ => ()
  | .optionalText => (value.asOptional Value.asString).map fun _ => ()
  | .optionalObject => (value.asOptional Value.asObject).map fun _ => ()

/-- The first complaint about the fields that have a slot: a key that came before, or a value that
    does not fit. -/
def checkPresent (slots : List Slot) (seen : List String) : Fields → Except Mismatch Unit
  | [] => .ok ()
  | (key, value) :: rest =>
    match slots.find? fun slot => slot.key == key with
    | none => checkPresent slots seen rest
    | some slot => do
      if seen.contains key then throw (.duplicateField key)
      slot.check value
      checkPresent slots (key :: seen) rest

def checkMissing (fields : Fields) : List Slot → Except Mismatch Unit
  | [] => .ok ()
  | slot :: rest =>
    if slot.isOptional || (fields.get? slot.key).isSome then checkMissing fields rest
    else .error (.missingField slot.key)

def checkAll (slots : List Slot) (fields : Fields) : Except Mismatch Unit := do
  checkPresent slots [] fields
  checkMissing fields slots

/-- Holds values without keys against the slots, one after the other; open slots at the end must be
    optional. `expected` says what the values should make. -/
def checkItems (expected : String) (place : Nat) : List Slot → List Value → Except Mismatch Unit
  | [], _ => .ok ()
  | slot :: slots, value :: values => do
    slot.check value
    checkItems expected (place + 1) slots values
  | slot :: slots, [] =>
    if slot.isOptional then checkItems expected (place + 1) slots []
    else .error (.wrongLength place expected)

end Slot

end AgentCanvas
