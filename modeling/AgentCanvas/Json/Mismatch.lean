import AgentCanvas.Json.Value
import AgentCanvas.Text.Printable

set_option autoImplicit false

namespace AgentCanvas.Json

inductive Mismatch where
  | wrongType (got : Value) (expected : String)
  | wrongLength (length : Nat) (expected : String)
  | missingField (key : String)
  | duplicateField (key : String)
  | unknownVariant (name : String) (known : List String)
  | variantIndex (index : Nat) (count : Nat)
  | notSingleKey
  deriving Repr

def Value.describe : Value → String
  | .null => "null"
  | .bool value => "boolean `" ++ (if value then "true" else "false") ++ "`"
  | .number (.int n) => "integer `" ++ toString n ++ "`"
  | .number (.real x) => "floating point `" ++ x.text ++ "`"
  | .string text => "string " ++ AgentCanvas.Text.quoted text
  | .array _ => "sequence"
  | .object _ => "map"

namespace Mismatch

def backquoted (text : String) : String :=
  "`" ++ text ++ "`"

def message : Mismatch → String
  | wrongType got expected => "invalid type: " ++ got.describe ++ ", expected " ++ expected
  | wrongLength length expected =>
    "invalid length " ++ toString length ++ ", expected " ++ expected
  | missingField key => "missing field " ++ backquoted key
  | duplicateField key => "duplicate field " ++ backquoted key
  | unknownVariant name known =>
    "unknown variant " ++ backquoted name ++ ", expected one of " ++
      ", ".intercalate (known.map backquoted)
  | variantIndex index count =>
    "invalid value: integer `" ++ toString index ++ "`, expected variant index 0 <= i < " ++
      toString count
  | notSingleKey => "invalid value: map, expected map with a single key"

end Mismatch

namespace Value

def asDouble : Value → Except Mismatch Double
  | .number n => .ok n.toDouble
  | value => .error (.wrongType value "f64")

def asBool : Value → Except Mismatch Bool
  | .bool b => .ok b
  | value => .error (.wrongType value "a boolean")

def asString : Value → Except Mismatch String
  | .string text => .ok text
  | value => .error (.wrongType value "a string")

def asObject : Value → Except Mismatch Fields
  | .object fields => .ok fields
  | value => .error (.wrongType value "a map")

/-- An optional value, where null stands for its absence. -/
def asOptional {α : Type} (read : Value → Except Mismatch α) : Value → Except Mismatch (Option α)
  | .null => .ok none
  | value => (read value).map some

end Value

namespace Fields

def required {α : Type} (fields : Fields) (key : String) (read : Value → Except Mismatch α) :
    Except Mismatch α :=
  match fields.get? key with
  | some value => read value
  | none => .error (.missingField key)

def optional {α : Type} (fields : Fields) (key : String) (read : Value → Except Mismatch α) :
    Except Mismatch (Option α) :=
  match fields.get? key with
  | some value => value.asOptional read
  | none => .ok none

end Fields
end AgentCanvas.Json
