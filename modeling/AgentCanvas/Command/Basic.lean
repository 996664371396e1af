import AgentCanvas.Element.Slot
import AgentCanvas.Text.Basic

set_option autoImplicit false

namespace AgentCanvas

inductive CommandVerb where
  | create
  | update
  | delete
  | clear
  | select
  | deselect
  deriving DecidableEq, Repr

namespace CommandVerb

def all : List CommandVerb := [create, update, delete, clear, select, deselect]

def name : CommandVerb → String
  | create => "create"
  | update => "update"
  | delete => "delete"
  | clear => "clear"
  | select => "select"
  | deselect => "deselect"

def parse? (raw : String) : Option CommandVerb :=
  let name := Text.lower (Text.trim raw)
  all.find? fun verb => verb.name == name

end CommandVerb

def unknownVerbMessage (raw : String) : String :=
  "unknown command verb: " ++ raw

open Json

structure Command where
  verb : String
  elementType : Option String
  elementId : Option String
  params : Option Fields
  deriving Repr

namespace Command

def ofVerb (verb : String) : Command :=
  ⟨verb, none, none, none⟩

def parsedVerb? (command : Command) : Option CommandVerb :=
  CommandVerb.parse? command.verb

def present {α : Type} (key : String) (json : α → Value) : Option α → Fields
  | none => []
  | some value => [(key, json value)]

def fields (command : Command) : Fields :=
  ("command", .string command.verb) :: present "elementType" Value.string command.elementType ++
    present "elementId" Value.string command.elementId ++
    present "params" Value.object command.params

def json (command : Command) : Value :=
  .object command.fields

/-- Equal commands, by the values of the numbers in their parameters. -/
def same (a b : Command) : Bool :=
  a.verb == b.verb && a.elementType == b.elementType && a.elementId == b.elementId &&
    match a.params, b.params with
    | none, none => true
    | some p, some q => Value.sameFields p q
    | _, _ => false

def slots : List Slot :=
  [⟨"command", .text⟩, ⟨"elementType", .optionalText⟩, ⟨"elementId", .optionalText⟩,
    ⟨"params", .optionalObject⟩]

def ofSlots (fields : Fields) : Except Mismatch Command := do
  return {
    verb := ← fields.required "command" Value.asString
    elementType := ← fields.optional "elementType" Value.asString
    elementId := ← fields.optional "elementId" Value.asString
    params := ← fields.optional "params" Value.asObject }

/-- A command from an object with its fields, or from an array with their values in order. -/
def ofJson : Value → Except Mismatch Command
  | .object fields => do
    Slot.checkAll slots fields
    ofSlots fields
  | .array items => do
    Slot.checkItems "struct Command with 4 elements" 0 slots items
    if slots.length < items.length then
      throw (.wrongLength items.length "fewer elements in array")
    ofSlots ((slots.map Slot.key).zip items)
  | value => .error (.wrongType value "struct Command")

inductive BlockFault where
  | notAnObject
  | verbNotScalar
  deriving DecidableEq, Repr

def BlockFault.message : BlockFault → String
  | notAnObject => "expected an object with a `command` field"
  | verbNotScalar => "`command` must be a string, number or boolean"

def scalarText? : Value → Option String
  | .string text => some text
  | .number number => some number.text
  | .bool value => some (if value then "true" else "false")
  | _ => none

def objectField? (fields : Fields) (key : String) : Option Fields :=
  match fields.get? key with
  | some (.object params) => some params
  | _ => none

/-- A command from the fields of an object in a block. Scalars are taken as text, and parameters
    that are no object count as absent. -/
def ofBlockFields (fields : Fields) : Except BlockFault Command :=
  match (fields.get? "command").bind scalarText? with
  | none => .error .verbNotScalar
  | some verb =>
    .ok {
      verb
      elementType := (fields.get? "elementType").bind scalarText?
      elementId := (fields.get? "elementId").bind scalarText?
      params := objectField? fields "params" }

def ofBlock : Value → Except BlockFault Command
  | .object fields => ofBlockFields fields
  | _ => .error .notAnObject

end Command

end AgentCanvas
