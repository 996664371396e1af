import AgentCanvas.Command.Basic
import AgentCanvas.Element.Basic
import AgentCanvas.Scene.Store

set_option autoImplicit false

/-!
# Executing commands

A command is checked from the outside in: its verb, what the verb needs, whether the element is
there, and at last whether the values fit. Only a command that passes every check reaches the scene.
-/
namespace AgentCanvas

inductive CommandEffect where
  | created (id : ElementId)
  | updated (id : ElementId)
  | deleted (id : ElementId) (existed : Bool)
  | cleared (removed : Nat)
  | selected (id : ElementId)
  | deselected
  deriving DecidableEq, Repr

namespace CommandEffect

def elementId? : CommandEffect → Option ElementId
  | created id => some id
  | updated id => some id
  | deleted id _ => some id
  | selected id => some id
  | _ => none

def text : CommandEffect → String
  | created id => "created " ++ id.text
  | updated id => "updated " ++ id.text
  | deleted id true => "deleted " ++ id.text
  | deleted id false => "deleted " ++ id.text ++ " (not found, nothing removed)"
  | cleared removed => "cleared " ++ toString removed ++ " element(s)"
  | selected id => "selected " ++ id.text
  | deselected => "deselected"

end CommandEffect

inductive CommandError where
  | malformed (message : String)
  | unknownVerb (verb : String)
  | unknownElementType (name : String)
  | missingElementType
  | missingReference (verb : CommandVerb)
  | notFound (id : ElementId)
  deriving DecidableEq, Repr

namespace CommandError

def kind : CommandError → String
  | malformed _ => "malformed_command"
  | unknownVerb _ => "unknown_verb"
  | unknownElementType _ => "unknown_element_type"
  | missingElementType => "missing_element_type"
  | missingReference _ => "missing_reference"
  | notFound _ => "not_found"

def message : CommandError → String
  | malformed message => "malformed command: " ++ message
  | unknownVerb verb => unknownVerbMessage verb
  | unknownElementType name => "unknown element type: " ++ name
  | missingElementType => "create requires an element type"
  | missingReference verb => verb.name ++ " requires an element id"
  | notFound id => "element not found: " ++ id.text

end CommandError

abbrev CommandResult := Except CommandError CommandEffect

open Json

/-- How the store patches an element. -/
abbrev Updater := Store → ElementId → Fields → StoreStep (Except InvalidPatch Bool)

namespace Execution

def fail (store : Store) (error : CommandError) : StoreStep CommandResult :=
  ⟨.error error, store, []⟩

def done {α : Type} (step : StoreStep α) (effect : α → CommandEffect) : StoreStep CommandResult :=
  ⟨.ok (effect step.answer), step.store, step.events⟩

def create (store : Store) (command : Command) : StoreStep CommandResult :=
  match command.elementType with
  | none => fail store .missingElementType
  | some name =>
    match ElementKind.parse? name with
    | none => fail store (.unknownElementType name)
    | some kind =>
      match ElementProps.ofParams kind command.params with
      | .error why => fail store (.malformed why.message)
      | .ok props => done (store.add props) .created

/-- The id a command refers to, without the blanks around it. -/
def reference? (command : Command) : Option ElementId :=
  match command.elementId with
  | none => none
  | some raw =>
    let text := Text.trim raw
    if text.isEmpty then none else some ⟨text⟩

def withReference (store : Store) (verb : CommandVerb) (command : Command)
    (act : ElementId → StoreStep CommandResult) : StoreStep CommandResult :=
  match reference? command with
  | none => fail store (.missingReference verb)
  | some id => act id

def patchOf (command : Command) : Fields :=
  (command.params.getD []).filter fun field => !isReserved field.1

def update (updater : Updater) (store : Store) (command : Command) (id : ElementId) :
    StoreStep CommandResult :=
  if store.scene.contains id then
    let step := updater store id (patchOf command)
    match step.answer with
    | .error fault => ⟨.error (.malformed fault.message), step.store, step.events⟩
    | .ok false => ⟨.error (.notFound id), step.store, step.events⟩
    | .ok true => ⟨.ok (.updated id), step.store, step.events⟩
  else fail store (.notFound id)

def dispatch (updater : Updater) (store : Store) (command : Command) : StoreStep CommandResult :=
  match command.parsedVerb? with
  | none => fail store (.unknownVerb command.verb)
  | some .create => create store command
  | some .update => withReference store .update command (update updater store command)
  | some .delete =>
    withReference store .delete command fun id => done (store.remove id) (.deleted id)
  | some .clear => done store.clearAll .cleared
  | some .select =>
    withReference store .select command fun id =>
      done (store.select (some id)) fun _ => .selected id
  | some .deselect => done store.clearSelection fun _ => .deselected

def report (command : Command) : CommandResult → Event
  | .ok effect => .commandDone command.verb effect.elementId?
  | .error error => .commandFailed command.verb error.kind

end Execution

/-- Executes a command on a store that patches elements in the given way. -/
def executeVia (updater : Updater) (store : Store) (command : Command) : StoreStep CommandResult :=
  let step := Execution.dispatch updater store command
  { step with events := step.events ++ [Execution.report command step.answer] }

def execute (store : Store) (command : Command) : StoreStep CommandResult :=
  executeVia Store.update store command

/-- Executes commands one after the other; a failure does not stop the next one. -/
def executeAll (store : Store) : List Command → StoreStep (List CommandResult)
  | [] => ⟨[], store, []⟩
  | command :: rest =>
    let first := execute store command
    let others := executeAll first.store rest
    ⟨first.answer :: others.answer, others.store, first.events ++ others.events⟩

end AgentCanvas
