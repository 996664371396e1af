import AgentCanvas.Element.Basic
import AgentCanvas.Json.Fault

set_option autoImplicit false

namespace AgentCanvas

inductive LogLevel where
  | error
  | warn
  | info
  | debug
  | trace
  deriving DecidableEq, Repr

/-- What a program is built for: to be worked on, or to be handed out. -/
inductive Build where
  | debug
  | release
  deriving DecidableEq, Repr

namespace LogLevel

def name : LogLevel → String
  | error => "error"
  | warn => "warn"
  | info => "info"
  | debug => "debug"
  | trace => "trace"

def label : LogLevel → String
  | error => "ERROR"
  | warn => "WARN"
  | info => "INFO"
  | debug => "DEBUG"
  | trace => "TRACE"

def severity : LogLevel → Nat
  | error => 1
  | warn => 2
  | info => 3
  | debug => 4
  | trace => 5

def admits (kept level : LogLevel) : Bool :=
  level.severity ≤ kept.severity

/-- The level of a log when none is asked for. -/
def standard (build : Build := .debug) : LogLevel :=
  match build with
  | .debug => debug
  | .release => info

end LogLevel

inductive Event where
  | elementAdded (id : ElementId) (kind : ElementKind) (count : Nat)
  | elementUpdated (id : ElementId) (fields : Nat)
  | updateMissed (id : ElementId)
  | elementRemoved (id : ElementId) (count : Nat)
  | removeMissed (id : ElementId)
  | selectionChanged (selected : Option ElementId) (known : Bool)
  | sceneCleared (removed : Nat)
  | commandDone (verb : String) (id : Option ElementId)
  | commandFailed (verb : String) (error : String)
  | messageParsed (inline block issues : Nat)
  | blockInvalid (position : Json.Position)
  | blockItemInvalid (index : Nat)
  | blockObjectInvalid
  | blockNotCommand
  | batchDone (commands succeeded failed issues sceneSize : Nat)
  | loggingStarted (level : LogLevel) (directory : String) (version : String)
  | panicCaptured (location payload : String)
  | programStarted
  deriving DecidableEq, Repr

namespace Event

def level : Event → LogLevel
  | elementAdded .. => .debug
  | elementUpdated .. => .debug
  | updateMissed .. => .debug
  | elementRemoved .. => .debug
  | removeMissed .. => .debug
  | selectionChanged .. => .debug
  | sceneCleared .. => .debug
  | commandDone .. => .debug
  | commandFailed .. => .info
  | messageParsed .. => .debug
  | blockInvalid .. => .warn
  | blockItemInvalid .. => .warn
  | blockObjectInvalid => .warn
  | blockNotCommand => .warn
  | batchDone .. => .info
  | loggingStarted .. => .info
  | panicCaptured .. => .error
  | programStarted => .info

def head (event module status : String) : String :=
  "event=" ++ event ++ " module=" ++ module ++ " status=" ++ status

def item (key value : String) : String :=
  " " ++ key ++ "=" ++ value

def idOr (absent : String) : Option ElementId → String
  | some id => id.text
  | none => absent

def text : Event → String
  | elementAdded id kind count =>
    head "element_add" "store" "ok" ++ item "id" id.text ++ item "type" kind.name ++
      item "count" (toString count)
  | elementUpdated id fields =>
    head "element_update" "store" "ok" ++ item "id" id.text ++ item "fields" (toString fields)
  | updateMissed id => head "element_update" "store" "missing" ++ item "id" id.text
  | elementRemoved id count =>
    head "element_remove" "store" "ok" ++ item "id" id.text ++ item "count" (toString count)
  | removeMissed id => head "element_remove" "store" "missing" ++ item "id" id.text
  | selectionChanged selected known =>
    head "selection_change" "store" "ok" ++ item "selected" (idOr "none" selected) ++
      item "known" (if known then "true" else "false")
  | sceneCleared removed => head "scene_clear" "store" "ok" ++ item "removed" (toString removed)
  | commandDone verb id =>
    head "command_execute" "executor" "ok" ++ item "verb" verb ++ item "id" (idOr "-" id)
  | commandFailed verb error =>
    head "command_execute" "executor" "error" ++ item "verb" verb ++ item "error" error
  | messageParsed inline block issues =>
    head "message_parse" "parser" "ok" ++ item "inline" (toString inline) ++
      item "block" (toString block) ++ item "issues" (toString issues)
  | blockInvalid position =>
    head "block_parse" "parser" "error" ++ item "reason" "invalid_json" ++
      item "line" (toString position.line) ++ item "column" (toString position.column)
  | blockItemInvalid index =>
    head "block_parse" "parser" "error" ++ item "reason" "invalid_item" ++
      item "index" (toString index)
  | blockObjectInvalid => head "block_parse" "parser" "error" ++ item "reason" "invalid_object"
  | blockNotCommand => head "block_parse" "parser" "error" ++ item "reason" "not_a_command"
  | batchDone commands succeeded failed issues sceneSize =>
    head "batch_process" "processor" "ok" ++ item "commands" (toString commands) ++
      item "succeeded" (toString succeeded) ++ item "failed" (toString failed) ++
      item "issues" (toString issues) ++ item "scene_size" (toString sceneSize)
  | loggingStarted level directory version =>
    head "logging_init" "core" "ok" ++ item "level" level.name ++ item "log_dir" directory ++
      item "version" version
  | panicCaptured location payload =>
    head "panic_captured" "core" "error" ++ item "location" location ++ item "payload" payload
  | programStarted => head "cli_start" "cli" "ok"

def line (event : Event) : String :=
  event.level.label ++ " " ++ event.text

end Event

end AgentCanvas
