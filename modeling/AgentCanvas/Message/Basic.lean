import AgentCanvas.Command.Execution
import AgentCanvas.Json.Reader
import AgentCanvas.Log.Event
import AgentCanvas.Message.Inline
import AgentCanvas.Text.Word

set_option autoImplicit false

namespace AgentCanvas

open Json Text

namespace Block

def fence : List Char := ['\x60', '\x60', '\x60']

def isTag (c : Char) : Bool :=
  isWord c || c == '+' || c == '-'

def dropOne (c : Char) (text : List Char) : List Char :=
  if text.head? = some c then text.drop 1 else text

/-- What follows the rest of the line that opens a block: the tag, spaces and tabs, and the end of
    the line. -/
def skipHeader (text : List Char) : List Char :=
  let untagged := text.dropWhile isTag
  dropOne '\n' (dropOne '\r' (untagged.dropWhile fun c => c == ' ' || c == '\t'))

/-- The first fenced block of a text, up to the next fence. -/
def inside? (text : List Char) : Option (List Char) := do
  let (_, opened) ← splitAt? fence text
  let (inside, _) ← splitAt? fence (skipHeader opened)
  return inside

def body? (text : List Char) : Option String :=
  (inside? text).map fun inside => String.ofList (trimChars inside)

inductive Content where
  | invalid (position : Position) (message : String)
  | items (entries : List (Except Command.BlockFault Command))
  | single (item : Except Command.BlockFault Command)
  | other

def readBody (body : String) : Content :=
  match parse body with
  | .error fault => .invalid (fault.position body) (fault.message body)
  | .ok (.array values) => .items (values.map Command.ofBlock)
  | .ok (.object fields) =>
    if (Fields.get? fields "command").isSome then .single (Command.ofBlockFields fields) else .other
  | .ok _ => .other

/-- The faults of an array, each with the index of its item. -/
def itemFaults (items : List (Except Command.BlockFault Command)) :
    List (Nat × Command.BlockFault) :=
  items.zipIdx.filterMap fun (item, index) =>
    match item with
    | .ok _ => none
    | .error fault => some (index, fault)

def Content.commands : Content → List Command
  | items entries => entries.filterMap Except.toOption
  | single item => item.toOption.toList
  | _ => []

def Content.issues : Content → List ParseIssue
  | invalid _ message => [.invalidBlockJson message]
  | items entries => (itemFaults entries).map fun (index, fault) => .invalidBlockItem index fault
  | single (.ok _) => []
  | single (.error fault) => [.invalidBlockItem 0 fault]
  | other => [.blockNotCommand]

def Content.events : Content → List Event
  | invalid position _ => [.blockInvalid position]
  | items entries => (itemFaults entries).map fun (index, _) => .blockItemInvalid index
  | single (.ok _) => []
  | single (.error _) => [.blockObjectInvalid]
  | other => [.blockNotCommand]

def find? (text : List Char) : Option Content :=
  (body? text).map readBody

end Block

structure ParsedMessage where
  commands : List Command
  issues : List ParseIssue
  events : List Event

def parseMessage (message : String) : ParsedMessage :=
  let text := message.toList
  let found := Inline.findAll text
  let block := Block.find? text
  let inline := Inline.commands found
  let fenced := (block.map Block.Content.commands).getD []
  let issues := Inline.issues found ++ (block.map Block.Content.issues).getD []
  { commands := inline ++ fenced
    issues
    events :=
      (block.map Block.Content.events).getD [] ++
        [.messageParsed inline.length fenced.length issues.length] }

def parseCommands (message : String) : List Command :=
  (parseMessage message).commands

structure BatchReport where
  commands : List Command
  results : List CommandResult
  issues : List ParseIssue

namespace BatchReport

def isSuccess : CommandResult → Bool
  | .ok _ => true
  | .error _ => false

def succeeded (report : BatchReport) : Nat :=
  (report.results.filter isSuccess).length

def failed (report : BatchReport) : Nat :=
  report.commands.length - report.succeeded

end BatchReport

def process (store : Store) (message : String) : StoreStep BatchReport :=
  let parsed := parseMessage message
  let run := executeAll store parsed.commands
  let report : BatchReport := ⟨parsed.commands, run.answer, parsed.issues⟩
  let summary : Event :=
    .batchDone report.commands.length report.succeeded report.failed report.issues.length
      run.store.scene.elements.length
  ⟨report, run.store, parsed.events ++ run.events ++ [summary]⟩

end AgentCanvas
