import AgentCanvas.Cli.Options
import AgentCanvas.Json.Value
import AgentCanvas.Log.File
import AgentCanvas.Message.Basic

set_option autoImplicit false

namespace AgentCanvas.Cli

structure Output where
  code : Nat
  stdout : String
  stderr : String
  deriving DecidableEq, Repr

def outcomeLine (command : Command) : CommandResult → String
  | .ok effect => "ok " ++ command.verb ++ " " ++ effect.text ++ "\n"
  | .error error => "error " ++ command.verb ++ " " ++ error.message ++ "\n"

def issueLine (issue : ParseIssue) : String :=
  "warn " ++ issue.text ++ "\n"

def reportText (report : BatchReport) : String :=
  String.join (report.issues.map issueLine) ++
    String.join (report.commands.zipWith outcomeLine report.results)

/-- All that is printed for a message, and the events of the work on it. -/
def messageText (ids : IdSource) (message : String) : String × List Event :=
  let step := process (.empty ids) message
  (reportText step.answer ++ step.store.scene.snapshot.json.pretty ++ "\n", step.events)

def logRequest? (build : Build) (options : Options) : Option (String × String) :=
  options.logDir.map fun directory =>
    (options.logLevel.getD (LogLevel.standard build).name, directory)

def loggingDisabled (message : String) : String :=
  "logging disabled: " ++ message ++ "\n"

def unreadableInput : String :=
  "failed to read stdin: stream did not contain valid UTF-8\n"

section

variable {σ : Type} [LogBackend σ]

/-- Starts the log that is asked for, and says what went wrong with it. -/
def startLogging (build : Build) (options : Options) (session : LogSession σ) :
    String × LogSession σ :=
  match logRequest? build options with
  | none => ("", session)
  | some (level, directory) =>
    match session.request LogBackend.start level directory with
    | (.ok (), session) => ("", session.record [.programStarted])
    | (.error message, session) => (loggingDisabled message, session)

def runWith (build : Build) (options : Options) (ids : IdSource) (input : ByteArray) (world : σ) :
    Output × σ :=
  if options.protocol then (⟨0, protocolText, ""⟩, world)
  else
    let (complaint, session) := startLogging build options (.idle world)
    match String.fromUTF8? input with
    | none => (⟨1, "", complaint ++ unreadableInput⟩, session.world)
    | some message =>
      let (text, events) := messageText ids message
      (⟨0, text, complaint⟩, (session.record events).world)

/-- A run of the program: its arguments, its environment and its input in a world. The words of a
    complaint about the command line are left to the caller. -/
def run (arguments : List String) (environment : Environment) (ids : IdSource) (input : ByteArray)
    (world : σ) (build : Build := .debug) : Output × σ :=
  match Invocation.ofArguments arguments environment with
  | .help => (⟨0, helpText environment, ""⟩, world)
  | .version => (⟨0, versionText, ""⟩, world)
  | .wrongUsage => (⟨2, "", ""⟩, world)
  | .run options => runWith build options ids input world

end

end AgentCanvas.Cli
