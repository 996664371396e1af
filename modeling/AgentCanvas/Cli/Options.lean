import AgentCanvas.Protocol
import AgentCanvas.Text.Terminal

set_option autoImplicit false

namespace AgentCanvas.Cli

open Text.Terminal

structure Options where
  protocol : Bool
  logLevel : Option String
  logDir : Option String
  deriving DecidableEq, Repr

inductive Invocation where
  | help
  | version
  | wrongUsage
  | run (options : Options)
  deriving DecidableEq, Repr

abbrev Environment := List (String × String)

def Environment.get? (environment : Environment) (name : String) : Option String :=
  (environment.find? fun held => held.1 == name).map Prod.snd

def levelVariable : String := "CANVAS_LOG_LEVEL"

def dirVariable : String := "CANVAS_LOG_DIR"

def forceVariable : String := "CLICOLOR_FORCE"

def plainVariable : String := "NO_COLOR"

/-- Whether an argument looks like an option, so that it cannot be the value of the one before. -/
def looksLikeOption (argument : String) : Bool :=
  argument.startsWith "-" && argument != "-"

inductive Valued where
  | logLevel
  | logDir

def Valued.flag : Valued → String
  | logLevel => "--log-level"
  | logDir => "--log-dir"

/-- The options with a value added; an option can be given once only. -/
def Options.set? (options : Options) (value : String) : Valued → Option Options
  | .logLevel =>
    if options.logLevel.isSome then none else some { options with logLevel := some value }
  | .logDir => if options.logDir.isSome then none else some { options with logDir := some value }

def attached? (option : Valued) (argument : String) : Option String :=
  let start := option.flag ++ "="
  if argument.startsWith start then some (String.ofList (argument.toList.drop start.length))
  else none

def valued? (argument : String) : Option Valued :=
  if argument = Valued.logLevel.flag then some .logLevel
  else if argument = Valued.logDir.flag then some .logDir
  else none

def readArguments (options : Options) : List String → Invocation
  | [] => .run options
  | argument :: rest =>
    if argument = "--help" ∨ argument.startsWith "-h" then .help
    else if argument = "--version" ∨ argument.startsWith "-V" then .version
    else if argument = "--protocol" then
      if options.protocol then .wrongUsage else readArguments { options with protocol := true } rest
    else if argument = "--" then if rest.isEmpty then .run options else .wrongUsage
    else
      match valued? argument with
      | some option =>
        match rest with
        | value :: rest =>
          if looksLikeOption value then .wrongUsage
          else
            match options.set? value option with
            | some options => readArguments options rest
            | none => .wrongUsage
        | [] => .wrongUsage
      | none =>
        match (attached? .logLevel argument).bind (options.set? · .logLevel),
            (attached? .logDir argument).bind (options.set? · .logDir) with
        | some options, _ => readArguments options rest
        | _, some options => readArguments options rest
        | none, none => .wrongUsage

def Invocation.ofArguments (arguments : List String) (environment : Environment) : Invocation :=
  match readArguments ⟨false, none, none⟩ arguments with
  | .run options =>
    .run { options with
      logLevel := options.logLevel <|> environment.get? levelVariable
      logDir := options.logDir <|> environment.get? dirVariable }
  | settled => settled

def versionText : String :=
  "canvas " ++ AgentCanvas.version ++ "\n"

/-- Whether the environment asks for styled text although nobody watches a terminal. -/
def Environment.wantsStyles (environment : Environment) : Bool :=
  let isSet (name : String) := !((environment.get? name).getD "").isEmpty
  isSet forceVariable && !isSet plainVariable

def indented (column : Nat) (text : String) : String :=
  let gap := List.replicate column ' '
  String.ofList (text.toList.flatMap fun c => if c = '\n' then c :: gap else [c])

def helpColumn : Nat := 31

def styledHelp (environment : Environment) : String :=
  let held (name : String) :=
    indented helpColumn ("[env: " ++ name ++ "=" ++ (environment.get? name).getD "" ++ "]") ++ "\n"
  String.join [
    "Apply canvas commands from one agent message on stdin\n",
    "\n",
    heading "Usage:", " ", bold "canvas_cli", " [OPTIONS]\n",
    "\n",
    heading "Options:", "\n",
    "      ", bold "--protocol", "               ",
    "Print the agent-facing command protocol and exit\n",
    "      ", bold "--log-level", " <LOG_LEVEL>  ",
    "Log level for the file logger ", held levelVariable,
    "      ", bold "--log-dir", " <LOG_DIR>      ",
    "Absolute directory for log files; file logging is off when unset ", held dirVariable,
    "  ", bold "-h", ", ", bold "--help", "                   Print help\n",
    "  ", bold "-V", ", ", bold "--version", "                Print version\n"]

def helpText (environment : Environment) : String :=
  if environment.wantsStyles then styledHelp environment else shown (styledHelp environment)

end AgentCanvas.Cli
