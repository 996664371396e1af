import AgentCanvas.Log.Event
import AgentCanvas.Text.Basic

set_option autoImplicit false

namespace AgentCanvas

namespace LogLevel

def parse (raw : String) : Except String LogLevel :=
  match Text.lower (Text.trim raw) with
  | "trace" => .ok .trace
  | "debug" => .ok .debug
  | "info" => .ok .info
  | "warn" => .ok .warn
  | "warning" => .ok .warn
  | "error" => .ok .error
  | other =>
    .error ("unsupported log level `" ++ other ++ "`; expected trace|debug|info|warn|error")

end LogLevel

namespace Path

def names (path : String) : List String :=
  let (last, before) := path.toList.foldr
    (fun c (current, done) =>
      if c = '/' then ([], String.ofList current :: done) else (c :: current, done)) ([], [])
  (String.ofList last :: before).filter fun name => !name.isEmpty

/-- The components of an absolute path. A single dot names nothing; a double dot is kept. -/
def components (path : String) : List String :=
  (names path).filter fun name => name != "."

def isAbsolute (path : String) : Bool :=
  path.toList.head? == some '/'

def same (p q : String) : Bool :=
  components p == components q

end Path

structure LogSettings where
  level : LogLevel
  /-- An absolute path, as it was given but for the blanks around it. -/
  directory : String
  deriving DecidableEq, Repr

namespace LogSettings

def parseDirectory (raw : String) : Except String String :=
  let path := Text.trim raw
  if path.isEmpty then .error "log_dir cannot be empty"
  else if Path.isAbsolute path then .ok path
  else .error ("log_dir must be an absolute path, got `" ++ path ++ "`")

def parse (level directory : String) : Except String LogSettings := do
  return { level := ← LogLevel.parse level, directory := ← parseDirectory directory }

/-- Why a log that is kept already cannot serve for other settings. -/
def conflict? (active requested : LogSettings) : Option String :=
  if !Path.same active.directory requested.directory then
    some ("logging already writes to `" ++ active.directory ++ "`; refusing to switch to `" ++
      requested.directory ++ "`")
  else if active.level ≠ requested.level then
    some ("logging already runs at level `" ++ active.level.name ++ "`; refusing to switch to `" ++
      requested.level.name ++ "`")
  else none

end LogSettings

/-- How a log is started, and what that does to the world, whether or not it succeeds. -/
abbrev Starter (σ : Type) := LogSettings → σ → Except String Unit × σ

/-- A world that can keep a log: how one is started, and how it takes events. -/
class LogBackend (σ : Type) where
  start : Starter σ
  write : LogSettings → σ → List Event → σ

/-- The log of a program, if it keeps one, and the world around the program. -/
structure LogSession (σ : Type) where
  active : Option LogSettings
  world : σ

namespace LogSession

variable {σ : Type}

def idle (world : σ) : LogSession σ :=
  ⟨none, world⟩

/-- Answers a request for a log at a level in a directory. -/
def request (start : Starter σ) (session : LogSession σ) (level directory : String) :
    Except String Unit × LogSession σ :=
  match LogSettings.parse level directory with
  | .error message => (.error message, session)
  | .ok requested =>
    match session.active with
    | some active =>
      match active.conflict? requested with
      | some message => (.error message, session)
      | none => (.ok (), session)
    | none =>
      match start requested session.world with
      | (.error message, world) => (.error message, ⟨none, world⟩)
      | (.ok (), world) => (.ok (), ⟨some requested, world⟩)

def status (session : LogSession σ) : Option (LogLevel × String) :=
  session.active.map fun settings => (settings.level, settings.directory)

def record [LogBackend σ] (session : LogSession σ) (events : List Event) : LogSession σ :=
  match session.active with
  | none => session
  | some settings => { session with world := LogBackend.write settings session.world events }

end LogSession

end AgentCanvas
