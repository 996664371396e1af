import AgentCanvas.Cli.Run
import AgentCanvas.Scene.Uuid

set_option autoImplicit false

namespace AgentCanvas.Cli

def readEnvironment : IO Environment := do
  let names := [levelVariable, dirVariable, forceVariable, plainVariable]
  let held ← names.mapM fun name => do
    return (← IO.getEnv name).map fun value => (name, value)
  return held.filterMap id

partial def readAll (input : IO.FS.Stream) (read : ByteArray) : IO ByteArray := do
  let more ← input.read 65536
  if more.isEmpty then return read else readAll input (read ++ more)

def readSeed : IO Nat := do
  let bytes ← IO.getRandomBytes 16
  return bytes.toList.foldl (fun seed byte => seed * 256 + byte.toNat) 0

def logFile (settings : LogSettings) : String :=
  settings.directory ++ "/" ++ Disk.logName

/-- Writes the events a log admits at the end of its file. What cannot be written is lost. -/
def writeEvents (settings : LogSettings) (events : List Event) : IO Unit := do
  let admitted := events.filter fun event => settings.level.admits event.level
  unless admitted.isEmpty do
    try
      IO.FS.withFile (logFile settings) .append fun file =>
        admitted.forM fun event => file.putStrLn event.line
    catch _ => return ()

def osErrorText : IO.Error → String
  | .noFileOrDirectory .. => OsError.notFound.text
  | .alreadyExists .. => OsError.alreadyThere.text
  | .inappropriateType .. => OsError.notDirectory.text
  | .invalidArgument _ 36 _ => OsError.nameTooLong.text
  | other => toString other

def isDirectory (path : String) : IO Bool := do
  try
    IO.FS.createDir (path ++ "/.")
    return false
  catch
    | .alreadyExists .. => return true
    | _ => return false

def settleDirectory (path : String) : IO Unit := do
  try
    IO.FS.createDir path
  catch error =>
    unless ← isDirectory path do throw error

/-- Makes a directory unless it is there, after `above` if those it is to stand in are missing. -/
def ensureDirectory (path : String) (above : IO Unit) : IO Unit := do
  try
    IO.FS.createDir path
  catch
    | .noFileOrDirectory .. => do
      above
      settleDirectory path
    | _ => settleDirectory path

def ensureDirectories : List String → IO Unit
  | [] => return ()
  | name :: above =>
    ensureDirectory ("/" ++ "/".intercalate (above.reverse ++ [name])) (ensureDirectories above)

def openLog (settings : LogSettings) : IO (Except String Unit) := do
  try
    ensureDirectory settings.directory
      (ensureDirectories (Path.components settings.directory).dropLast.reverse)
    writeEvents settings [.loggingStarted settings.level settings.directory AgentCanvas.version]
    return .ok ()
  catch error =>
    return .error ("failed to create log directory `" ++ settings.directory ++ "`: " ++
      osErrorText error)

def openRequestedLog (build : Build) (options : Options) : IO (Option LogSettings) := do
  match logRequest? build options with
  | none => return none
  | some (level, directory) =>
    let opened : Except String LogSettings ←
      match LogSettings.parse level directory with
      | .error message => pure (.error message)
      | .ok settings => do
        let opened ← openLog settings
        pure (opened.map fun _ => settings)
    match opened with
    | .ok settings =>
      writeEvents settings [.programStarted]
      return some settings
    | .error message =>
      IO.eprint (loggingDisabled message)
      return none

def runOptions (build : Build) (options : Options) : IO UInt32 := do
  if options.protocol then
    IO.print protocolText
    return 0
  let log ← openRequestedLog build options
  match String.fromUTF8? (← readAll (← IO.getStdin) .empty) with
  | none =>
    IO.eprint unreadableInput
    return 1
  | some message =>
    let (text, events) := messageText (.uuids (← readSeed)) message
    if let some settings := log then writeEvents settings events
    IO.print text
    return 0

def usageHint : String :=
  "error: wrong usage\n\nUsage: canvas_cli [OPTIONS]\n\nFor more information, try '--help'.\n"

end AgentCanvas.Cli

open AgentCanvas.Cli

def main (arguments : List String) : IO UInt32 := do
  let environment ← readEnvironment
  match Invocation.ofArguments arguments environment with
  | .help =>
    IO.print (helpText environment)
    return 0
  | .version =>
    IO.print versionText
    return 0
  | .wrongUsage =>
    IO.eprint usageHint
    return 2
  | .run options => runOptions .debug options
