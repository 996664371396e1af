import AgentCanvas.Log.Disk
import AgentCanvas.Log.Session
import AgentCanvas.Protocol

set_option autoImplicit false

namespace AgentCanvas

def Entries.files (entries : Entries) : List String :=
  entries.filterMap fun
    | (name, .file _) => some name
    | (_, .directory _) => none

def Entries.withoutOutdated (entries : Entries) : Entries :=
  let outdated := OldLog.outdated entries.files
  entries.filter fun entry => !outdated.contains entry.1

namespace Disk

def logName : String := "canvas_rCURRENT.log"

def logSpot? (disk : Disk) (directory : String) : Option Spot :=
  if (Path.refusal? (directory ++ "/" ++ logName)).isSome then none
  else (disk.walkRoot (Path.names directory)).toOption

def log? (disk : Disk) (directory : String) : Option (Spot × List Event) := do
  let spot ← disk.logSpot? directory
  match ← spot.entries.get? logName with
  | .file events => return (spot, events)
  | .directory _ => none

def readLog? (disk : Disk) (directory : String) : Option (List Event) :=
  (disk.log? directory).map Prod.snd

/-- Opens the log of a directory, which is an empty one if it was not there. -/
def openLog? (disk : Disk) (directory : String) : Option Disk := do
  let spot ← disk.logSpot? directory
  let tidy : Spot := { spot with entries := spot.entries.withoutOutdated }
  match spot.entries.get? logName with
  | none => return tidy.put logName (.file [])
  | some (.file events) => return tidy.put logName (.file events)
  | some (.directory _) => none

def writeLog (disk : Disk) (directory : String) (events : List Event) : Disk :=
  match disk.log? directory with
  | some (spot, written) => spot.put logName (.file (written ++ events))
  | none => disk

end Disk

/-- The world of a program that may keep a log. -/
structure LogWorld where
  disk : Disk
  claimed : Bool
  opened : Bool

namespace LogWorld

def claim (world : LogWorld) : Bool × LogWorld :=
  (!world.claimed, { world with claimed := true })

def openLog (directory : String) (world : LogWorld) : LogWorld :=
  if world.opened then world
  else
    match world.disk.openLog? directory with
    | some disk => { world with disk, opened := true }
    | none => world

/-- Writes the events a log with these settings admits. The first of them opens it, and while it
    cannot be opened events are lost. -/
def record (settings : LogSettings) (world : LogWorld) (events : List Event) : LogWorld :=
  match events.filter fun event => settings.level.admits event.level with
  | [] => world
  | admitted =>
    let world := world.openLog settings.directory
    if world.opened then
      { world with disk := world.disk.writeLog settings.directory admitted }
    else world

/-- Starts a log: its directory is made first, then the place for it is taken. -/
def start : Starter LogWorld := fun settings world =>
  match world.disk.createAll settings.directory with
  | (.error error, disk) =>
    (.error ("failed to create log directory `" ++ settings.directory ++ "`: " ++ error.text),
      { world with disk })
  | (.ok (), disk) =>
    match claim { world with disk } with
    | (true, world) =>
      (.ok (),
        world.record settings [.loggingStarted settings.level settings.directory version])
    | (false, world) => (.error "failed to start logger: Logger initialization failed", world)

instance : LogBackend LogWorld := ⟨start, record⟩

end LogWorld

end AgentCanvas
