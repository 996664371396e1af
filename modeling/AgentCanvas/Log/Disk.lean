import AgentCanvas.Log.Session

set_option autoImplicit false

namespace AgentCanvas

namespace OldLog

def base : List Char := "canvas".toList

def splitName? (name : List Char) : Option (List Char × List Char) :=
  match name.reverse.dropWhile fun c => c != '.' with
  | [] => none
  | _ :: before => some (before.reverse, (name.reverse.takeWhile fun c => c != '.').reverse)

/-- Whether a mark is the number of a log: it has two characters behind its letter or more, and the
    first of them is a digit. -/
def isNumber : List Char → Bool
  | 'r' :: digit :: _ :: _ => digit.isDigit
  | _ => false

/-- The mark in a name: it stands behind the base and one more character, and ends at a dot. -/
def mark (stem : List Char) : List Char :=
  (stem.drop (base.length + 1)).takeWhile fun c => c != '.'

def hasName (ending name : String) : Bool :=
  match splitName? name.toList with
  | some (stem, behind) => behind == ending.toList && base.isPrefixOf stem && isNumber (mark stem)
  | none => false

/-- The names of the old logs with an ending, the newest one first. -/
def newestFirst (ending : String) (names : List String) : List String :=
  (names.filter (hasName ending)).mergeSort fun a b => decide (b ≤ a)

def kept : Nat := 3

/-- The names of the old logs that are not kept. Packed ones count as older than all others. -/
def outdated (names : List String) : List String :=
  (newestFirst "log" names ++ newestFirst "gz" names).drop kept

end OldLog

inductive OsError where
  | notFound
  | alreadyThere
  | notDirectory
  | nameTooLong
  | zeroInName
  deriving DecidableEq, Repr

def OsError.text : OsError → String
  | notFound => "No such file or directory (os error 2)"
  | alreadyThere => "File exists (os error 17)"
  | notDirectory => "Not a directory (os error 20)"
  | nameTooLong => "File name too long (os error 36)"
  | zeroInName => "file name contained an unexpected NUL byte"

inductive Node where
  | file (events : List Event)
  | directory (entries : List (String × Node))

abbrev Entries := List (String × Node)

namespace Entries

def get? (entries : Entries) (name : String) : Option Node :=
  (entries.find? fun entry => entry.1 == name).map Prod.snd

def put (name : String) (node : Node) : Entries → Entries
  | [] => [(name, node)]
  | entry :: rest => if entry.1 = name then (name, node) :: rest else entry :: put name node rest

end Entries

/-- A directory that was walked to: what it holds, and the directories the way led through, the last
    one first, each with the name that was taken in it. -/
structure Spot where
  entries : Entries
  above : List (Entries × String)

/-- The disk itself is the directory all paths start in. -/
structure Disk where
  root : Entries

namespace Spot

def parent (spot : Spot) : Spot :=
  match spot.above with
  | [] => spot
  | (entries, _) :: above => ⟨entries, above⟩

def disk (spot : Spot) : Disk :=
  ⟨spot.above.foldl (fun inner (outer, name) => Entries.put name (.directory inner) outer)
    spot.entries⟩

def put (spot : Spot) (name : String) (node : Node) : Disk :=
  disk { spot with entries := Entries.put name node spot.entries }

end Spot

namespace Path

def nameLimit : Nat := 255

def pathLimit : Nat := 4095

def refusal? (path : String) : Option OsError :=
  if path.toList.contains '\x00' then some .zeroInName
  else if path.utf8ByteSize > pathLimit then some .nameTooLong
  else none

/-- Why there is nothing under a name. -/
def absence (name : String) : OsError :=
  if name.utf8ByteSize > nameLimit then .nameTooLong else .notFound

end Path

namespace Disk

def walk (spot : Spot) : List String → Except OsError Spot
  | [] => .ok spot
  | "." :: rest => walk spot rest
  | ".." :: rest => walk spot.parent rest
  | name :: rest =>
    match spot.entries.get? name with
    | some (.directory entries) => walk ⟨entries, (spot.entries, name) :: spot.above⟩ rest
    | some (.file _) => .error .notDirectory
    | none => .error (Path.absence name)

def walkRoot (disk : Disk) (names : List String) : Except OsError Spot :=
  walk ⟨disk.root, []⟩ names

def makeDirectory (disk : Disk) (names : List String) : Except OsError Disk :=
  match names.getLast? with
  | none => .error .alreadyThere
  | some name => do
    let spot ← disk.walkRoot names.dropLast
    if name = "." ∨ name = ".." ∨ (spot.entries.get? name).isSome then throw .alreadyThere
    else if Path.absence name = .nameTooLong then throw .nameTooLong
    else return spot.put name (.directory [])

def settle (disk : Disk) (names : List String) : Except OsError Unit × Disk :=
  match disk.makeDirectory names with
  | .ok made => (.ok (), made)
  | .error error => (if (disk.walkRoot names).toBool then .ok () else .error error, disk)

/-- Makes a directory unless it is there. `above` makes those it is to stand in, and is used when
    one of them is missing; what it made stays even if the directory itself cannot be made. -/
def ensure (disk : Disk) (names : List String) (above : Unit → Except OsError Unit × Disk) :
    Except OsError Unit × Disk :=
  match disk.makeDirectory names with
  | .error .notFound =>
    match above () with
    | (.ok (), disk) => disk.settle names
    | refused => refused
  | _ => disk.settle names

def ensureAll (disk : Disk) : List String → Except OsError Unit × Disk
  | [] => (.ok (), disk)
  | name :: above => disk.ensure (above.reverse ++ [name]) fun () => disk.ensureAll above

def createAll (disk : Disk) (path : String) : Except OsError Unit × Disk :=
  match Path.refusal? path with
  | some error => (.error error, disk)
  | none => disk.ensure (Path.names path) fun () =>
    disk.ensureAll (Path.components path).dropLast.reverse

/-- Puts an empty file under a path, unless a directory is there or none to hold it. -/
def putFile (disk : Disk) (path : String) : Disk :=
  let names := Path.names path
  let refused := (Path.refusal? path).isSome || path.endsWith "/"
  match names.getLast?, disk.walkRoot names.dropLast with
  | some name, .ok spot =>
    let refused := refused || name = "." || name = ".." || Path.absence name = .nameTooLong
    match refused, spot.entries.get? name with
    | true, _ => disk
    | _, some (.directory _) => disk
    | _, _ => spot.put name (.file [])
  | _, _ => disk

mutual

/-- The paths of all that stands in a directory whose own path is given. The paths of directories
    end in a slash. -/
def pathsIn (path : String) : Entries → List String
  | [] => []
  | entry :: rest => pathsOf path entry ++ pathsIn path rest

def pathsOf (path : String) : String × Node → List String
  | (name, .file _) => [path ++ name]
  | (name, .directory entries) =>
    (path ++ name ++ "/") :: pathsIn (path ++ name ++ "/") entries

end

end Disk

end AgentCanvas
