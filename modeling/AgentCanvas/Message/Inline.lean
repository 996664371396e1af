import AgentCanvas.Command.Basic
import AgentCanvas.Json.Reader

set_option autoImplicit false

/-!
# Commands on a line

A line holds a command from the marker on: the verb, perhaps a target, and perhaps a tail of
parameters. A target never starts like a JSON object or array, so that parameters may follow the
verb directly.
-/
namespace AgentCanvas

inductive ParseIssue where
  | inlineTailAsText (line : Nat)
  | invalidBlockJson (message : String)
  | blockNotCommand
  | invalidBlockItem (index : Nat) (fault : Command.BlockFault)
  deriving DecidableEq, Repr

def ParseIssue.text : ParseIssue → String
  | inlineTailAsText line =>
    "line " ++ toString line ++ ": inline payload is not a JSON object, kept as text"
  | invalidBlockJson message => "fenced block dropped, invalid JSON: " ++ message
  | blockNotCommand => "fenced block dropped, expected an array or an object with `command`"
  | invalidBlockItem index fault =>
    "fenced block item " ++ toString index ++ " skipped: " ++ fault.message

open Json Text

def commandMark : String := "/canvas"

namespace Inline

def isInk (c : Char) : Bool := !isBlank c

def startsTarget (c : Char) : Bool :=
  isInk c && c != '\x7b' && c != '['

/-- What follows the marker and the blanks behind it, where a text begins with them. -/
def behindMark? (chars : List Char) : Option (List Char) :=
  if commandMark.toList.isPrefixOf chars then
    match chars.drop commandMark.length with
    | [] => none
    | c :: rest =>
      let words := trimStart rest
      if !isBlank c || words.isEmpty then none else some words
  else none

/-- What follows the first marker that is a word of its own with another word behind it. `fresh`
    tells whether a word can start here. -/
def afterMark? : Bool → List Char → Option (List Char)
  | _, [] => none
  | fresh, c :: rest =>
    match if fresh then behindMark? (c :: rest) else none with
    | some words => some words
    | none => afterMark? (isBlank c) rest

structure Parts where
  verb : List Char
  target : Option (List Char)
  tail : List Char
  deriving DecidableEq, Repr

/-- The target, if the next word is one, and the words behind it. -/
def takeTarget (words : List Char) : Option (List Char) × List Char :=
  match words with
  | [] => (none, [])
  | c :: _ =>
    if startsTarget c then (some (words.takeWhile isInk), trimStart (words.dropWhile isInk))
    else (none, words)

def parts? (line : List Char) : Option Parts := do
  let words ← afterMark? true line
  let (target, rest) := takeTarget (trimStart (words.dropWhile isInk))
  return { verb := words.takeWhile isInk, target, tail := trimEnd rest }

def isCreate (verb : String) : Bool :=
  CommandVerb.parse? verb == some .create

/-- The parameters a tail stands for, and whether it had to be taken as text. -/
def params (tail : String) : Fields × Bool :=
  match parse tail with
  | .ok (.object fields) => (fields, false)
  | _ => ([("text", .string tail)], true)

structure Found where
  command : Command
  /-- Whether the tail was taken as text. -/
  tailAsText : Bool

def find? (line : List Char) : Option Found := do
  let parts ← parts? line
  let verb := String.ofList parts.verb
  let target := parts.target.map String.ofList
  let (params, tailAsText) :=
    if parts.tail.isEmpty then (none, false)
    else
      let (fields, asText) := params (String.ofList parts.tail)
      (some fields, asText)
  return {
    command := {
      verb
      elementType := if isCreate verb then target else none
      elementId := if isCreate verb then none else target
      params }
    tailAsText }

def findAll (text : List Char) : List (Nat × Found) :=
  ((lines text).zipIdx 1).filterMap fun (line, number) => (find? line).map (number, ·)

def commands (found : List (Nat × Found)) : List Command :=
  found.map fun (_, found) => found.command

def issues (found : List (Nat × Found)) : List ParseIssue :=
  found.filterMap fun (number, found) =>
    if found.tailAsText then some (.inlineTailAsText number) else none

end Inline

end AgentCanvas
