import AgentCanvas.Command.Basic
import AgentCanvas.Element.Reading
import AgentCanvas.Json.Reader

set_option autoImplicit false

/-!
# Reading commands from a text

A command can be read from its text directly. A value nobody asks for is only checked for its form,
and more loosely than one that is read: numbers of any size and unpaired surrogates pass, and so do
values of any depth. Where it is refused, the complaints are slightly different ones.
-/
namespace AgentCanvas.Json

def skimEscape (rest : List Char) : Except EscapeFault Nat :=
  match rest with
  | [] => .error ⟨.endInString, 0⟩
  | 'u' :: digits => (codeUnit 1 digits).map fun _ => 5
  | c :: _ =>
    if ['"', '\\', '/', 'b', 'f', 'n', 'r', 't'].contains c then .ok 1
    else .error ⟨.invalidEscape, 1⟩

/-- Passes over a string; `covered` counts the characters of the escape before. -/
def skimStringFrom (offset : Nat) : Nat → List Char → Except Fault Cursor
  | _, [] => .error ⟨.endInString, offset⟩
  | covered + 1, c :: rest => skimStringFrom (offset + c.utf8Size) covered rest
  | 0, '"' :: rest => .ok ⟨rest, offset + 1⟩
  | 0, '\\' :: rest =>
    match skimEscape rest with
    | .ok covered => skimStringFrom (offset + 1) covered rest
    | .error fault => .error ⟨fault.cause, offset + 1 + fault.bytes⟩
  | 0, c :: rest =>
    if c.toNat < 0x20 then .error ⟨.controlCharacter, offset⟩
    else skimStringFrom (offset + c.utf8Size) 0 rest

def skimString (c : Cursor) : Except Fault Cursor :=
  skimStringFrom (c.offset + 1) 0 (c.rest.drop 1)

def refuseNext (c : Cursor) : Fault :=
  if c.rest.isEmpty then c.faultHere .invalidNumber else c.faultAfter .invalidNumber

def skimWhole (c : Cursor) : Except Fault Cursor :=
  match readDigits c with
  | ([], c) => .error (refuseNext c)
  | ('0' :: _ :: _, _) => .error ((c.skip 1).faultAhead .invalidNumber)
  | (_, c) => .ok c

def skimFraction (c : Cursor) : Except Fault Cursor :=
  match c.rest with
  | '.' :: _ =>
    match readDigits (c.skip 1) with
    | ([], c) => .error (c.faultAhead .invalidNumber)
    | (_, c) => .ok c
  | _ => .ok c

def skimExponent (c : Cursor) : Except Fault Cursor :=
  if c.rest.head? = some 'e' ∨ c.rest.head? = some 'E' then
    let c := c.skip 1
    let c := if c.rest.head? = some '+' ∨ c.rest.head? = some '-' then c.skip 1 else c
    match readDigits c with
    | ([], c) => .error (refuseNext c)
    | (_, c) => .ok c
  else .ok c

def skimNumber (c : Cursor) : Except Fault Cursor := do
  let c := if c.rest.head? = some '-' then c.skip 1 else c
  skimExponent (← skimFraction (← skimWhole c))

def skimScalar (c : Cursor) : Except Fault Cursor :=
  match c.rest with
  | [] => .error (c.faultAhead .endInValue)
  | 'n' :: _ => readWord ['u', 'l', 'l'] (c.skip 1)
  | 't' :: _ => readWord ['r', 'u', 'e'] (c.skip 1)
  | 'f' :: _ => readWord ['a', 'l', 's', 'e'] (c.skip 1)
  | '"' :: _ => skimString c
  | x :: _ =>
    if x = '-' ∨ x.isDigit then skimNumber c else .error (c.faultAhead .expectedValue)

def skimNext (close : Char) (atEnd atOther : Cause) (c : Cursor) : Except Fault (Bool × Cursor) :=
  let c := c.skipSpace
  match c.rest with
  | [] => .error (c.faultAhead atEnd)
  | x :: _ =>
    if x = ',' then .ok (true, c.skip 1)
    else if x = close then .ok (false, c.skip 1)
    else .error (c.faultAhead atOther)

def skimNextItem : Cursor → Except Fault (Bool × Cursor) :=
  skimNext ']' .endInList .expectedListEnd

def skimNextField : Cursor → Except Fault (Bool × Cursor) :=
  skimNext '\x7d' .endInObject .expectedObjectEnd

def skimKey (c : Cursor) : Except Fault Cursor := do
  let c := c.skipSpace
  match c.rest with
  | '"' :: _ => readColon (← skimString c)
  | [] => throw (c.faultAhead .endInObject)
  | _ => throw (c.faultAhead .keyNotString)

mutual

def skimValue : Nat → Cursor → Except Fault Cursor
  | 0, c => .error (c.faultAhead .endInValue)
  | steps + 1, c =>
    let c := c.skipSpace
    match c.rest with
    | '[' :: _ => skimItems steps openItems (c.skip 1)
    | '\x7b' :: _ => skimFields steps openFields (c.skip 1)
    | _ => skimScalar c

def skimItems : Nat → (Cursor → Except Fault (Bool × Cursor)) → Cursor → Except Fault Cursor
  | 0, _, c => .error (c.faultAhead .endInList)
  | steps + 1, more, c => do
    match ← more c with
    | (false, c) => return c
    | (true, c) => skimItems steps skimNextItem (← skimValue steps c)

def skimFields : Nat → (Cursor → Except Fault (Bool × Cursor)) → Cursor → Except Fault Cursor
  | 0, _, c => .error (c.faultAhead .endInObject)
  | steps + 1, more, c => do
    match ← more c with
    | (false, c) => return c
    | (true, c) => skimFields steps skimNextField (← skimValue steps (← skimKey c))

end

end AgentCanvas.Json

namespace AgentCanvas.Command

open Json Json.Stream

/-- Passes over a value and keeps nothing of it. -/
def pass (c : Cursor) : Except StreamFault (Option Value × Cursor) := do
  return (none, ← ofDocument (skimValue (stepsFor c) c))

/-- The values of slots in order; those at the end may be missing. -/
def readSlots : List Slot → (Cursor → Except Fault (Bool × Cursor)) → List Value → Cursor →
    Except StreamFault (List Value × Cursor)
  | [], _, found, c => return (found, ← readListEnd c)
  | slot :: slots, more, found, c => do
    match ← ofDocument (more c) with
    | (false, c) => return (found, c)
    | (true, c) =>
      let (value, c) ← slot.read c
      readSlots slots nextItem (found ++ [value]) c

def read (c : Cursor) : Except StreamFault (Command × Cursor) := do
  let c := c.skipSpace
  match c.rest with
  | '[' :: _ =>
    let (items, c) ← readSlots slots openItems [] (c.skip 1)
    return (← foundAt c.offset (ofJson (.array items)), c)
  | _ =>
    let (fields, c) ← readObject "struct Command" (Slot.readMember slots pass) [] c
    return (← foundAt c.offset (ofJson (.object fields)), c)

end AgentCanvas.Command
