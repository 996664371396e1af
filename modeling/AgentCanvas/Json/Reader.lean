import AgentCanvas.Json.Tokens

set_option autoImplicit false

/-!
# Reading documents

The reader follows the grammar from left to right and stops at the first fault. It takes two bounds:
the room for open arrays and objects, which is part of the format, and a number of steps, which only
has to exceed twice the number of characters, since two steps never pass without a character.
-/
namespace AgentCanvas.Json

/-- How many arrays and objects can be open at a time. -/
def depthLimit : Nat := 127

def readWord (word : List Char) (c : Cursor) : Except Fault Cursor :=
  match word, c.rest with
  | [], _ => .ok c
  | _ :: _, [] => .error (c.faultHere .endInValue)
  | x :: word, y :: _ =>
    if x = y then readWord word (c.skip 1) else .error (c.faultAfter .expectedIdent)

def readColon (c : Cursor) : Except Fault Cursor :=
  let c := c.skipSpace
  match c.rest with
  | ':' :: _ => .ok (c.skip 1)
  | [] => .error (c.faultAhead .endInObject)
  | _ => .error (c.faultAhead .expectedColon)

def readKey (c : Cursor) : Except Fault (String × Cursor) :=
  match c.rest with
  | '"' :: _ => readString (c.skip 1)
  | _ => .error (c.faultAhead .keyNotString)

/-- Behind an opening bracket: whether an item follows or the array ends. -/
def openItems (c : Cursor) : Except Fault (Bool × Cursor) :=
  let c := c.skipSpace
  match c.rest with
  | ']' :: _ => .ok (false, c.skip 1)
  | [] => .error (c.faultAhead .endInList)
  | _ => .ok (true, c)

def nextItem (c : Cursor) : Except Fault (Bool × Cursor) :=
  let c := c.skipSpace
  match c.rest with
  | ']' :: _ => .ok (false, c.skip 1)
  | ',' :: _ =>
    let c := (c.skip 1).skipSpace
    match c.rest with
    | ']' :: _ => .error (c.faultAhead .trailingComma)
    | [] => .error (c.faultAhead .endInValue)
    | _ => .ok (true, c)
  | [] => .error (c.faultAhead .endInList)
  | _ => .error (c.faultAhead .expectedListEnd)

def openFields (c : Cursor) : Except Fault (Bool × Cursor) :=
  let c := c.skipSpace
  match c.rest with
  | '\x7d' :: _ => .ok (false, c.skip 1)
  | [] => .error (c.faultAhead .endInObject)
  | _ => .ok (true, c)

def nextField (c : Cursor) : Except Fault (Bool × Cursor) :=
  let c := c.skipSpace
  match c.rest with
  | '\x7d' :: _ => .ok (false, c.skip 1)
  | ',' :: _ =>
    let c := (c.skip 1).skipSpace
    match c.rest with
    | '\x7d' :: _ => .error (c.faultAhead .trailingComma)
    | [] => .error (c.faultAhead .endInValue)
    | _ => .ok (true, c)
  | [] => .error (c.faultAhead .endInObject)
  | _ => .error (c.faultAhead .expectedObjectEnd)

def readScalar (c : Cursor) : Except Fault (Value × Cursor) :=
  match c.rest with
  | [] => .error (c.faultAhead .endInValue)
  | 'n' :: _ => (readWord ['u', 'l', 'l'] (c.skip 1)).map (Value.null, ·)
  | 't' :: _ => (readWord ['r', 'u', 'e'] (c.skip 1)).map (Value.bool true, ·)
  | 'f' :: _ => (readWord ['a', 'l', 's', 'e'] (c.skip 1)).map (Value.bool false, ·)
  | '"' :: _ => (readString (c.skip 1)).map fun (text, c) => (.string text, c)
  | x :: _ =>
    if x = '-' ∨ x.isDigit then (readNumber c).map fun (number, c) => (.number number, c)
    else .error (c.faultAhead .expectedValue)

mutual

/-- A value, its objects as written. -/
def readValue (room : Nat) : Nat → Cursor → Except Fault (Value × Cursor)
  | 0, c => .error (c.faultAhead .endInValue)
  | steps + 1, c =>
    let c := c.skipSpace
    match c.rest, room with
    | '[' :: _, 0 => .error (c.faultAhead .tooDeep)
    | '\x7b' :: _, 0 => .error (c.faultAhead .tooDeep)
    | '[' :: _, room + 1 => do
      let (items, c) ← readItems room steps openItems (c.skip 1)
      return (.array items, c)
    | '\x7b' :: _, room + 1 => do
      let (fields, c) ← readFields room steps openFields (c.skip 1)
      return (.object fields, c)
    | _, _ => readScalar c

/-- The items of an array, where `more` tells whether there is another one. -/
def readItems (room : Nat) :
    Nat → (Cursor → Except Fault (Bool × Cursor)) → Cursor → Except Fault (List Value × Cursor)
  | 0, _, c => .error (c.faultAhead .endInList)
  | steps + 1, more, c => do
    match ← more c with
    | (false, c) => return ([], c)
    | (true, c) =>
      let (item, c) ← readValue room steps c
      let (items, c) ← readItems room steps nextItem c
      return (item :: items, c)

def readFields (room : Nat) :
    Nat → (Cursor → Except Fault (Bool × Cursor)) → Cursor → Except Fault (Fields × Cursor)
  | 0, _, c => .error (c.faultAhead .endInObject)
  | steps + 1, more, c => do
    match ← more c with
    | (false, c) => return ([], c)
    | (true, c) =>
      let (key, c) ← readKey c
      let c ← readColon c
      let (value, c) ← readValue room steps c
      let (fields, c) ← readFields room steps nextField c
      return ((key, value) :: fields, c)

end

/-- Enough steps for what is left of a text. -/
def stepsFor (c : Cursor) : Nat :=
  2 * c.rest.length + 2

def readEnd (c : Cursor) : Except Fault Unit :=
  let c := c.skipSpace
  if c.rest.isEmpty then .ok () else .error (c.faultAhead .trailingCharacters)

def parseWritten (text : String) : Except Fault Value := do
  let c := Cursor.start text.toList
  let (value, c) ← readValue depthLimit (stepsFor c) c
  readEnd c
  return value

def parse (text : String) : Except Fault Value :=
  (parseWritten text).map Value.sorted

end AgentCanvas.Json
