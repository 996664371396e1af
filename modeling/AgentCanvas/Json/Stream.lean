import AgentCanvas.Json.Mismatch
import AgentCanvas.Json.Reader

set_option autoImplicit false

namespace AgentCanvas.Json

/-- What stops the reading of a record: a fault of the document, or a value that does not fit, with
    the place it is reported at unless it was found too late to know one. -/
inductive StreamFault where
  | document (fault : Fault)
  | mismatch (why : Mismatch) (offset : Option Nat)

def StreamFault.message (text : String) : StreamFault → String
  | document fault => fault.message text
  | mismatch why none => why.message
  | mismatch why (some offset) => (Position.ofOffset text.toList offset).attach why.message

namespace Stream

def ofDocument {α : Type} : Except Fault α → Except StreamFault α :=
  Except.mapError .document

/-- A mismatch found at a place. -/
def foundAt {α : Type} (offset : Nat) : Except Mismatch α → Except StreamFault α :=
  Except.mapError fun why => .mismatch why (some offset)

/-- A mismatch found in what was read before. -/
def foundLate {α : Type} : Except Mismatch α → Except StreamFault α :=
  Except.mapError fun why => .mismatch why none

/-- A typed scalar. It is read before it is looked at; an array or object is refused where it
    begins. -/
def readTyped {α : Type} (read : Value → Except Mismatch α) (c : Cursor) :
    Except StreamFault (α × Cursor) := do
  let c := c.skipSpace
  match c.rest with
  | '[' :: _ => return (← foundAt c.offset (read (.array [])), c)
  | '\x7b' :: _ => return (← foundAt c.offset (read (.object [])), c)
  | _ =>
    let (value, c) ← ofDocument (readScalar c)
    return (← foundAt c.offset (read value), c)

def readAny (opened : Nat) (c : Cursor) : Except StreamFault (Value × Cursor) :=
  ofDocument (readValue (depthLimit - opened) (stepsFor c) c)

/-- Where a complaint about an object is reported that is noticed at a place inside it: behind the
    blanks there, and behind the object if it ends there. -/
def noticedAt (c : Cursor) : Nat :=
  let c := c.skipSpace
  if c.rest.head? = some '\x7d' then c.offset + 1 else c.offset

def duplicate {α : Type} (key : String) (c : Cursor) : Except StreamFault α :=
  .error (.mismatch (.duplicateField key) (some (noticedAt c)))

/-- The members of an object from behind its brace. `member` reads one of them from behind its key.
    -/
def readMembers {σ : Type} (member : σ → String → Cursor → Except StreamFault (σ × Cursor)) :
    Nat → (Cursor → Except Fault (Bool × Cursor)) → σ → Cursor → Except StreamFault (σ × Cursor)
  | 0, _, _, c => .error (.document (c.faultAhead .endInObject))
  | steps + 1, more, state, c => do
    match ← ofDocument (more c) with
    | (false, c) => return (state, c)
    | (true, c) =>
      let (key, c) ← ofDocument (readKey c)
      let (state, c) ← member state key c
      readMembers member steps nextField state c

def readObject {σ : Type} (expected : String)
    (member : σ → String → Cursor → Except StreamFault (σ × Cursor)) (state : σ) (c : Cursor) :
    Except StreamFault (σ × Cursor) := do
  let c := c.skipSpace
  match c.rest with
  | '\x7b' :: _ => readMembers member (stepsFor c) openFields state (c.skip 1)
  | _ => readTyped (fun value => .error (.wrongType value expected)) c

def readField {α : Type} (read : Cursor → Except StreamFault (α × Cursor)) (c : Cursor) :
    Except StreamFault (α × Cursor) := do
  read (← ofDocument (readColon c))

def readListEnd (c : Cursor) : Except StreamFault Cursor :=
  let c := c.skipSpace
  match c.rest with
  | ']' :: _ => .ok (c.skip 1)
  | ',' :: _ =>
    let c := (c.skip 1).skipSpace
    match c.rest with
    | ']' :: _ => .error (.document (c.faultAhead .trailingComma))
    | _ => .error (.document (c.faultAhead .trailingCharacters))
  | [] => .error (.document (c.faultAhead .endInList))
  | _ => .error (.document (c.faultAhead .trailingCharacters))

def readWhole {α : Type} (read : Cursor → Except StreamFault (α × Cursor)) (text : String) :
    Except StreamFault α := do
  let (value, c) ← read (Cursor.start text.toList)
  ofDocument (readEnd c)
  return value

end Stream
end AgentCanvas.Json
