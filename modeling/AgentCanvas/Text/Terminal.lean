set_option autoImplicit false

namespace AgentCanvas.Text.Terminal

def escape : Char := '\x1b'

/-- A kind of control sequence, by what it waits for. -/
inductive Sequence where
  | begun
  | short
  | parameters
  | title
  | device
  | deviceParameters
  | deviceSigns
  /-- A text that ends with the byte of the string terminator. -/
  | message
  deriving DecidableEq, Repr

inductive Mode where
  /-- It is text. A blank can suspend a sequence, which goes on behind the text. -/
  | text (suspended : Option Sequence)
  | within (sequence : Sequence)
  deriving DecidableEq, Repr

def isLayout (c : Char) : Bool :=
  c == '\t' || c == '\n' || c == '\x0c' || c == '\r'

def isText (c : Char) : Bool :=
  isLayout c || (' ' ≤ c && c != '\x7f')

/-- Whether a blank within the sequence is text all the same. -/
def Sequence.showsLayout : Sequence → Bool
  | begun => true
  | short => true
  | parameters => true
  | _ => false

/-- What follows a character in the head of a device's message. Such a head has no end of its own:
    the terminator counts in the message only, which begins with a letter or with a parameter in
    the wrong place. -/
def Sequence.nextInHead (head : Sequence) (c : Char) : Sequence :=
  if '@' ≤ c ∧ c ≤ '~' then message
  else if ' ' ≤ c ∧ c < '0' then deviceSigns
  else if '0' ≤ c ∧ c ≤ '?' then
    if head = device ∨ (head = deviceParameters ∧ c < '<') then deviceParameters else message
  else head

def Sequence.next (sequence : Sequence) (c : Char) : Mode :=
  match sequence with
  | begun =>
    if c = '[' then .within parameters
    else if c = ']' then .within title
    else if c = 'P' then .within device
    else if c = 'X' ∨ c = '^' ∨ c = '_' then .within message
    else if ' ' ≤ c ∧ c < '0' then .within short
    else if '0' ≤ c ∧ c ≤ '~' then .text none
    else .within begun
  | short => if '0' ≤ c ∧ c ≤ '~' then .text none else .within short
  | parameters => if '@' ≤ c ∧ c ≤ '~' then .text none else .within parameters
  | title => if c = '\x07' then .text none else .within title
  | device => .within (device.nextInHead c)
  | deviceParameters => .within (deviceParameters.nextInHead c)
  | deviceSigns => .within (deviceSigns.nextInHead c)
  | message => if (String.utf8EncodeChar c).contains 0x9c then .text none else .within message

def Mode.next (mode : Mode) (c : Char) : Mode × Bool :=
  if c = escape then (.within .begun, false)
  else if c = '\x18' ∨ c = '\x1a' then (.text none, false)
  else
    match mode with
    | .text suspended =>
      if c > '\x7f' then (.text none, true)
      else if isText c then (mode, true)
      else (suspended.elim mode .within, false)
    | .within sequence =>
      if isLayout c ∧ sequence.showsLayout then (.text (some sequence), true)
      else (sequence.next c, false)

def shownFrom : Mode → List Char → List Char
  | _, [] => []
  | mode, c :: rest =>
    let (mode, shown) := mode.next c
    if shown then c :: shownFrom mode rest else shownFrom mode rest

/-- A text without what a terminal would take as orders. -/
def shown (text : String) : String :=
  String.ofList (shownFrom (.text none) text.toList)

def bold (text : String) : String :=
  "\x1b[1m" ++ text ++ "\x1b[0m"

def heading (text : String) : String :=
  "\x1b[1m\x1b[4m" ++ text ++ "\x1b[0m"

end AgentCanvas.Text.Terminal
