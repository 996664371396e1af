import AgentCanvas.Json.Fault
import AgentCanvas.Json.Value
import AgentCanvas.Number.Double
import AgentCanvas.Text.Basic

set_option autoImplicit false

namespace AgentCanvas.Json

structure Cursor where
  rest : List Char
  offset : Nat
  deriving DecidableEq, Repr

namespace Cursor

def start (text : List Char) : Cursor :=
  ⟨text, 0⟩

def skip (c : Cursor) : Nat → Cursor
  | 0 => c
  | n + 1 =>
    match c.rest with
    | [] => c
    | x :: rest => skip ⟨rest, c.offset + x.utf8Size⟩ n

def skipWhile (p : Char → Bool) (c : Cursor) : Cursor :=
  c.skip (c.rest.takeWhile p).length

def isSpace (x : Char) : Bool :=
  x == ' ' || x == '\n' || x == '\t' || x == '\r'

def skipSpace (c : Cursor) : Cursor :=
  c.skipWhile isSpace

def faultHere (c : Cursor) (cause : Cause) : Fault :=
  ⟨cause, c.offset⟩

def faultAhead (c : Cursor) (cause : Cause) : Fault :=
  ⟨cause, if c.rest.isEmpty then c.offset else c.offset + 1⟩

def faultAfter (c : Cursor) (cause : Cause) : Fault :=
  ⟨cause, c.offset + 1⟩

end Cursor

/-- A fault inside an escape, with the bytes read from behind the backslash up to it. -/
structure EscapeFault where
  cause : Cause
  bytes : Nat

def codeUnit (read : Nat) : List Char → Except EscapeFault Nat
  | a :: b :: c :: d :: rest =>
    match Text.hexValue? a, Text.hexValue? b, Text.hexValue? c, Text.hexValue? d with
    | some a, some b, some c, some d => .ok (((a * 16 + b) * 16 + c) * 16 + d)
    | _, _, _, _ => .error (shortUnit (a :: b :: c :: d :: rest))
  | rest => .error (shortUnit rest)
where
  shortUnit (rest : List Char) : EscapeFault :=
    if Text.byteSize rest < 4 then ⟨.endInString, read + Text.byteSize rest⟩
    else ⟨.invalidEscape, read + 4⟩

/-- The second half of a surrogate pair, behind the four digits of the first one. -/
def secondHalf (high : Nat) : List Char → Except EscapeFault (Char × Nat)
  | [] => .error ⟨.endInString, 5⟩
  | '\\' :: [] => .error ⟨.endInString, 6⟩
  | '\\' :: 'u' :: digits => do
    let low ← codeUnit 7 digits
    if 0xDC00 ≤ low ∧ low ≤ 0xDFFF then
      return (Char.ofNat (0x10000 + (high - 0xD800) * 0x400 + (low - 0xDC00)), 11)
    else throw ⟨.loneSurrogate, 11⟩
  | '\\' :: _ => .error ⟨.unfinishedSurrogate, 7⟩
  | _ => .error ⟨.unfinishedSurrogate, 6⟩

/-- The character an escape stands for, and the number of characters behind the backslash it covers.
    -/
def escape : List Char → Except EscapeFault (Char × Nat)
  | [] => .error ⟨.endInString, 0⟩
  | '"' :: _ => .ok ('"', 1)
  | '\\' :: _ => .ok ('\\', 1)
  | '/' :: _ => .ok ('/', 1)
  | 'b' :: _ => .ok ('\x08', 1)
  | 'f' :: _ => .ok ('\x0c', 1)
  | 'n' :: _ => .ok ('\n', 1)
  | 'r' :: _ => .ok ('\r', 1)
  | 't' :: _ => .ok ('\t', 1)
  | 'u' :: digits => do
    let unit ← codeUnit 1 digits
    if 0xDC00 ≤ unit ∧ unit ≤ 0xDFFF then throw ⟨.loneSurrogate, 5⟩
    else if 0xD800 ≤ unit ∧ unit ≤ 0xDBFF then secondHalf unit (digits.drop 4)
    else return (Char.ofNat unit, 5)
  | _ => .error ⟨.invalidEscape, 1⟩

/-- The string up to its closing quote. `read` holds the characters read, the last one first, and
    `covered` counts the characters that belong to the escape before them. -/
def stringFrom (read : List Char) (offset : Nat) :
    Nat → List Char → Except Fault (String × Cursor)
  | _, [] => .error ⟨.endInString, offset⟩
  | covered + 1, c :: rest => stringFrom read (offset + c.utf8Size) covered rest
  | 0, '"' :: rest => .ok (String.ofList read.reverse, ⟨rest, offset + 1⟩)
  | 0, '\\' :: rest =>
    match escape rest with
    | .ok (c, covered) => stringFrom (c :: read) (offset + 1) covered rest
    | .error fault => .error ⟨fault.cause, offset + 1 + fault.bytes⟩
  | 0, c :: rest =>
    if c.toNat < 0x20 then .error ⟨.controlCharacter, offset + 1⟩
    else stringFrom (c :: read) (offset + c.utf8Size) 0 rest

def readString (c : Cursor) : Except Fault (String × Cursor) :=
  stringFrom [] c.offset 0 c.rest

structure NumberText where
  negative : Bool
  whole : List Char
  fraction : Option (List Char)
  exponent : Option (Bool × List Char)

def digitValue (c : Char) : Nat :=
  c.toNat - '0'.toNat

/-- Adds digits to a significand as long as it stays within `limit`, and returns the digits left. -/
def keepDigits (limit significand : Nat) : List Char → Nat × List Char
  | [] => (significand, [])
  | c :: rest =>
    let next := significand * 10 + digitValue c
    if next ≤ limit then keepDigits limit next rest else (significand, c :: rest)

def significandLimit : Nat := 0xFFFFFFFFFFFFFFFF

def exponentLimit : Nat := 0x7FFFFFFF

def negativeLimit : Nat := 0x8000000000000000

def clampExponent (n : Int) : Int :=
  if n < -0x80000000 then -0x80000000 else if 0x7FFFFFFF < n then 0x7FFFFFFF else n

/-- An integer where it fits 64 bits, and a double otherwise. Zero with a sign is a double. -/
def integerValue (negative : Bool) (magnitude : Nat) : Option Number :=
  if !negative then some (.int magnitude)
  else if 0 < magnitude ∧ magnitude ≤ negativeLimit then some (.int (-magnitude))
  else (Binary64.ofDecimal? true magnitude 0).map .real

/-- The value of a number text. The fault tells how many bytes of the exponent's digits are still to
    be read where it is reported. -/
def NumberText.value (n : NumberText) : Except Nat Number := do
  let (whole, dropped) := keepDigits significandLimit 0 n.whole
  if dropped.isEmpty && n.fraction.isNone && n.exponent.isNone then
    match integerValue n.negative whole with
    | some number => return number
    | none => throw 0
  else
    let fraction := n.fraction.getD []
    let (significand, unread) := keepDigits significandLimit whole fraction
    let power : Int := (dropped.length : Int) - ((fraction.length - unread.length : Nat) : Int)
    let real (power : Int) : Except Nat Number :=
      match Binary64.ofDecimal? n.negative significand power with
      | some x => .ok (.real x)
      | none => .error 0
    match n.exponent with
    | none => real power
    | some (down, digits) =>
      let (exponent, excess) := keepDigits exponentLimit 0 digits
      if excess.isEmpty then
        real (clampExponent (if down then power - exponent else power + exponent))
      else if significand ≠ 0 ∧ !down then throw (excess.length - 1)
      else return .real ⟨n.negative, 0, 0⟩

def readDigits (c : Cursor) : List Char × Cursor :=
  let digits := c.rest.takeWhile Char.isDigit
  (digits, c.skip digits.length)

/-- The digits before the point, of which there is one at least. No digit follows a leading zero. -/
def readWhole (c : Cursor) : Except Fault (List Char × Cursor) :=
  match readDigits c with
  | ([], c) =>
    .error (if c.rest.isEmpty then c.faultHere .endInValue else c.faultAfter .invalidNumber)
  | ('0' :: _ :: _, _) => .error ((c.skip 1).faultAhead .invalidNumber)
  | read => .ok read

def readFraction (c : Cursor) : Except Fault (Option (List Char) × Cursor) :=
  match c.rest with
  | '.' :: _ =>
    match readDigits (c.skip 1) with
    | ([], c) =>
      .error (if c.rest.isEmpty then c.faultHere .endInValue else c.faultAhead .invalidNumber)
    | (digits, c) => .ok (some digits, c)
  | _ => .ok (none, c)

def readExponent (c : Cursor) : Except Fault (Option (Bool × List Char) × Cursor) :=
  if c.rest.head? = some 'e' ∨ c.rest.head? = some 'E' then
    let c := c.skip 1
    let (down, c) :=
      match c.rest with
      | '+' :: _ => (false, c.skip 1)
      | '-' :: _ => (true, c.skip 1)
      | _ => (false, c)
    match readDigits c with
    | ([], c) =>
      .error (if c.rest.isEmpty then c.faultHere .endInValue else c.faultAfter .invalidNumber)
    | (digits, c) => .ok (some (down, digits), c)
  else .ok (none, c)

def readNumber (c : Cursor) : Except Fault (Number × Cursor) := do
  let (negative, c) :=
    match c.rest with
    | '-' :: _ => (true, c.skip 1)
    | _ => (false, c)
  let (whole, c) ← readWhole c
  let (fraction, c) ← readFraction c
  let (exponent, c) ← readExponent c
  match NumberText.value ⟨negative, whole, fraction, exponent⟩ with
  | .ok number => return (number, c)
  | .error unread => throw ⟨.numberOutOfRange, c.offset - unread⟩

end AgentCanvas.Json
