set_option autoImplicit false

namespace AgentCanvas.Json

inductive Cause where
  | endInValue
  | endInList
  | endInObject
  | endInString
  | expectedValue
  | expectedIdent
  | expectedColon
  | expectedListEnd
  | expectedObjectEnd
  | keyNotString
  | trailingComma
  | trailingCharacters
  | invalidNumber
  | numberOutOfRange
  | controlCharacter
  | invalidEscape
  | loneSurrogate
  | unfinishedSurrogate
  | tooDeep
  deriving DecidableEq, Repr

def Cause.text : Cause → String
  | .endInValue => "EOF while parsing a value"
  | .endInList => "EOF while parsing a list"
  | .endInObject => "EOF while parsing an object"
  | .endInString => "EOF while parsing a string"
  | .expectedValue => "expected value"
  | .expectedIdent => "expected ident"
  | .expectedColon => "expected `:`"
  | .expectedListEnd => "expected `,` or `]`"
  | .expectedObjectEnd => "expected `,` or `\x7d`"
  | .keyNotString => "key must be a string"
  | .trailingComma => "trailing comma"
  | .trailingCharacters => "trailing characters"
  | .invalidNumber => "invalid number"
  | .numberOutOfRange => "number out of range"
  | .controlCharacter => "control character (\\u0000-\\u001F) found while parsing a string"
  | .invalidEscape => "invalid escape"
  | .loneSurrogate => "lone leading surrogate in hex escape"
  | .unfinishedSurrogate => "unexpected end of hex escape"
  | .tooDeep => "recursion limit exceeded"

/-- A cause and the number of bytes before the place it is reported at. -/
structure Fault where
  cause : Cause
  offset : Nat
  deriving DecidableEq, Repr

structure Position where
  line : Nat
  column : Nat
  deriving DecidableEq, Repr

namespace Position

/-- The place so many bytes into a text. An offset may fall inside a character. -/
def advance (position : Position) : List Char → Nat → Position
  | [], _ => position
  | c :: rest, offset =>
    if offset = 0 then position
    else if offset < c.utf8Size then { position with column := position.column + offset }
    else
      let next : Position :=
        if c = '\n' then ⟨position.line + 1, 0⟩
        else { position with column := position.column + c.utf8Size }
      next.advance rest (offset - c.utf8Size)

def ofOffset (text : List Char) (offset : Nat) : Position :=
  advance ⟨1, 0⟩ text offset

def attach (position : Position) (message : String) : String :=
  message ++ " at line " ++ toString position.line ++ " column " ++ toString position.column

end Position

def Fault.position (fault : Fault) (text : String) : Position :=
  Position.ofOffset text.toList fault.offset

def Fault.message (fault : Fault) (text : String) : String :=
  (fault.position text).attach fault.cause.text

end AgentCanvas.Json
