set_option autoImplicit false

namespace AgentCanvas.Text

def inRanges (ranges : List (Nat × Nat)) (code : Nat) : Bool :=
  ranges.any fun range => range.1 ≤ code && code ≤ range.2

def byteSize : List Char → Nat
  | [] => 0
  | c :: rest => c.utf8Size + byteSize rest

/-- A text with its ASCII capitals made small; every other character stays. -/
def lower (text : String) : String :=
  String.ofList (text.toList.map Char.toLower)

/-- A line without the carriage return that ended it. -/
def dropReturn (line : List Char) : List Char :=
  if line.getLast? = some '\r' then line.dropLast else line

/-- The lines of a text. A line ends at a line feed, a carriage return before it belongs to the end
    of the line, and the end of the text ends a line only if that line is not empty. -/
def linesFrom (line : List Char) : List Char → List (List Char)
  | [] => if line.isEmpty then [] else [line.reverse]
  | '\n' :: rest => dropReturn line.reverse :: linesFrom [] rest
  | c :: rest => linesFrom (c :: line) rest

def lines (text : List Char) : List (List Char) :=
  linesFrom [] text

/-- Looks for a mark; `before` holds the characters passed over, the last one first. -/
def splitFrom? (mark before : List Char) : List Char → Option (List Char × List Char)
  | [] => if mark.isEmpty then some (before.reverse, []) else none
  | c :: rest =>
    if mark.isPrefixOf (c :: rest) then some (before.reverse, (c :: rest).drop mark.length)
    else splitFrom? mark (c :: before) rest

def splitAt? (mark text : List Char) : Option (List Char × List Char) :=
  splitFrom? mark [] text

/-- White space in the sense of the character database: the ASCII blanks, next line, the no-break
    and typographic spaces, and the line and paragraph separators. -/
def isBlank (c : Char) : Bool :=
  let code := c.toNat
  (0x09 ≤ code && code ≤ 0x0D) || code == 0x20 || code == 0x85 || code == 0xA0 || code == 0x1680 ||
    (0x2000 ≤ code && code ≤ 0x200A) || code == 0x2028 || code == 0x2029 || code == 0x202F ||
    code == 0x205F || code == 0x3000

def trimStart (chars : List Char) : List Char :=
  chars.dropWhile isBlank

def trimEnd (chars : List Char) : List Char :=
  (chars.reverse.dropWhile isBlank).reverse

def trimChars (chars : List Char) : List Char :=
  trimEnd (trimStart chars)

def trim (text : String) : String :=
  String.ofList (trimChars text.toList)

def hexDigit (n : Nat) : Char :=
  if n < 10 then Char.ofNat ('0'.toNat + n) else Char.ofNat ('a'.toNat + (n - 10))

def hexPadded : Nat → Nat → List Char
  | 0, _ => []
  | width + 1, n => hexPadded width (n / 16) ++ [hexDigit (n % 16)]

def hexWidth (n : Nat) : Nat :=
  if n < 16 then 1 else n.log2 / 4 + 1

def hex (n : Nat) : List Char :=
  hexPadded (hexWidth n) n

def hexValue? (c : Char) : Option Nat :=
  if '0' ≤ c ∧ c ≤ '9' then some (c.toNat - '0'.toNat)
  else if 'a' ≤ c ∧ c ≤ 'f' then some (c.toNat - 'a'.toNat + 10)
  else if 'A' ≤ c ∧ c ≤ 'F' then some (c.toNat - 'A'.toNat + 10)
  else none

end AgentCanvas.Text
