import AgentCanvas.Number.Text
import AgentCanvas.Text.Basic

set_option autoImplicit false

namespace AgentCanvas.Json

/-- A number: an integer as written, or a double. Documents hold no number that is not finite. -/
inductive Number where
  | int (value : Int)
  | real (value : Binary64)
  deriving DecidableEq, Repr

inductive Value where
  | null
  | bool (value : Bool)
  | number (value : Number)
  | string (value : String)
  | array (items : List Value)
  | object (fields : List (String × Value))
  deriving Repr, Inhabited

abbrev Fields := List (String × Value)

namespace Number

def toDouble : Number → Double
  | .int n => .ofInt n
  | .real x => .finite x

def text : Number → String
  | .int n => toString n
  | .real x => x.text

/-- Equal numbers. An integer differs from a double of the same value. -/
def same : Number → Number → Bool
  | .int m, .int n => m == n
  | .real x, .real y => x.same y
  | _, _ => false

end Number

namespace Fields

def get? (fields : Fields) (key : String) : Option Value :=
  (fields.find? fun field => field.1 == key).map Prod.snd

def put (key : String) (value : Value) : Fields → Fields
  | [] => [(key, value)]
  | (k, v) :: rest =>
    if key < k then (key, value) :: (k, v) :: rest
    else if key = k then (key, value) :: rest
    else (k, v) :: put key value rest

/-- Sets the given fields one after the other, so that a later one wins. -/
def overlay (fields patch : Fields) : Fields :=
  patch.foldl (fun fields field => put field.1 field.2 fields) fields

end Fields

namespace Value

mutual

/-- The value with the fields of every object in ascending order, where a repeated key keeps its
    last value. -/
def sorted : Value → Value
  | .array items => .array (sortedItems items)
  | .object fields => .object (sortedFields [] fields)
  | value => value

def sortedItems : List Value → List Value
  | [] => []
  | item :: rest => item.sorted :: sortedItems rest

def sortedFields (done : Fields) : List (String × Value) → Fields
  | [] => done
  | (key, value) :: rest => sortedFields (Fields.put key value.sorted done) rest

end

mutual

def same : Value → Value → Bool
  | .null, .null => true
  | .bool a, .bool b => a == b
  | .number a, .number b => a.same b
  | .string a, .string b => a == b
  | .array xs, .array ys => sameItems xs ys
  | .object xs, .object ys => sameFields xs ys
  | _, _ => false

def sameItems : List Value → List Value → Bool
  | [], [] => true
  | x :: xs, y :: ys => x.same y && sameItems xs ys
  | _, _ => false

def sameFields : List (String × Value) → List (String × Value) → Bool
  | [], [] => true
  | (j, x) :: xs, (k, y) :: ys => j == k && x.same y && sameFields xs ys
  | _, _ => false

end

def ofFields (fields : Fields) : Value :=
  .object (Fields.overlay [] fields)

end Value

/-- A double as a document holds it; a document has no number for one that is not finite. -/
def ofDouble : Double → Value
  | .finite x => .number (.real x)
  | _ => .null

/-- One character inside a string: quotes, backslashes and what is below U+0020 are escaped. -/
def escapedChar (c : Char) : List Char :=
  if c = '"' then ['\\', '"']
  else if c = '\\' then ['\\', '\\']
  else if c = '\x08' then ['\\', 'b']
  else if c = '\x0c' then ['\\', 'f']
  else if c = '\n' then ['\\', 'n']
  else if c = '\r' then ['\\', 'r']
  else if c = '\t' then ['\\', 't']
  else if c.toNat < 0x20 then ['\\', 'u'] ++ Text.hexPadded 4 c.toNat
  else [c]

def stringText (text : String) : String :=
  String.ofList (['"'] ++ text.toList.flatMap escapedChar ++ ['"'])

namespace Value

mutual

def text : Value → String
  | .null => "null"
  | .bool value => if value then "true" else "false"
  | .number value => value.text
  | .string value => stringText value
  | .array items => "[" ++ itemsText true items ++ "]"
  | .object fields => "\x7b" ++ fieldsText true fields ++ "\x7d"

def itemsText (first : Bool) : List Value → String
  | [] => ""
  | item :: rest => (if first then "" else ",") ++ item.text ++ itemsText false rest

def fieldsText (first : Bool) : List (String × Value) → String
  | [] => ""
  | (key, value) :: rest =>
    (if first then "" else ",") ++ stringText key ++ ":" ++ value.text ++ fieldsText false rest

end

def newLine (depth : Nat) : String :=
  "\n" ++ String.ofList (List.replicate (2 * depth) ' ')

mutual

/-- A value over several lines, from a given depth on. Empty arrays and objects stay on one line. -/
def prettyAt (depth : Nat) : Value → String
  | .array (item :: rest) =>
    "[" ++ newLine (depth + 1) ++ item.prettyAt (depth + 1) ++ prettyItems depth rest
  | .object ((key, value) :: rest) =>
    "\x7b" ++ newLine (depth + 1) ++ stringText key ++ ": " ++ value.prettyAt (depth + 1) ++
      prettyFields depth rest
  | value => value.text

def prettyItems (depth : Nat) : List Value → String
  | [] => newLine depth ++ "]"
  | item :: rest =>
    "," ++ newLine (depth + 1) ++ item.prettyAt (depth + 1) ++ prettyItems depth rest

def prettyFields (depth : Nat) : List (String × Value) → String
  | [] => newLine depth ++ "\x7d"
  | (key, value) :: rest =>
    "," ++ newLine (depth + 1) ++ stringText key ++ ": " ++ value.prettyAt (depth + 1) ++
      prettyFields depth rest

end

def pretty (value : Value) : String :=
  value.prettyAt 0

end Value

end AgentCanvas.Json
