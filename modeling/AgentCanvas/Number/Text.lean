import AgentCanvas.Number.Double

set_option autoImplicit false

/-!
# Doubles as text

A double is written with the fewest decimal digits that still lie nearer to it than to any other
double, and among those with the digits nearest to it. The neighbourhood of a double reaches half
way to its two neighbours; its ends belong to it when its significand is even.
-/
namespace AgentCanvas

/-- A positive decimal number: its digits, read as a natural number whose first digit is not zero,
    and the power of ten that first digit counts. -/
structure Decimal where
  digits : Nat
  lead : Int
  deriving DecidableEq, Repr

/-- Which of two equally near decimal numbers is taken. -/
inductive Tie where
  | even
  | up
  deriving DecidableEq

namespace Binary64

def digitCount (n : Nat) : Nat :=
  if n = 0 then 0 else (Nat.toDigits 10 n).length

/-- The power of ten of the first digit of `num / den`, for positive numbers. -/
def leadOf (num den : Nat) : Int :=
  if den ≤ num then (digitCount (num / den) : Int) - 1
  else -(digitCount ((den + num - 1) / num - 1) : Int)

/-- A double and its neighbourhood over one denominator. -/
structure Neighbourhood where
  value : Nat
  below : Nat
  above : Nat
  closed : Bool

def unit : Nat := 1 <<< 1076

/-- The neighbourhood of a double in parts of `unit`. Below a power of two the doubles lie twice as
    close. -/
def neighbourhood (x : Binary64) : Neighbourhood where
  value := (4 * x.significand) <<< x.exponent
  below := if x.significand = leastFull ∧ 0 < x.exponent then 1 <<< x.exponent else 2 <<< x.exponent
  above := 2 <<< x.exponent
  closed := x.significand % 2 = 0

/-- The number of `count` digits in the neighbourhood that is nearest to the double, if there is
    any: it is one of the two numbers of so many digits around the double. -/
def digitsOf? (tie : Tie) (near : Neighbourhood) (lead : Int) (count : Nat) : Option Nat :=
  let power := lead - count + 1
  let factor := Nat.pow 10 (-power).toNat
  let den := unit * Nat.pow 10 power.toNat
  let low := near.value * factor / den
  let down := near.value * factor % den
  let up := den - down
  let within (distance reach : Nat) : Bool :=
    if near.closed then distance ≤ reach * factor else distance < reach * factor
  let takeLow : Bool :=
    down < up || (down == up && match tie with | .even => low % 2 == 0 | .up => false)
  match within down near.below, within up near.above with
  | true, true => some (if takeLow then low else low + 1)
  | true, false => some low
  | false, true => some (low + 1)
  | false, false => none

/-- The digits found with the fewest places from `count` on, with at most `tries` more places.
    Seventeen places always suffice. -/
def search (tie : Tie) (near : Neighbourhood) (lead : Int) : Nat → Nat → Nat × Nat
  | 0, count => ((digitsOf? tie near lead count).getD 0, count)
  | tries + 1, count =>
    match digitsOf? tie near lead count with
    | some digits => (digits, count)
    | none => search tie near lead tries (count + 1)

/-- The shortest decimal number that stands for a double other than zero, its sign aside. -/
def shortest (tie : Tie) (x : Binary64) : Decimal :=
  let near := x.neighbourhood
  let lead := leadOf near.value unit
  let (digits, count) := search tie near lead 17 1
  if digits = Nat.pow 10 count then ⟨1, lead + 1⟩ else ⟨digits, lead⟩

end Binary64

structure Layout where
  plainFrom : Int
  plainTo : Int
  plus : String
  tie : Tie

namespace Layout

def document : Layout := ⟨-5, 15, "+", .even⟩

def debug : Layout := ⟨-4, 15, "", .up⟩

def zeros (n : Nat) : String :=
  String.ofList (List.replicate n '0')

def plain (digits : String) (lead : Int) : String :=
  if lead < 0 then "0." ++ zeros (lead.natAbs - 1) ++ digits
  else
    let whole := lead.toNat + 1
    if digits.length ≤ whole then digits ++ zeros (whole - digits.length) ++ ".0"
    else
      String.ofList (digits.toList.take whole) ++ "." ++ String.ofList (digits.toList.drop whole)

def scientific (plus digits : String) (lead : Int) : String :=
  let first := String.ofList (digits.toList.take 1)
  let others := String.ofList (digits.toList.drop 1)
  let mantissa := if others.isEmpty then first else first ++ "." ++ others
  mantissa ++ "e" ++ (if lead < 0 then "-" else plus) ++ toString lead.natAbs

def magnitude (layout : Layout) (x : Binary64) : String :=
  if x.isZero then "0.0"
  else
    let decimal := x.shortest layout.tie
    let digits := toString decimal.digits
    if layout.plainFrom ≤ decimal.lead && decimal.lead ≤ layout.plainTo then
      plain digits decimal.lead
    else scientific layout.plus digits decimal.lead

def text (layout : Layout) (x : Binary64) : String :=
  (if x.negative then "-" else "") ++ layout.magnitude x

end Layout

def Binary64.text (x : Binary64) : String :=
  Layout.document.text x

def Double.debugText : Double → String
  | .finite x => Layout.debug.text x
  | .infinite negative => if negative then "-inf" else "inf"
  | .nan => "NaN"

end AgentCanvas
