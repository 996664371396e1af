set_option autoImplicit false

/-!
# Doubles

The numbers of a scene are IEEE doubles. They are kept here as plain data, so that a value is a term
one can compute with and compare: a finite double is a sign, a significand and a power of two, and
rounding is arithmetic on natural numbers.
-/
namespace AgentCanvas

/-- A finite double, of magnitude `significand · 2 ^ (exponent - 1074)`. Rounding yields
    significands below `2 ^ 53`, and below `2 ^ 52` only at exponent zero, so that each value has
    one form. -/
structure Binary64 where
  negative : Bool
  significand : Nat
  exponent : Nat
  deriving DecidableEq, Repr

inductive Double where
  | finite (value : Binary64)
  | infinite (negative : Bool)
  | nan
  deriving DecidableEq, Repr

namespace Binary64

def leastFull : Nat := 1 <<< 52

def significandBound : Nat := 1 <<< 53

def isZero (x : Binary64) : Bool :=
  x.significand == 0

def divideEven (num den : Nat) : Nat :=
  let quotient := num / den
  let twice := 2 * (num % den)
  if twice < den then quotient
  else if den < twice then quotient + 1
  else if quotient % 2 = 0 then quotient else quotient + 1

/-- The exponent at which `num / 2 ^ 1074 / den` has a significand of 53 bits, or zero for the
    numbers too small for that. -/
def exponentFor (num den : Nat) : Nat :=
  let guess := num.log2 - den.log2 - 53
  if num / (den <<< guess) < significandBound then guess else guess + 1

/-- The double nearest to `num / den`, for a positive `den`; none if that exceeds every double. -/
def ofRatio? (negative : Bool) (num den : Nat) : Option Binary64 :=
  let scaled := num <<< 1074
  let exponent := exponentFor scaled den
  let significand := divideEven scaled (den <<< exponent)
  let rounded : Binary64 :=
    if significand = significandBound then ⟨negative, leastFull, exponent + 1⟩
    else ⟨negative, significand, exponent⟩
  if rounded.exponent ≤ 2045 then some rounded else none

/-- Numbers that compare equal: the same number, or two zeros of any sign. -/
def same (x y : Binary64) : Bool :=
  x == y || (x.isZero && y.isZero)

def times? (x y : Binary64) : Option Binary64 :=
  ofRatio? (x.negative != y.negative)
    ((x.significand * y.significand) <<< (x.exponent + y.exponent)) (1 <<< 2148)

def over? (x y : Binary64) : Option Binary64 :=
  ofRatio? (x.negative != y.negative) (x.significand <<< x.exponent) (y.significand <<< y.exponent)

def greatestPower : Nat := 308

def powerOfTen (k : Nat) : Binary64 :=
  (ofRatio? false (Nat.pow 10 k) 1).getD ⟨false, 0, 0⟩

/-- `x` divided `rounds` times by the greatest power of ten, then by `10 ^ rest`. Zero stays as it
    is. -/
def divideRounds (x : Binary64) (rest : Nat) : Nat → Option Binary64
  | 0 => x.over? (powerOfTen rest)
  | rounds + 1 =>
    if x.isZero then some x
    else
      match x.over? (powerOfTen greatestPower) with
      | some y => divideRounds y rest rounds
      | none => none

/-- `x / 10 ^ k`, where a `k` beyond the greatest power is taken off in rounds of that power. -/
def scaleDown (x : Binary64) (k : Nat) : Option Binary64 :=
  let rounds := (k - 1) / greatestPower
  x.divideRounds (k - rounds * greatestPower) rounds

/-- `x · 10 ^ k`; none if that is too large. -/
def scaleUp (x : Binary64) (k : Nat) : Option Binary64 :=
  if k ≤ greatestPower then x.times? (powerOfTen k)
  else if x.isZero then some x
  else none

def ofDecimal? (negative : Bool) (significand : Nat) (exponent : Int) : Option Binary64 := do
  let x ← ofRatio? false significand 1
  let scaled ← if exponent < 0 then scaleDown x exponent.natAbs else scaleUp x exponent.natAbs
  return { scaled with negative }

end Binary64

namespace Double

def ofRatio (negative : Bool) (num den : Nat) : Double :=
  match Binary64.ofRatio? negative num den with
  | some value => .finite value
  | none => .infinite negative

def ofInt (n : Int) : Double :=
  ofRatio (n < 0) n.natAbs 1

/-- Equality of numbers: a number that is not one differs from itself, and the two zeros agree. -/
def same : Double → Double → Bool
  | .finite x, .finite y => x.same y
  | .infinite s, .infinite t => s == t
  | _, _ => false

def isFinite : Double → Bool
  | .finite _ => true
  | _ => false

end Double
end AgentCanvas
