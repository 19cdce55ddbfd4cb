import ActivityLedger.Numeric.Bounded

/-!
# Binary fractions with 53 digits

The numbers that a store falls back to when a sum leaves the range of amounts: an
integer of at most 53 binary digits times a power of two, or an infinity.  Every
operation is the exact one followed by rounding to the nearest number, a tie
going to the even neighbour.
-/

namespace ActivityLedger

/-- A binary fraction with 53 digits, or an infinity. -/
inductive Binary64 where
  | finite (mantissa exponent : Int)
  | infinite (negative : Bool)
deriving DecidableEq

namespace Binary64

/-- The nearest integer to a quotient, a tie going to the even neighbour. -/
def roundQuotient (n d : Nat) : Nat :=
  let quotient := n / d
  let rest := n % d
  if 2 * rest < d then quotient
  else if d < 2 * rest then quotient + 1
  else quotient + quotient % 2

def scale (n d : Nat) (exponent : Int) : Nat × Nat :=
  if 0 ≤ exponent then (n * Nat.pow 2 exponent.toNat, d) else (n, d * Nat.pow 2 exponent.natAbs)

def leastExponent : Int := -1074

def greatestExponent : Int := 971

/-- The least number with 53 binary digits. -/
def leastMantissa : Nat := 4503599627370496

/-- The exponent at which a positive quotient has 53 binary digits before the point. -/
def exponentOf (n d : Nat) : Int :=
  let guess : Int := (n.log2 : Int) - d.log2 - 52
  let (n', d') := scale n d (-guess)
  max leastExponent (if leastMantissa * d' ≤ n' then guess else guess - 1)

def ofQuotient (numerator : Int) (d : Nat) : Binary64 :=
  if numerator = 0 then .finite 0 0
  else
    let exponent := exponentOf numerator.natAbs d
    let (n', d') := scale numerator.natAbs d (-exponent)
    let rounded := roundQuotient n' d'
    let (size, exponent) :=
      if rounded = 2 * leastMantissa then (leastMantissa, exponent + 1) else (rounded, exponent)
    if size = 0 then .finite 0 0
    else if greatestExponent < exponent then .infinite (numerator < 0)
    else .finite (if numerator < 0 then -(size : Int) else size) exponent

def ofInt (n : Int) : Binary64 := ofQuotient n 1

/-- The most digits that a decimal may have beyond the reach of all numbers. -/
def decimalReach : Int := 400

def ofDecimal (negative : Bool) (digits : Nat) (exponent : Int) : Binary64 :=
  let signed : Int := if negative then -(digits : Int) else digits
  let size : Int := Nat.log2 digits
  if digits = 0 then .finite 0 0
  else if decimalReach < exponent then .infinite negative
  else if exponent < -(decimalReach + size) then .finite 0 0
  else if 0 ≤ exponent then ofQuotient (signed * Nat.pow 10 exponent.toNat) 1
  else ofQuotient signed (Nat.pow 10 exponent.natAbs)

def quotient (mantissa exponent : Int) : Int × Nat :=
  if 0 ≤ exponent then (mantissa * Nat.pow 2 exponent.toNat, 1)
  else (mantissa, Nat.pow 2 exponent.natAbs)

/-- The rounded sum of two numbers, the first infinity deciding. -/
def add : Binary64 → Binary64 → Binary64
  | .infinite negative, _ => .infinite negative
  | _, .infinite negative => .infinite negative
  | .finite m e, .finite m' e' =>
      let (n, d) := quotient m e
      let (n', d') := quotient m' e'
      ofQuotient (n * d' + n' * d) (d * d')

def negated : Binary64 → Binary64
  | .infinite negative => .infinite !negative
  | .finite m e => .finite (-m) e

/-- The rounded product of two numbers that are not negative. -/
def mul : Binary64 → Binary64 → Binary64
  | .infinite negative, _ => .infinite negative
  | _, .infinite negative => .infinite negative
  | .finite m e, .finite m' e' =>
      let (n, d) := quotient m e
      let (n', d') := quotient m' e'
      ofQuotient (n * n') (d * d')

/-- The rounded quotient of a number and a positive one. -/
def div : Binary64 → Binary64 → Binary64
  | .infinite negative, _ => .infinite negative
  | _, .infinite _ => .finite 0 0
  | .finite m e, .finite m' e' =>
      let (n, d) := quotient m e
      let (n', d') := quotient m' e'
      ofQuotient (n * d') (d * n'.natAbs)

def atMost : Binary64 → Int → Bool
  | .infinite negative, _ => negative
  | .finite m e, bound =>
      let (n, d) := quotient m e
      n ≤ bound * d

def atLeast : Binary64 → Int → Bool
  | .infinite negative, _ => !negative
  | .finite m e, bound =>
      let (n, d) := quotient m e
      bound * d ≤ n

def isLess : Binary64 → Binary64 → Bool
  | .infinite negative, .infinite negative' => negative && !negative'
  | .infinite negative, .finite _ _ => negative
  | .finite _ _, .infinite negative => !negative
  | .finite m e, .finite m' e' =>
      let (n, d) := quotient m e
      let (n', d') := quotient m' e'
      n * d' < n' * d

def int? : Binary64 → Option Int
  | .infinite _ => none
  | .finite m e =>
      let (n, d) := quotient m e
      if n % d = 0 then some (n / d) else none

def isInfinite : Binary64 → Bool
  | .infinite _ => true
  | .finite _ _ => false

def size : Binary64 → Binary64
  | .infinite _ => .infinite false
  | .finite m e => .finite m.natAbs e

end Binary64

end ActivityLedger
