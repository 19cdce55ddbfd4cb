import ActivityLedger.Numeric.Binary64

/-!
# Binary fractions with 64 digits

The numbers through which a decimal passes on its way into a database and out of
it: a natural number of 64 binary digits times a power of two.  A product is the
exact one followed by rounding to the nearest number, a tie going to the even
neighbour.  A decimal is reached by multiplying with powers of ten one after the
other, so the small errors of each step are part of the result.
-/

namespace ActivityLedger

/-- A natural number times a power of two. -/
structure Extended where
  mantissa : Nat
  exponent : Int
deriving DecidableEq

namespace Extended

def leastMantissa : Nat := 9223372036854775808

def ofQuotient (n d : Nat) : Extended :=
  let guess : Int := (n.log2 : Int) - d.log2 - 63
  let (n', d') := Binary64.scale n d (-guess)
  let exponent := if leastMantissa * d' ≤ n' then guess else guess - 1
  let (n', d') := Binary64.scale n d (-exponent)
  ⟨Binary64.roundQuotient n' d', exponent⟩

def powerOfTen (exponent : Int) : Extended :=
  if 0 ≤ exponent then ofQuotient (Nat.pow 10 exponent.toNat) 1
  else ofQuotient 1 (Nat.pow 10 exponent.natAbs)

def mul (a b : Extended) : Extended :=
  let product := ofQuotient (a.mantissa * b.mantissa) 1
  ⟨product.mantissa, product.exponent + a.exponent + b.exponent⟩

def quotient (a : Extended) : Nat × Nat := Binary64.scale a.mantissa 1 a.exponent

def isLess (a b : Extended) : Bool :=
  let (n, d) := a.quotient
  let (n', d') := b.quotient
  n * d' < n' * d

def floor (a : Extended) : Nat :=
  let (n, d) := a.quotient
  n / d

/-- The nearest binary fraction with 53 digits, what is above the greatest one being infinite. -/
def toBinary64 (a : Extended) (negative : Bool) : Binary64 :=
  let (n, d) := a.quotient
  if (Nat.pow 2 53 - 1) * Nat.pow 2 Binary64.greatestExponent.toNat * d < n then .infinite negative
  else Binary64.ofQuotient (if negative then -(n : Int) else n) d

def mulTimes (factor : Extended) : Nat → Extended → Extended
  | 0, a => a
  | count + 1, a => mulTimes factor count (a.mul factor)

/-- A number times a power of ten, which is taken by hundreds, by tens and one at a time. -/
def scaled (a : Extended) (exponent : Int) : Extended :=
  let size := exponent.natAbs
  let step (width : Int) : Extended := powerOfTen (if 0 ≤ exponent then width else -width)
  mulTimes (step 1) (size % 10) (mulTimes (step 10) (size % 100 / 10)
    (mulTimes (step 100) (size / 100) a))

/-- A number divided by ten to the width while it is not below a limit, and the power of ten
that it has lost. -/
def lower (limit : Extended) (width : Nat) : Nat → Extended × Int → Extended × Int
  | 0, state => state
  | tries + 1, (a, place) =>
      if a.isLess limit then (a, place)
      else lower limit width tries (a.mul (powerOfTen (-(width : Int))), place + width)

def raise (limit : Extended) (width : Nat) : Nat → Extended × Int → Extended × Int
  | 0, state => state
  | tries + 1, (a, place) =>
      if a.isLess limit then
        raise limit width tries (a.mul (powerOfTen width), place - width)
      else (a, place)

/-- A number brought to between 10^17 and 10^19, and the power of ten that it has lost. -/
def levelled (a : Extended) : Extended × Int :=
  if a.isLess (powerOfTen 19) then
    raise (powerOfTen 17) 1 12 (raise (powerOfTen 7) 10 12 (raise (powerOfTen (-97)) 100 12 (a, 0)))
  else
    lower (powerOfTen 19) 1 12 (lower (powerOfTen 29) 10 12 (lower (powerOfTen 119) 100 12 (a, 0)))

/-- The first digits of a number, eighteen or nineteen of them, and the place of the last one. -/
def digits (a : Extended) : Nat × Int :=
  let (a, place) := a.levelled
  (a.floor, place)

end Extended

end ActivityLedger
