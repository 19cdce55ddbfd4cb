import ActivityLedger.Json.Value
import ActivityLedger.Numeric.Binary64

/-!
# Numbers in JSON

The binary fraction that a number is read as.  The digits that fit a word give the
nearest fraction, which is multiplied with a power of ten or divided by one.  Both
steps round, so the result may miss the nearest fraction by a little.
-/

namespace ActivityLedger.Json

def greatestWord : Nat := 18446744073709551615

/-- Digits without those that do not fit a word, and the power of ten that this has to make up
for. -/
def fitWord : Nat → Nat → Int → Nat × Int
  | 0, digits, exponent => (digits, exponent)
  | tries + 1, digits, exponent =>
      if digits ≤ greatestWord then (digits, exponent)
      else fitWord tries (digits / 10) (exponent + 1)

def greatestPower : Nat := 308

/-- A number times a power of ten.  Three divisions by the greatest power leave nothing. -/
def timesPower : Nat → Binary64 → Int → Binary64
  | 0, number, _ => number
  | tries + 1, number, exponent =>
      if 0 ≤ exponent then
        if exponent ≤ greatestPower then number.mul (.ofDecimal false 1 exponent)
        else if number = .finite 0 0 then number
        else .infinite false
      else if -greatestPower ≤ exponent then number.div (.ofDecimal false 1 exponent.natAbs)
      else timesPower tries (number.div (.ofDecimal false 1 greatestPower))
        (exponent + greatestPower)

def readDecimal (negative : Bool) (digits : Nat) (exponent : Int) : Binary64 :=
  let (word, exponent) := fitWord (Nat.log2 digits) digits exponent
  let number := timesPower 4 (.ofInt word) exponent
  if negative then number.negated else number

def Number.fraction : Number → Binary64
  | .integer n => readDecimal (n < 0) n.natAbs 0
  | .decimal negative digits exponent => readDecimal negative digits exponent

/-- The number is not beyond all finite ones. -/
def Number.isFinite (n : Number) : Bool := !n.fraction.isInfinite

end ActivityLedger.Json
