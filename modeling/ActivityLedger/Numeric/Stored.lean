import ActivityLedger.Numeric.Extended
import ActivityLedger.Numeric.Scientific
import ActivityLedger.Text.Numeral

/-!
# Decimals in a database

How a database reads a decimal as a binary fraction, and how it writes one.  It
reads only as many digits as fit a word, and it writes fifteen at most.
-/

namespace ActivityLedger.Stored

/-- A word of digits takes no more of them. -/
def isFull (word : Nat) : Bool := 1844674407370955160 ≤ word

/-- The digits before a point after those in a word, and how many did not fit. -/
def takeWhole (word : Nat) : List Char → Nat × Nat
  | [] => (word, 0)
  | c :: rest =>
      if isFull word then (word, rest.length + 1) else takeWhole (word * 10 + (c.toNat - 48)) rest

def takeFraction (word : Nat) : List Char → Nat × Nat
  | [] => (word, 0)
  | c :: rest =>
      if isFull word then (word, 0)
      else
        let (word, count) := takeFraction (word * 10 + (c.toNat - 48)) rest
        (word, count + 1)

/-- A word with the zeros of a power of ten moved into it while they fit. -/
def fill (word : Nat) (exponent : Int) : Nat → Nat × Int
  | 0 => (word, exponent)
  | tries + 1 =>
      if 0 < exponent ∧ word < 1844674407370955161 then fill (word * 10) (exponent - 1) tries
      else (word, exponent)

def empty (word : Nat) (exponent : Int) : Nat → Nat × Int
  | 0 => (word, exponent)
  | tries + 1 =>
      if exponent < 0 ∧ word % 10 = 0 then empty (word / 10) (exponent + 1) tries
      else (word, exponent)

def ofNumeral (numeral : Text.Numeral) : Binary64 :=
  let (word, left) := takeWhole 0 numeral.whole
  let (word, taken) := takeFraction word numeral.fraction
  let (word, exponent) := fill word (numeral.exponent + left - taken) 20
  let (word, exponent) := empty word exponent 20
  if word = 0 then .finite 0 0
  else if exponent = 0 then .ofInt (if numeral.negative then -(word : Int) else word)
  else if Binary64.decimalReach < exponent then .infinite numeral.negative
  else if exponent < -Binary64.decimalReach then .finite 0 0
  else ((Extended.ofQuotient word 1).scaled exponent).toBinary64 numeral.negative

/-- A number cut to fifteen decimal digits, a half going up, and the place of the last one. -/
def cut (digits : Nat) (place : Int) : Nat × Int :=
  match (Text.digits digits).length - 15 with
  | 0 => (digits, place)
  | excess + 1 => ((digits / Nat.pow 10 excess + 5) / 10, place + excess + 1)

/-- The text of a number, positional from 0.0001 up to below 10^15. -/
def text (number : Binary64) : String :=
  match number with
  | .infinite negative => Binary64.signed negative ['I', 'n', 'f']
  | .finite m e =>
      if m = 0 then "0.0"
      else
        let (n, d) := Binary64.quotient m.natAbs e
        let (digits, place) := (Extended.ofQuotient n.natAbs d).digits
        let (digits, place) := cut digits place
        let (digits, place) := Binary64.dropZeros 20 digits place
        let run := Text.digits digits
        let first := place + run.length - 1
        Binary64.signed (m < 0)
          (if -4 ≤ first ∧ first < 15 then Binary64.positional run place
          else
            Binary64.mantissaText true run ++ ['e', if first < 0 then '-' else '+'] ++
              Text.padded 2 first.natAbs)

end ActivityLedger.Stored
