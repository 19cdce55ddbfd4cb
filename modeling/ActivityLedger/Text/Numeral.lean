import ActivityLedger.Text.Decimal

/-!
# Numerals in a text

A number at the start of a text: a sign, digits, a fraction and an exponent, each
but the digits optional, with blanks of the basic set around it.
-/

namespace ActivityLedger.Text

/-- The number that a text starts with. -/
structure Numeral where
  negative : Bool
  /-- The digits before the point. -/
  whole : List Char
  /-- The digits after the point. -/
  fraction : List Char
  exponent : Int
  /-- A point or a finished exponent makes it a number with a fraction. -/
  isBroad : Bool
  /-- Nothing but blanks follows, and an exponent that was begun is finished. -/
  isComplete : Bool
deriving DecidableEq

def isBasicBlank (c : Char) : Bool := c = ' ' || (9 ≤ c.toNat && c.toNat ≤ 13)

namespace Numeral

def digits (numeral : Numeral) : List Char := numeral.whole ++ numeral.fraction

def readSign : List Char → Bool × List Char
  | '-' :: rest => (true, rest)
  | '+' :: rest => (false, rest)
  | rest => (false, rest)

def readFraction : List Char → Option (List Char) × List Char
  | '.' :: rest => (some (rest.takeWhile Char.isDigit), rest.dropWhile Char.isDigit)
  | rest => (none, rest)

/-- The size of an exponent, of which no more digits are read once it is beyond ten thousand. -/
def exponentSize (run : List Char) : Nat :=
  run.foldl (fun size c => if size < 10000 then size * 10 + (c.toNat - 48) else 10000) 0

/-- An exponent that was begun, nothing standing for an unfinished one. -/
def readExponent : List Char → Option (Option Int) × List Char
  | [] => (none, [])
  | c :: rest =>
      if c = 'e' ∨ c = 'E' then
        let (negative, afterSign) := readSign rest
        let run := afterSign.takeWhile Char.isDigit
        let size : Int := exponentSize run
        if run.isEmpty then (some none, afterSign)
        else (some (some (if negative then -size else size)), afterSign.dropWhile Char.isDigit)
      else (none, c :: rest)

/-- The number that a text starts with, without digits where there is none. -/
def read (cs : List Char) : Numeral :=
  let (negative, cs) := readSign (cs.dropWhile isBasicBlank)
  let whole := cs.takeWhile Char.isDigit
  let (fraction, cs) := readFraction (cs.dropWhile Char.isDigit)
  let (exponent, cs) := readExponent cs
  {
    negative := negative
    whole := whole
    fraction := fraction.getD []
    exponent := (exponent.bind id).getD 0
    isBroad := fraction.isSome || (exponent.bind id).isSome
    isComplete := (cs.dropWhile isBasicBlank).isEmpty && exponent != some none }

end Numeral

end ActivityLedger.Text
