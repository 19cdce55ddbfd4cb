import ActivityLedger.Numeric.Binary64
import ActivityLedger.Text.Decimal

/-!
# Decimal texts of binary fractions

Two texts of one number, with the fewest digits that round back to it.  The exact
one has an exponent where the number is far from one, the plain one never.
-/

namespace ActivityLedger.Binary64

/-- The power of ten of a quotient's first digit, tried from a guess upwards. -/
def firstPlaceFrom (n d : Nat) (place : Int) : Nat → Int
  | 0 => place
  | tries + 1 =>
      let next := place + 1
      let reached :=
        if 0 ≤ next then d * Nat.pow 10 next.toNat ≤ n else d ≤ n * Nat.pow 10 next.natAbs
      if reached then firstPlaceFrom n d next tries else place

def firstPlace (n d : Nat) : Int :=
  let guess : Int := ((n.log2 : Int) - d.log2 - 1) * 3 / 10 - 2
  firstPlaceFrom n d guess 120

def shift (n d : Nat) (place : Int) : Nat × Nat :=
  if 0 ≤ place then (n, d * Nat.pow 10 place.toNat) else (n * Nat.pow 10 place.natAbs, d)

/-- The decimal next to a positive number, among those with a given last place, that rounds
back to it, a tie going up. -/
def neighbour? (number : Binary64) (n d : Nat) (place : Int) : Option Nat :=
  let (n', d') := shift n d place
  let below := n' / d'
  let roundsBack (digits : Nat) : Bool := ofDecimal false digits place = number
  match roundsBack below, roundsBack (below + 1) with
  | false, false => none
  | true, false => some below
  | false, true => some (below + 1)
  | true, true => if 2 * (n' % d') < d' then some below else some (below + 1)

def fewestFrom (number : Binary64) (n d : Nat) (first : Int) : Nat → Int → Nat × Int
  | 0, count => (n * Nat.pow 10 (count - 1 - first).toNat / d, first - count + 1)
  | tries + 1, count =>
      match neighbour? number n d (first - count + 1) with
      | some digits => (digits, first - count + 1)
      | none => fewestFrom number n d first tries (count + 1)

def dropZeros : Nat → Nat → Int → Nat × Int
  | 0, digits, place => (digits, place)
  | tries + 1, digits, place =>
      if digits ≠ 0 ∧ digits % 10 = 0 then dropZeros tries (digits / 10) (place + 1)
      else (digits, place)

/-- The digits of a positive number and the place of the last one. -/
def shortest (number : Binary64) (n d : Nat) : Nat × Int :=
  let (digits, place) := fewestFrom number n d (firstPlace n d) 17 1
  dropZeros 20 digits place

/-- Digits with a point after the first one, at least one digit following it if wanted. -/
def mantissaText (pointed : Bool) (run : List Char) : List Char :=
  match run with
  | [] => []
  | [only] => if pointed then [only, '.', '0'] else [only]
  | first :: rest => first :: '.' :: rest

def positional (run : List Char) (place : Int) : List Char :=
  if 0 ≤ place then run ++ List.replicate place.toNat '0' ++ ['.', '0']
  else
    let fraction := place.natAbs
    if fraction < run.length then
      run.take (run.length - fraction) ++ ['.'] ++ run.drop (run.length - fraction)
    else ['0', '.'] ++ List.replicate (fraction - run.length) '0' ++ run

def signed (negative : Bool) (cs : List Char) : String :=
  String.ofList (if negative then '-' :: cs else cs)

/-- The exact text: positional from 0.0001 up to below 10^16, with an exponent beyond. -/
def exactText (number : Binary64) : String :=
  match number with
  | .infinite negative => signed negative ['i', 'n', 'f']
  | .finite m e =>
      if m = 0 then "0.0"
      else
        let (n, d) := quotient m.natAbs e
        let (digits, place) := shortest number.size n.natAbs d
        let run := Text.digits digits
        let first := place + run.length - 1
        signed (m < 0)
          (if -4 ≤ first ∧ first < 16 then positional run place
          else mantissaText false run ++ ['e'] ++ Text.integer first)

/-- The plain text: positional, and without a point where no fraction is left. -/
def plainText (number : Binary64) : String :=
  match number with
  | .infinite negative => signed negative ['i', 'n', 'f']
  | .finite m e =>
      if m = 0 then "0"
      else
        let (n, d) := quotient m.natAbs e
        let (digits, place) := shortest number.size n.natAbs d
        let run := Text.digits digits
        signed (m < 0)
          (if 0 ≤ place then run ++ List.replicate place.toNat '0' else positional run place)

end ActivityLedger.Binary64
