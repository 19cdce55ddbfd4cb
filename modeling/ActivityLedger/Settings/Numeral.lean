import ActivityLedger.Settings.Setting
import ActivityLedger.Text.Numeral
import ActivityLedger.Text.SameName

/-!
# Numbers in files with settings

The settings that numbers in a text stand for: integers of 64 bits, and fractions
with a point or an exponent or both, for which there are also words.
-/

namespace ActivityLedger.Setting

def sizeOf? (base : Nat) (run : List Char) : Option Nat := do
  let digits ← run.mapM Json.hexValue?
  guard (!digits.isEmpty && digits.all (· < base))
  return digits.foldl (fun size digit => size * base + digit) 0

def ofDigits? (negative : Bool) (base : Nat) (run : List Char) : Option Setting := do
  let size : Int := ← sizeOf? base run
  let number : Amount ← Bounded.ofInt? (if negative then -size else size)
  return .integer number.val

def integer? (base : Nat) (cs : List Char) : Option Setting :=
  let (negative, run) := Text.Numeral.readSign cs
  ofDigits? negative base run

def decimal? (cs : List Char) : Option Setting :=
  let numeral := Text.Numeral.read cs
  if cs.any Text.isBasicBlank || numeral.digits.isEmpty || !numeral.isComplete then none
  else
    some (.ofFraction numeral.negative (Binary64.ofDecimal numeral.negative
      (Text.value numeral.digits) (numeral.exponent - numeral.fraction.length)))

/-- The fraction that a text is, which may be a word for an infinity or for no number. -/
def fraction? (cs : List Char) : Option Setting :=
  let (negative, rest) := Text.Numeral.readSign cs
  match Text.small (.ofList rest) with
  | "inf" | "infinity" => some (.real (.infinite negative))
  | "nan" => some .notNumber
  | _ => decimal? cs

end ActivityLedger.Setting
