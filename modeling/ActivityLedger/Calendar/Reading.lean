import ActivityLedger.Calendar.Date
import ActivityLedger.Text.Blank

/-!
# Dates from text

A written date is a year, a month and a day with hyphens between them.  Blanks
may stand before each part, the year may have a sign, month and day have one or
two digits, and a year without a sign has at most four.  Exchanged dates also
allow blanks before the hyphens and after the day; stored dates do not.
-/

namespace ActivityLedger.Date

inductive Fault where
  | unexpectedCharacter
  | endsEarly
  | continues
  | outOfRange
deriving DecidableEq

def Fault.message : Fault → String
  | .unexpectedCharacter => "input contains invalid characters"
  | .endsEarly => "premature end of input"
  | .continues => "trailing input"
  | .outOfRange => "input is out of range"

/-- A run of digits, as many as there are up to a limit, and what follows it. -/
def readDigits (limit : Nat) (cs : List Char) : Except Fault (Nat × List Char) :=
  match cs with
  | [] => .error .endsEarly
  | c :: _ =>
      if c.isDigit then
        let run := (cs.take limit).takeWhile Char.isDigit
        .ok (Text.value run, cs.drop run.length)
      else .error .unexpectedCharacter

/-- A year of 32 signed bits, with more than four digits only after a sign. -/
def readYear (cs : List Char) : Except Fault (Int × List Char) := do
  let (year, rest) ←
    match Text.trimLeft cs with
    | '-' :: unsigned =>
        (readDigits unsigned.length unsigned).map fun (n, rest) => (-(n : Int), rest)
    | '+' :: unsigned =>
        (readDigits unsigned.length unsigned).map fun (n, rest) => ((n : Int), rest)
    | unsigned => (readDigits 4 unsigned).map fun (n, rest) => ((n : Int), rest)
  if -2147483648 ≤ year ∧ year ≤ 2147483647 then .ok (year, rest) else .error .outOfRange

/-- A month or a day: one or two digits with a value from one up to a limit. -/
def readPart (limit : Nat) (cs : List Char) : Except Fault (Nat × List Char) := do
  let (part, rest) ← readDigits 2 (Text.trimLeft cs)
  if 1 ≤ part ∧ part ≤ limit then .ok (part, rest) else .error .outOfRange

def readHyphen : List Char → Except Fault (List Char)
  | [] => .error .endsEarly
  | '-' :: rest => .ok rest
  | _ :: _ => .error .unexpectedCharacter

/-- A date, with blanks before hyphens and at the end allowed or not. -/
def read (loose : Bool) (cs : List Char) : Except Fault Date := do
  let skip (rest : List Char) := if loose then Text.trimLeft rest else rest
  let (year, rest) ← readYear cs
  let rest ← readHyphen (skip rest)
  let (month, rest) ← readPart 12 rest
  let rest ← readHyphen (skip rest)
  let (day, rest) ← readPart 31 rest
  if (skip rest).isEmpty then
    match ofParts? year month day with
    | some date => .ok date
    | none => .error .outOfRange
  else .error .continues

def ofText? (text : String) : Option Date := (read true text.toList).toOption

def ofStored (text : String) : Except Fault Date := read false text.toList

end ActivityLedger.Date
