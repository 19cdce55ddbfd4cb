import ActivityLedger.Calendar.Date
import ActivityLedger.Error
import ActivityLedger.Text.Blank

/-!
# Compact dates

Two digits of the year, two of the month and, for a single day, two of the day.
Only the years from 2000 to 2099 have a compact form, and in it the order of
texts is the order of dates.
-/

namespace ActivityLedger.Date

def firstCompactYear : Int := 2000

def lastCompactYear : Int := 2099

/-- The date lies in the century whose years are told apart by two digits. -/
def HasCompact (date : Date) : Prop :=
  firstCompactYear ≤ date.year ∧ date.year ≤ lastCompactYear

instance (date : Date) : Decidable (HasCompact date) := inferInstanceAs (Decidable (_ ∧ _))

def compactMonth (date : Date) : List Char :=
  Text.padded 2 (date.year % 100).toNat ++ Text.padded 2 date.month

def compactDay (date : Date) : List Char :=
  compactMonth date ++ Text.padded 2 date.day

/-- The date whose compact form is given, a month standing for its first day. -/
def ofDigits? : List Char → Option Date
  | [y₁, y₂, m₁, m₂] =>
      ofParts? (firstCompactYear + Text.value [y₁, y₂]) (Text.value [m₁, m₂]) 1
  | [y₁, y₂, m₁, m₂, d₁, d₂] =>
      ofParts? (firstCompactYear + Text.value [y₁, y₂]) (Text.value [m₁, m₂])
        (Text.value [d₁, d₂])
  | _ => none

/-- The date that a compact form between blanks stands for. -/
def ofCompact (text : String) : Except Error Date :=
  let trimmed := Text.trim text.toList
  if (trimmed.length = 4 ∨ trimmed.length = 6) ∧ trimmed.all Char.isDigit = true then
    match ofDigits? trimmed with
    | some date => .ok date
    | none => .error (.request (.absentDate (String.ofList trimmed)))
  else .error (.request (.dateShape (String.ofList trimmed)))

end ActivityLedger.Date
