import ActivityLedger.Text.Decimal

/-!
# Calendar dates

Dates of the proleptic Gregorian calendar between two fixed years.  A date is
valid by construction: its day exists in its month.  Days are counted from one
fixed origin, so that the distance of two dates is a difference of day numbers.
-/

namespace ActivityLedger.Calendar

def firstYear : Int := -262143

def lastYear : Int := 262142

/-- Every fourth year has a leap day, except centuries not divisible by four hundred. -/
def isLeapYear (year : Int) : Bool :=
  year % 4 == 0 && (year % 100 != 0 || year % 400 == 0)

def monthLength (year : Int) : Nat → Nat
  | 2 => if isLeapYear year then 29 else 28
  | 4 | 6 | 9 | 11 => 30
  | _ => 31

theorem twentyEight_le_monthLength (year : Int) (month : Nat) : 28 ≤ monthLength year month := by
  unfold monthLength
  split <;> (try split) <;> decide

theorem monthLength_le (year : Int) (month : Nat) : monthLength year month ≤ 31 := by
  unfold monthLength
  split <;> (try split) <;> decide

end Calendar

open Calendar

structure Date where
  year : Int
  month : Nat
  day : Nat
  firstYear_le : firstYear ≤ year
  le_lastYear : year ≤ lastYear
  one_le_month : 1 ≤ month
  month_le : month ≤ 12
  one_le_day : 1 ≤ day
  day_le : day ≤ monthLength year month
deriving DecidableEq

namespace Date

@[ext] theorem ext {a b : Date} (years : a.year = b.year) (months : a.month = b.month)
    (days : a.day = b.day) : a = b := by
  cases a; cases b; simp_all

def ofParts? (year : Int) (month day : Nat) : Option Date :=
  if h : (firstYear ≤ year ∧ year ≤ lastYear) ∧ (1 ≤ month ∧ month ≤ 12) ∧
      (1 ≤ day ∧ day ≤ monthLength year month) then
    some ⟨year, month, day, h.1.1, h.1.2, h.2.1.1, h.2.1.2, h.2.2.1, h.2.2.2⟩
  else none

theorem ofParts?_eq_some_iff {year : Int} {month day : Nat} {date : Date} :
    ofParts? year month day = some date ↔
      date.year = year ∧ date.month = month ∧ date.day = day := by
  unfold ofParts?
  split
  · constructor
    · intro h
      cases h
      exact ⟨rfl, rfl, rfl⟩
    · rintro ⟨rfl, rfl, rfl⟩
      rfl
  · rename_i absent
    constructor
    · intro h
      cases h
    · rintro ⟨rfl, rfl, rfl⟩
      exact absurd ⟨⟨date.firstYear_le, date.le_lastYear⟩, ⟨date.one_le_month, date.month_le⟩,
        ⟨date.one_le_day, date.day_le⟩⟩ absent

def firstOfMonth (date : Date) : Date :=
  { date with
    day := 1
    one_le_day := Nat.le_refl 1
    day_le := Nat.le_trans (by decide) (twentyEight_le_monthLength date.year date.month) }

/-- The first day of the month that follows a date's month, unless the calendar ends. -/
def firstOfNextMonth? (date : Date) : Option Date :=
  if date.month = 12 then ofParts? (date.year + 1) 1 1
  else ofParts? date.year (date.month + 1) 1

def daysBeforeMonth (year : Int) : Nat → Nat
  | 0 => 0
  | 1 => 0
  | month + 1 => daysBeforeMonth year month + monthLength year month

def daysBeforeYear (year : Int) : Int :=
  365 * (year - 1) + (year - 1) / 4 - (year - 1) / 100 + (year - 1) / 400

/-- The number of a day, which grows by one from each day to the next. -/
def number (date : Date) : Int :=
  daysBeforeYear date.year + daysBeforeMonth date.year date.month + date.day

def ofNumber? (number : Int) : Option Date :=
  let near := number * 400 / 146097
  [near, near + 1, near + 2].findSome? fun year =>
    (List.range 13).findSome? fun month =>
      ofParts? year month (number - daysBeforeYear year - daysBeforeMonth year month).toNat

def daysUntil (first second : Date) : Int := second.number - first.number

/-- How many days a date's month has: the distance to the first of the next month. -/
def daysInMonth (date : Date) : Int :=
  match date.firstOfNextMonth? with
  | some next => date.firstOfMonth.daysUntil next
  | none => 31

def Before (a b : Date) : Prop :=
  a.year < b.year ∨
    (a.year = b.year ∧ (a.month < b.month ∨ (a.month = b.month ∧ a.day < b.day)))

instance (a b : Date) : Decidable (Before a b) :=
  inferInstanceAs (Decidable (_ ∨ _))

def SameMonth (a b : Date) : Prop := a.year = b.year ∧ a.month = b.month

instance (a b : Date) : Decidable (SameMonth a b) :=
  inferInstanceAs (Decidable (_ ∧ _))

/-- A year as it is written: four digits from zero on, a sign where four do not suffice. -/
def yearText (year : Int) : List Char :=
  if 0 ≤ year ∧ year ≤ 9999 then Text.padded 4 year.toNat
  else if year < 0 then '-' :: Text.padded 4 year.natAbs
  else '+' :: Text.padded 4 year.natAbs

def text (date : Date) : String :=
  String.ofList
    (yearText date.year ++ ['-'] ++ Text.padded 2 date.month ++ ['-'] ++ Text.padded 2 date.day)

end Date

end ActivityLedger
