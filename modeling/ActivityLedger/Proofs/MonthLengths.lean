import ActivityLedger.Proofs.Keys
import ActivityLedger.Tracker.Tracker
import Mathlib.Order.Bounds.Basic
import Mathlib.Tactic.IntervalCases

/-!
# Lengths of months

The number of days in a month is the distance of two first days, and it is the greatest day
that the proleptic Gregorian calendar of the standard library has in that month.  This is so
for the last month of all too, which no first day follows.  A tracker set up for a month has
a slot for each of these days and no other, so the day of a key has its slot.
-/

namespace ActivityLedger

namespace Calendar

/-- The days that a month has in the standard calendar, which neither begins nor ends. -/
def gregorianDays (year : Int) (month : Nat) : Set Nat :=
  {day | ∃ date : Std.Time.PlainDate,
    date.year.toInt = year ∧ date.month.val = month ∧ date.day.val = day}

/-- Years before the first are divided with remainders below zero in the standard calendar, which
makes no difference for those that are divisible. -/
theorem isLeap_eq (year : Std.Time.Year.Offset) : year.isLeap = isLeapYear year.toInt := by
  have divides (n : Int) : year.toInt.tmod n = 0 ↔ year.toInt % n = 0 := by
    rw [← Int.dvd_iff_tmod_eq_zero, Int.dvd_iff_emod_eq_zero]
  rw [Bool.eq_iff_iff]
  simp [Std.Time.Year.Offset.isLeap, isLeapYear, divides]

theorem val_days (year : Int) (month : Std.Time.Month.Ordinal) :
    (month.days (isLeapYear year)).val = monthLength year month.val.toNat := by
  obtain ⟨number, positive, small⟩ := month
  unfold monthLength
  generalize isLeapYear year = leap
  interval_cases number <;> cases leap <;> rfl

theorem mem_gregorianDays_iff {year : Int} {month : Nat} (inYear : 1 ≤ month ∧ month ≤ 12)
    {day : Nat} : day ∈ gregorianDays year month ↔ 1 ≤ day ∧ day ≤ monthLength year month := by
  constructor
  · rintro ⟨date, years, months, days⟩
    have valid : date.day.val ≤ (date.month.days date.year.isLeap).val := date.valid
    have positive := date.day.property.1
    rw [isLeap_eq, val_days, years, months, days, Int.toNat_natCast] at valid
    omega
  · rintro ⟨positive, within⟩
    have small := monthLength_le year month
    let ordinal : Std.Time.Month.Ordinal := ⟨month, by omega, by omega⟩
    have valid : (day : Int) ≤ (ordinal.days (Std.Time.Year.Offset.ofInt year).isLeap).val := by
      rw [isLeap_eq]
      show (day : Int) ≤ (ordinal.days (isLeapYear year)).val
      rw [val_days]
      show (day : Int) ≤ monthLength year month
      omega
    exact ⟨⟨.ofInt year, ordinal, ⟨day, by omega, by omega⟩, valid⟩, rfl, rfl, rfl⟩

end Calendar

namespace Date

theorem mem_gregorianDays_iff (date : Date) {day : Nat} :
    day ∈ Calendar.gregorianDays date.year date.month ↔
      1 ≤ day ∧ day ≤ Calendar.monthLength date.year date.month :=
  Calendar.mem_gregorianDays_iff ⟨date.one_le_month, date.month_le⟩

/-- The greatest day of a date's month in the standard calendar is the length of the month. -/
theorem isGreatest_monthLength (date : Date) :
    IsGreatest (Calendar.gregorianDays date.year date.month)
      (Calendar.monthLength date.year date.month) := by
  have length := Calendar.twentyEight_le_monthLength date.year date.month
  constructor
  · exact date.mem_gregorianDays_iff.mpr ⟨by omega, Nat.le_refl _⟩
  · intro day member
    exact (date.mem_gregorianDays_iff.mp member).2

/-- The number of days in a date's month is that of the standard calendar, as an integer and as a
small number. -/
structure Measured (date : Date) : Prop where
  small : ((Small.lowBits date.daysInMonth).toNat : Int) = date.daysInMonth
  greatest : IsGreatest (Calendar.gregorianDays date.year date.month)
    (Small.lowBits date.daysInMonth).toNat

theorem measured (date : Date) : date.Measured where
  small := by rw [date.toNat_lowBits_daysInMonth, date.daysInMonth_eq]
  greatest := by
    rw [date.toNat_lowBits_daysInMonth]
    exact date.isGreatest_monthLength

end Date

/-! ## Slots -/

theorem UserTracker.day?_zero (id userId : String) (month : Date) (daysInMonth day : Small) :
    (zero id userId month daysInMonth).day? day =
      if 1 ≤ day.toNat ∧ day.toNat ≤ daysInMonth.toNat then some Counters.zero else none := by
  unfold day? zero
  split
  · rename_i nothing
    rw [if_neg (by omega)]
  · rw [List.getElem?_replicate]
    congr 1
    apply propext
    omega

/-- The day of a key for a date is one of the days of its month, and has a slot in every tracker
that is set up for a date of that month; such a tracker has slots for the days of the standard
calendar only. -/
structure Key.Slotted (key : Key) (date : Date) : Prop where
  positive : 1 ≤ key.dayOfMonth.toNat
  within : key.dayOfMonth.toNat ≤ key.daysInMonth.toNat
  slot : ∀ other : Date, other.SameMonth date → ∀ id userId month,
    (UserTracker.zero id userId month (Small.lowBits other.daysInMonth)).day? key.dayOfMonth =
      some Counters.zero
  slots : ∀ other : Date, other.SameMonth date → ∀ id userId month (day : Small),
    ((UserTracker.zero id userId month (Small.lowBits other.daysInMonth)).day? day).isSome = true ↔
      day.toNat ∈ Calendar.gregorianDays date.year date.month

theorem Key.slotted_of (kind : TrackerKind) (entityId : String) (date : Date) :
    (Key.of kind entityId date).Slotted date := by
  have day : (Key.of kind entityId date).dayOfMonth.toNat = date.day := Int.toNat_natCast _
  have length : (Key.of kind entityId date).daysInMonth.toNat =
      Calendar.monthLength date.year date.month := by
    rw [toNat_daysInMonth]
    show Calendar.monthLength (periodOf kind date).year (periodOf kind date).month = _
    unfold periodOf
    split <;> rfl
  have sameLength (other : Date) (sameMonth : other.SameMonth date) :
      (Small.lowBits other.daysInMonth).toNat = Calendar.monthLength date.year date.month := by
    obtain ⟨years, months⟩ := sameMonth
    rw [other.toNat_lowBits_daysInMonth, years, months]
  constructor
  case positive =>
    rw [day]
    exact date.one_le_day
  case within =>
    rw [day, length]
    exact date.day_le
  case slot =>
    intro other sameMonth id userId month
    rw [UserTracker.day?_zero, day, sameLength other sameMonth,
      if_pos ⟨date.one_le_day, date.day_le⟩]
  case slots =>
    intro other sameMonth id userId month slot
    rw [UserTracker.day?_zero, sameLength other sameMonth, date.mem_gregorianDays_iff]
    split <;> simp_all

/-- The months of all dates are as long as in the standard calendar, and the day of every key that
is built has its slot. -/
theorem Key.measured_and_slotted :
    (∀ date : Date, date.Measured) ∧
      ∀ kind entityId date key, Key.build kind entityId date = .ok key → key.Slotted date := by
  refine ⟨Date.measured, fun kind entityId date key built => ?_⟩
  obtain ⟨_, rfl⟩ := build_eq_ok_iff.mp built
  exact slotted_of kind entityId date

def leapDay : Date := { lateFebruary with day := 29, one_le_day := by decide, day_le := by decide }

theorem Key.measured_and_slotted_leapDay :
    ∃ key, Key.build .user "ana" leapDay = .ok key ∧ key.Slotted leapDay :=
  ⟨_, rfl, measured_and_slotted.2 .user "ana" leapDay _ rfl⟩

end ActivityLedger
