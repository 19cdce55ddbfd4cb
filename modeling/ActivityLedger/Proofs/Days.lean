import ActivityLedger.Calendar.Date
import Mathlib.Algebra.Order.Ring.Int

/-!
# Days and months in a row

The number of a day grows by one from each day to the next, across months and years,
and the days of a month are as many as its length says.  Walking from day to day, or
from month to month, meets every period between two dates once.
-/

namespace ActivityLedger

namespace Date

open Calendar

theorem daysBeforeMonth_succ (year : Int) {month : Nat} (positive : 1 ≤ month) :
    daysBeforeMonth year (month + 1) = daysBeforeMonth year month + monthLength year month := by
  cases month with
  | zero => cases positive
  | succ month => rfl

theorem daysBeforeMonth_twelve (year : Int) :
    daysBeforeMonth year 12 = if isLeapYear year then 335 else 334 := by
  have parts : daysBeforeMonth year 12 =
      31 + monthLength year 2 + 31 + 30 + 31 + 30 + 31 + 31 + 30 + 31 + 30 := rfl
  rw [parts, monthLength]
  split <;> rfl

theorem daysBeforeYear_succ (year : Int) :
    daysBeforeYear (year + 1) = daysBeforeYear year + daysBeforeMonth year 12 + 31 := by
  rw [daysBeforeMonth_twelve]
  simp only [daysBeforeYear, isLeapYear, Bool.and_eq_true, Bool.or_eq_true, beq_iff_eq,
    bne_iff_ne]
  split <;> omega

theorem number_firstOfMonth (date : Date) :
    date.firstOfMonth.number =
      daysBeforeYear date.year + daysBeforeMonth date.year date.month + 1 := rfl

theorem number_of_firstOfNextMonth? {date next : Date}
    (follows : date.firstOfNextMonth? = some next) :
    next.number = date.firstOfMonth.number + monthLength date.year date.month := by
  unfold firstOfNextMonth? at follows
  rw [number_firstOfMonth]
  split at follows
  · rename_i last
    obtain ⟨year, month, day⟩ := ofParts?_eq_some_iff.mp follows
    rw [number, year, month, day, last, daysBeforeYear_succ]
    have january : daysBeforeMonth (date.year + 1) 1 = 0 := rfl
    have december : monthLength date.year 12 = 31 := rfl
    omega
  · obtain ⟨year, month, day⟩ := ofParts?_eq_some_iff.mp follows
    rw [number, year, month, day, daysBeforeMonth_succ _ date.one_le_month]
    omega

/-- The number of days in a month is its length. -/
theorem daysInMonth_eq (date : Date) :
    date.daysInMonth = monthLength date.year date.month := by
  unfold daysInMonth
  cases follows : date.firstOfNextMonth? with
  | some next =>
      have distance := number_of_firstOfNextMonth? follows
      simp only [daysUntil]
      omega
  | none =>
      -- The calendar ends only with a December.
      by_cases last : date.month = 12
      · rw [last]
        rfl
      · have month := date.month_le
        have length := twentyEight_le_monthLength date.year (date.month + 1)
        rw [firstOfNextMonth?, if_neg last, ofParts?,
          dif_pos ⟨⟨date.firstYear_le, date.le_lastYear⟩, by omega, by omega⟩] at follows
        cases follows

theorem daysBeforeMonth_le (year : Int) {month later : Nat} (positive : 1 ≤ month)
    (order : month ≤ later) : daysBeforeMonth year month ≤ daysBeforeMonth year later := by
  induction order with
  | refl => exact Nat.le_refl _
  | step _ ih =>
      rename_i middle between
      rw [daysBeforeMonth_succ year (Nat.le_trans positive between)]
      exact Nat.le_trans ih (Nat.le_add_right _ _)

theorem daysBeforeYear_le {year later : Int} (order : year ≤ later) :
    daysBeforeYear year ≤ daysBeforeYear later := by
  unfold daysBeforeYear
  omega

theorem number_lt_of_before {a b : Date} (before : a.Before b) : a.number < b.number := by
  have inMonth := a.day_le
  have positive := b.one_le_day
  have inYear := daysBeforeMonth_le a.year a.one_le_month a.month_le
  unfold number
  rcases before with earlier | ⟨sameYear, earlier | ⟨sameMonth, earlier⟩⟩
  · have yearEnd := daysBeforeYear_le (Int.add_one_le_of_lt earlier)
    have length := daysBeforeYear_succ a.year
    have short := monthLength_le a.year a.month
    omega
  · have monthEnd := daysBeforeMonth_le a.year (Nat.le_add_left 1 a.month) earlier
    rw [daysBeforeMonth_succ _ a.one_le_month] at monthEnd
    rw [← sameYear]
    omega
  · rw [← sameYear, ← sameMonth]
    omega

theorem before_trichotomy (a b : Date) : a.Before b ∨ a = b ∨ b.Before a := by
  rw [Date.ext_iff]
  unfold Before
  omega

theorem number_lt_iff {a b : Date} : a.number < b.number ↔ a.Before b := by
  refine ⟨fun less => ?_, number_lt_of_before⟩
  rcases before_trichotomy a b with before | same | after
  · exact before
  · exact absurd less (by simp [same])
  · exact absurd (number_lt_of_before after) (by omega)

theorem number_inj {a b : Date} : a.number = b.number ↔ a = b := by
  refine ⟨fun same => ?_, fun same => by rw [same]⟩
  rcases before_trichotomy a b with before | same | after
  · exact absurd (number_lt_of_before before) (by omega)
  · exact same
  · exact absurd (number_lt_of_before after) (by omega)

/-! ## The next day and the next month -/

def tomorrow? (date : Date) : Option Date :=
  match ofParts? date.year date.month (date.day + 1) with
  | some next => some next
  | none => date.firstOfNextMonth?

/-- The number of a month, which grows by one from each month to the next. -/
def monthNumber (date : Date) : Int := 12 * date.year + date.month

theorem number_of_tomorrow? {date next : Date} (follows : date.tomorrow? = some next) :
    next.number = date.number + 1 := by
  unfold tomorrow? at follows
  cases sameMonth : ofParts? date.year date.month (date.day + 1) with
  | some later =>
      rw [sameMonth] at follows
      cases follows
      obtain ⟨year, month, day⟩ := ofParts?_eq_some_iff.mp sameMonth
      rw [number, number, year, month, day]
      omega
  | none =>
      rw [sameMonth] at follows
      have last : date.day = monthLength date.year date.month := by
        have day := date.day_le
        by_cases early : date.day + 1 ≤ monthLength date.year date.month
        · rw [ofParts?, dif_pos ⟨⟨date.firstYear_le, date.le_lastYear⟩,
            ⟨date.one_le_month, date.month_le⟩, by omega, early⟩] at sameMonth
          cases sameMonth
        · omega
      have next := number_of_firstOfNextMonth? follows
      rw [number_firstOfMonth] at next
      rw [next, number]
      omega

theorem monthNumber_of_firstOfNextMonth? {date next : Date}
    (follows : date.firstOfNextMonth? = some next) :
    next.monthNumber = date.monthNumber + 1 := by
  unfold firstOfNextMonth? at follows
  unfold monthNumber
  split at follows
  · rename_i last
    obtain ⟨year, month, _⟩ := ofParts?_eq_some_iff.mp follows
    omega
  · obtain ⟨year, month, _⟩ := ofParts?_eq_some_iff.mp follows
    omega

theorem day_of_firstOfNextMonth? {date next : Date}
    (follows : date.firstOfNextMonth? = some next) : next.day = 1 := by
  unfold firstOfNextMonth? at follows
  split at follows
  · exact (ofParts?_eq_some_iff.mp follows).2.2
  · exact (ofParts?_eq_some_iff.mp follows).2.2

/-- Only the last month of the calendar has no next one. -/
theorem monthNumber_le_of_firstOfNextMonth? {date : Date}
    (ends : date.firstOfNextMonth? = none) (other : Date) :
    other.monthNumber ≤ date.monthNumber := by
  have length := twentyEight_le_monthLength date.year (date.month + 1)
  have nextLength := twentyEight_le_monthLength (date.year + 1) 1
  have month := date.month_le
  have lower := date.firstYear_le
  have upper := date.le_lastYear
  have otherMonth := other.month_le
  have otherUpper := other.le_lastYear
  unfold firstOfNextMonth? ofParts? at ends
  unfold monthNumber
  split at ends
  · split at ends
    · cases ends
    · rename_i last absent
      have final : ¬ date.year + 1 ≤ lastYear := fun inside =>
        absent ⟨⟨by omega, inside⟩, by omega, by omega⟩
      omega
  · rename_i early
    rw [dif_pos ⟨⟨lower, upper⟩, by omega, by omega⟩] at ends
    cases ends

/-- Only the last day of the calendar has no next one. -/
theorem number_le_of_tomorrow? {date : Date} (ends : date.tomorrow? = none) (other : Date) :
    other.number ≤ date.number := by
  unfold tomorrow? at ends
  cases sameMonth : ofParts? date.year date.month (date.day + 1) with
  | some later =>
      rw [sameMonth] at ends
      cases ends
  | none =>
      rw [sameMonth] at ends
      have latest := monthNumber_le_of_firstOfNextMonth? ends other
      have month := date.month_le
      have otherPositive := other.one_le_month
      have otherMonth := other.month_le
      have positive := date.one_le_month
      have otherDay := other.day_le
      have last : ¬ date.day + 1 ≤ monthLength date.year date.month := by
        intro early
        rw [ofParts?, dif_pos ⟨⟨date.firstYear_le, date.le_lastYear⟩,
          ⟨date.one_le_month, date.month_le⟩, by omega, early⟩] at sameMonth
        cases sameMonth
      refine Int.not_lt.mp fun less => ?_
      unfold monthNumber at latest
      rcases number_lt_iff.mp less with later | ⟨sameYear, later | ⟨same, later⟩⟩
      · omega
      · omega
      · rw [← sameYear, ← same] at otherDay
        omega

/-! ## Walks -/

/-- So many dates, each the next one of the one before, while there is one. -/
def walk (next? : Date → Option Date) : Nat → Date → List Date
  | 0, _ => []
  | count + 1, date => date ::
      match next? date with
      | some next => walk next? count next
      | none => []

def days (first last : Date) : List Date :=
  walk tomorrow? (last.number - first.number + 1).toNat first

/-- The first days of the months from that of the first date to that of the last. -/
def months (first last : Date) : List Date :=
  walk firstOfNextMonth? (last.monthNumber - first.monthNumber + 1).toNat first.firstOfMonth

/-- A walk on which a number grows by one with each step meets consecutive numbers. -/
theorem map_walk {next? : Date → Option Date} {number : Date → Int}
    (grows : ∀ {date next}, next? date = some next → number next = number date + 1)
    (ends : ∀ {date}, next? date = none → ∀ other, number other ≤ number date)
    (count : Nat) (first last : Date) (reached : number first + count ≤ number last + 1) :
    (walk next? count first).map number =
      (List.range count).map fun step : Nat => number first + step := by
  induction count generalizing first with
  | zero => rfl
  | succ count ih =>
      rw [walk, List.map_cons, List.range_succ_eq_map, List.map_cons, List.map_map]
      cases follows : next? first with
      | some next =>
          have step := grows follows
          have reachedNext : number next + count ≤ number last + 1 := by omega
          simp only [ih next reachedNext, step, Function.comp_def]
          simp [Int.add_assoc, Int.add_comm 1]
      | none =>
          have final := ends follows last
          have nothing : count = 0 := by omega
          subst nothing
          simp

end Date

/-! ## Dates of a leap year

The days on which later results are shown at work. -/

def january : Date :=
  ⟨2024, 1, 31, by decide, by decide, Nat.one_pos, by decide, by decide, by decide⟩

def february : Date :=
  ⟨2024, 2, 1, by decide, by decide, by decide, by decide, Nat.one_pos, by decide⟩

def midFebruary : Date :=
  ⟨2024, 2, 17, by decide, by decide, by decide, by decide, by decide, by decide⟩

def lateFebruary : Date :=
  ⟨2024, 2, 28, by decide, by decide, by decide, by decide, by decide, by decide⟩

def march : Date :=
  ⟨2024, 3, 1, by decide, by decide, by decide, by decide, Nat.one_pos, by decide⟩

def longBefore : Date :=
  ⟨2015, 1, 1, by decide, by decide, Nat.one_pos, by decide, Nat.one_pos, by decide⟩

def leapDate (month day : Nat) (months : 1 ≤ month ∧ month ≤ 12) (days : 1 ≤ day ∧ day ≤ 28) :
    Date :=
  ⟨2024, month, day, by decide, by decide, months.1, months.2, days.1,
    Nat.le_trans days.2 (Calendar.twentyEight_le_monthLength _ _)⟩

end ActivityLedger
