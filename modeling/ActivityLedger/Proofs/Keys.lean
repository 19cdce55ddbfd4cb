import ActivityLedger.Proofs.Days
import ActivityLedger.Proofs.DigitOrder
import ActivityLedger.Tracker.Key

/-!
# Keys and periods

A key is built exactly for an entity with a name and a date of the century.  The id
of a built key tells the entity and the period, and among the keys of one entity the
order of ids is the order of periods.
-/

namespace ActivityLedger

def PeriodBefore (kind : TrackerKind) (a b : Date) : Prop :=
  if kind.isMonthly then a.year < b.year ∨ (a.year = b.year ∧ a.month < b.month) else a.Before b

namespace Date

theorem month_lt (date : Date) : date.month < 100 := by
  have := date.month_le
  omega

theorem day_lt (date : Date) : date.day < 100 := by
  have := date.day_le
  have := Calendar.monthLength_le date.year date.month
  omega

theorem yearDigits_lt (date : Date) : (date.year % 100).toNat < 100 := by omega

theorem length_compactMonth (date : Date) : date.compactMonth.length = 4 := by
  rw [compactMonth, List.length_append, Text.length_padded (by decide) date.yearDigits_lt,
    Text.length_padded (by decide) date.month_lt]

theorem length_compactDay (date : Date) : date.compactDay.length = 6 := by
  rw [compactDay, List.length_append, length_compactMonth,
    Text.length_padded (by decide) date.day_lt]

theorem isDigit_of_mem_compactMonth {date : Date} {c : Char} (member : c ∈ date.compactMonth) :
    c.isDigit = true := by
  rcases List.mem_append.mp member with inYear | inMonth
  · exact Text.isDigit_of_mem_padded inYear
  · exact Text.isDigit_of_mem_padded inMonth

theorem isDigit_of_mem_compactDay {date : Date} {c : Char} (member : c ∈ date.compactDay) :
    c.isDigit = true := by
  rcases List.mem_append.mp member with inMonth | inDay
  · exact isDigit_of_mem_compactMonth inMonth
  · exact Text.isDigit_of_mem_padded inDay

theorem value_compactMonth (date : Date) :
    Text.value date.compactMonth = 100 * (date.year % 100).toNat + date.month := by
  have value : Text.value date.compactMonth =
      10 ^ 2 * (date.year % 100).toNat + date.month := by
    rw [compactMonth, Text.value_append, Text.value_padded, Text.value_padded,
      Text.length_padded (by decide) date.month_lt]
  omega

theorem value_compactDay (date : Date) :
    Text.value date.compactDay =
      10000 * (date.year % 100).toNat + 100 * date.month + date.day := by
  rw [compactDay, Text.value_append, value_compactMonth, Text.value_padded,
    Text.length_padded (by decide) date.day_lt]
  omega

/-- A month is short enough for its length to be a small number. -/
theorem toNat_lowBits_daysInMonth (date : Date) :
    (Small.lowBits date.daysInMonth).toNat = Calendar.monthLength date.year date.month := by
  have short := Calendar.monthLength_le date.year date.month
  rw [date.daysInMonth_eq]
  show (((Calendar.monthLength _ _ : Nat) : Int) % 4294967296).toNat = _
  omega

end Date

namespace Key

/-! ## What a period is written as -/

theorem length_periodText (kind : TrackerKind) (a b : Date) :
    (periodText kind a).length = (periodText kind b).length := by
  cases kind <;> simp [periodText, TrackerKind.isMonthly, Date.length_compactMonth,
    Date.length_compactDay]

theorem isDigit_of_mem_periodText {kind : TrackerKind} {date : Date} {c : Char}
    (member : c ∈ periodText kind date) : c.isDigit = true := by
  unfold periodText at member
  split at member
  · exact Date.isDigit_of_mem_compactMonth member
  · exact Date.isDigit_of_mem_compactDay member

/-- Inside the century the number that is written is the same for the same period only. -/
theorem value_periodText_eq_iff (kind : TrackerKind) {a b : Date} (compact : a.HasCompact)
    (otherCompact : b.HasCompact) :
    Text.value (periodText kind a) = Text.value (periodText kind b) ↔ SamePeriod kind a b := by
  have months := a.month_lt
  have otherMonths := b.month_lt
  have days := a.day_lt
  have otherDays := b.day_lt
  simp only [Date.HasCompact, Date.firstCompactYear, Date.lastCompactYear] at compact otherCompact
  unfold periodText SamePeriod
  split
  · rw [Date.value_compactMonth, Date.value_compactMonth, Date.SameMonth]
    omega
  · rw [Date.value_compactDay, Date.value_compactDay, Date.ext_iff]
    omega

theorem value_periodText_lt_iff (kind : TrackerKind) {a b : Date} (compact : a.HasCompact)
    (otherCompact : b.HasCompact) :
    Text.value (periodText kind a) < Text.value (periodText kind b) ↔ PeriodBefore kind a b := by
  have months := a.month_lt
  have otherMonths := b.month_lt
  have days := a.day_lt
  have otherDays := b.day_lt
  simp only [Date.HasCompact, Date.firstCompactYear, Date.lastCompactYear] at compact otherCompact
  unfold periodText PeriodBefore
  split
  · rw [Date.value_compactMonth, Date.value_compactMonth]
    omega
  · rw [Date.value_compactDay, Date.value_compactDay, Date.Before]
    omega

theorem toNat_daysInMonth (key : Key) :
    key.daysInMonth.toNat = Calendar.monthLength key.periodStart.year key.periodStart.month :=
  key.periodStart.toNat_lowBits_daysInMonth

theorem toNat_daysInMonth_le (key : Key) : key.daysInMonth.toNat ≤ 31 := by
  rw [toNat_daysInMonth]
  exact Calendar.monthLength_le _ _

theorem periodOf_eq_iff (kind : TrackerKind) (a b : Date) :
    periodOf kind a = periodOf kind b ↔ SamePeriod kind a b := by
  unfold periodOf SamePeriod
  split
  · simp [Date.ext_iff, Date.firstOfMonth, Date.SameMonth]
  · exact Iff.rfl

/-! ## Ids -/

/-- An id tells the entity and the period. -/
theorem idText_eq_iff (kind : TrackerKind) (entityId otherId : String) {a b : Date}
    (compact : a.HasCompact) (otherCompact : b.HasCompact) :
    idText kind entityId a = idText kind otherId b ↔ entityId = otherId ∧ SamePeriod kind a b := by
  rw [← value_periodText_eq_iff kind compact otherCompact, idText, idText, String.ofList_inj]
  constructor
  · intro same
    obtain ⟨entities, periods⟩ := List.append_inj' same (length_periodText kind a b)
    exact ⟨String.toList_inj.mp entities, by rw [periods]⟩
  · rintro ⟨rfl, values⟩
    rw [Text.eq_of_value_eq (length_periodText kind a b) (fun _ => isDigit_of_mem_periodText)
      (fun _ => isDigit_of_mem_periodText) values]

/-- Among the ids of one entity the order is that of the periods. -/
theorem precedes_idText_iff (kind : TrackerKind) (entityId : String) {a b : Date}
    (compact : a.HasCompact) (otherCompact : b.HasCompact) :
    Text.precedes (idText kind entityId a) (idText kind entityId b) ↔ PeriodBefore kind a b := by
  rw [← value_periodText_lt_iff kind compact otherCompact, idText, idText,
    Text.precedes_ofList_append_iff, Text.precedes_ofList_iff (length_periodText kind a b)
      (fun _ => isDigit_of_mem_periodText) (fun _ => isDigit_of_mem_periodText)]

/-! ## Building -/

def of (kind : TrackerKind) (entityId : String) (date : Date) : Key where
  kind := kind
  entityId := entityId
  periodStart := periodOf kind date
  dayOfMonth := date.dayNumber
  id := idText kind entityId date

/-- A key is built for every entity with a name and every date of the century, and for no
others. -/
theorem build_eq_ok_iff {kind : TrackerKind} {entityId : String} {date : Date} {key : Key} :
    build kind entityId date = .ok key ↔
      (entityId ≠ "" ∧ date.HasCompact) ∧ key = of kind entityId date := by
  unfold build
  by_cases empty : entityId = ""
  · simp [empty]
  · rw [if_neg empty]
    by_cases compact : date.HasCompact
    · simp [empty, compact, of, eq_comm]
    · simp [compact]

/-- For entities with names and dates of the century keys are built; their ids tell entity and
period, and the ids of one entity are ordered as the periods are. -/
theorem ids_of_build (kind : TrackerKind) {entityId otherId : String} (named : entityId ≠ "")
    (otherNamed : otherId ≠ "") {a b : Date} (compact : a.HasCompact)
    (otherCompact : b.HasCompact) :
    ∃ key other same, build kind entityId a = .ok key ∧ build kind otherId b = .ok other ∧
      build kind entityId b = .ok same ∧
      (key.id = other.id ↔ entityId = otherId ∧ SamePeriod kind a b) ∧
      (key.id = same.id ↔ SamePeriod kind a b) ∧
      (Text.precedes key.id same.id ↔ PeriodBefore kind a b) ∧
      (Text.precedes same.id key.id ↔ PeriodBefore kind b a) := by
  refine ⟨of kind entityId a, of kind otherId b, of kind entityId b,
    build_eq_ok_iff.mpr ⟨⟨named, compact⟩, rfl⟩,
    build_eq_ok_iff.mpr ⟨⟨otherNamed, otherCompact⟩, rfl⟩,
    build_eq_ok_iff.mpr ⟨⟨named, otherCompact⟩, rfl⟩, ?_, ?_, ?_, ?_⟩
  · exact idText_eq_iff kind entityId otherId compact otherCompact
  · exact (idText_eq_iff kind entityId entityId compact otherCompact).trans (and_iff_right rfl)
  · exact precedes_idText_iff kind entityId compact otherCompact
  · exact precedes_idText_iff kind entityId otherCompact compact

/-- One entity's id begins the other's, which goes on with digits. -/
theorem ids_of_build_prefix :
    ∃ key other same, build .post "p1" midFebruary = .ok key ∧
      build .post "p124" lateFebruary = .ok other ∧ build .post "p1" lateFebruary = .ok same ∧
      (key.id = other.id ↔ "p1" = "p124" ∧ SamePeriod .post midFebruary lateFebruary) ∧
      (key.id = same.id ↔ SamePeriod .post midFebruary lateFebruary) ∧
      (Text.precedes key.id same.id ↔ PeriodBefore .post midFebruary lateFebruary) ∧
      (Text.precedes same.id key.id ↔ PeriodBefore .post lateFebruary midFebruary) :=
  ids_of_build .post (by decide) (by decide) (by decide) (by decide)

end Key

end ActivityLedger
