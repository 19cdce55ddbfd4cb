import ActivityLedger.Proofs.Days
import ActivityLedger.Proofs.Keys

/-!
# Periods in a row

The periods of a kind of tracker are numbered, days or months as the kind has it.  The
periods from one date to another are met in their order, each once, and there are never
more of them than days.
-/

namespace ActivityLedger

namespace Date

def periodNumber (kind : TrackerKind) (date : Date) : Int :=
  if kind.isMonthly then date.monthNumber else date.number

/-- A date in each period from that of the first date to that of the last, in order. -/
def periods (kind : TrackerKind) (first last : Date) : List Date :=
  if kind.isMonthly then months first last else days first last

theorem samePeriod_iff (kind : TrackerKind) (a b : Date) :
    SamePeriod kind a b ↔ a.periodNumber kind = b.periodNumber kind := by
  have months := a.one_le_month
  have monthsEnd := a.month_le
  have otherMonths := b.one_le_month
  have otherMonthsEnd := b.month_le
  unfold SamePeriod periodNumber
  split
  · unfold SameMonth monthNumber
    omega
  · exact number_inj.symm

theorem periodBefore_iff (kind : TrackerKind) (a b : Date) :
    PeriodBefore kind a b ↔ a.periodNumber kind < b.periodNumber kind := by
  have months := a.one_le_month
  have monthsEnd := a.month_le
  have otherMonths := b.one_le_month
  have otherMonthsEnd := b.month_le
  unfold PeriodBefore periodNumber
  split
  · unfold monthNumber
    omega
  · exact number_lt_iff.symm

/-- The numbers of the periods from one date to another are consecutive. -/
theorem map_periods (kind : TrackerKind) (first last : Date)
    (order : first.periodNumber kind ≤ last.periodNumber kind + 1) :
    (periods kind first last).map (periodNumber kind) =
      (List.range (last.periodNumber kind - first.periodNumber kind + 1).toNat).map
        fun step : Nat => first.periodNumber kind + step := by
  unfold periods
  unfold periodNumber at order ⊢
  by_cases monthly : kind.isMonthly = true
  · simp only [monthly, if_true] at order ⊢
    refine map_walk monthNumber_of_firstOfNextMonth? monthNumber_le_of_firstOfNextMonth? _
      first.firstOfMonth last ?_
    have start : first.firstOfMonth.monthNumber = first.monthNumber := rfl
    omega
  · simp only [if_neg monthly] at order ⊢
    exact map_walk number_of_tomorrow? number_le_of_tomorrow? _ first last (by omega)

theorem periodNumber_of_mem {kind : TrackerKind} {first last date : Date}
    (order : first.periodNumber kind ≤ last.periodNumber kind + 1)
    (member : date ∈ periods kind first last) :
    first.periodNumber kind ≤ date.periodNumber kind ∧
      date.periodNumber kind ≤ last.periodNumber kind := by
  have listed := List.mem_map_of_mem (f := periodNumber kind) member
  rw [map_periods kind first last order] at listed
  obtain ⟨step, inRange, same⟩ := List.mem_map.mp listed
  have bound := List.mem_range.mp inRange
  omega

theorem exists_mem_periods {kind : TrackerKind} {first last date : Date}
    (notBefore : first.periodNumber kind ≤ date.periodNumber kind)
    (notAfter : date.periodNumber kind ≤ last.periodNumber kind) :
    ∃ met ∈ periods kind first last, SamePeriod kind met date := by
  have listed : date.periodNumber kind ∈ (periods kind first last).map (periodNumber kind) := by
    rw [map_periods kind first last (by omega)]
    refine List.mem_map.mpr ⟨(date.periodNumber kind - first.periodNumber kind).toNat, ?_, ?_⟩
    · exact List.mem_range.mpr (by omega)
    · omega
  obtain ⟨met, member, same⟩ := List.mem_map.mp listed
  exact ⟨met, member, (samePeriod_iff kind met date).mpr same⟩

theorem ascending_periods (kind : TrackerKind) (first last : Date)
    (order : first.periodNumber kind ≤ last.periodNumber kind + 1) :
    (periods kind first last).Pairwise (PeriodBefore kind) := by
  have numbers : ((periods kind first last).map (periodNumber kind)).Pairwise (· < ·) := by
    rw [map_periods kind first last order]
    refine List.pairwise_map.mpr (List.pairwise_lt_range.imp ?_)
    intro step later less
    omega
  refine (List.pairwise_map.mp numbers).imp ?_
  intro met later less
  exact (periodBefore_iff kind met later).mpr less

theorem length_periods (kind : TrackerKind) (first last : Date)
    (order : first.periodNumber kind ≤ last.periodNumber kind + 1) :
    (periods kind first last).length =
      (last.periodNumber kind - first.periodNumber kind + 1).toNat := by
  have numbers := congrArg List.length (map_periods kind first last order)
  simpa using numbers

/-- The periods between two dates of the century are periods of the century. -/
theorem compact_of_mem_periods {kind : TrackerKind} {first last date : Date}
    (compact : first.HasCompact) (lastCompact : last.HasCompact)
    (order : first.periodNumber kind ≤ last.periodNumber kind + 1)
    (member : date ∈ periods kind first last) : date.HasCompact := by
  obtain ⟨notBefore, notAfter⟩ := periodNumber_of_mem order member
  have later : ¬ PeriodBefore kind date first := fun before =>
    absurd ((periodBefore_iff kind _ _).mp before) (by omega)
  have earlier : ¬ PeriodBefore kind last date := fun before =>
    absurd ((periodBefore_iff kind _ _).mp before) (by omega)
  unfold PeriodBefore at later earlier
  unfold HasCompact at *
  by_cases monthly : kind.isMonthly = true
  · simp only [if_pos monthly] at later earlier
    omega
  · simp only [if_neg monthly, Before] at later earlier
    omega

theorem year_eq_of_samePeriod {kind : TrackerKind} {a b : Date} (same : SamePeriod kind a b) :
    a.year = b.year := by
  unfold SamePeriod at same
  split at same
  · exact same.1
  · rw [same]

/-- Between two dates in one period only that period is met. -/
theorem periods_of_samePeriod {kind : TrackerKind} {first last : Date}
    (same : SamePeriod kind first last) :
    ∃ met, periods kind first last = [met] ∧ SamePeriod kind met first := by
  have numbers := (samePeriod_iff kind first last).mp same
  have length := length_periods kind first last (by omega)
  have single : (periods kind first last).length = 1 := by omega
  obtain ⟨met, only⟩ := List.length_eq_one_iff.mp single
  have member : met ∈ periods kind first last := by simp [only]
  have between := periodNumber_of_mem (by omega) member
  exact ⟨met, only, (samePeriod_iff kind met first).mpr (by omega)⟩

/-- From one date to a later one there are no more months than days. -/
theorem monthNumber_sub_le {first last : Date} (order : ¬ last.Before first) :
    last.monthNumber - first.monthNumber ≤ last.number - first.number := by
  generalize distance : (last.monthNumber - first.monthNumber).toNat = months
  induction months generalizing first with
  | zero =>
      have days : first.number ≤ last.number :=
        Int.not_lt.mp fun less => order (number_lt_iff.mp less)
      omega
  | succ months ih =>
      cases follows : first.firstOfNextMonth? with
      | none =>
          have final := monthNumber_le_of_firstOfNextMonth? follows last
          omega
      | some next =>
          have step := monthNumber_of_firstOfNextMonth? follows
          have orderNext : ¬ last.Before next := by
            have start := day_of_firstOfNextMonth? follows
            have positive := last.one_le_day
            have month := last.month_le
            have nextMonth := next.one_le_month
            unfold monthNumber at *
            rintro (less | ⟨same, less | ⟨sameMonth, less⟩⟩) <;> omega
          have later := ih orderNext (by omega)
          -- The first of the next month is at least one day later.
          have days := number_of_firstOfNextMonth? follows
          have short := first.day_le
          rw [number_firstOfMonth] at days
          have here : first.number =
            daysBeforeYear first.year + daysBeforeMonth first.year first.month + first.day := rfl
          omega

/-- From one date to a later one there are no more periods than days. -/
theorem periodNumber_sub_le (kind : TrackerKind) {first last : Date} (order : ¬ last.Before first) :
    first.periodNumber kind ≤ last.periodNumber kind ∧
      last.periodNumber kind - first.periodNumber kind ≤ last.number - first.number := by
  have days : first.number ≤ last.number :=
    Int.not_lt.mp fun less => order (number_lt_iff.mp less)
  unfold periodNumber
  split
  · refine ⟨Int.not_lt.mp fun less => order ?_, monthNumber_sub_le order⟩
    have positive := last.one_le_month
    have month := last.month_le
    have firstPositive := first.one_le_month
    have firstMonth := first.month_le
    unfold monthNumber at less
    unfold Before
    omega
  · exact ⟨days, Int.le_refl _⟩

end Date

end ActivityLedger
