import ActivityLedger.Proofs.Days
import ActivityLedger.Proofs.MemorySteps

/-!
# Months as sums of their days

In every tracker of a user there is a slot for each day of the month, and every
counter of the month is the integer sum of that counter over the slots.  An empty
memory keeps this through every list of calls, whatever they are and whether or not
they are refused.
-/

namespace ActivityLedger

/-- Every counter of the month is the sum of that counter over the slots of its days. -/
structure UserTracker.RollsUp (tracker : UserTracker) : Prop where
  slots : tracker.days.length = tracker.daysInMonth.toNat
  sums : ∀ counter, (tracker.monthly.get counter).val =
    (tracker.days.map fun day => (day.get counter).val).sum

/-- Replacing one element moves a sum by the difference. -/
theorem sum_map_set {α : Type} (f : α → Int) (xs : List α) (index : Nat) {old : α} (new : α)
    (here : xs[index]? = some old) :
    ((xs.set index new).map f).sum = (xs.map f).sum + (f new - f old) := by
  induction xs generalizing index with
  | nil => cases here
  | cons x rest ih =>
      cases index with
      | zero =>
          cases here
          simp only [List.set_cons_zero, List.map_cons, List.sum_cons]
          omega
      | succ index =>
          simp only [List.set_cons_succ, List.map_cons, List.sum_cons, ih index here]
          omega

namespace UserTracker.RollsUp

theorem zero (id userId : String) (month : Date) (daysInMonth : Small) :
    (UserTracker.zero id userId month daysInMonth).RollsUp where
  slots := List.length_replicate
  sums counter := by simp [UserTracker.zero]

/-- Adding the same amounts to a month and to one of its days keeps the month the sum. -/
theorem add {tracker : UserTracker} (rolls : tracker.RollsUp)
    {entries : List (UserCounter × Amount)} {slot : Nat}
    {day nextDay nextMonth : Counters UserCounter} (here : tracker.days[slot]? = some day)
    (daySum : day.addAll entries = .ok nextDay)
    (monthSum : tracker.monthly.addAll entries = .ok nextMonth) :
    { tracker with monthly := nextMonth, days := tracker.days.set slot nextDay }.RollsUp where
  slots := by simpa using rolls.slots
  sums counter := by
    have month := Counters.val_get_of_addAll monthSum counter
    have slotValue := Counters.val_get_of_addAll daySum counter
    have moved := sum_map_set (fun slot => (slot.get counter).val) tracker.days slot nextDay here
    have before := rolls.sums counter
    simp only at moved ⊢
    omega

end UserTracker.RollsUp

namespace Memory

def RollsUp (memory : Memory) : Prop :=
  ∀ id tracker, memory.users.find? id = some tracker → tracker.RollsUp

theorem rollsUp_empty : empty.RollsUp := by
  intro id tracker found
  cases found

theorem RollsUp.insert {memory : Memory} (rolls : memory.RollsUp) (id : String)
    {tracker : UserTracker} (new : tracker.RollsUp) :
    { memory with users := memory.users.insert id tracker }.RollsUp := by
  intro other found lookup
  rcases Shelf.of_find?_insert lookup with ⟨_, rfl⟩ | ⟨_, before⟩
  · exact new
  · exact rolls other found before

/-- Trackers of content are none of users. -/
theorem RollsUp.withContents {memory : Memory} (rolls : memory.RollsUp) (kind : ContentKind)
    (shelf : Shelf ContentTracker) : (memory.withContents kind shelf).RollsUp := by
  cases kind <;> exact rolls

theorem RollsUp.step {memory next : Memory} {call : StoreCall} {answer : StoreAnswer}
    (rolls : memory.RollsUp) (step : Step memory call answer next) : next.RollsUp := by
  cases step with
  | refused => exact rolls
  | gotContent => exact rolls
  | gotUser => exact rolls
  | scannedContents => exact rolls
  | scannedUsers => exact rolls
  | present => exact rolls
  | openedUser key => exact rolls.insert key.id (UserTracker.RollsUp.zero ..)
  | openedContent => exact rolls.withContents _ _
  | addedToUser key updates deltas tracker slot day nextDay nextMonth merged found position here
      daySum monthSum =>
      exact rolls.insert key.id ((rolls key.id tracker found).add here daySum monthSum)
  | addedToContent => exact rolls.withContents _ _
  | ignored => exact rolls

theorem RollsUp.after {memory : Memory} (rolls : memory.RollsUp) (calls : List StoreCall) :
    (store.after calls memory).RollsUp :=
  store.after_induction (fun call state rolls => rolls.step (step_perform state call)) calls rolls

theorem rollsUp_after (calls : List StoreCall) : (store.after calls empty).RollsUp :=
  rollsUp_empty.after calls

/-- After every list of calls on an empty memory, every tracker of a user has one slot for
each day of its month, and every counter of the month is the sum of its slots. -/
theorem monthly_eq_sum_of_days (calls : List StoreCall) (entry : String × UserTracker)
    (stored : entry ∈ (store.after calls empty).users.entries) :
    entry.2.days.length = entry.2.daysInMonth.toNat ∧
      ∀ counter, (entry.2.monthly.get counter).val =
        (entry.2.days.map fun day => (day.get counter).val).sum := by
  have found := (Shelf.find?_eq_some_iff_mem _ entry.1 entry.2).mpr stored
  have rolls := rollsUp_after calls entry.1 entry.2 found
  exact ⟨rolls.slots, rolls.sums⟩

/-- The key of one user's February of 2024, with a day inside it or outside. -/
def leapMonthKey (day : Small) : Key where
  kind := .user
  entityId := "u1"
  periodStart := february
  dayOfMonth := day
  id := "u12402"

/-- A month with an amount taken back on another day, a day that it does not have, and an
increment that is refused at its second counter. -/
def leapMonthCalls : List StoreCall :=
  let day (n : Nat) (h : n ≤ 4294967295) := leapMonthKey (Small.ofNat n h)
  [ .ensure (day 17 (by decide)) (.user "u1"),
    .increment (day 17 (by decide)) [.user "u1" .viewsOfOwned ⟨7, by decide, by decide⟩],
    .increment (day 5 (by decide)) [.user "u1" .viewsOfOwned ⟨-3, by decide, by decide⟩],
    .increment (day 30 (by decide)) [.user "u1" .viewsOfOwned .one],
    .increment (day 17 (by decide)) [
      .user "u1" .commentsCreated .one,
      .user "u1" .viewsOfOwned ⟨9223372036854775807, by decide, by decide⟩] ]

theorem monthly_eq_sum_of_days_leapMonth :
    ∃ tracker, ("u12402", tracker) ∈ (store.after leapMonthCalls empty).users.entries ∧
      tracker.days.length = tracker.daysInMonth.toNat ∧
      ∀ counter, (tracker.monthly.get counter).val =
        (tracker.days.map fun day => (day.get counter).val).sum := by
  have present : ((store.after leapMonthCalls empty).users.find? "u12402").isSome = true := by
    decide +kernel
  obtain ⟨tracker, found⟩ := Option.isSome_iff_exists.mp present
  have stored := (Shelf.find?_eq_some_iff_mem _ "u12402" tracker).mp found
  exact ⟨tracker, stored, monthly_eq_sum_of_days leapMonthCalls ("u12402", tracker) stored⟩

end Memory

end ActivityLedger
