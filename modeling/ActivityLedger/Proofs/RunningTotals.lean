import ActivityLedger.Proofs.RollUp
import Mathlib.Algebra.Order.BigOperators.Group.List

/-!
# Adding up the days of a month

The slots of a month are added up in the order of days, whatever the order in which they were
filled.  In every state of the memory the sum is the month, but on the way it may leave the range
of amounts, where something was taken from a later day before it was added to earlier ones.  The
additions overflow there, and the check that the month is the sum has no answer.
-/

namespace ActivityLedger

theorem allM_eq_some_true_iff {α : Type} {check : α → Option Bool} {xs : List α} :
    xs.allM check = some true ↔ ∀ x ∈ xs, check x = some true := by
  induction xs with
  | nil => simp [List.allM]
  | cons x rest ih =>
      rw [List.forall_mem_cons, ← ih, List.allM]
      cases check x with
      | none => simp
      | some passed => cases passed <;> simp

theorem allM_eq_none_iff {α : Type} {check : α → Option Bool} {xs : List α}
    (unfailed : ∀ x ∈ xs, check x ≠ some false) :
    xs.allM check = none ↔ ∃ x ∈ xs, check x = none := by
  induction xs with
  | nil => simp [List.allM]
  | cons x rest ih =>
      obtain ⟨first, others⟩ := List.forall_mem_cons.mp unfailed
      rw [List.allM]
      cases answer : check x with
      | none => simp [answer]
      | some passed =>
          cases passed with
          | false => exact absurd answer first
          | true => simp [answer, ih others]

namespace Amount

/-- Additions that are refused outside the range, one after the other, give the integer sum
exactly if no running sum leaves the range. -/
theorem foldlM_add?_eq_some_iff {amounts : List Amount} {start total : Amount} :
    amounts.foldlM Bounded.add? start = some total ↔
      (∀ count, Fits (start.val + ((amounts.take count).map Bounded.val).sum)) ∧
        total.val = start.val + (amounts.map Bounded.val).sum := by
  induction amounts generalizing start with
  | nil =>
      have fits (count : Nat) :
          Fits (start.val + ((([] : List Amount).take count).map Bounded.val).sum) := by
        simpa using ⟨start, rfl⟩
      rw [List.foldlM_nil, and_iff_right fits, List.map_nil, List.sum_nil, Int.add_zero]
      exact Option.some_inj.trans (eq_comm.trans Bounded.ext_iff)
  | cons amount rest ih =>
      have shift {next : Amount} (sum : next.val = start.val + amount.val) (later : List Amount) :
          start.val + ((amount :: later).map Bounded.val).sum =
            next.val + (later.map Bounded.val).sum := by
        rw [List.map_cons, List.sum_cons, sum, Int.add_assoc]
      rw [List.foldlM_cons, Option.bind_eq_bind, Option.bind_eq_some_iff]
      constructor
      · rintro ⟨next, added, later⟩
        have sum := Bounded.add?_eq_some_iff.mp added
        obtain ⟨fits, value⟩ := ih.mp later
        refine ⟨fun count => ?_, value.trans (shift sum rest).symm⟩
        cases count with
        | zero => exact ⟨start, (Int.add_zero start.val).symm⟩
        | succ count =>
            rw [List.take_succ_cons, shift sum]
            exact fits count
      · rintro ⟨fits, value⟩
        obtain ⟨next, first⟩ := fits 1
        have sum : next.val = start.val + amount.val := by simpa using first
        refine ⟨next, Bounded.add?_eq_some_iff.mpr sum, ih.mpr ⟨fun count => ?_, ?_⟩⟩
        · rw [← shift sum, ← List.take_succ_cons]
          exact fits (count + 1)
        · exact value.trans (shift sum rest)

end Amount

namespace UserTracker

/-- The integer sum of one counter over the first slots. -/
def runningSum (tracker : UserTracker) (counter : UserCounter) (count : Nat) : Int :=
  ((tracker.days.take count).map fun slot => (slot.get counter).val).sum

variable (tracker : UserTracker) (counter : UserCounter)

theorem dailyTotal?_eq_some_iff (total : Amount) :
    tracker.dailyTotal? counter = some total ↔
      (∀ count, Amount.Fits (tracker.runningSum counter count)) ∧
        total.val = tracker.runningSum counter tracker.days.length := by
  have values (days : List (Counters UserCounter)) :
      (days.map fun slot => (slot.get counter).val) =
        (days.map fun slot => slot.get counter).map Bounded.val := by
    rw [List.map_map]
    rfl
  have amounts : tracker.dailyTotal? counter =
      (tracker.days.map fun slot => slot.get counter).foldlM Bounded.add? Amount.zero :=
    List.foldlM_map.symm
  rw [amounts, Amount.foldlM_add?_eq_some_iff, runningSum, List.take_length]
  simp only [runningSum, ← List.map_take, ← values, Amount.val_zero, Int.zero_add]

theorem dailyTotal?_eq_none_iff :
    tracker.dailyTotal? counter = none ↔
      ∃ count, ¬ Amount.Fits (tracker.runningSum counter count) := by
  constructor
  · intro overflows
    by_contra within
    have fits (count : Nat) : Amount.Fits (tracker.runningSum counter count) :=
      not_not.mp fun beyond => within ⟨count, beyond⟩
    obtain ⟨total, sum⟩ := fits tracker.days.length
    have added := (tracker.dailyTotal?_eq_some_iff counter total).mpr ⟨fits, sum⟩
    rw [overflows] at added
    cases added
  · rintro ⟨count, beyond⟩
    cases added : tracker.dailyTotal? counter with
    | none => rfl
    | some total => exact absurd (((dailyTotal?_eq_some_iff ..).mp added).1 count) beyond

/-- The month is the integer sum of its days in every counter.  That is what adding them up and
comparing come to, as long as every running sum is an amount: they have no other outcome, and none
exactly where a running sum leaves the range, which it never does where no day is below zero. -/
structure AddsUp (tracker : UserTracker) : Prop where
  month : ∀ counter,
    (tracker.monthly.get counter).val = tracker.runningSum counter tracker.days.length
  total : ∀ counter total, tracker.dailyTotal? counter = some total ↔
    (∀ count, Amount.Fits (tracker.runningSum counter count)) ∧
      total = tracker.monthly.get counter
  overflow : ∀ counter, tracker.dailyTotal? counter = none ↔
    ∃ count, ¬ Amount.Fits (tracker.runningSum counter count)
  consistent : tracker.isConsistent? = some true ↔
    ∀ counter count, Amount.Fits (tracker.runningSum counter count)
  unanswered : tracker.isConsistent? = none ↔
    ∃ counter count, ¬ Amount.Fits (tracker.runningSum counter count)
  rising : ∀ counter, (∀ slot ∈ tracker.days, 0 ≤ (slot.get counter).val) →
    ∀ count, Amount.Fits (tracker.runningSum counter count)

namespace RollsUp

variable {tracker : UserTracker} {counter : UserCounter}

theorem runningSum_length (rolls : tracker.RollsUp) (counter : UserCounter) :
    (tracker.monthly.get counter).val = tracker.runningSum counter tracker.days.length := by
  rw [runningSum, List.take_length]
  exact rolls.sums counter

theorem dailyTotal?_eq_some_iff (rolls : tracker.RollsUp) (counter : UserCounter)
    (total : Amount) : tracker.dailyTotal? counter = some total ↔
      (∀ count, Amount.Fits (tracker.runningSum counter count)) ∧
        total = tracker.monthly.get counter := by
  rw [UserTracker.dailyTotal?_eq_some_iff, ← rolls.runningSum_length, Bounded.ext_iff]

/-- Where no slot is below zero, no running sum is above the month. -/
theorem fits_of_nonneg (rolls : tracker.RollsUp)
    (natural : ∀ slot ∈ tracker.days, 0 ≤ (slot.get counter).val) (count : Nat) :
    Amount.Fits (tracker.runningSum counter count) := by
  have parts : tracker.runningSum counter count +
      ((tracker.days.drop count).map fun slot => (slot.get counter).val).sum =
        (tracker.monthly.get counter).val := by
    rw [runningSum, ← List.sum_append, ← List.map_append, List.take_append_drop]
    exact (rolls.sums counter).symm
  have below : ∀ days : List (Counters UserCounter), days ⊆ tracker.days →
      0 ≤ (days.map fun slot => (slot.get counter).val).sum := by
    intro days within
    apply List.sum_nonneg
    rintro _ member
    obtain ⟨slot, inside, rfl⟩ := List.mem_map.mp member
    exact natural slot (within inside)
  have first := below _ (List.take_subset count tracker.days)
  have rest := below _ (List.drop_subset count tracker.days)
  exact .between ⟨.zero, rfl⟩ ⟨tracker.monthly.get counter, rfl⟩ first (by omega)

theorem compare_ne_false (rolls : tracker.RollsUp) (counter : UserCounter) :
    ((tracker.dailyTotal? counter).map fun total =>
      decide (tracker.monthly.get counter = total)) ≠ some false := by
  intro differs
  obtain ⟨total, added, unequal⟩ := Option.map_eq_some_iff.mp differs
  obtain ⟨_, rfl⟩ := (rolls.dailyTotal?_eq_some_iff counter total).mp added
  simp at unequal

theorem isConsistent?_eq_some_true_iff (rolls : tracker.RollsUp) :
    tracker.isConsistent? = some true ↔
      ∀ counter count, Amount.Fits (tracker.runningSum counter count) := by
  rw [isConsistent?, if_pos rolls.slots, allM_eq_some_true_iff]
  constructor
  · intro equal counter
    obtain ⟨total, added, _⟩ :=
      Option.map_eq_some_iff.mp (equal counter (Vocabulary.mem_all counter))
    exact ((rolls.dailyTotal?_eq_some_iff counter total).mp added).1
  · intro fits counter _
    rw [(rolls.dailyTotal?_eq_some_iff counter _).mpr ⟨fits counter, rfl⟩, Option.map_some,
      decide_eq_true rfl]

theorem isConsistent?_eq_none_iff (rolls : tracker.RollsUp) :
    tracker.isConsistent? = none ↔
      ∃ counter count, ¬ Amount.Fits (tracker.runningSum counter count) := by
  rw [isConsistent?, if_pos rolls.slots,
    allM_eq_none_iff fun counter _ => rolls.compare_ne_false counter]
  simp only [Option.map_eq_none_iff, dailyTotal?_eq_none_iff, Vocabulary.mem_all, true_and]

theorem addsUp (rolls : tracker.RollsUp) : tracker.AddsUp where
  month := rolls.runningSum_length
  total := rolls.dailyTotal?_eq_some_iff
  overflow := tracker.dailyTotal?_eq_none_iff
  consistent := rolls.isConsistent?_eq_some_true_iff
  unanswered := rolls.isConsistent?_eq_none_iff
  rising _ := rolls.fits_of_nonneg

end RollsUp

end UserTracker

namespace Memory

/-- After every list of calls on an empty memory the days of every tracker of a user add up. -/
theorem addsUp_after (calls : List StoreCall) (id : String) (tracker : UserTracker)
    (found : (store.after calls empty).users.find? id = some tracker) : tracker.AddsUp :=
  (rollsUp_after calls id tracker found).addsUp

theorem addsUp_after_leapMonth :
    ∃ tracker, (store.after leapMonthCalls empty).users.find? "u12402" = some tracker ∧
      tracker.AddsUp := by
  have present : ((store.after leapMonthCalls empty).users.find? "u12402").isSome = true := by
    decide +kernel
  obtain ⟨tracker, found⟩ := Option.isSome_iff_exists.mp present
  exact ⟨tracker, found, addsUp_after leapMonthCalls "u12402" tracker found⟩

/-- A day late in the month goes down as far as amounts do before two earlier days go up. -/
def ebbingCalls : List StoreCall :=
  let day (n : Nat) (h : n ≤ 4294967295) := leapMonthKey (Small.ofNat n h)
  [ .ensure (day 3 (by decide)) (.user "u1"),
    .increment (day 3 (by decide)) [
      .user "u1" .viewsOfOwned ⟨-9223372036854775807, by decide, by decide⟩],
    .increment (day 1 (by decide)) [.user "u1" .viewsOfOwned .greatest],
    .increment (day 2 (by decide)) [.user "u1" .viewsOfOwned .greatest] ]

/-- None of the calls is refused, and still the first two days cannot be added. -/
theorem dailyTotal?_overflows :
    store.Accepts ebbingCalls empty ∧
      ∃ tracker, (store.after ebbingCalls empty).users.find? "u12402" = some tracker ∧
        ¬ Amount.Fits (tracker.runningSum .viewsOfOwned 2) ∧
        tracker.dailyTotal? .viewsOfOwned = none ∧ tracker.isConsistent? = none := by
  refine ⟨by decide +kernel, ?_⟩
  have shown : ((store.after ebbingCalls empty).users.find? "u12402").any (fun tracker =>
      ¬ Amount.Fits (tracker.runningSum .viewsOfOwned 2) ∧
        tracker.dailyTotal? .viewsOfOwned = none ∧ tracker.isConsistent? = none) = true := by
    decide +kernel
  obtain ⟨tracker, found, holds⟩ := (Option.any_eq_true _ _).mp shown
  exact ⟨tracker, found, of_decide_eq_true holds⟩

end Memory

end ActivityLedger
