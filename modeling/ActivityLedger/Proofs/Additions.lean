import ActivityLedger.Proofs.Places
import ActivityLedger.Proofs.RollUp

/-!
# All of an increment or nothing

An increment is accepted exactly where its updates merge, a tracker is at its key and every
sum fits.  Then each merged amount is added once: to the counters of a post or a comment, or
to the month and the slot of one day.  All other counters, slots, fields and trackers stay.
An increment that is refused changes nothing.
-/

namespace ActivityLedger

/-- The amounts of a batch are added exactly where every counter has room for its own. -/
theorem Counters.addAll_toList_eq_ok_iff {κ : Type} [Vocabulary κ] [DecidableEq κ]
    {table next : Counters κ} {deltas : Deltas κ} :
    table.addAll deltas.toList = .ok next ↔ ∀ counter,
      (next.get counter).val = (table.get counter).val + amountOr (deltas.get counter) := by
  constructor
  · intro added counter
    rw [val_get_of_addAll added, Deltas.amountIn_toList]
  · intro sums
    have fits : ∀ entry ∈ deltas.toList, ∃ sum, (table.get entry.1).add? entry.2 = some sum := by
      rintro ⟨counter, delta⟩ member
      have named := (deltas.mem_toList_iff counter delta).mp member
      exact ⟨next.get counter, Bounded.add?_eq_some_iff.mpr (by rw [sums, named, amountOr_some])⟩
    obtain ⟨other, added⟩ := (addAll_isOk_iff deltas.nodup_toList).mpr fits
    have same : other = next := Columns.ext fun counter =>
      Bounded.ext (by rw [val_get_of_addAll added, Deltas.amountIn_toList, sums])
    rw [added, same]

theorem ContentCounters.take_eq_ok_iff {counters next : ContentCounters} {batch : Batch}
    (isKind : batch.kind = counters.kind.tracker) :
    counters.take batch = .ok next ↔ next.kind = counters.kind ∧
      ∀ counter, next.value counter = counters.value counter + batch.amount counter := by
  constructor
  · exact value_of_take isKind
  · rintro ⟨sameKind, sums⟩
    obtain ⟨kind, table, rfl⟩ := counters.exists_of
    rw [kind_of] at isKind sameKind
    obtain ⟨deltas, rfl⟩ := Batch.kind_eq_iff.mp isKind
    obtain ⟨others, rfl⟩ := exists_of_kind sameKind
    have added : table.addAll deltas.toList = .ok others := by
      refine Counters.addAll_toList_eq_ok_iff.mpr fun counter => ?_
      have sum := sums (.of kind.tracker counter)
      rwa [value_of, value_of, Batch.amount_of] at sum
    rw [take_of, added]
    rfl

/-! ## Trackers -/

/-- The amounts of a batch are added once to the month and to one slot, and all else stays. -/
structure UserTracker.Gains (tracker : UserTracker) (batch : Batch) (slot : Nat)
    (next : UserTracker) : Prop where
  id : next.id = tracker.id
  userId : next.userId = tracker.userId
  month : next.month = tracker.month
  daysInMonth : next.daysInMonth = tracker.daysInMonth
  monthly : ∀ counter, (next.monthly.get counter).val =
    (tracker.monthly.get counter).val + batch.amount (.user counter)
  day : ∃ before after, tracker.days[slot]? = some before ∧ next.days[slot]? = some after ∧
    ∀ counter, (after.get counter).val = (before.get counter).val + batch.amount (.user counter)
  otherDays : ∀ other, other ≠ slot → next.days[other]? = tracker.days[other]?

theorem UserTracker.gains_iff {tracker next : UserTracker} {deltas : Deltas UserCounter}
    {slot : Nat} : tracker.Gains (.user deltas) slot next ↔
      ∃ day nextDay nextMonth, tracker.days[slot]? = some day ∧
        day.addAll deltas.toList = .ok nextDay ∧
        tracker.monthly.addAll deltas.toList = .ok nextMonth ∧
        next = { tracker with monthly := nextMonth, days := tracker.days.set slot nextDay } := by
  constructor
  · rintro ⟨id, userId, month, daysInMonth, monthly, ⟨day, nextDay, here, there, sums⟩, otherDays⟩
    have days : next.days = tracker.days.set slot nextDay := by
      apply List.ext_getElem?
      intro other
      by_cases same : slot = other
      · subst same
        obtain ⟨inRange, _⟩ := List.getElem?_eq_some_iff.mp here
        rw [there, List.getElem?_set_self inRange]
      · rw [otherDays other (Ne.symm same), List.getElem?_set_ne same]
    refine ⟨day, nextDay, next.monthly, here, Counters.addAll_toList_eq_ok_iff.mpr sums,
      Counters.addAll_toList_eq_ok_iff.mpr monthly, ?_⟩
    cases next
    simp_all
  · rintro ⟨day, nextDay, nextMonth, here, daySum, monthSum, rfl⟩
    obtain ⟨inRange, _⟩ := List.getElem?_eq_some_iff.mp here
    constructor
    case id | userId | month | daysInMonth => rfl
    case monthly => exact Counters.addAll_toList_eq_ok_iff.mp monthSum
    case day =>
      exact ⟨day, nextDay, here, List.getElem?_set_self inRange,
        Counters.addAll_toList_eq_ok_iff.mp daySum⟩
    case otherDays =>
      intro other different
      exact List.getElem?_set_ne (Ne.symm different)

structure ContentTracker.Gains (tracker : ContentTracker) (batch : Batch)
    (next : ContentTracker) : Prop where
  id : next.id = tracker.id
  kind : next.kind = tracker.kind
  contentId : next.contentId = tracker.contentId
  ownerId : next.ownerId = tracker.ownerId
  day : next.day = tracker.day
  countersKind : next.counters.kind = tracker.counters.kind
  counters : ∀ counter,
    next.counters.value counter = tracker.counters.value counter + batch.amount counter

theorem ContentTracker.gains_iff {tracker next : ContentTracker} {batch : Batch}
    (isKind : batch.kind = tracker.counters.kind.tracker) :
    tracker.Gains batch next ↔ ∃ counters, tracker.counters.take batch = .ok counters ∧
      next = { tracker with counters := counters } := by
  constructor
  · rintro ⟨id, kind, contentId, ownerId, day, countersKind, counters⟩
    refine ⟨next.counters, (ContentCounters.take_eq_ok_iff isKind).mpr ⟨countersKind, counters⟩, ?_⟩
    cases next
    simp_all
  · rintro ⟨counters, sum, rfl⟩
    obtain ⟨countersKind, sums⟩ := (ContentCounters.take_eq_ok_iff isKind).mp sum
    exact ⟨rfl, rfl, rfl, rfl, rfl, countersKind, sums⟩

/-! ## Memories -/

namespace Memory

/-- There is a tracker at the key, of the key's kind and with counters of that kind, it gains the
amounts of a batch, and every other tracker stays. -/
structure Adds (memory : Memory) (key : Key) (batch : Batch) (next : Memory) : Prop where
  elsewhere : ∀ kind id, key.isAt kind id = false → next.tracker? kind id = memory.tracker? kind id
  user : key.kind = .user → ∃ (before after : UserTracker) (slot : Nat),
    memory.users.find? key.id = some before ∧ key.dayOfMonth.val = slot + 1 ∧
    before.Gains batch slot after ∧ next.users.find? key.id = some after
  content : ∀ kind : ContentKind, key.kind = kind.tracker → ∃ before after,
    (memory.contents kind).find? key.id = some before ∧ before.counters.kind = kind ∧
    before.Gains batch after ∧ (next.contents kind).find? key.id = some after

variable {memory next : Memory} {log : Log} {key : Key} {updates : List Update} {batch : Batch}

theorem adds_user_iff (isUser : key.kind = .user) :
    memory.Adds key batch next ↔ ∃ (before after : UserTracker) (slot : Nat),
      memory.users.find? key.id = some before ∧ key.dayOfMonth.val = slot + 1 ∧
      before.Gains batch slot after ∧
      next = { memory with users := memory.users.insert key.id after } := by
  constructor
  · rintro ⟨elsewhere, user, _⟩
    obtain ⟨before, after, slot, found, position, gains, there⟩ := user isUser
    exact ⟨before, after, slot, found, position, gains,
      (eq_insertUser_iff isUser).mpr ⟨elsewhere, there⟩⟩
  · rintro ⟨before, after, slot, found, position, gains, inserted⟩
    obtain ⟨elsewhere, there⟩ := (eq_insertUser_iff isUser).mp inserted
    refine ⟨elsewhere, fun _ => ⟨before, after, slot, found, position, gains, there⟩, ?_⟩
    intro kind isKind
    cases kind <;> cases isUser.symm.trans isKind

theorem adds_content_iff {kind : ContentKind} (isKind : key.kind = kind.tracker) :
    memory.Adds key batch next ↔ ∃ before after,
      (memory.contents kind).find? key.id = some before ∧ before.counters.kind = kind ∧
      before.Gains batch after ∧
      next = memory.withContents kind ((memory.contents kind).insert key.id after) := by
  constructor
  · rintro ⟨elsewhere, _, content⟩
    obtain ⟨before, after, found, sameKind, gains, there⟩ := content kind isKind
    exact ⟨before, after, found, sameKind, gains,
      (eq_insertContent_iff isKind).mpr ⟨elsewhere, there⟩⟩
  · rintro ⟨before, after, found, sameKind, gains, inserted⟩
    obtain ⟨elsewhere, there⟩ := (eq_insertContent_iff isKind).mp inserted
    refine ⟨elsewhere, fun isUser => ?_, fun other isOther => ?_⟩
    · cases kind <;> cases isUser.symm.trans isKind
    · have same : other = kind := by
        cases kind <;> cases other <;> first | rfl | cases isKind.symm.trans isOther
      subst same
      exact ⟨before, after, found, sameKind, gains, there⟩

/-- Where trackers of a kind have counters of that kind, a batch is applied exactly where it can be
added. -/
theorem applyBatch_eq_ok_iff (reflects : memory.Reflects log) (addressed : batch.kind = key.kind) :
    memory.applyBatch key batch = .ok next ↔ memory.Adds key batch next := by
  rcases key.kind.eq_user_or_content with isUser | ⟨kind, isKind⟩
  · cases batch with
    | post deltas => cases addressed.trans isUser
    | comment deltas => cases addressed.trans isUser
    | user deltas =>
        rw [applyBatch, incrementUser_eq_ok_iff, adds_user_iff isUser]
        constructor
        · rintro ⟨tracker, slot, day, nextDay, nextMonth, found, position, here, daySum, monthSum,
            rfl⟩
          exact ⟨tracker, _, slot, found, slotOf_eq_some_iff.mp position,
            UserTracker.gains_iff.mpr ⟨day, nextDay, nextMonth, here, daySum, monthSum, rfl⟩, rfl⟩
        · rintro ⟨tracker, after, slot, found, position, gains, rfl⟩
          obtain ⟨day, nextDay, nextMonth, here, daySum, monthSum, rfl⟩ :=
            UserTracker.gains_iff.mp gains
          exact ⟨tracker, slot, day, nextDay, nextMonth, found, slotOf_eq_some_iff.mpr position,
            here, daySum, monthSum, rfl⟩
  · have sameBatch : batch.kind = kind.tracker := addressed.trans isKind
    rw [adds_content_iff isKind]
    constructor
    · intro applied
      obtain ⟨tracker, found, _⟩ := exists_of_applyBatch_content sameBatch applied
      obtain ⟨_, _, tells⟩ := reflects.contents kind key.id tracker found
      obtain ⟨counters, sum, rfl⟩ :=
        (applyBatch_content_eq_ok_iff sameBatch found tells.countersKind).mp applied
      have ownBatch : batch.kind = tracker.counters.kind.tracker := by
        rw [sameBatch, tells.countersKind]
      exact ⟨tracker, _, found, tells.countersKind,
        (ContentTracker.gains_iff ownBatch).mpr ⟨counters, sum, rfl⟩, rfl⟩
    · rintro ⟨tracker, after, found, sameKind, gains, rfl⟩
      have ownBatch : batch.kind = tracker.counters.kind.tracker := by rw [sameBatch, sameKind]
      obtain ⟨counters, sum, rfl⟩ := (ContentTracker.gains_iff ownBatch).mp gains
      exact (applyBatch_content_eq_ok_iff sameBatch found sameKind).mpr ⟨counters, sum, rfl⟩

theorem increment_eq_ok_iff (reflects : memory.Reflects log) :
    increment key updates memory = (.ok (), next) ↔
      ∃ batch, Batch.ofUpdates key updates = .ok batch ∧ memory.Adds key batch next := by
  have chained : increment key updates memory = (.ok (), next) ↔
      (Batch.ofUpdates key updates).bind (memory.applyBatch key) = .ok next := by
    unfold increment
    cases (Batch.ofUpdates key updates).bind (memory.applyBatch key) <;> simp
  rw [chained, Answer.bind_eq_ok_iff]
  refine exists_congr fun batch => and_congr_right fun merged => ?_
  exact applyBatch_eq_ok_iff reflects (Batch.kind_of_ofUpdates merged)

/-- An increment that is refused leaves the memory as it is. -/
theorem eq_of_increment_eq_error {error : Error}
    (refused : increment key updates memory = (.error error, next)) : next = memory := by
  unfold increment at refused
  split at refused <;> cases refused
  rfl

/-- An increment adds all of its merged amounts once, to its own tracker only, or it is refused and
changes nothing.  The memory may be left by any calls. -/
theorem increment_allOrNothing (calls : List StoreCall) (key : Key) (updates : List Update) :
    (∀ next, increment key updates (store.after calls empty) = (.ok (), next) ↔
      ∃ batch, Batch.ofUpdates key updates = .ok batch ∧
        (store.after calls empty).Adds key batch next) ∧
    ∀ error next, increment key updates (store.after calls empty) = (.error error, next) →
      next = store.after calls empty := by
  have kept : ∀ call memory, (∃ log, memory.Reflects log) →
      ∃ log, (store.perform call memory).2.Reflects log := by
    rintro call memory ⟨log, reflects⟩
    exact ⟨_, reflects.perform call⟩
  obtain ⟨log, reflects⟩ := store.after_induction kept calls ⟨Log.empty, .empty⟩
  exact ⟨fun next => increment_eq_ok_iff reflects, fun error next => eq_of_increment_eq_error⟩

/-- A comment, and views of which more are taken back than there are. -/
def bothSigns : List Update := [
  .user "u1" .viewsOfOwned ⟨-9, by decide, by decide⟩,
  .user "u1" .commentsCreated .one,
  .user "u1" .viewsOfOwned ⟨2, by decide, by decide⟩]

/-- A comment, and more views than there is room for. -/
def tooManyViews : List Update := [
  .user "u1" .commentsCreated .one,
  .user "u1" .viewsOfOwned .greatest]

theorem increment_allOrNothing_leapMonth :
    let key := leapMonthKey (Small.ofNat 17 (by decide))
    let memory := store.after leapMonthCalls empty
    (∃ batch next, Batch.ofUpdates key bothSigns = .ok batch ∧ memory.Adds key batch next) ∧
      ∃ error, increment key tooManyViews memory = (.error error, memory) := by
  intro key memory
  constructor
  · obtain ⟨accepted, _⟩ := increment_allOrNothing leapMonthCalls key bothSigns
    obtain ⟨batch, merged, adds⟩ := (accepted _).mp (Prod.ext (by decide +kernel) rfl)
    exact ⟨batch, _, merged, adds⟩
  · have refused : (increment key tooManyViews memory).1.isOk = false := by decide +kernel
    cases answer : increment key tooManyViews memory with
    | mk given next =>
        rw [answer] at refused
        cases given with
        | ok => cases refused
        | error error =>
            cases (increment_allOrNothing leapMonthCalls key tooManyViews).2 error next answer
            exact ⟨error, rfl⟩

end Memory

end ActivityLedger
