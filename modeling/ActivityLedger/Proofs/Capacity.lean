import ActivityLedger.Proofs.Determinacy
import ActivityLedger.Proofs.Ledger

/-!
# Room for increments

A memory takes an increment at a built key exactly as far as the numbers go: if there
is a tracker and every sum is a number of 64 bits, nothing else can refuse it.  The
slot of the day is always there, since every key of a month has the same days.
-/

namespace ActivityLedger

/-! ## Counters -/

theorem Counters.exists_addAll {κ : Type} [Vocabulary κ] [DecidableEq κ] {table : Counters κ}
    {deltas : Deltas κ}
    (fits : ∀ counter, Amount.Fits ((table.get counter).val + amountOr (deltas.get counter))) :
    ∃ next, table.addAll deltas.toList = .ok next := by
  refine (addAll_isOk_iff deltas.nodup_toList).mpr fun entry member => ?_
  obtain ⟨sum, value⟩ := fits entry.1
  rw [(deltas.mem_toList_iff entry.1 entry.2).mp member] at value
  exact ⟨sum, Bounded.add?_eq_some_iff.mpr value⟩

theorem ContentCounters.exists_take {counters : ContentCounters} {batch : Batch}
    (isKind : batch.kind = counters.kind.tracker) (fits : ∀ counter, counter.kind = counters.kind.tracker →
      Amount.Fits (counters.value counter + batch.amount counter)) :
    ∃ next, counters.take batch = .ok next := by
  obtain ⟨kind, table, rfl⟩ := counters.exists_of
  rw [kind_of] at isKind fits
  obtain ⟨deltas, rfl⟩ := Batch.kind_eq_iff.mp isKind
  have sums (counter : kind.tracker.Counted) :
      Amount.Fits ((table.get counter).val + amountOr (deltas.get counter)) := by
    have sum := fits (.of kind.tracker counter) (Counter.kind_eq_iff.mpr ⟨counter, rfl⟩)
    rwa [value_of, Batch.amount_of] at sum
  obtain ⟨next, added⟩ := Counters.exists_addAll sums
  exact ⟨of kind next, by rw [take_of, added]; rfl⟩

theorem ContentCounters.fits_value (counters : ContentCounters) (counter : Counter) :
    Amount.Fits (counters.value counter) := by
  cases counters <;> cases counter <;> first | exact ⟨_, rfl⟩ | exact ⟨.zero, rfl⟩

/-! ## Slots -/

/-- The day of a user's built key has a slot in every tracker of its month. -/
theorem Key.IsBuilt.exists_slot {key : Key} (built : key.IsBuilt) (isUser : key.kind = .user) :
    ∃ slot, Memory.slotOf key.dayOfMonth = some slot ∧ slot < key.daysInMonth.toNat := by
  obtain ⟨date, _, _, same⟩ := isBuilt_iff.mp built
  rw [isUser] at same
  have first := date.one_le_day
  have last := date.day_le
  refine ⟨date.day - 1, ?_, ?_⟩
  · rw [same]
    exact (Memory.slotOf_dayNumber date _).mpr (by omega)
  · have sameMonth : date.SameMonth date := ⟨rfl, rfl⟩
    rw [same, Memory.daysInMonth_of_user key.entityId sameMonth]
    omega

/-! ## Logs -/

namespace Log

def postedOn (log : Log) (id : String) (slot : Nat) : List (Key × List Update) :=
  (log.postedAt .user id).filter fun entry => Memory.slotOf entry.1.dayOfMonth = some slot

/-- Every sum of what was added fits, for whole trackers and for the days of months. -/
structure Fits (log : Log) : Prop where
  whole : ∀ id counter, Amount.Fits (total (log.postedAt counter.kind id) counter)
  day : ∀ id slot counter, Amount.Fits (total (log.postedOn id slot) (.user counter))

/-- No amount that was added is negative. -/
def Natural (log : Log) : Prop := ∀ entry ∈ log.posted, ∀ update ∈ entry.2, 0 ≤ update.delta.val

theorem postedOn_append (log later : Log) (id : String) (slot : Nat) :
    (log.append later).postedOn id slot = log.postedOn id slot ++ later.postedOn id slot := by
  rw [postedOn, postedAt_append, List.filter_append]
  rfl

theorem total_nonneg {posted : List (Key × List Update)}
    (natural : ∀ entry ∈ posted, ∀ update ∈ entry.2, 0 ≤ update.delta.val) (counter : Counter) :
    0 ≤ total posted counter := by
  induction posted with
  | nil => simp
  | cons entry rest ih =>
      obtain ⟨first, others⟩ := List.forall_mem_cons.mp natural
      have here := updatesTotal_nonneg first counter
      have later := ih others
      rw [total_cons]
      omega

namespace Natural

variable {log : Log}

theorem total_postedAt (natural : log.Natural) (kind : TrackerKind) (id : String)
    (counter : Counter) : 0 ≤ total (log.postedAt kind id) counter :=
  total_nonneg (fun entry member => natural entry (List.mem_of_mem_filter member)) counter

theorem total_postedOn (natural : log.Natural) (id : String) (slot : Nat) (counter : Counter) :
    0 ≤ total (log.postedOn id slot) counter :=
  total_nonneg (fun entry member =>
    natural entry (List.mem_of_mem_filter (List.mem_of_mem_filter member))) counter

end Natural

/-- Sums that fit at first and in the end, while nothing is taken away, fit in between. -/
theorem Fits.between {log middle later : Log} (first : log.Fits)
    (last : ((log.append middle).append later).Fits) (natural : middle.Natural)
    (laterNatural : later.Natural) : (log.append middle).Fits where
  whole id counter := by
    have added := natural.total_postedAt counter.kind id counter
    have rest := laterNatural.total_postedAt counter.kind id counter
    have sum := last.whole id counter
    rw [postedAt_append, total_append] at sum
    rw [postedAt_append, total_append] at sum ⊢
    exact (first.whole id counter).between sum (by omega) (by omega)
  day id slot counter := by
    have added := natural.total_postedOn id slot (.user counter)
    have rest := laterNatural.total_postedOn id slot (.user counter)
    have sum := last.day id slot counter
    rw [postedOn_append, total_append] at sum
    rw [postedOn_append, total_append] at sum ⊢
    exact (first.day id slot counter).between sum (by omega) (by omega)

end Log

/-! ## Memories -/

namespace Memory

/-- What a counter holds in the tracker of a post or a comment, where a missing one holds
nothing. -/
def contentAmount (memory : Memory) (kind : ContentKind) (id : String) (counter : Counter) : Int :=
  match (memory.contents kind).find? id with
  | some tracker => tracker.counters.value counter
  | none => 0

/-- What a counter of any vocabulary holds in the tracker at an id. -/
def amountAt (memory : Memory) (id : String) : Counter → Int
  | .user counter => amountOr ((memory.users.find? id).map fun tracker =>
      tracker.monthly.get counter)
  | .post counter => memory.contentAmount .post id (.post counter)
  | .comment counter => memory.contentAmount .comment id (.comment counter)

/-- What a counter holds in a slot of a user's month, where a missing one holds nothing. -/
def amountOn (memory : Memory) (id : String) (slot : Nat) (counter : UserCounter) : Int :=
  amountOr ((memory.users.find? id).bind fun tracker =>
    tracker.days[slot]?.map fun day => day.get counter)

/-- Every counter, with all that calls add to it, fits. -/
structure HasRoom (memory : Memory) (calls : List StoreCall) : Prop where
  whole : ∀ id counter, Amount.Fits (memory.amountAt id counter +
    Log.total ((Log.ofCalls calls).postedAt counter.kind id) counter)
  day : ∀ id slot counter, Amount.Fits (memory.amountOn id slot counter +
    Log.total ((Log.ofCalls calls).postedOn id slot) (.user counter))

theorem fits_contentAmount (memory : Memory) (kind : ContentKind) (id : String)
    (counter : Counter) : Amount.Fits (memory.contentAmount kind id counter) := by
  unfold contentAmount
  split
  · exact ContentCounters.fits_value _ counter
  · exact ⟨.zero, rfl⟩

namespace Reflects

variable {memory : Memory} {log : Log}

theorem postedAt_of_absent (reflects : memory.Reflects log) {kind : TrackerKind} {id : String}
    (absent : ∀ key : Key, key.isAt kind id = true → ¬ memory.Holds key) :
    log.postedAt kind id = [] :=
  Log.postedAt_eq_nil fun key member =>
    Bool.eq_false_iff.mpr fun here => absent key here (reflects.held key member)

theorem postedAt_of_absent_user (reflects : memory.Reflects log) {id : String}
    (absent : memory.users.find? id = none) : log.postedAt .user id = [] := by
  refine reflects.postedAt_of_absent fun key here held => ?_
  obtain ⟨isUser, rfl⟩ := Key.isAt_iff.mp here
  obtain ⟨tracker, found⟩ := (holds_user_iff isUser).mp held
  cases found.symm.trans absent

theorem contentAmount_eq (reflects : memory.Reflects log) (kind : ContentKind) (id : String)
    {counter : Counter} (named : counter.kind = kind.tracker) :
    memory.contentAmount kind id counter = Log.total (log.postedAt counter.kind id) counter := by
  rw [named]
  cases found : (memory.contents kind).find? id with
  | none =>
      have nothing : log.postedAt kind.tracker id = [] := by
        refine reflects.postedAt_of_absent fun key here held => ?_
        obtain ⟨isKind, rfl⟩ := Key.isAt_iff.mp here
        obtain ⟨tracker, present⟩ := (holds_content_iff isKind).mp held
        cases present.symm.trans found
      rw [contentAmount, found, nothing, Log.total_nil]
  | some tracker =>
      obtain ⟨opener, _, tells⟩ := reflects.contents kind id tracker found
      rw [contentAmount, found]
      exact tells.counters counter named

/-- A counter holds the sum of what was added to it. -/
theorem amountAt_eq (reflects : memory.Reflects log) (id : String) (counter : Counter) :
    memory.amountAt id counter = Log.total (log.postedAt counter.kind id) counter := by
  cases counter with
  | user counter =>
      cases found : memory.users.find? id with
      | none =>
          show _ = Log.total (log.postedAt .user id) _
          rw [reflects.postedAt_of_absent_user found, amountAt, found]
          rfl
      | some tracker =>
          obtain ⟨opener, _, tells⟩ := reflects.users id tracker found
          rw [amountAt, found]
          exact tells.monthly counter
  | post counter => exact reflects.contentAmount_eq .post id rfl
  | comment counter => exact reflects.contentAmount_eq .comment id rfl

/-- What was added at built keys of a user's month went to slots that the tracker has. -/
theorem slot_lt_of_posted (reflects : memory.Reflects log) (built : ∀ key ∈ log.keys, key.IsBuilt)
    {id : String} {tracker : UserTracker} (found : memory.users.find? id = some tracker)
    {key : Key} (isUser : key.kind = .user) (here : key.id = id) (keyBuilt : key.IsBuilt)
    {slot : Nat} (position : slotOf key.dayOfMonth = some slot) : slot < tracker.days.length := by
  obtain ⟨opener, first, tells⟩ := reflects.users id tracker found
  have alike := Log.alike_of_opener? built first keyBuilt (Key.isAt_iff.mpr ⟨isUser, here⟩)
  obtain ⟨own, ownPosition, within⟩ := keyBuilt.exists_slot isUser
  cases ownPosition.symm.trans position
  rw [tells.slots, Key.daysInMonth, alike.periods]
  exact within

theorem amountOn_eq (reflects : memory.Reflects log) (built : ∀ key ∈ log.keys, key.IsBuilt)
    (id : String) (slot : Nat) (counter : UserCounter) :
    memory.amountOn id slot counter = Log.total (log.postedOn id slot) (.user counter) := by
  cases found : memory.users.find? id with
  | none =>
      rw [Log.postedOn, reflects.postedAt_of_absent_user found, amountOn, found]
      rfl
  | some tracker =>
      obtain ⟨opener, _, tells⟩ := reflects.users id tracker found
      rw [amountOn, found, Option.bind_some]
      cases here : tracker.days[slot]? with
      | some day => exact tells.days slot day here counter
      | none =>
          have nothing : log.postedOn id slot = [] := by
            refine List.filter_eq_nil_iff.mpr fun entry member position => ?_
            obtain ⟨posted, isAt⟩ := List.mem_filter.mp member
            obtain ⟨isUser, sameId⟩ := Key.isAt_iff.mp isAt
            have keyBuilt := built _ (List.mem_append_right _ (List.mem_map_of_mem posted))
            have within := reflects.slot_lt_of_posted built found isUser sameId keyBuilt
              (by simpa using position)
            have past := List.getElem?_eq_none_iff.mp here
            omega
          rw [nothing]
          rfl

/-- There is room for calls exactly where all sums after them fit. -/
theorem hasRoom_iff (reflects : memory.Reflects log) (built : ∀ key ∈ log.keys, key.IsBuilt)
    (calls : List StoreCall) :
    memory.HasRoom calls ↔ (log.append (Log.ofCalls calls)).Fits := by
  constructor
  · intro room
    constructor
    · intro id counter
      rw [Log.postedAt_append, Log.total_append, ← reflects.amountAt_eq]
      exact room.whole id counter
    · intro id slot counter
      rw [Log.postedOn_append, Log.total_append, ← reflects.amountOn_eq built]
      exact room.day id slot counter
  · intro fits
    constructor
    · intro id counter
      rw [reflects.amountAt_eq, ← Log.total_append, ← Log.postedAt_append]
      exact fits.whole id counter
    · intro id slot counter
      rw [reflects.amountOn_eq built, ← Log.total_append, ← Log.postedOn_append]
      exact fits.day id slot counter

/-- The sums that a memory tells fit. -/
theorem fits (reflects : memory.Reflects log) (built : ∀ key ∈ log.keys, key.IsBuilt) :
    log.Fits where
  whole id counter := by
    rw [← reflects.amountAt_eq]
    cases counter with
    | user counter => exact Amount.fits_amountOr _
    | post counter => exact memory.fits_contentAmount .post id _
    | comment counter => exact memory.fits_contentAmount .comment id _
  day id slot counter := by
    rw [← reflects.amountOn_eq built]
    exact Amount.fits_amountOr _

/-! ## Increments -/

variable {key : Key} {updates : List Update} {batch : Batch}

/-- A user with a tracker takes a batch at a built key, if all sums after it fit. -/
theorem exists_incrementUser (reflects : memory.Reflects log)
    (built : ∀ key ∈ log.keys, key.IsBuilt) (keyBuilt : key.IsBuilt) (held : memory.Holds key)
    {deltas : Deltas UserCounter} (made : Batch.ofUpdates key updates = .ok (.user deltas))
    (fits : (log.enter (.increment key updates) (.ok .done)).Fits) :
    ∃ next, memory.incrementUser key deltas = .ok next := by
  have isUser : key.kind = .user := (Batch.kind_of_ofUpdates made).symm
  have amount (counter : UserCounter) :
      amountOr (deltas.get counter) = updatesTotal updates (.user counter) := by
    have sum : (Batch.user deltas).amount (.user counter) = updatesTotal updates (.user counter) :=
      Batch.amount_of_ofUpdates made isUser.symm
    exact sum
  have posted : (log.enter (.increment key updates) (.ok .done)).postedAt .user key.id =
      log.postedAt .user key.id ++ [(key, updates)] := by
    rw [Log.postedAt_increment, if_pos (Key.isAt_iff.mpr ⟨isUser, rfl⟩)]
  obtain ⟨tracker, found⟩ := (holds_user_iff isUser).mp held
  obtain ⟨opener, _, tells⟩ := reflects.users key.id tracker found
  obtain ⟨slot, position, _⟩ := keyBuilt.exists_slot isUser
  have postedDay : (log.enter (.increment key updates) (.ok .done)).postedOn key.id slot =
      log.postedOn key.id slot ++ [(key, updates)] := by
    rw [Log.postedOn, posted, List.filter_append]
    simp [Log.postedOn, position]
  have inSlots := reflects.slot_lt_of_posted built found isUser rfl keyBuilt position
  have here : tracker.days[slot]? = some tracker.days[slot] := List.getElem?_eq_getElem inSlots
  have monthFits (counter : UserCounter) : Amount.Fits
      ((tracker.monthly.get counter).val + amountOr (deltas.get counter)) := by
    have sum := fits.whole key.id (.user counter)
    rw [Counter.kind, posted, Log.total_append, Log.total_singleton] at sum
    rwa [tells.monthly, amount]
  have dayFits (counter : UserCounter) : Amount.Fits
      ((tracker.days[slot].get counter).val + amountOr (deltas.get counter)) := by
    have sum := fits.day key.id slot counter
    rw [postedDay, Log.total_append, Log.total_singleton] at sum
    rwa [tells.days slot _ here, amount]
  obtain ⟨nextDay, daySum⟩ := Counters.exists_addAll dayFits
  obtain ⟨nextMonth, monthSum⟩ := Counters.exists_addAll monthFits
  exact ⟨_, incrementUser_eq_ok_iff.mpr
    ⟨tracker, slot, _, nextDay, nextMonth, found, position, here, daySum, monthSum, rfl⟩⟩

theorem exists_applyContent (reflects : memory.Reflects log) (held : memory.Holds key)
    {kind : ContentKind} (isKind : key.kind = kind.tracker)
    (made : Batch.ofUpdates key updates = .ok batch)
    (fits : (log.enter (.increment key updates) (.ok .done)).Fits) :
    ∃ next, memory.applyBatch key batch = .ok next := by
  obtain ⟨tracker, found⟩ := (holds_content_iff isKind).mp held
  obtain ⟨opener, _, tells⟩ := reflects.contents kind key.id tracker found
  have sums : ∀ counter, counter.kind = tracker.counters.kind.tracker →
      Amount.Fits (tracker.counters.value counter + batch.amount counter) := by
    intro counter named
    rw [tells.countersKind] at named
    have sum := fits.whole key.id counter
    rw [named, Log.postedAt_increment, if_pos (Key.isAt_iff.mpr ⟨isKind, rfl⟩), Log.total_append,
      Log.total_singleton] at sum
    rwa [tells.counters counter named, Batch.amount_of_ofUpdates made (named.trans isKind.symm)]
  have sameKind := (Batch.kind_of_ofUpdates made).trans isKind
  obtain ⟨counters, taken⟩ :=
    ContentCounters.exists_take (sameKind.trans (congrArg _ tells.countersKind.symm)) sums
  exact ⟨_, (applyBatch_content_eq_ok_iff sameKind found tells.countersKind).mpr
    ⟨counters, taken, rfl⟩⟩

/-- An increment at a built key is accepted, if there is a tracker and all sums after it fit. -/
theorem exists_increment (reflects : memory.Reflects log)
    (built : ∀ key ∈ log.keys, key.IsBuilt) (keyBuilt : key.IsBuilt) (held : memory.Holds key)
    (merged : ∃ batch, Batch.ofUpdates key updates = .ok batch)
    (fits : (log.enter (.increment key updates) (.ok .done)).Fits) :
    ∃ value, (store.perform (.increment key updates) memory).1 = .ok value := by
  obtain ⟨batch, made⟩ := merged
  have sameKind := Batch.kind_of_ofUpdates made
  suffices taken : ∃ next, memory.applyBatch key batch = .ok next by
    obtain ⟨next, applied⟩ := taken
    refine ⟨.done, ?_⟩
    simp [Store.perform, store, increment, made, Except.bind, applied, Except.map]
  rcases batch.eq_user_or_content with ⟨deltas, rfl⟩ | ⟨kind, deltas, rfl⟩
  · exact reflects.exists_incrementUser built keyBuilt held made fits
  · rw [Batch.kind_of] at sameKind
    exact reflects.exists_applyContent held sameKind.symm made fits

end Reflects

/-- Setting up a tracker from a template that describes its key is accepted. -/
theorem exists_ensure (memory : Memory) {key : Key} {template : Template}
    (describes : template.kind = key.kind ∧ template.entityId = key.entityId) :
    ∃ value, (store.perform (.ensure key template) memory).1 = .ok value := by
  obtain ⟨created, next, opened⟩ := memory.ensure_of_describes describes
  refine ⟨.created created, ?_⟩
  simp [Store.perform, store, opened, Except.map]

end Memory

end ActivityLedger
