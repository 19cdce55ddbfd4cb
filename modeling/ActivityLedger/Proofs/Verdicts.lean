import ActivityLedger.Proofs.Checks
import ActivityLedger.Proofs.Schedules

/-!
# Why a recording fails

On a reachable memory an event of which a registry knows the authors can fail for a
handful of reasons only, in a fixed order: it breaks a rule, an author is unknown, a key
cannot be built, or a sum would exceed the greatest amount.  The classification itself
never fails then, and no increment misses its tracker, its slot or its batch.
-/

namespace ActivityLedger

/-! ## Room for a booking -/

namespace Memory

/-- An update on a date would take its counter past the greatest amount: in the month or the
content of its target, or in the slot of the date. -/
def Exceeds (memory : Memory) (date : Date) (update : Update) : Prop :=
  let id := Key.idText update.target.kind update.target.entityId date
  Amount.greatest.val < memory.amountAt id update.counter + update.delta.val ∨
    match update.counter with
    | .user counter =>
        Amount.greatest.val < memory.amountOn id (date.day - 1) counter + update.delta.val
    | _ => False

instance (memory : Memory) (date : Date) (update : Update) :
    Decidable (memory.Exceeds date update) := by
  unfold Exceeds
  cases update.counter <;> infer_instance

end Memory

/-- The only update that names a counter is all that the counter gets. -/
theorem updatesTotal_of_single {updates : List Update}
    (single : updates.Pairwise fun left right => left.counter ≠ right.counter) {update : Update}
    (listed : update ∈ updates) : updatesTotal updates update.counter = update.delta.val := by
  induction updates with
  | nil => cases listed
  | cons first rest ih =>
      obtain ⟨different, singleRest⟩ := List.pairwise_cons.mp single
      rw [updatesTotal_cons]
      rcases List.mem_cons.mp listed with rfl | later
      · have others : updatesTotal rest update.counter = 0 :=
          updatesTotal_eq_zero fun other member => (different other member).symm
        rw [if_pos rfl, others, Int.add_zero]
      · rw [if_neg (different update later), ih singleRest later, Int.zero_add]

theorem Plan.Sound.amountFor_eq {plan : Plan} (sound : plan.Sound) {update : Update}
    (listed : update ∈ plan.updates) :
    plan.amountFor update.target update.counter = update.delta.val := by
  have own : update ∈ plan.updatesFor update.target :=
    List.mem_filter.mpr ⟨listed, by simp⟩
  refine updatesTotal_of_single ?_ own
  refine (sound.single.filter _).imp_of_mem fun fromLeft fromRight different => ?_
  have left := (List.mem_filter.mp fromLeft).2
  have right := (List.mem_filter.mp fromRight).2
  simp only [decide_eq_true_eq] at left right
  exact different (left.trans right.symm)

theorem Plan.Sound.amountFor_cases {plan : Plan} (sound : plan.Sound) (target : Target)
    (counter : Counter) : plan.amountFor target counter = 0 ∨
      ∃ update ∈ plan.updates, update.target = target ∧ update.counter = counter ∧
        plan.amountFor target counter = update.delta.val := by
  by_cases named : ∃ update ∈ plan.updates, update.target = target ∧ update.counter = counter
  · obtain ⟨update, listed, rfl, rfl⟩ := named
    exact Or.inr ⟨update, listed, rfl, rfl, sound.amountFor_eq listed⟩
  · refine Or.inl (updatesTotal_eq_zero fun update member same => named ?_)
    obtain ⟨listed, here⟩ := List.mem_filter.mp member
    exact ⟨update, listed, by simpa using here, same⟩

namespace Booking

def calls (booking : Booking) : List StoreCall :=
  Record.openings booking.shares ++ Record.postings booking.shares

theorem Sound.compact {booking : Booking} (sound : booking.Sound) {target : Target}
    (listed : target ∈ booking.plan.targets) : booking.date.HasCompact := by
  obtain ⟨template, tracked, _⟩ := List.mem_map.mp listed
  exact (sound.addressable template tracked).2

theorem ofCalls_calls (booking : Booking) :
    Log.ofCalls booking.calls = Log.ofBookings [booking] := by
  have opened (shares : List Share) :
      (Record.openings shares).filterMap StoreCall.opening? =
        shares.map fun share => (share.key, share.template) := by
    simp [Record.openings, List.filterMap_map, Function.comp_def, Share.opening,
      StoreCall.opening?]
  have postedNone (shares : List Share) :
      (Record.postings shares).filterMap StoreCall.opening? = [] := by
    simp [Record.postings, List.filterMap_map, Function.comp_def, Share.posting,
      StoreCall.opening?]
  have openedNone (shares : List Share) :
      (Record.openings shares).filterMap StoreCall.posting? = [] := by
    simp [Record.openings, List.filterMap_map, Function.comp_def, Share.opening,
      StoreCall.posting?]
  have posted (shares : List Share) :
      (Record.postings shares).filterMap StoreCall.posting? =
        (Record.active shares).map fun share => (share.key, share.updates) := by
    simp [Record.postings, List.filterMap_map, Function.comp_def, Share.posting,
      StoreCall.posting?]
  simp [Log.ofCalls, Log.ofBookings, calls, opened, postedNone, openedNone, posted, Record.active]

variable {booking : Booking}

/-- A booking touches the entities of its plan on its own date. -/
theorem touching_singleton {target : Target} (listed : target ∈ booking.plan.targets) :
    touching [booking] target booking.date = [booking] := by
  have touches : booking.Touches target booking.date :=
    ⟨listed, (Date.samePeriod_iff target.kind _ _).mpr rfl⟩
  rw [touching, List.filter_cons, if_pos (by simpa using touches)]
  rfl

/-- The calls of a booking add to a tracker of its plan what the plan has for the entity. -/
theorem total_postedAt (sound : booking.Sound) {target : Target}
    (listed : target ∈ booking.plan.targets) (counter : Counter) :
    Log.total ((Log.ofCalls booking.calls).postedAt target.kind
        (Key.idText target.kind target.entityId booking.date)) counter =
      booking.plan.amountFor target counter := by
  rw [ofCalls_calls, Memory.total_postedAt (List.forall_mem_singleton.mpr sound) target
    (sound.compact listed), touching_singleton listed]
  simp [sum]

theorem total_postedOn (sound : booking.Sound) {target : Target}
    (listed : target ∈ booking.plan.targets) (slot : Nat) (counter : Counter) :
    Log.total (((Log.ofCalls booking.calls).postedAt target.kind
        (Key.idText target.kind target.entityId booking.date)).filter fun entry =>
          Memory.slotOf entry.1.dayOfMonth = some slot) counter =
      if booking.date.day = slot + 1 then booking.plan.amountFor target counter else 0 := by
  rw [ofCalls_calls, Memory.total_postedAt_day (List.forall_mem_singleton.mpr sound) target
    (sound.compact listed), touching_singleton listed, List.filter_cons]
  by_cases here : booking.date.day = slot + 1 <;> simp [sum, here]

theorem postedAt_eq_nil {kind : TrackerKind} {id : String}
    (foreign : ∀ target ∈ booking.plan.targets, target.kind = kind →
      Key.idText kind target.entityId booking.date ≠ id) :
    (Log.ofCalls booking.calls).postedAt kind id = [] := by
  rw [ofCalls_calls]
  refine Log.postedAt_eq_nil fun key member => Bool.eq_false_iff.mpr fun here => ?_
  obtain ⟨own, booked, share, listed, rfl⟩ := Log.exists_share_of_mem_keys member
  rw [List.mem_singleton.mp booked] at listed
  obtain ⟨template, tracked, rfl⟩ := List.mem_map.mp listed
  obtain ⟨rfl, sameId⟩ := Key.isAt_iff.mp here
  exact foreign template.target (List.mem_map_of_mem tracked) rfl sameId

end Booking

namespace Memory.Reflects

variable {memory : Memory} {log : Log} {booking : Booking}

/-- What counters hold fits, and with an amount that is not negative fits up to the greatest. -/
theorem fits_add (reflects : memory.Reflects log) (built : ∀ key ∈ log.keys, key.IsBuilt)
    {delta : Int} (natural : 0 ≤ delta) :
    (∀ id counter, memory.amountAt id counter + delta ≤ Amount.greatest.val →
      Amount.Fits (memory.amountAt id counter + delta)) ∧
    ∀ id slot counter, memory.amountOn id slot counter + delta ≤ Amount.greatest.val →
      Amount.Fits (memory.amountOn id slot counter + delta) := by
  constructor
  · intro id counter bounded
    have current := Amount.fits_iff.mp ((reflects.fits built).whole id counter)
    rw [← reflects.amountAt_eq] at current
    exact Amount.fits_iff.mpr ⟨by omega, bounded⟩
  · intro id slot counter bounded
    have current := Amount.fits_iff.mp ((reflects.fits built).day id slot counter)
    rw [← reflects.amountOn_eq built] at current
    exact Amount.fits_iff.mpr ⟨by omega, bounded⟩

theorem hasRoom_of_bounded (reflects : memory.Reflects log)
    (built : ∀ key ∈ log.keys, key.IsBuilt) (sound : booking.Sound)
    (bounded : ∀ update ∈ booking.plan.updates, ¬ memory.Exceeds booking.date update) :
    memory.HasRoom booking.calls where
  whole id counter := by
    by_cases own : ∃ target ∈ booking.plan.targets, target.kind = counter.kind ∧
        Key.idText counter.kind target.entityId booking.date = id
    · obtain ⟨target, listed, sameKind, rfl⟩ := own
      rw [← sameKind, Booking.total_postedAt sound listed]
      rcases sound.plan.amountFor_cases target counter with nothing | ⟨update, member, rfl, rfl, sum⟩
      · rw [nothing, Int.add_zero, reflects.amountAt_eq]
        exact (reflects.fits built).whole _ counter
      · rw [sum]
        have positive := Int.le_of_lt (sound.plan.positive update member)
        refine (reflects.fits_add built positive).1 _ _ (Int.not_lt.mp fun exceeds => ?_)
        exact bounded update member (Or.inl exceeds)
    · have nothing : (Log.ofCalls booking.calls).postedAt counter.kind id = [] :=
        Booking.postedAt_eq_nil fun target listed sameKind sameId =>
          own ⟨target, listed, sameKind, sameId⟩
      rw [nothing, Log.total_nil, Int.add_zero, reflects.amountAt_eq]
      exact (reflects.fits built).whole id counter
  day id slot counter := by
    have current : Amount.Fits (memory.amountOn id slot counter) := by
      rw [reflects.amountOn_eq built]
      exact (reflects.fits built).day id slot counter
    by_cases own : ∃ target ∈ booking.plan.targets, target.kind = .user ∧
        Key.idText .user target.entityId booking.date = id
    · obtain ⟨target, listed, isUser, rfl⟩ := own
      rw [Log.postedOn, ← isUser, Booking.total_postedOn sound listed]
      split
      · rename_i sameDay
        rcases sound.plan.amountFor_cases target (.user counter) with
          nothing | ⟨update, member, rfl, named, sum⟩
        · rw [nothing, Int.add_zero, isUser]
          exact current
        · rw [sum]
          have positive := Int.le_of_lt (sound.plan.positive update member)
          refine (reflects.fits_add built positive).2 _ _ _ (Int.not_lt.mp fun exceeds => ?_)
          refine bounded update member (Or.inr ?_)
          rw [sameDay, named]
          exact exceeds
      · rw [Int.add_zero, isUser]
        exact current
    · have nothing : (Log.ofCalls booking.calls).postedAt .user id = [] :=
        Booking.postedAt_eq_nil fun target listed isUser sameId =>
          own ⟨target, listed, isUser, sameId⟩
      rw [Log.postedOn, nothing, List.filter_nil, Log.total_nil, Int.add_zero]
      exact current

/-- There is room for the calls of a booking exactly where no update of its plan would take a
counter past the greatest amount. -/
theorem hasRoom_booking_iff (reflects : memory.Reflects log)
    (built : ∀ key ∈ log.keys, key.IsBuilt) (sound : booking.Sound) :
    memory.HasRoom booking.calls ↔
      ∀ update ∈ booking.plan.updates, ¬ memory.Exceeds booking.date update := by
  constructor
  · rintro room update listed exceeds
    have target := sound.plan.covered update listed
    have sameKind := sound.plan.kinds update listed
    have amount := sound.plan.amountFor_eq listed
    rcases exceeds with whole | day
    · have fits := Amount.fits_iff.mp (room.whole
        (Key.idText update.target.kind update.target.entityId booking.date) update.counter)
      rw [sameKind, Booking.total_postedAt sound target, amount] at fits
      exact absurd whole (Int.not_lt.mpr fits.2)
    · cases counter : update.counter with
      | post | comment => simp [counter] at day
      | user own =>
          rw [counter] at day sameKind amount
          have isUser : update.target.kind = .user := sameKind.symm
          have first := booking.date.one_le_day
          have fits := Amount.fits_iff.mp (room.day
            (Key.idText update.target.kind update.target.entityId booking.date)
            (booking.date.day - 1) own)
          rw [Log.postedOn, ← isUser, Booking.total_postedOn sound target, amount,
            if_pos (by omega)] at fits
          exact absurd day (Int.not_lt.mpr fits.2)
  · exact reflects.hasRoom_of_bounded built sound

end Memory.Reflects

/-! ## Refused increments -/

def Error.IsOverflow (error : Error) : Prop :=
  ∃ name current delta, error = .invariant (.counterOverflow name current delta)

theorem Counters.overflow_of_add {κ : Type} [Vocabulary κ] {table : Counters κ} {counter : κ}
    {delta : Amount} {cause : Error} (refused : table.add counter delta = .error cause) :
    cause.IsOverflow := by
  unfold add at refused
  split at refused
  · cases refused
  · cases refused
    exact ⟨_, _, _, rfl⟩

theorem Counters.overflow_of_addAll {κ : Type} [Vocabulary κ] {table : Counters κ}
    {entries : List (κ × Amount)} {cause : Error} (refused : table.addAll entries = .error cause) :
    cause.IsOverflow := by
  induction entries generalizing table with
  | nil => cases refused
  | cons entry rest ih =>
      obtain ⟨counter, delta⟩ := entry
      rw [addAll_cons] at refused
      rcases Answer.bind_eq_error_iff.mp refused with first | ⟨next, _, later⟩
      · exact overflow_of_add first
      · exact ih later

namespace Memory

theorem overflow_of_addToBoth {day month : Counters UserCounter}
    {entries : List (UserCounter × Amount)} {cause : Error}
    (refused : addToBoth day month entries = .error cause) : cause.IsOverflow := by
  induction entries generalizing day month with
  | nil => cases refused
  | cons entry rest ih =>
      obtain ⟨counter, delta⟩ := entry
      unfold addToBoth at refused
      split at refused
      · rename_i error failed
        cases refused
        exact Counters.overflow_of_add failed
      · split at refused
        · rename_i error failed
          cases refused
          exact Counters.overflow_of_add failed
        · exact ih refused

/-- All that an increment needs is there: a tracker, with a slot for the day or with counters of
its kind, and updates that make a batch for its key. -/
structure Ready (memory : Memory) (key : Key) (updates : List Update) : Prop where
  held : memory.Holds key
  slot : key.kind = .user → ∀ tracker, memory.users.find? key.id = some tracker →
    ∃ slot day, slotOf key.dayOfMonth = some slot ∧ tracker.days[slot]? = some day
  counters : ∀ kind : ContentKind, key.kind = kind.tracker → ∀ tracker,
    (memory.contents kind).find? key.id = some tracker → tracker.counters.kind = kind
  batch : ∃ batch, Batch.ofUpdates key updates = .ok batch

/-- An increment for which all is there is refused only because a sum is no amount. -/
theorem Ready.overflow {memory : Memory} {key : Key} {updates : List Update} {error : Error}
    (ready : memory.Ready key updates)
    (refused : store.Refuses (.increment key updates) memory error) :
    ∃ cause : Error, cause.IsOverflow ∧ error = (StoreFault.overflow cause).error key := by
  obtain ⟨batch, merged⟩ := ready.batch
  have sameKind := Batch.kind_of_ofUpdates merged
  have answered : (increment key updates memory).1 = .error error :=
    Answer.map_eq_error_iff.mp refused
  have failed : memory.applyBatch key batch = .error error := by
    cases applied : memory.applyBatch key batch with
    | ok next => simp [increment, merged, Except.bind, applied] at answered
    | error other => simpa [increment, merged, Except.bind, applied] using answered
  rcases batch.eq_user_or_content with ⟨deltas, rfl⟩ | ⟨kind, deltas, rfl⟩
  · have isUser : key.kind = .user := sameKind.symm
    obtain ⟨tracker, found⟩ := (holds_user_iff isUser).mp ready.held
    obtain ⟨slot, day, position, here⟩ := ready.slot isUser tracker found
    simp only [applyBatch, incrementUser, found, position, here, Option.bind_some,
      Option.map_some] at failed
    split at failed
    · rename_i cause overflows
      cases failed
      exact ⟨cause, overflow_of_addToBoth overflows, rfl⟩
    · cases failed
  · rw [Batch.kind_of] at sameKind
    obtain ⟨tracker, found⟩ := (holds_content_iff sameKind.symm).mp ready.held
    simp only [applyBatch_content, incrementContent, found] at failed
    split at failed
    · cases failed
    · split at failed
      · rename_i cause overflows
        cases failed
        exact ⟨cause, Counters.overflow_of_addAll overflows, rfl⟩
      · cases failed

namespace Reflects

variable {memory : Memory} {log : Log}

theorem ready (reflects : memory.Reflects log) (built : ∀ key ∈ log.keys, key.IsBuilt) {key : Key}
    (keyBuilt : key.IsBuilt) (held : memory.Holds key) {updates : List Update}
    (merged : ∃ batch, Batch.ofUpdates key updates = .ok batch) : memory.Ready key updates where
  held := held
  slot isUser tracker found := by
    obtain ⟨slot, position, _⟩ := keyBuilt.exists_slot isUser
    have inSlots := reflects.slot_lt_of_posted built found isUser rfl keyBuilt position
    exact ⟨slot, _, position, List.getElem?_eq_getElem inSlots⟩
  counters kind _ tracker found := by
    obtain ⟨opener, _, tells⟩ := reflects.contents kind key.id tracker found
    exact tells.countersKind
  batch := merged

/-- The first of orderly calls that is refused is an increment for which all is there. -/
theorem ready_of_refuses (reflects : memory.Reflects log) (built : ∀ key ∈ log.keys, key.IsBuilt)
    {done later : List StoreCall} {call : StoreCall} (orderly : Orderly (done ++ call :: later))
    (accepted : store.Accepts done memory) {error : Error}
    (refused : store.Refuses call (store.after done memory) error) :
    ∃ key updates, call = .increment key updates ∧ (store.after done memory).Ready key updates := by
  have reached := reflects.after accepted
  obtain ⟨soundDone, soundRest⟩ := List.forall_mem_append.mp orderly.sound
  have soundCall := soundRest call List.mem_cons_self
  have reachedBuilt := Log.isBuilt_append built (Log.isBuilt_ofCalls soundDone)
  cases call with
  | ensure key template =>
      obtain ⟨value, answered⟩ := (store.after done memory).exists_ensure soundCall.2
      cases refused.symm.trans answered
  | increment key updates =>
      obtain ⟨template, opened⟩ := orderly.preceded done key updates later rfl
      have held := reached.held key (Log.mem_keys_of_ensure opened log)
      exact ⟨key, updates, rfl, reached.ready reachedBuilt soundCall.1 held soundCall.2.1⟩
  | content | user | contentRange | userRange => exact soundCall.elim

end Reflects

end Memory

/-! ## Verdicts -/

inductive Verdict where
  /-- It breaks a rule. -/
  | invalid
  /-- An author is not known. -/
  | unattributed
  /-- It is of a sort that is not counted. -/
  | uncounted
  /-- A key cannot be built. -/
  | unaddressable
  /-- A sum would be no amount. -/
  | overflowing
  | counted
deriving DecidableEq

/-- The verdict that an answer to a recording stands for. -/
def Verdict.of? : Except Error Outcome → Option Verdict
  | .ok outcome => some (if outcome.rejected then .uncounted else .counted)
  | .error (.invariant _) => some .invalid
  | .error (.lookup _) => some .unattributed
  | .error (.argument _) => some .unaddressable
  | .error (.storage ..) => some .overflowing
  | .error _ => none

namespace Memory

/-- Some update that is planned for an event would take a counter past the greatest amount. -/
def Overflows (memory : Memory) (registry : Registry) (event : Event) (date : Date) : Prop :=
  match Record.planOf registry.directory event with
  | .ok plan => ∃ update ∈ plan.updates, memory.Exceeds date update
  | .error _ => False

instance (memory : Memory) (registry : Registry) (event : Event) (date : Date) :
    Decidable (memory.Overflows registry event date) := by
  unfold Overflows
  split <;> infer_instance

/-- The verdict on an event: the first reason against it decides. -/
def verdict (memory : Memory) (registry : Registry) (event : Event) (date : Date) : Verdict :=
  if event.validate ≠ .ok () then .invalid
  else if registry.Unattributed event then .unattributed
  else if registry.Uncounted event then .uncounted
  else if ¬ date.HasCompact ∨ registry.Nameless event then .unaddressable
  else if memory.Overflows registry event date then .overflowing
  else .counted

end Memory

namespace Record

variable {registry : Registry} {event : Event} {date : Date} {plan : Plan}

theorem answers_directory (registry : Registry) : registry.directory.Answers where
  posts _ _ := by simp [Registry.directory]
  comments _ _ := by simp [Registry.directory]

/-- The keys of a plan that counts its event are built exactly for dates of the century, if
nobody has an empty id. -/
theorem addressable_iff (date : Date) (touched : plan.trackers ≠ []) :
    Addressable plan date ↔ date.HasCompact ∧ plan.Named := by
  have names : plan.Named ↔ ∀ template ∈ plan.trackers, template.entityId ≠ "" :=
    List.forall_mem_map
  obtain ⟨template, listed⟩ := List.exists_mem_of_ne_nil _ touched
  rw [names]
  constructor
  · intro addressable
    exact ⟨(addressable template listed).2, fun other member => (addressable other member).1⟩
  · rintro ⟨compact, named⟩ other member
    exact ⟨named other member, compact⟩

theorem planOf_of_attributed (valid : event.Valid) (attributed : ¬ registry.Unattributed event) :
    ∃ activity plan, planOf registry.directory event = .ok plan ∧
      Plan.Classified event (registry.authors event) activity plan := by
  obtain ⟨activity, plan, read, classified⟩ := Registry.exists_plan valid attributed
  have named := (Registry.authorship_eq_ok_iff valid).mpr ⟨attributed, rfl⟩
  have made := Plan.ofEvent_eq_ok_iff.mpr ⟨activity, read, classified⟩
  exact ⟨activity, plan, Answer.bind_eq_ok_iff.mpr ⟨_, named, made⟩, classified⟩

theorem prepare_of_invalid (directory : Directory) (date : Date)
    (invalid : event.validate ≠ .ok ()) :
    ∃ fault, prepare directory event date = .error (.invariant fault) := by
  cases refused : event.validate with
  | ok _ => exact absurd refused invalid
  | error error =>
      have broken := event.refused_validate error refused
      cases error <;> cases broken
      exact ⟨_, Answer.bind_eq_error_iff.mpr (Or.inl refused)⟩

theorem prepare_of_unattributed (date : Date) (valid : event.Valid)
    (unattributed : registry.Unattributed event) :
    ∃ fault, prepare registry.directory event date = .error (.lookup fault) := by
  cases unnamed : authorship registry.directory event with
  | ok authors =>
      exact absurd unattributed ((Registry.authorship_eq_ok_iff valid).mp unnamed).1
  | error error =>
      have unknown := refused_authorship (answers_directory registry) event error unnamed
      cases error <;> cases unknown
      exact ⟨_, Answer.bind_eq_error_iff.mpr (Or.inr
        ⟨(), Event.validate_eq_ok_iff.mpr valid, Answer.bind_eq_error_iff.mpr (Or.inl unnamed)⟩)⟩

/-- What refuses a share of a plan that counts its event, refuses the event. -/
theorem prepare_of_refused_share {directory : Directory} {error : Error}
    (valid : event.validate = .ok ()) (planned : planOf directory event = .ok plan)
    (supported : plan.isUnsupported = false)
    (refused : plan.trackers.mapM (share plan date) = .error error) :
    prepare directory event date = .error error := by
  obtain ⟨authors, named, classified⟩ := Answer.bind_eq_ok_iff.mp planned
  refine Answer.bind_eq_error_iff.mpr (Or.inr ⟨(), valid, ?_⟩)
  refine Answer.bind_eq_error_iff.mpr (Or.inr ⟨authors, named, ?_⟩)
  refine Answer.bind_eq_error_iff.mpr (Or.inr ⟨plan, classified, ?_⟩)
  rw [if_neg (Bool.eq_false_iff.mp supported)]
  exact Answer.bind_eq_error_iff.mpr (Or.inl refused)

/-- A valid event with a plan that counts it is handed over to be committed, or one of its keys
cannot be built. -/
theorem prepare_of_supported {directory : Directory} (date : Date)
    (valid : event.validate = .ok ()) (planned : planOf directory event = .ok plan)
    (supported : plan.isUnsupported = false) :
    (Addressable plan date ∧ prepare directory event date =
      .ok (.counted plan (plan.trackers.map (shareOf plan date)))) ∨
    (¬ Addressable plan date ∧ ∃ fault, prepare directory event date = .error (.argument fault)) := by
  cases given : plan.trackers.mapM (share plan date) with
  | ok shares =>
      obtain ⟨addressable, rfl⟩ := shares_of_mapM given
      exact Or.inl ⟨addressable, prepare_eq_counted_iff.mpr ⟨valid, planned, supported, given⟩⟩
  | error error =>
      have unfit := Answer.RefusedOnly.mapM (refused_share plan date) error given
      have refused := prepare_of_refused_share valid planned supported given
      refine Or.inr ⟨fun addressable => ?_, ?_⟩
      · obtain ⟨template, listed, failed⟩ := Answer.exists_of_mapM_eq_error given
        rw [share_eq_ok_iff.mpr ⟨addressable template listed, rfl⟩] at failed
        cases failed
      · cases error <;> cases unfit
        exact ⟨_, refused⟩

end Record

namespace Memory

variable {memory : Memory}

/-- The calls of an event that passed the checks are those of its booking, which is sound, up to
the first that is refused. -/
theorem Reachable.ready_of_refuses (reachable : memory.Reachable) {directory : Directory}
    {event : Event} {date : Date} {plan : Plan} {shares : List Share}
    (prepared : Record.prepare directory event date = .ok (.counted plan shares))
    {done later : List StoreCall} {call : StoreCall} {error : Error}
    (split : Record.openings shares ++ Record.postings shares = done ++ call :: later)
    (accepted : store.Accepts done memory)
    (refused : store.Refuses call (store.after done memory) error) :
    ∃ key updates cause, call = .increment key updates ∧
      (store.after done memory).Ready key updates ∧ cause.IsOverflow ∧
        error = (StoreFault.overflow cause).error key := by
  obtain ⟨log, reflects, built⟩ := reachable.tellsBuilt
  have orderly := Entry.orderly_calls ⟨directory, event, date⟩
  rw [Entry.calls, prepared] at orderly
  simp only [split] at orderly
  obtain ⟨key, updates, rfl, ready⟩ := reflects.ready_of_refuses built orderly accepted refused
  obtain ⟨cause, overflow, same⟩ := ready.overflow refused
  exact ⟨key, updates, cause, rfl, ready, overflow, same⟩

/-- A call that is refused in the course of a recording on a reachable memory is an increment that
has all it needs, but for a sum that is no amount. -/
theorem Reachable.overflow_of_refuses (reachable : memory.Reachable) {directory : Directory}
    {event : Event} {date : Date} {done later : List StoreCall} {call : StoreCall} {error : Error}
    (made : Record.calls store directory event date memory = done ++ call :: later)
    (refused : store.Refuses call (store.after done memory) error) :
    ∃ key updates cause, call = .increment key updates ∧
      (store.after done memory).Ready key updates ∧ cause.IsOverflow ∧
        error = (StoreFault.overflow cause).error key := by
  cases prepared : Record.prepare directory event date with
  | error failure => simp [Record.calls, record, prepared] at made
  | ok checked =>
      cases checked with
      | uncounted attributions => simp [Record.calls, record, prepared] at made
      | counted plan shares =>
          obtain ⟨answer, course, _⟩ := Record.record_of_counted prepared store memory
          rw [made] at course
          generalize whole : done ++ call :: later = all at course
          cases course with
          | finished accepted =>
              rw [← whole, Store.accepts_append_iff, Store.accepts_cons_iff] at accepted
              obtain ⟨_, ⟨value, answered⟩, _⟩ := accepted
              cases answered.symm.trans refused
          | @stopped share applied before last cause stop accepted failed =>
              obtain ⟨rest, split⟩ := stop.exists_later
              -- The call that is refused is the last one, since all before it are accepted.
              rcases List.append_eq_append_iff.mp whole with
                ⟨between, rfl, tail⟩ | ⟨between, rfl, tail⟩
              · cases between with
                | nil =>
                    cases tail
                    rw [List.append_nil] at split accepted
                    exact reachable.ready_of_refuses prepared split accepted refused
                | cons next others =>
                    cases tail
                    obtain ⟨_, ⟨value, answered⟩, _⟩ :=
                      (Store.accepts_append_iff.trans (and_congr_right' Store.accepts_cons_iff)).mp
                        accepted
                    cases answered.symm.trans refused
              · obtain ⟨rfl, same⟩ := List.append_eq_singleton_iff.mp tail.symm |>.resolve_right
                  (by simp)
                cases same
                rw [List.append_nil] at refused ⊢
                exact reachable.ready_of_refuses prepared split accepted refused

/-- An event that passed the checks is recorded, or the store refuses it, by whether there is room
for its calls. -/
theorem Reachable.record_counted (reachable : memory.Reachable) {directory : Directory}
    {event : Event} {date : Date} {plan : Plan}
    (prepared : Record.prepare directory event date =
      .ok (.counted plan (plan.trackers.map (Record.shareOf plan date)))) :
    Verdict.of? (record store directory event date memory).1 =
      some (if ∃ update ∈ plan.updates, memory.Exceeds date update then .overflowing
        else .counted) := by
  obtain ⟨log, reflects, built⟩ := reachable.tellsBuilt
  obtain ⟨_, sound, addressable, _⟩ := Record.prepare_eq_counted prepared
  have bookingSound : (Booking.mk plan date).Sound := ⟨sound, addressable⟩
  have orderly : Orderly (Booking.mk plan date).calls := by
    have calls := Entry.orderly_calls ⟨directory, event, date⟩
    rw [Entry.calls, prepared] at calls
    exact calls
  have room := (reflects.accepts_iff_hasRoom built orderly).trans
    (reflects.hasRoom_booking_iff built bookingSound)
  obtain ⟨answer, course, recorded⟩ := Record.record_of_counted prepared store memory
  rw [recorded]
  generalize Record.calls store directory event date memory = made at course
  cases course with
  | finished accepted =>
      have bounded := room.mp accepted
      rw [if_neg (by simpa using bounded)]
      rfl
  | @stopped share applied done call cause stop accepted refused =>
      obtain ⟨later, split⟩ := stop.exists_later
      obtain ⟨key, updates, failure, rfl, _, _, rfl⟩ :=
        reachable.ready_of_refuses prepared split accepted refused
      have exceeds : ∃ update ∈ plan.updates, memory.Exceeds date update := by
        by_contra none
        have whole : store.Accepts (Booking.mk plan date).calls memory :=
          room.mpr (by simpa using none)
        rw [Booking.calls, Booking.shares, split, Store.accepts_append_iff,
          Store.accepts_cons_iff] at whole
        obtain ⟨_, ⟨value, answered⟩, _⟩ := whole
        cases answered.symm.trans refused
      rw [if_pos exceeds]
      rfl

/-- On a reachable memory the recording of an event fails exactly for the reasons of the verdict:
the classification gives a plan whenever the authors are named, and a call is refused only because
a sum is no amount. -/
theorem verdict_record (reachable : memory.Reachable) (registry : Registry) (event : Event)
    (date : Date) :
    Verdict.of? (record store registry.directory event date memory).1 =
        some (memory.verdict registry event date) ∧
      (∀ authors, event.validate = .ok () →
        Record.authorship registry.directory event = .ok authors →
          ∃ plan, Plan.ofEvent event authors = .ok plan) ∧
      ∀ done call later error,
        Record.calls store registry.directory event date memory = done ++ call :: later →
          store.Refuses call (store.after done memory) error →
            ∃ key updates cause, call = .increment key updates ∧
              (store.after done memory).Ready key updates ∧ cause.IsOverflow ∧
                error = (StoreFault.overflow cause).error key := by
  refine ⟨?_, ?_, fun done call later error => reachable.overflow_of_refuses⟩
  · unfold verdict
    by_cases valid : event.validate = .ok ()
    · rw [if_neg (not_not_intro valid)]
      have keeps := Event.validate_eq_ok_iff.mp valid
      by_cases unattributed : registry.Unattributed event
      · rw [if_pos unattributed]
        obtain ⟨fault, refused⟩ := Record.prepare_of_unattributed date keeps unattributed
        simp [record, refused, Verdict.of?]
      · rw [if_neg unattributed]
        obtain ⟨activity, plan, planned, classified⟩ :=
          Record.planOf_of_attributed keeps unattributed
        have counts := Registry.isUnsupported_iff unattributed classified
        cases supported : plan.isUnsupported with
        | true =>
            rw [if_pos (counts.mp supported)]
            simp [record, Record.prepare_of_unsupported date valid planned supported, Verdict.of?,
              Outcome.uncounted]
        | false =>
            rw [if_neg fun uncounted => Bool.eq_false_iff.mp supported (counts.mpr uncounted)]
            obtain ⟨authors, _, made⟩ := Answer.bind_eq_ok_iff.mp planned
            have addressable := Record.addressable_iff date
              (Plan.trackers_ne_nil made supported)
            rw [Registry.named_iff keeps unattributed classified supported] at addressable
            rcases Record.prepare_of_supported date valid planned supported with
              ⟨built, prepared⟩ | ⟨unbuilt, fault, refused⟩
            · obtain ⟨compact, named⟩ := addressable.mp built
              have overflows : memory.Overflows registry event date ↔
                  ∃ update ∈ plan.updates, memory.Exceeds date update := by
                rw [Overflows, planned]
              rw [if_neg (by simp [compact, named]), reachable.record_counted prepared]
              simp only [overflows]
            · have missing : ¬ date.HasCompact ∨ registry.Nameless event := by
                by_contra neither
                rw [not_or, not_not] at neither
                exact unbuilt (addressable.mpr neither)
              rw [if_pos missing]
              simp [record, refused, Verdict.of?]
    · rw [if_pos valid]
      obtain ⟨fault, refused⟩ := Record.prepare_of_invalid registry.directory date valid
      simp [record, refused, Verdict.of?]
  · intro authors valid named
    have keeps := Event.validate_eq_ok_iff.mp valid
    obtain ⟨attributed, rfl⟩ := (Registry.authorship_eq_ok_iff keeps).mp named
    obtain ⟨activity, plan, read, classified⟩ := Registry.exists_plan keeps attributed
    exact ⟨plan, Plan.ofEvent_eq_ok_iff.mpr ⟨activity, read, classified⟩⟩

/-- A memory in which the views of one user's posts are at the greatest amount in one month. -/
def fullMonth : Memory :=
  let key := Key.of .user "ana" midFebruary
  store.after [.ensure key (.user "ana"),
    .increment key [.user "ana" .viewsOfOwned Amount.greatest]] empty

theorem reachable_fullMonth : fullMonth.Reachable := by
  have built : (Key.of .user "ana" midFebruary).IsBuilt :=
    ⟨.user, "ana", midFebruary, Key.build_eq_ok_iff.mpr ⟨⟨by decide, by decide⟩, rfl⟩⟩
  have opened : (store.perform (.ensure _ (.user "ana")) empty).2.Reachable :=
    Reachable.empty.called (.ensure _ _) built
  exact opened.called (.increment _ _) built

/-- One more view in that month is too many, on whatever day. -/
theorem verdict_record_fullMonth :
    let view := (Event.updatePost (.user "bo") "ana" "p1").withViews Count.one
    fullMonth.verdict .empty view lateFebruary = .overflowing ∧
      Verdict.of? (record store Registry.empty.directory view lateFebruary fullMonth).1 =
        some (fullMonth.verdict .empty view lateFebruary) ∧
      (∀ authors, view.validate = .ok () →
        Record.authorship Registry.empty.directory view = .ok authors →
          ∃ plan, Plan.ofEvent view authors = .ok plan) ∧
      ∀ done call later error,
        Record.calls store Registry.empty.directory view lateFebruary fullMonth =
            done ++ call :: later →
          store.Refuses call (store.after done fullMonth) error →
            ∃ key updates cause, call = .increment key updates ∧
              (store.after done fullMonth).Ready key updates ∧ cause.IsOverflow ∧
                error = (StoreFault.overflow cause).error key := by
  intro view
  exact ⟨by decide +kernel, verdict_record reachable_fullMonth .empty view lateFebruary⟩

end Memory

end ActivityLedger
