import ActivityLedger.Proofs.Days
import ActivityLedger.Proofs.Recordings

/-!
# The law of the ledger

Entries are recorded one after the other in an empty memory.  An entry that is accepted
and counted makes a booking.  If the store itself never fails, the memory has a tracker
exactly where a booking touches one, and every counter is the sum of what the bookings
address to it: no event is lost, counted twice or misfiled.
-/

namespace ActivityLedger

/-! ## Entries and bookings -/

/-- An event to be recorded, with its date and with what the directory says at that time. -/
structure Entry where
  directory : Directory
  event : Event
  date : Date

def Entry.recordIn {σ : Type} (entry : Entry) (store : Store σ) (state : σ) :
    Except Error Outcome × σ :=
  record store entry.directory entry.event entry.date state

namespace Store

variable {σ : Type}

def outcomes (store : Store σ) : List Entry → σ → List (Except Error Outcome)
  | [], _ => []
  | entry :: rest, state =>
      (entry.recordIn store state).1 :: outcomes store rest (entry.recordIn store state).2

def afterEntries (store : Store σ) : List Entry → σ → σ
  | [], state => state
  | entry :: rest, state => afterEntries store rest (entry.recordIn store state).2

end Store

/-- The plan of an event that was accepted and counted, with its date. -/
structure Booking where
  plan : Plan
  date : Date

/-- What an entry books, by the answer to it. -/
def Entry.booking? (entry : Entry) (answer : Except Error Outcome) : Option Booking :=
  match answer, Record.planOf entry.directory entry.event with
  | .ok outcome, .ok plan => if outcome.rejected then none else some ⟨plan, entry.date⟩
  | _, _ => none

def Entry.bookings (entries : List Entry) (answers : List (Except Error Outcome)) : List Booking :=
  (entries.zip answers).filterMap fun entry => entry.1.booking? entry.2

namespace Booking

/-- The plan has a template for an entity, and the date is in the entity's period of another. -/
def Touches (booking : Booking) (target : Target) (date : Date) : Prop :=
  target ∈ booking.plan.targets ∧ SamePeriod target.kind booking.date date

instance (booking : Booking) (target : Target) (date : Date) :
    Decidable (booking.Touches target date) :=
  inferInstanceAs (Decidable (_ ∧ _))

theorem decide_touches (booking : Booking) (target : Target) (date : Date) :
    decide (booking.Touches target date) =
      (decide (target ∈ booking.plan.targets) &&
        decide (SamePeriod target.kind booking.date date)) :=
  Bool.decide_and _ _

def touching (bookings : List Booking) (target : Target) (date : Date) : List Booking :=
  bookings.filter fun booking => booking.Touches target date

/-- The sum of what bookings address to a counter of an entity. -/
def sum (bookings : List Booking) (target : Target) (counter : Counter) : Int :=
  (bookings.map fun booking => booking.plan.amountFor target counter).sum

end Booking

def ContentKind.target : ContentKind → String → Target
  | .post => .post
  | .comment => .comment

/-- A memory in which bookings, and nothing else, were put to account. -/
structure Memory.Balances (memory : Memory) (bookings : List Booking) : Prop where
  /-- There is a tracker exactly where a booking touches one. -/
  held_iff : ∀ target date key, Key.build target.kind target.entityId date = .ok key →
    (memory.Holds key ↔ ∃ booking ∈ bookings, booking.Touches target date)
  /-- There is no other tracker. -/
  reached : ∀ key, memory.Holds key → ∃ target date built,
    Key.build target.kind target.entityId date = .ok built ∧
      built.kind = key.kind ∧ built.id = key.id ∧
        ∃ booking ∈ bookings, booking.Touches target date
  /-- The month of a user sums all bookings, and each slot those of its day. -/
  users : ∀ userId date key tracker, Key.build .user userId date = .ok key →
    memory.users.find? key.id = some tracker →
      let touching := Booking.touching bookings (.user userId) date
      tracker.days.length = Calendar.monthLength date.year date.month ∧
        (∀ counter, (tracker.monthly.get counter).val =
          Booking.sum touching (.user userId) (.user counter)) ∧
        ∀ slot day, tracker.days[slot]? = some day → ∀ counter, (day.get counter).val =
          Booking.sum (touching.filter fun booking => booking.date.day = slot + 1)
            (.user userId) (.user counter)
  /-- The day of a post or a comment sums all bookings, and its owner is the author that the
  first of them names. -/
  contents : ∀ (kind : ContentKind) contentId date key tracker,
    Key.build kind.tracker contentId date = .ok key →
      (memory.contents kind).find? key.id = some tracker →
        let touching := Booking.touching bookings (kind.target contentId) date
        (touching.head?.bind fun booking => booking.plan.authorFor? (kind.target contentId)) =
            some tracker.ownerId ∧
          tracker.counters.kind = kind ∧
          ∀ counter, counter.kind = kind.tracker → tracker.counters.value counter =
            Booking.sum touching (kind.target contentId) counter

/-! ## Bookings as calls -/

namespace Target

theorem eq_iff (left right : Target) :
    left = right ↔ left.kind = right.kind ∧ left.entityId = right.entityId := by
  cases left <;> cases right <;> simp [kind, entityId]

end Target

namespace Booking

/-- A booking of a plan of the classification, at dates for which keys are built. -/
structure Sound (booking : Booking) : Prop where
  plan : booking.plan.Sound
  addressable : Record.Addressable booking.plan booking.date

def shares (booking : Booking) : List Share :=
  booking.plan.trackers.map (Record.shareOf booking.plan booking.date)

/-- The key of a share is at the place of an entity's tracker exactly where the booking
touches it. -/
theorem isAt_shareOf {booking : Booking} (sound : booking.Sound) {template : Template}
    (listed : template ∈ booking.plan.trackers) (target : Target) {date : Date}
    (compact : date.HasCompact) :
    (Record.shareOf booking.plan booking.date template).key.isAt target.kind
        (Key.idText target.kind target.entityId date) =
      (decide (template.target = target) && decide (SamePeriod target.kind booking.date date)) := by
  have bookedCompact := (sound.addressable template listed).2
  rw [Bool.eq_iff_iff, Key.isAt_iff]
  simp only [Record.shareOf, Key.of, Bool.and_eq_true, decide_eq_true_eq]
  constructor
  · rintro ⟨kinds, ids⟩
    have sameKind : template.kind = target.kind := kinds
    rw [sameKind, Key.idText_eq_iff _ _ _ bookedCompact compact] at ids
    exact ⟨(Target.eq_iff _ _).mpr ⟨kinds, ids.1⟩, ids.2⟩
  · rintro ⟨rfl, period⟩
    exact ⟨rfl, (Key.idText_eq_iff _ _ _ bookedCompact compact).mpr ⟨rfl, period⟩⟩

end Booking

namespace Log

def ofBookings (bookings : List Booking) : Log where
  opened := bookings.flatMap fun booking =>
    booking.shares.map fun share => (share.key, share.template)
  posted := bookings.flatMap fun booking =>
    (booking.shares.filter fun share => !share.updates.isEmpty).map fun share =>
      (share.key, share.updates)

theorem ofBookings_append (before : List Booking) (booking : Booking) :
    ofBookings (before ++ [booking]) =
      ((ofBookings before).ensured booking.shares).incremented booking.shares := by
  simp [ofBookings, ensured, incremented]

theorem exists_share_of_mem_keys {bookings : List Booking} {key : Key}
    (member : key ∈ (ofBookings bookings).keys) :
    ∃ booking ∈ bookings, ∃ share ∈ booking.shares, share.key = key := by
  rcases List.mem_append.mp member with opened | posted
  · obtain ⟨entry, listed, rfl⟩ := List.mem_map.mp opened
    obtain ⟨booking, booked, shared⟩ := List.mem_flatMap.mp listed
    obtain ⟨share, here, rfl⟩ := List.mem_map.mp shared
    exact ⟨booking, booked, share, here, rfl⟩
  · obtain ⟨entry, listed, rfl⟩ := List.mem_map.mp posted
    obtain ⟨booking, booked, shared⟩ := List.mem_flatMap.mp listed
    obtain ⟨share, here, rfl⟩ := List.mem_map.mp shared
    exact ⟨booking, booked, share, List.mem_of_mem_filter here, rfl⟩

/-- Shares without updates post nothing. -/
theorem total_filter_updates (shares : List Share) (test : Key → Bool) (counter : Counter) :
    total (((shares.filter fun share => !share.updates.isEmpty).map fun share =>
        (share.key, share.updates)).filter fun entry => test entry.1) counter =
      total ((shares.map fun share => (share.key, share.updates)).filter fun entry =>
        test entry.1) counter := by
  induction shares with
  | nil => rfl
  | cons share rest ih =>
      rw [List.map_cons, List.filter_cons]
      cases updates : share.updates with
      | nil =>
          by_cases passes : test share.key = true <;> simp [passes, total_cons, ih]
      | cons update others =>
          by_cases passes : test share.key = true <;> simp [passes, updates, total_cons, ih]

/-- What a plan posts at the keys that pass a test for one entity is all that it has for the
entity, or nothing. -/
theorem total_shares {booking : Booking} (sound : booking.Sound) (target : Target)
    (counter : Counter) (test : Key → Bool) (condition : Prop) [Decidable condition]
    (tells : ∀ template ∈ booking.plan.trackers,
      test (Record.shareOf booking.plan booking.date template).key =
        (decide (template.target = target) && decide condition)) :
    total ((booking.shares.map fun share => (share.key, share.updates)).filter fun entry =>
        test entry.1) counter =
      if target ∈ booking.plan.targets ∧ condition then booking.plan.amountFor target counter
      else 0 := by
  have distinct := sound.plan.distinct
  unfold Booking.shares
  unfold Plan.targets at distinct ⊢
  generalize booking.plan.trackers = trackers at distinct tells ⊢
  induction trackers with
  | nil => simp
  | cons template rest ih =>
      obtain ⟨fresh, distinctRest⟩ := List.nodup_cons.mp distinct
      have first := tells template List.mem_cons_self
      have later := ih distinctRest fun other member => tells other (List.mem_cons_of_mem _ member)
      rw [List.map_cons, List.map_cons, List.filter_cons, List.map_cons, first]
      by_cases here : template.target = target
      · subst here
        rw [if_neg fun both => fresh both.1] at later
        by_cases holds : condition
        · rw [if_pos (by simp [holds]), total_cons, later, Int.add_zero,
            if_pos ⟨List.mem_cons_self, holds⟩]
          rfl
        · rw [if_neg (by simp [holds]), later, if_neg fun both => holds both.2]
      · have elsewhere : target ∈ template.target :: rest.map Template.target ↔
            target ∈ rest.map Template.target := by
          rw [List.mem_cons]
          exact or_iff_right fun same => here same.symm
        rw [if_neg (by simp [here]), later]
        simp only [elsewhere]

/-- What bookings post at the keys that pass a test for one entity is the sum over the
bookings for which the test holds. -/
theorem total_ofBookings {bookings : List Booking} (sound : ∀ booking ∈ bookings, booking.Sound)
    (target : Target) (counter : Counter) (test : Key → Bool) (condition : Booking → Prop)
    [DecidablePred condition]
    (tells : ∀ booking ∈ bookings, ∀ template ∈ booking.plan.trackers,
      test (Record.shareOf booking.plan booking.date template).key =
        (decide (template.target = target) && decide (condition booking))) :
    total ((ofBookings bookings).posted.filter fun entry => test entry.1) counter =
      Booking.sum (bookings.filter fun booking => target ∈ booking.plan.targets ∧ condition booking)
        target counter := by
  induction bookings with
  | nil => rfl
  | cons booking rest ih =>
      have later := ih (fun other member => sound other (List.mem_cons_of_mem _ member))
        fun other member => tells other (List.mem_cons_of_mem _ member)
      have first := total_shares (sound booking List.mem_cons_self) target counter test
        (condition booking) (tells booking List.mem_cons_self)
      rw [← total_filter_updates] at first
      have split : (ofBookings (booking :: rest)).posted =
          ((booking.shares.filter fun share => !share.updates.isEmpty).map fun share =>
            (share.key, share.updates)) ++ (ofBookings rest).posted := rfl
      rw [split, List.filter_append, total_append, first, later, List.filter_cons]
      by_cases here : target ∈ booking.plan.targets ∧ condition booking
      · rw [if_pos here, if_pos (by simpa using here)]
        rfl
      · rw [if_neg here, if_neg (by simpa using here), Int.zero_add]

/-- Among the shares of a booking the tracker of an entity is set up by the entity's template,
if the booking touches it. -/
theorem find?_shares {booking : Booking} (sound : booking.Sound) (target : Target) {date : Date}
    (compact : date.HasCompact) :
    (booking.shares.map fun share => (share.key, share.template)).find? (fun entry =>
        entry.1.isAt target.kind (Key.idText target.kind target.entityId date)) =
      if booking.Touches target date then
        (booking.plan.trackers.find? fun template => template.target = target).map fun template =>
          ((Record.shareOf booking.plan booking.date template).key, template)
      else none := by
  have tells : booking.plan.trackers.filter (fun template =>
      (Record.shareOf booking.plan booking.date template).key.isAt target.kind
        (Key.idText target.kind target.entityId date)) =
      booking.plan.trackers.filter fun template =>
        decide (template.target = target) && decide (SamePeriod target.kind booking.date date) :=
    List.filter_congr fun template listed => Booking.isAt_shareOf sound listed target compact
  rw [Booking.shares, List.map_map, List.find?_map, ← List.head?_filter]
  simp only [Function.comp_def]
  rw [tells]
  by_cases touches : booking.Touches target date
  · simp only [touches.2, decide_true, Bool.and_true, if_pos touches, List.head?_filter]
    rfl
  · rw [if_neg touches, List.head?_filter, Option.map_eq_none_iff, List.find?_eq_none]
    intro template listed
    simp only [Bool.and_eq_true, decide_eq_true_eq]
    rintro ⟨rfl, period⟩
    exact touches ⟨List.mem_map_of_mem listed, period⟩

/-- The first call for a tracker is made by the first booking that touches it. -/
theorem opener?_ofBookings {bookings : List Booking} (sound : ∀ booking ∈ bookings, booking.Sound)
    (target : Target) {date : Date} (compact : date.HasCompact) :
    (ofBookings bookings).opener? target.kind (Key.idText target.kind target.entityId date) =
      (Booking.touching bookings target date).head?.bind fun booking =>
        (booking.plan.trackers.find? fun template => template.target = target).map fun template =>
          ((Record.shareOf booking.plan booking.date template).key, template) := by
  induction bookings with
  | nil => rfl
  | cons booking rest ih =>
      have later := ih fun other member => sound other (List.mem_cons_of_mem _ member)
      have split : (ofBookings (booking :: rest)).opened =
          (booking.shares.map fun share => (share.key, share.template)) ++
            (ofBookings rest).opened := rfl
      rw [opener?, split, List.find?_append,
        find?_shares (sound booking List.mem_cons_self) target compact, Booking.touching,
        List.filter_cons]
      by_cases touches : booking.Touches target date
      · rw [if_pos touches, if_pos (by simpa using touches), List.head?_cons, Option.bind_some]
        obtain ⟨template, listed, same⟩ := List.mem_map.mp touches.1
        have present : (booking.plan.trackers.find? fun template =>
            template.target = target).isSome := by
          rw [List.find?_isSome]
          exact ⟨template, listed, by simpa using same⟩
        obtain ⟨found, first⟩ := Option.isSome_iff_exists.mp present
        rw [first]
        rfl
      · rw [if_neg touches, if_neg (by simpa using touches), Option.none_or]
        exact later

theorem exists_of_opener? {bookings : List Booking} (sound : ∀ booking ∈ bookings, booking.Sound)
    (target : Target) {date : Date} (compact : date.HasCompact) {opener : Key × Template}
    (first : (ofBookings bookings).opener? target.kind
      (Key.idText target.kind target.entityId date) = some opener) :
    ∃ booking, (Booking.touching bookings target date).head? = some booking ∧
      (booking.plan.trackers.find? fun template => template.target = target) = some opener.2 ∧
      opener.1 = Key.of target.kind target.entityId booking.date := by
  rw [opener?_ofBookings sound target compact] at first
  obtain ⟨booking, head, named⟩ := Option.bind_eq_some_iff.mp first
  obtain ⟨template, found, same⟩ := Option.map_eq_some_iff.mp named
  cases same
  have here : template.target = target := by simpa using List.find?_some found
  exact ⟨booking, head, found, by rw [← here]; rfl⟩

/-- A call sets up a tracker exactly where a booking touches it. -/
theorem exists_opener?_iff {bookings : List Booking} (sound : ∀ booking ∈ bookings, booking.Sound)
    (target : Target) {date : Date} (compact : date.HasCompact) :
    (∃ opener, (ofBookings bookings).opener? target.kind
      (Key.idText target.kind target.entityId date) = some opener) ↔
        ∃ booking ∈ bookings, booking.Touches target date := by
  constructor
  · rintro ⟨opener, first⟩
    obtain ⟨booking, head, _⟩ := exists_of_opener? sound target compact first
    have member := List.mem_filter.mp (List.mem_of_head? head)
    exact ⟨booking, member.1, by simpa using member.2⟩
  · rintro ⟨booking, listed, touches⟩
    rw [opener?_ofBookings sound target compact]
    have member : booking ∈ Booking.touching bookings target date :=
      List.mem_filter.mpr ⟨listed, by simpa using touches⟩
    cases touching : Booking.touching bookings target date with
    | nil =>
        rw [touching] at member
        cases member
    | cons first others =>
        have fromList : first ∈ Booking.touching bookings target date := by simp [touching]
        have firstTouches : first.Touches target date := by
          simpa using (List.mem_filter.mp fromList).2
        obtain ⟨template, here, same⟩ := List.mem_map.mp firstTouches.1
        have present : (first.plan.trackers.find? fun template =>
            template.target = target).isSome := by
          rw [List.find?_isSome]
          exact ⟨template, here, by simpa using same⟩
        obtain ⟨found, named⟩ := Option.isSome_iff_exists.mp present
        exact ⟨_, by rw [List.head?_cons, Option.bind_some, named, Option.map_some]⟩

end Log

namespace Memory

variable {memory : Memory} {bookings : List Booking}

/-- What was posted to the tracker of an entity is what the bookings address to it. -/
theorem total_postedAt (sound : ∀ booking ∈ bookings, booking.Sound) (target : Target)
    {date : Date} (compact : date.HasCompact) (counter : Counter) :
    Log.total ((Log.ofBookings bookings).postedAt target.kind
        (Key.idText target.kind target.entityId date)) counter =
      Booking.sum (Booking.touching bookings target date) target counter :=
  Log.total_ofBookings sound target counter
    (fun key => key.isAt target.kind (Key.idText target.kind target.entityId date))
    (fun booking => SamePeriod target.kind booking.date date)
    fun booking listed _ member =>
      Booking.isAt_shareOf (sound booking listed) member target compact

theorem slotOf_dayNumber (date : Date) (slot : Nat) :
    slotOf date.dayNumber = some slot ↔ date.day = slot + 1 := by
  have number : date.dayNumber.val = (date.day : Int) := rfl
  rw [slotOf_eq_some_iff, number]
  omega

/-- What was posted for one day of a user's month is what the bookings of that day address
to the user. -/
theorem total_postedAt_day (sound : ∀ booking ∈ bookings, booking.Sound) (target : Target)
    {date : Date} (compact : date.HasCompact) (slot : Nat) (counter : Counter) :
    Log.total (((Log.ofBookings bookings).postedAt target.kind
        (Key.idText target.kind target.entityId date)).filter fun entry =>
          slotOf entry.1.dayOfMonth = some slot) counter =
      Booking.sum ((Booking.touching bookings target date).filter fun booking =>
        booking.date.day = slot + 1) target counter := by
  have filtered := Log.total_ofBookings sound target counter
    (fun key => key.isAt target.kind (Key.idText target.kind target.entityId date) &&
      decide (slotOf key.dayOfMonth = some slot))
    (fun booking => SamePeriod target.kind booking.date date ∧ booking.date.day = slot + 1)
    fun booking listed template member => by
      have position : slotOf (Record.shareOf booking.plan booking.date template).key.dayOfMonth =
          slotOf booking.date.dayNumber := rfl
      rw [Booking.isAt_shareOf (sound booking listed) member target compact, position,
        Bool.and_assoc, Bool.decide_and, decide_eq_decide.mpr (slotOf_dayNumber booking.date slot)]
  rw [Log.postedAt, Booking.touching, List.filter_filter, List.filter_filter]
  simp only [Booking.decide_touches, Bool.decide_and, Bool.and_comm, Bool.and_left_comm]
    at filtered ⊢
  exact filtered

/-- The slots of a user's month are the days of that month. -/
theorem daysInMonth_of_user (userId : String) {booked date : Date}
    (sameMonth : booked.SameMonth date) :
    (Key.of .user userId booked).daysInMonth.toNat = Calendar.monthLength date.year date.month := by
  have parts : booked.firstOfMonth.year = date.year ∧ booked.firstOfMonth.month = date.month :=
    sameMonth
  have start : (Key.of .user userId booked).periodStart = booked.firstOfMonth := rfl
  rw [Key.toNat_daysInMonth, start, parts.1, parts.2]

/-- A memory that tells the calls of bookings balances them. -/
theorem Reflects.balances (reflects : memory.Reflects (Log.ofBookings bookings))
    (sound : ∀ booking ∈ bookings, booking.Sound) : memory.Balances bookings where
  held_iff target date key built := by
    obtain ⟨⟨_, compact⟩, rfl⟩ := Key.build_eq_ok_iff.mp built
    rw [reflects.holds_iff]
    exact Log.exists_opener?_iff sound target compact
  reached key held := by
    obtain ⟨opener, first⟩ := (reflects.holds_iff key).mp held
    obtain ⟨listed, sameKind, sameId⟩ := Log.of_opener? first
    obtain ⟨booking, booked, shared⟩ := List.mem_flatMap.mp listed
    obtain ⟨share, fromPlan, same⟩ := List.mem_map.mp shared
    obtain ⟨template, member, rfl⟩ := List.mem_map.mp fromPlan
    cases same
    refine ⟨template.target, booking.date, _,
      Key.build_eq_ok_iff.mpr ⟨(sound booking booked).addressable template member, rfl⟩,
      sameKind, sameId, booking, booked, List.mem_map_of_mem member, ?_⟩
    unfold SamePeriod
    split
    · exact ⟨rfl, rfl⟩
    · rfl
  users userId date key tracker built found := by
    obtain ⟨⟨_, compact⟩, rfl⟩ := Key.build_eq_ok_iff.mp built
    obtain ⟨opener, first, tells⟩ := reflects.users _ tracker found
    refine ⟨?_, ?_, ?_⟩
    · obtain ⟨booking, head, _, same⟩ :=
        Log.exists_of_opener? sound (.user userId) compact first
      have touches : booking.Touches (.user userId) date := by
        simpa using (List.mem_filter.mp (List.mem_of_head? head)).2
      have sameMonth : booking.date.SameMonth date := touches.2
      rw [tells.slots, same]
      exact daysInMonth_of_user userId sameMonth
    · intro counter
      rw [tells.monthly]
      exact total_postedAt sound (.user userId) compact (.user counter)
    · intro slot day here counter
      rw [tells.days slot day here]
      exact total_postedAt_day sound (.user userId) compact slot (.user counter)
  contents kind contentId date key tracker built found := by
    obtain ⟨⟨_, compact⟩, rfl⟩ := Key.build_eq_ok_iff.mp built
    obtain ⟨opener, first, tells⟩ := reflects.contents kind _ tracker found
    have isKind : (kind.target contentId).kind = kind.tracker := by cases kind <;> rfl
    have named : (kind.target contentId).entityId = contentId := by cases kind <;> rfl
    refine ⟨?_, tells.countersKind, ?_⟩
    · have firstCall : (Log.ofBookings bookings).opener? (kind.target contentId).kind
          (Key.idText (kind.target contentId).kind (kind.target contentId).entityId date) =
            some opener := by
        rw [isKind, named]
        exact first
      obtain ⟨booking, head, template, _⟩ := Log.exists_of_opener? sound _ compact firstCall
      rw [head, Option.bind_some, Plan.authorFor?, template, Option.bind_some, tells.ownerId]
    · intro counter vocabulary
      rw [tells.counters counter vocabulary]
      have total := total_postedAt sound (kind.target contentId) compact counter
      rwa [isKind, named] at total

/-! ## Recording -/

/-- An entry on which the store does not fail changes the memory by what it books. -/
theorem Reflects.record {before : List Booking}
    (reflects : memory.Reflects (Log.ofBookings before)) (entry : Entry)
    (kept : ∀ error, (entry.recordIn store memory).1 = .error error → error.isStorage = false) :
    (entry.recordIn store memory).2.Reflects (Log.ofBookings
        (before ++ (entry.booking? (entry.recordIn store memory).1).toList)) ∧
      ∀ booking ∈ entry.booking? (entry.recordIn store memory).1, booking.Sound := by
  unfold Entry.recordIn ActivityLedger.record at kept ⊢
  cases prepared : Record.prepare entry.directory entry.event entry.date with
  | error error => exact ⟨by simpa [Entry.booking?] using reflects, by simp [Entry.booking?]⟩
  | ok checked =>
      cases checked with
      | uncounted attributions =>
          have nothing : entry.booking? (.ok (.uncounted attributions)) = none := by
            unfold Entry.booking?
            cases Record.planOf entry.directory entry.event <;> rfl
          exact ⟨by simpa [nothing] using reflects, by simp [nothing]⟩
      | counted plan shares =>
          obtain ⟨named, sound, addressable, rfl⟩ := Record.prepare_eq_counted prepared
          have soundShares : ∀ share ∈ plan.trackers.map (Record.shareOf plan entry.date),
              share.Sound := List.forall_mem_map.mpr fun template _ => sound.share _ template
          obtain ⟨middle, done, opened⟩ := Record.ensureAll_memory reflects soundShares
          simp only [prepared, Record.commit, done] at kept ⊢
          rcases Record.incrementAll_memory opened soundShares [] with
            ⟨applied, last, added, posted⟩ | ⟨error, last, refused, storage⟩
          · rw [added]
            have booked (outcome : Outcome) (counted : outcome.rejected = false) :
                entry.booking? (.ok outcome) = some ⟨plan, entry.date⟩ := by
              simp [Entry.booking?, named, counted]
            simp only [booked, Option.toList_some]
            rw [Log.ofBookings_append]
            exact ⟨posted, by rintro booking ⟨⟩; exact ⟨sound, addressable⟩⟩
          · rw [refused] at kept
            rw [kept error rfl] at storage
            cases storage

theorem Reflects.recordAll {before : List Booking}
    (reflects : memory.Reflects (Log.ofBookings before))
    (soundBefore : ∀ booking ∈ before, booking.Sound) (entries : List Entry)
    (kept : ∀ error, .error error ∈ store.outcomes entries memory → error.isStorage = false) :
    let booked := before ++ Entry.bookings entries (store.outcomes entries memory)
    (store.afterEntries entries memory).Reflects (Log.ofBookings booked) ∧
      ∀ booking ∈ booked, booking.Sound := by
  induction entries generalizing memory before with
  | nil => simpa [Entry.bookings] using ⟨reflects, soundBefore⟩
  | cons entry rest ih =>
      obtain ⟨next, sound⟩ := reflects.record entry fun error answered =>
        kept error (by rw [Store.outcomes, answered]; exact List.mem_cons_self)
      have soundNext : ∀ booking ∈ before ++
          (entry.booking? (entry.recordIn store memory).1).toList, booking.Sound := by
        intro booking member
        rcases List.mem_append.mp member with earlier | new
        · exact soundBefore booking earlier
        · exact sound booking (by simpa using new)
      have later := ih next soundNext fun error member => kept error (List.mem_cons_of_mem _ member)
      have split : Entry.bookings (entry :: rest)
          (store.outcomes (entry :: rest) memory) =
            (entry.booking? (entry.recordIn store memory).1).toList ++
              Entry.bookings rest
                (store.outcomes rest (entry.recordIn store memory).2) := by
        simp only [Entry.bookings, Store.outcomes, List.zip_cons_cons,
          List.filterMap_cons]
        cases entry.booking? (entry.recordIn store memory).1 <;> rfl
      rw [split, ← List.append_assoc]
      exact later

/-- After entries that are recorded in an empty memory, on none of which the store fails, the
memory balances what the entries booked. -/
theorem balances_afterEntries (entries : List Entry)
    (kept : ∀ error, .error error ∈ store.outcomes entries empty → error.isStorage = false) :
    (store.afterEntries entries empty).Balances
      (Entry.bookings entries (store.outcomes entries empty)) := by
  have start : empty.Reflects (Log.ofBookings []) := Reflects.empty
  obtain ⟨reflects, sound⟩ := start.recordAll (by simp) entries kept
  exact reflects.balances sound

def smallDirectory : Directory :=
  ((Registry.empty.withPost "p1" "ana").withComment "c1" "bo").directory

/-- A post, a vote on it in the same month, a comment in the next month, a vote that is not
counted, and an event that is refused. -/
def smallEntries : List Entry := [
  ⟨smallDirectory, .createPost "ana" "p1", leapDate 2 10 (by decide) (by decide)⟩,
  ⟨smallDirectory, (Event.updatePost (.user "bo") "ana" "p1").withVote .up,
    leapDate 2 28 (by decide) (by decide)⟩,
  ⟨smallDirectory, .createComment "bo" "c1" "p1", leapDate 3 1 (by decide) (by decide)⟩,
  ⟨smallDirectory, (Event.updateComment "ana" "bo" "c1" "p1").withVote .up,
    leapDate 3 1 (by decide) (by decide)⟩,
  ⟨smallDirectory, .createPost "ana" "", leapDate 3 2 (by decide) (by decide)⟩]

theorem balances_afterEntries_small :
    (Entry.bookings smallEntries (store.outcomes smallEntries empty)).length = 3 ∧
      (store.afterEntries smallEntries empty).Balances
        (Entry.bookings smallEntries (store.outcomes smallEntries empty)) := by
  have accepted : ((store.outcomes smallEntries empty).all fun answer =>
      match answer with
      | .ok _ => true
      | .error error => !error.isStorage) = true := by
    decide +kernel
  refine ⟨by decide +kernel, balances_afterEntries smallEntries ?_⟩
  intro error member
  simpa using List.all_eq_true.mp accepted _ member

end Memory

end ActivityLedger
