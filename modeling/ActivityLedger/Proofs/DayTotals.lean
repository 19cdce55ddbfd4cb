import ActivityLedger.Proofs.Determinacy
import ActivityLedger.Proofs.DoubleEntry
import ActivityLedger.Proofs.Ledger

/-!
# The totals of a day

What all trackers of a memory hold for one day is what the bookings of that day add, over
all entities.  Both sides of every interaction are therefore accounted for on the day on
which it took place.
-/

namespace ActivityLedger

/-! ## Totals -/

/-- The value of a counter in the slot of a date, if there is such a slot. -/
def UserTracker.onDay (tracker : UserTracker) (date : Date) (counter : UserCounter) : Int :=
  match tracker.day? date.dayNumber with
  | some day => (day.get counter).val
  | none => 0

namespace Memory

def usersOn (memory : Memory) (date : Date) : List UserTracker :=
  (memory.users.entries.map Prod.snd).filter fun tracker => tracker.month.SameMonth date

def contentsOn (memory : Memory) (kind : ContentKind) (date : Date) : List ContentTracker :=
  ((memory.contents kind).entries.map Prod.snd).filter fun tracker => tracker.day = date

/-- The sum of a counter on a date: over the slots of all users, or over all posts or comments. -/
def dayTotal (memory : Memory) (date : Date) : Counter → Int
  | .user counter => ((memory.usersOn date).map fun tracker => tracker.onDay date counter).sum
  | .post counter =>
      ((memory.contentsOn .post date).map fun tracker =>
        tracker.counters.value (.post counter)).sum
  | .comment counter =>
      ((memory.contentsOn .comment date).map fun tracker =>
        tracker.counters.value (.comment counter)).sum

end Memory

/-! ## Dated keys -/

/-- The key is the one that is built for its entity on a date. -/
def Key.IsOn (key : Key) (date : Date) : Prop := key = Key.of key.kind key.entityId date

instance (key : Key) (date : Date) : Decidable (key.IsOn date) :=
  inferInstanceAs (Decidable (_ = _))

theorem Key.isOn_of {kind : TrackerKind} {entityId : String} {booked date : Date} :
    (Key.of kind entityId booked).IsOn date ↔ booked = date := by
  unfold IsOn
  constructor
  · intro same
    have period : SamePeriod kind booked date :=
      (periodOf_eq_iff kind booked date).mp (congrArg Key.periodStart same)
    have number : booked.dayNumber = date.dayNumber := congrArg Key.dayOfMonth same
    have days : booked.day = date.day := by
      have values := congrArg Bounded.val number
      have left : booked.dayNumber.val = (booked.day : Int) := rfl
      have right : date.dayNumber.val = (date.day : Int) := rfl
      omega
    unfold SamePeriod at period
    split at period
    · exact Date.ext period.1 period.2 days
    · exact period
  · rintro rfl
    rfl

namespace Log

variable {log : Log}

def postedDated (log : Log) (kind : TrackerKind) (date : Date) : List (Key × List Update) :=
  log.posted.filter fun entry => entry.1.kind = kind ∧ entry.1.IsOn date

def datedAt (log : Log) (kind : TrackerKind) (date : Date) (id : String) :
    List (Key × List Update) :=
  (log.postedDated kind date).filter fun entry => entry.1.id = id

/-- What was added at an id for a date, as the part of the postings there that passes a test. -/
theorem datedAt_eq {kind : TrackerKind} {date : Date} {id : String} (test : Key → Bool)
    (tells : ∀ entry ∈ log.posted, entry.1.isAt kind id = true →
      (test entry.1 = true ↔ entry.1.IsOn date)) :
    log.datedAt kind date id = (log.postedAt kind id).filter fun entry => test entry.1 := by
  rw [datedAt, postedDated, postedAt, List.filter_filter, List.filter_filter]
  refine List.filter_congr fun entry listed => ?_
  rw [Bool.eq_iff_iff]
  simp only [Bool.and_eq_true, decide_eq_true_eq]
  constructor
  · rintro ⟨sameId, sameKind, dated⟩
    have here := Key.isAt_iff.mpr ⟨sameKind, sameId⟩
    exact ⟨(tells entry listed here).mpr dated, here⟩
  · rintro ⟨passes, here⟩
    obtain ⟨sameKind, sameId⟩ := Key.isAt_iff.mp here
    exact ⟨sameId, sameKind, (tells entry listed here).mp passes⟩

/-- The postings of a date are those at the ids of a shelf, if the shelf has all of them. -/
theorem sum_datedAt {α : Type} (shelf : Shelf α) {kind : TrackerKind} (date : Date)
    (counter : Counter)
    (held : ∀ entry ∈ log.posted, entry.1.kind = kind → ∃ value, shelf.find? entry.1.id = some value) :
    (shelf.entries.map fun entry => total (log.datedAt kind date entry.1) counter).sum =
      total (log.postedDated kind date) counter := by
  have distinct : (shelf.entries.map Prod.fst).Nodup := by
    refine List.pairwise_map.mpr (shelf.ascending.imp ?_)
    intro left right before same
    exact Text.not_precedes_self left.1 (same ▸ before)
  have listed : ∀ entry ∈ log.postedDated kind date, entry.1.id ∈ shelf.entries.map Prod.fst := by
    intro entry member
    obtain ⟨posted, passes⟩ := List.mem_filter.mp member
    have here : entry.1.kind = kind ∧ entry.1.IsOn date := by simpa using passes
    obtain ⟨value, found⟩ := held entry posted here.1
    exact List.mem_map_of_mem ((shelf.find?_eq_some_iff_mem _ value).mp found)
  have groups := sum_groups distinct (fun entry : Key × List Update => entry.1.id)
    (fun entry => updatesTotal entry.2 counter) listed
  rw [List.map_map] at groups
  exact groups

end Log

namespace Memory.Reflects

variable {memory : Memory} {log : Log}

/-- A posting at the id of a user's tracker is for a date exactly where the tracker is for the
month of the date, and the slot is that of its day. -/
theorem isOn_iff_of_user (reflects : memory.Reflects log) (built : ∀ key ∈ log.keys, key.IsBuilt)
    {id : String} {tracker : UserTracker} (found : memory.users.find? id = some tracker)
    (date : Date) {key : Key} (keyBuilt : key.IsBuilt) (here : key.isAt .user id = true) :
    tracker.month.SameMonth date ∧ slotOf key.dayOfMonth = some (date.day - 1) ↔ key.IsOn date := by
  obtain ⟨opener, first, tells⟩ := reflects.users id tracker found
  have alike := Log.alike_of_opener? built first keyBuilt here
  obtain ⟨booked, _, _, same⟩ := Key.isBuilt_iff.mp keyBuilt
  rw [(Key.isAt_iff.mp here).1] at same
  have month : tracker.month = booked.firstOfMonth := by
    rw [tells.month, alike.periods, same]
    rfl
  have position : key.dayOfMonth = booked.dayNumber := congrArg Key.dayOfMonth same
  have positive := date.one_le_day
  rw [same, Key.isOn_of, ← same, month, position, slotOf_dayNumber]
  constructor
  · rintro ⟨⟨years, months⟩, days⟩
    exact Date.ext years months (by omega)
  · rintro rfl
    exact ⟨⟨rfl, rfl⟩, by omega⟩

theorem exists_day? (reflects : memory.Reflects log) (built : ∀ key ∈ log.keys, key.IsBuilt)
    {id : String} {tracker : UserTracker} (found : memory.users.find? id = some tracker)
    {date : Date} (sameMonth : tracker.month.SameMonth date) :
    ∃ day, tracker.day? date.dayNumber = some day := by
  obtain ⟨opener, first, tells⟩ := reflects.users id tracker found
  obtain ⟨listed, isUser, _⟩ := Log.of_opener? first
  obtain ⟨booked, _, _, same⟩ := Key.isBuilt_iff.mp
    (built _ (List.mem_append_left _ (List.mem_map_of_mem listed)))
  rw [isUser] at same
  have month : tracker.month = booked.firstOfMonth := by
    rw [tells.month, same]
    rfl
  have bookedMonth : booked.SameMonth date := by
    rw [month] at sameMonth
    exact sameMonth
  have slots : tracker.days.length = Calendar.monthLength date.year date.month := by
    rw [tells.slots, same]
    exact daysInMonth_of_user _ bookedMonth
  have inMonth := date.day_le
  have positive := date.one_le_day
  have number : date.dayNumber.toNat = date.day := rfl
  rw [UserTracker.day?, number, if_neg (by omega)]
  exact ⟨_, List.getElem?_eq_getElem (by omega)⟩

theorem onDay_eq (reflects : memory.Reflects log) (built : ∀ key ∈ log.keys, key.IsBuilt)
    {id : String} {tracker : UserTracker} (found : memory.users.find? id = some tracker)
    (date : Date) (counter : UserCounter) :
    (if tracker.month.SameMonth date then tracker.onDay date counter else 0) =
      Log.total (log.datedAt .user date id) (.user counter) := by
  rw [Log.datedAt_eq
    (fun key => tracker.month.SameMonth date ∧ slotOf key.dayOfMonth = some (date.day - 1))
    fun entry posted here => by
      have keyBuilt := built _ (List.mem_append_right _ (List.mem_map_of_mem posted))
      rw [decide_eq_true_iff]
      exact reflects.isOn_iff_of_user built found date keyBuilt here]
  by_cases sameMonth : tracker.month.SameMonth date
  · obtain ⟨day, slot⟩ := reflects.exists_day? built found sameMonth
    obtain ⟨opener, _, tells⟩ := reflects.users id tracker found
    have positive := date.one_le_day
    have number : date.dayNumber.toNat = date.day := rfl
    have here : tracker.days[date.day - 1]? = some day := by
      rw [UserTracker.day?, number, if_neg (by omega)] at slot
      exact slot
    simp only [sameMonth, true_and]
    rw [UserTracker.onDay, slot]
    exact tells.days _ day here counter
  · simp [sameMonth]

theorem value_eq (reflects : memory.Reflects log) (built : ∀ key ∈ log.keys, key.IsBuilt)
    (kind : ContentKind) {id : String} {tracker : ContentTracker}
    (found : (memory.contents kind).find? id = some tracker) (date : Date) {counter : Counter}
    (isKind : counter.kind = kind.tracker) :
    (if tracker.day = date then tracker.counters.value counter else 0) =
      Log.total (log.datedAt kind.tracker date id) counter := by
  obtain ⟨opener, first, tells⟩ := reflects.contents kind id tracker found
  rw [Log.datedAt_eq (fun _ => tracker.day = date) fun entry posted here => by
    have keyBuilt := built _ (List.mem_append_right _ (List.mem_map_of_mem posted))
    have alike := Log.alike_of_opener? built first keyBuilt here
    obtain ⟨booked, _, _, same⟩ := Key.isBuilt_iff.mp keyBuilt
    rw [(Key.isAt_iff.mp here).1] at same
    have day : tracker.day = booked := by
      rw [tells.day, alike.periods, same]
      cases kind <;> rfl
    rw [decide_eq_true_iff, same, Key.isOn_of, day]]
  by_cases sameDay : tracker.day = date
  · simp only [sameDay, decide_true, List.filter_true, if_true]
    exact tells.counters counter isKind
  · simp [sameDay]

/-- The trackers of a shelf that pass a test hold together what was added for a date, if each of
them holds its part and no other one has a part. -/
theorem sum_shelf {α : Type} (shelf : Shelf α) (test : α → Bool) (amount : α → Int)
    {kind : TrackerKind} {date : Date} {counter : Counter}
    (held : ∀ key ∈ log.keys, key.kind = kind → ∃ value, shelf.find? key.id = some value)
    (each : ∀ id value, shelf.find? id = some value →
      (if test value then amount value else 0) = Log.total (log.datedAt kind date id) counter) :
    (((shelf.entries.map Prod.snd).filter test).map amount).sum =
      Log.total (log.postedDated kind date) counter := by
  have inShelf : ∀ entry ∈ log.posted, entry.1.kind = kind →
      ∃ value, shelf.find? entry.1.id = some value :=
    fun entry posted => held entry.1 (List.mem_append_right _ (List.mem_map_of_mem posted))
  rw [← Log.sum_datedAt shelf date counter inShelf, sum_map_filter, List.map_map]
  refine congrArg List.sum (List.map_congr_left fun entry listed => ?_)
  exact each entry.1 entry.2 ((shelf.find?_eq_some_iff_mem _ _).mpr listed)

/-- All trackers of a memory hold for a date what was added for the date. -/
theorem dayTotal_eq (reflects : memory.Reflects log) (built : ∀ key ∈ log.keys, key.IsBuilt)
    (date : Date) (counter : Counter) :
    memory.dayTotal date counter = Log.total (log.postedDated counter.kind date) counter := by
  have held (kind : ContentKind) (key : Key) (member : key ∈ log.keys)
      (isKind : key.kind = kind.tracker) :
      ∃ tracker, (memory.contents kind).find? key.id = some tracker :=
    (holds_content_iff isKind).mp (reflects.held key member)
  cases counter with
  | user counter =>
      refine sum_shelf memory.users _ _ ?_ ?_
      · intro key member isUser
        exact (holds_user_iff isUser).mp (reflects.held key member)
      · intro id tracker found
        simp only [decide_eq_true_eq]
        exact reflects.onDay_eq built found date counter
  | post counter =>
      refine sum_shelf memory.posts _ _ (held .post) fun id tracker found => ?_
      simp only [decide_eq_true_eq]
      exact reflects.value_eq built .post found date rfl
  | comment counter =>
      refine sum_shelf memory.comments _ _ (held .comment) fun id tracker found => ?_
      simp only [decide_eq_true_eq]
      exact reflects.value_eq built .comment found date rfl

end Memory.Reflects

/-! ## Bookings -/

namespace Plan.Sound

variable {plan : Plan}

theorem amountFor_of_kind_ne (sound : plan.Sound) {target : Target} {counter : Counter}
    (foreign : target.kind ≠ counter.kind) : plan.amountFor target counter = 0 := by
  refine updatesTotal_eq_zero fun update member => ?_
  obtain ⟨listed, here⟩ := List.mem_filter.mp member
  have addressed : update.target = target := by simpa using here
  have sameKind := sound.kinds update listed
  rintro rfl
  exact foreign (addressed ▸ sameKind.symm)

/-- What a plan adds to a counter goes to the entities of its trackers. -/
theorem sum_amountFor (sound : plan.Sound) (counter : Counter) :
    (plan.targets.map fun target => plan.amountFor target counter).sum = plan.total counter := by
  have listed : ∀ update ∈ plan.updates.filter (fun update => update.counter = counter),
      update.target ∈ plan.targets :=
    fun update member => sound.covered update (List.mem_of_mem_filter member)
  rw [total, updatesTotal, ← sum_groups sound.distinct Update.target _ listed]
  refine congrArg List.sum (List.map_congr_left fun target _ => ?_)
  rw [amountFor, updatesTotal, updatesFor, List.filter_filter, List.filter_filter]
  simp only [Bool.and_comm]

end Plan.Sound

namespace Log

/-- What a booking posts for a date is the total of its plan on its own date, and nothing on any
other date. -/
theorem total_shares_on {booking : Booking} (sound : booking.Sound) (date : Date)
    (counter : Counter) :
    total ((booking.shares.map fun share => (share.key, share.updates)).filter fun entry =>
        entry.1.kind = counter.kind ∧ entry.1.IsOn date) counter =
      if booking.date = date then booking.plan.total counter else 0 := by
  rw [Booking.shares, List.map_map, List.filter_map, total, List.map_map, sum_map_filter,
    ← sound.plan.sum_amountFor, Plan.targets, List.map_map]
  by_cases onDate : booking.date = date
  · rw [if_pos onDate]
    refine congrArg List.sum (List.map_congr_left fun template _ => ?_)
    have dated : (Record.shareOf booking.plan booking.date template).key.IsOn date :=
      Key.isOn_of.mpr onDate
    have kinds : (Record.shareOf booking.plan booking.date template).key.kind =
      template.target.kind := rfl
    by_cases isKind : template.target.kind = counter.kind
    · exact if_pos (by simp [kinds, isKind, dated])
    · refine Eq.trans ?_ (sound.plan.amountFor_of_kind_ne isKind).symm
      exact if_neg (by simp [kinds, isKind])
  · rw [if_neg onDate]
    refine List.sum_eq_zero fun amount member => ?_
    obtain ⟨template, _, rfl⟩ := List.mem_map.mp member
    have late : ¬ (Record.shareOf booking.plan booking.date template).key.IsOn date :=
      fun dated => onDate (Key.isOn_of.mp dated)
    exact if_neg (by simp [late])

/-- What bookings post for a date is the total of the plans that are booked on it. -/
theorem total_postedDated {bookings : List Booking} (sound : ∀ booking ∈ bookings, booking.Sound)
    (date : Date) (counter : Counter) :
    total ((ofBookings bookings).postedDated counter.kind date) counter =
      ((bookings.filter fun booking => booking.date = date).map fun booking =>
        booking.plan.total counter).sum := by
  induction bookings with
  | nil => rfl
  | cons booking rest ih =>
      obtain ⟨soundFirst, soundRest⟩ := List.forall_mem_cons.mp sound
      have first := total_shares_on soundFirst date counter
      rw [← total_filter_updates _ fun key => key.kind = counter.kind ∧ key.IsOn date] at first
      have split : (ofBookings (booking :: rest)).posted =
          ((booking.shares.filter fun share => !share.updates.isEmpty).map fun share =>
            (share.key, share.updates)) ++ (ofBookings rest).posted := rfl
      rw [postedDated, split, List.filter_append, total_append, first, List.filter_cons]
      have later := ih soundRest
      rw [postedDated] at later
      rw [later]
      by_cases onDate : booking.date = date <;> simp [onDate]

/-- The calls of bookings are at keys that were built. -/
theorem isBuilt_ofBookings {bookings : List Booking}
    (sound : ∀ booking ∈ bookings, booking.Sound) :
    ∀ key ∈ (ofBookings bookings).keys, key.IsBuilt := by
  intro key member
  obtain ⟨booking, booked, share, listed, rfl⟩ := exists_share_of_mem_keys member
  obtain ⟨template, tracked, rfl⟩ := List.mem_map.mp listed
  exact ⟨template.kind, template.entityId, booking.date,
    Key.build_eq_ok_iff.mpr ⟨(sound booking booked).addressable template tracked, rfl⟩⟩

end Log

theorem Entry.exists_of_mem_bookings {entries : List Entry}
    {answers : List (Except Error Outcome)} {booking : Booking}
    (booked : booking ∈ Entry.bookings entries answers) :
    ∃ entry ∈ entries, Record.planOf entry.directory entry.event = .ok booking.plan := by
  obtain ⟨⟨entry, answer⟩, answered, books⟩ := List.mem_filterMap.mp booked
  refine ⟨entry, (List.of_mem_zip answered).1, ?_⟩
  unfold booking? at books
  split at books
  · rename_i outcome plan accepted planned
    split at books
    · cases books
    · cases books
      exact planned
  · cases books

namespace Memory

/-- After entries that are recorded in an empty memory, on none of which the store fails, both
sides of every interaction are accounted for on each day, in slots and counters that exist. -/
theorem balanced_dayTotal (entries : List Entry)
    (kept : ∀ error, .error error ∈ store.outcomes entries empty → error.isStorage = false)
    (date : Date) :
    let memory := store.afterEntries entries empty
    Balanced (memory.dayTotal date) ∧
      (∀ tracker ∈ memory.usersOn date, ∃ day, tracker.day? date.dayNumber = some day) ∧
      ∀ kind, ∀ tracker ∈ memory.contentsOn kind date, tracker.counters.kind = kind := by
  intro memory
  have start : empty.Reflects (Log.ofBookings []) := Reflects.empty
  obtain ⟨reflects, sound⟩ := start.recordAll (by simp) entries kept
  have built := Log.isBuilt_ofBookings sound
  refine ⟨?_, ?_, ?_⟩
  · have totals := funext fun counter =>
      (reflects.dayTotal_eq built date counter).trans (Log.total_postedDated sound date counter)
    rw [totals]
    refine Balanced.sum fun booking member => ?_
    obtain ⟨entry, _, planned⟩ := Entry.exists_of_mem_bookings (List.mem_of_mem_filter member)
    obtain ⟨authors, _, made⟩ := Answer.bind_eq_ok_iff.mp planned
    exact Plan.balanced_ofEvent made
  · intro tracker member
    obtain ⟨listed, sameMonth⟩ := List.mem_filter.mp member
    obtain ⟨entry, held, rfl⟩ := List.mem_map.mp listed
    have found := (memory.users.find?_eq_some_iff_mem _ _).mpr held
    exact reflects.exists_day? built found (by simpa using sameMonth)
  · intro kind tracker member
    obtain ⟨entry, held, rfl⟩ := List.mem_map.mp (List.mem_of_mem_filter member)
    have found := ((memory.contents kind).find?_eq_some_iff_mem _ _).mpr held
    obtain ⟨opener, _, tells⟩ := reflects.contents kind _ _ found
    exact tells.countersKind

/-- A post, votes of a reader and of a visitor on it, a comment that carries a vote, a vote on
the comment, and an event that is refused, all on one day but the last. -/
def busyEntries : List Entry := [
  ⟨smallDirectory, .createPost "ana" "p1", midFebruary⟩,
  ⟨smallDirectory, (Event.updatePost (.user "bo") "ana" "p1").withVote .down, midFebruary⟩,
  ⟨smallDirectory, (Event.updatePost .anonymous "ana" "p1").withVote .up, midFebruary⟩,
  ⟨smallDirectory, (Event.createComment "bo" "c1" "p1").withVote .up, midFebruary⟩,
  ⟨smallDirectory, (Event.updateComment "cy" "bo" "c1" "p1").withVote .up, midFebruary⟩,
  ⟨smallDirectory, .createPost "ana" "", lateFebruary⟩]

theorem balanced_dayTotal_busy :
    let memory := store.afterEntries busyEntries empty
    (memory.dayTotal midFebruary (.post .upVotes) = 2 ∧
      memory.dayTotal midFebruary (.user .upVotesForOthers) = 1 ∧
      memory.dayTotal midFebruary (.comment .upVotes) = 1) ∧
    Balanced (memory.dayTotal midFebruary) ∧
      (∀ tracker ∈ memory.usersOn midFebruary,
        ∃ day, tracker.day? midFebruary.dayNumber = some day) ∧
      ∀ kind, ∀ tracker ∈ memory.contentsOn kind midFebruary, tracker.counters.kind = kind := by
  have accepted : ((store.outcomes busyEntries empty).all fun answer =>
      match answer with
      | .ok _ => true
      | .error error => !error.isStorage) = true := by
    decide +kernel
  refine ⟨⟨by decide +kernel, by decide +kernel, by decide +kernel⟩,
    balanced_dayTotal busyEntries ?_ midFebruary⟩
  intro error member
  simpa using List.all_eq_true.mp accepted _ member

end Memory

end ActivityLedger
