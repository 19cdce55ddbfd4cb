import ActivityLedger.Proofs.MemorySteps

/-!
# What a memory tells of its calls

A log keeps the calls on a memory that set up a tracker, or found it set up, and those
that added to one.  The memory tells the log: it has a tracker wherever one was set up
and nowhere else, each tracker is described as by the first call for it, and each
counter is the sum of all that was added at its place.
-/

namespace ActivityLedger

def Key.isAt (key : Key) (kind : TrackerKind) (id : String) : Bool :=
  key.kind = kind && key.id = id

@[simp] theorem Key.isAt_iff {key : Key} {kind : TrackerKind} {id : String} :
    key.isAt kind id = true ↔ key.kind = kind ∧ key.id = id := by
  simp [isAt]

/-- The calls on a store that were not refused. -/
structure Log where
  opened : List (Key × Template)
  posted : List (Key × List Update)

namespace Log

def empty : Log := ⟨[], []⟩

def enter (log : Log) : StoreCall → StoreAnswer → Log
  | .ensure key template, .ok _ => { log with opened := log.opened ++ [(key, template)] }
  | .increment key updates, .ok _ => { log with posted := log.posted ++ [(key, updates)] }
  | _, _ => log

/-- The first call that set up the tracker at an id. -/
def opener? (log : Log) (kind : TrackerKind) (id : String) : Option (Key × Template) :=
  log.opened.find? fun entry => entry.1.isAt kind id

/-- What was added to the tracker at an id. -/
def postedAt (log : Log) (kind : TrackerKind) (id : String) : List (Key × List Update) :=
  log.posted.filter fun entry => entry.1.isAt kind id

def total (posted : List (Key × List Update)) (counter : Counter) : Int :=
  (posted.map fun entry => updatesTotal entry.2 counter).sum

@[simp] theorem total_nil (counter : Counter) : total [] counter = 0 := rfl

theorem total_cons (entry : Key × List Update) (rest : List (Key × List Update))
    (counter : Counter) : total (entry :: rest) counter =
      updatesTotal entry.2 counter + total rest counter := rfl

@[simp] theorem total_append (first second : List (Key × List Update)) (counter : Counter) :
    total (first ++ second) counter = total first counter + total second counter := by
  simp [total]

@[simp] theorem total_singleton (key : Key) (updates : List Update) (counter : Counter) :
    total [(key, updates)] counter = updatesTotal updates counter := by
  simp [total]

theorem enter_error (log : Log) (call : StoreCall) (error : Error) :
    log.enter call (.error error) = log := by
  cases call <;> rfl

theorem opener?_ensure (log : Log) (key : Key) (template : Template) (value : StoreValue)
    (kind : TrackerKind) (id : String) :
    (log.enter (.ensure key template) (.ok value)).opener? kind id =
      (log.opener? kind id).or (if key.isAt kind id then some (key, template) else none) := by
  by_cases here : key.isAt kind id = true <;>
    simp [enter, opener?, List.find?_append, here]

@[simp] theorem postedAt_ensure (log : Log) (key : Key) (template : Template)
    (answer : StoreAnswer) (kind : TrackerKind) (id : String) :
    (log.enter (.ensure key template) answer).postedAt kind id = log.postedAt kind id := by
  cases answer <;> rfl

theorem postedAt_increment (log : Log) (key : Key) (updates : List Update) (value : StoreValue)
    (kind : TrackerKind) (id : String) :
    (log.enter (.increment key updates) (.ok value)).postedAt kind id =
      log.postedAt kind id ++ if key.isAt kind id then [(key, updates)] else [] := by
  by_cases here : key.isAt kind id = true <;> simp [enter, postedAt, List.filter_append, here]

def keys (log : Log) : List Key := log.opened.map Prod.fst ++ log.posted.map Prod.fst

theorem of_opener? {log : Log} {kind : TrackerKind} {id : String} {opener : Key × Template}
    (first : log.opener? kind id = some opener) :
    opener ∈ log.opened ∧ opener.1.kind = kind ∧ opener.1.id = id := by
  have here := List.find?_some first
  exact ⟨List.mem_of_find?_eq_some first, Key.isAt_iff.mp here⟩

theorem opener?_eq_none {log : Log} {kind : TrackerKind} {id : String}
    (unused : ∀ key ∈ log.keys, key.isAt kind id = false) : log.opener? kind id = none := by
  refine List.find?_eq_none.mpr fun entry member => ?_
  simp [unused entry.1 (List.mem_append_left _ (List.mem_map_of_mem member))]

theorem postedAt_eq_nil {log : Log} {kind : TrackerKind} {id : String}
    (unused : ∀ key ∈ log.keys, key.isAt kind id = false) : log.postedAt kind id = [] := by
  refine List.filter_eq_nil_iff.mpr fun entry member => ?_
  simp [unused entry.1 (List.mem_append_right _ (List.mem_map_of_mem member))]

/-- The logs say the same of every place other than that of one key. -/
structure GrowsAt (log next : Log) (key : Key) : Prop where
  openers : ∀ kind id, key.isAt kind id = false → next.opener? kind id = log.opener? kind id
  postings : ∀ kind id, key.isAt kind id = false → next.postedAt kind id = log.postedAt kind id
  keys : ∀ other ∈ next.keys, other ∈ log.keys ∨ other = key

theorem growsAt_ensure (log : Log) (key : Key) (template : Template) (value : StoreValue) :
    log.GrowsAt (log.enter (.ensure key template) (.ok value)) key where
  openers kind id elsewhere := by simp [opener?_ensure, elsewhere]
  postings _ _ _ := rfl
  keys other member := by
    simp only [enter, keys, List.map_append, List.mem_append] at member ⊢
    rcases member with (before | new) | before
    · exact Or.inl (Or.inl before)
    · exact Or.inr (by simpa using new)
    · exact Or.inl (Or.inr before)

theorem growsAt_increment (log : Log) (key : Key) (updates : List Update) (value : StoreValue) :
    log.GrowsAt (log.enter (.increment key updates) (.ok value)) key where
  openers _ _ _ := rfl
  postings kind id elsewhere := by simp [postedAt_increment, elsewhere]
  keys other member := by
    simp only [enter, keys, List.map_append, List.mem_append] at member ⊢
    rcases member with before | before | new
    · exact Or.inl (Or.inl before)
    · exact Or.inl (Or.inr before)
    · exact Or.inr (by simpa using new)

end Log

/-! ## Trackers -/

/-- A tracker of a user is described by its first call and holds the sum of what was added. -/
structure UserTracker.Tells (tracker : UserTracker) (opener : Key × Template)
    (posted : List (Key × List Update)) : Prop where
  id : tracker.id = opener.1.id
  userId : tracker.userId = opener.1.entityId
  month : tracker.month = opener.1.periodStart
  slots : tracker.days.length = opener.1.daysInMonth.toNat
  monthly : ∀ counter, (tracker.monthly.get counter).val = Log.total posted (.user counter)
  days : ∀ slot day, tracker.days[slot]? = some day → ∀ counter,
    (day.get counter).val = Log.total
      (posted.filter fun entry => Memory.slotOf entry.1.dayOfMonth = some slot) (.user counter)

structure ContentTracker.Tells (tracker : ContentTracker) (kind : ContentKind)
    (opener : Key × Template) (posted : List (Key × List Update)) : Prop where
  id : tracker.id = opener.1.id
  isKind : tracker.kind = kind
  contentId : tracker.contentId = opener.1.entityId
  ownerId : opener.2.authorId? = some tracker.ownerId
  day : tracker.day = opener.1.periodStart
  countersKind : tracker.counters.kind = kind
  counters : ∀ counter, counter.kind = kind.tracker →
    tracker.counters.value counter = Log.total posted counter

namespace UserTracker.Tells

/-- A new tracker tells the call that set it up. -/
theorem zero (key : Key) (template : Template) :
    (UserTracker.zero key.id key.entityId key.periodStart key.daysInMonth).Tells
      (key, template) [] where
  id := rfl
  userId := rfl
  month := rfl
  slots := List.length_replicate
  monthly counter := by simp [UserTracker.zero]
  days slot day here counter := by
    have zeros := List.eq_of_mem_replicate (List.mem_of_getElem? here)
    simp [zeros]

/-- A batch is added to the month and to the slot of its day. -/
theorem add {tracker : UserTracker} {opener : Key × Template}
    {posted : List (Key × List Update)} (tells : tracker.Tells opener posted) {key : Key}
    {updates : List Update} {deltas : Deltas UserCounter} {slot : Nat}
    {day nextDay nextMonth : Counters UserCounter}
    (merged : Batch.ofUpdates key updates = .ok (.user deltas))
    (position : Memory.slotOf key.dayOfMonth = some slot) (here : tracker.days[slot]? = some day)
    (daySum : day.addAll deltas.toList = .ok nextDay)
    (monthSum : tracker.monthly.addAll deltas.toList = .ok nextMonth) :
    { tracker with monthly := nextMonth, days := tracker.days.set slot nextDay }.Tells opener
      (posted ++ [(key, updates)]) where
  id := tells.id
  userId := tells.userId
  month := tells.month
  slots := by simpa using tells.slots
  monthly counter := by
    have amount : (Batch.user deltas).amount (.user counter) =
        updatesTotal updates (.user counter) :=
      Batch.amount_of_ofUpdates merged (Batch.kind_of_ofUpdates merged)
    rw [Counters.val_get_of_addAll monthSum, tells.monthly, Deltas.amountIn_toList]
    simpa [Batch.amount] using amount
  days other otherDay found counter := by
    have amount : (Batch.user deltas).amount (.user counter) =
        updatesTotal updates (.user counter) :=
      Batch.amount_of_ofUpdates merged (Batch.kind_of_ofUpdates merged)
    rw [List.filter_append, Log.total_append]
    by_cases same : slot = other
    · subst same
      obtain ⟨inRange, _⟩ := List.getElem?_eq_some_iff.mp here
      have new : nextDay = otherDay := by simpa [inRange] using found
      rw [← new, Counters.val_get_of_addAll daySum, tells.days slot day here,
        Deltas.amountIn_toList]
      simpa [position, Batch.amount] using amount
    · rw [List.getElem?_set_ne same] at found
      rw [tells.days other otherDay found]
      simp [position, same]

end UserTracker.Tells

namespace ContentTracker.Tells

theorem zero (key : Key) (kind : ContentKind) {template : Template} {authorId : String}
    (names : template.authorId? = some authorId) :
    (Memory.newContent key kind authorId).Tells kind (key, template) [] where
  id := rfl
  isKind := rfl
  contentId := rfl
  ownerId := names
  day := rfl
  countersKind := ContentCounters.kind_zero kind
  counters counter _ := by simp [Memory.newContent]

theorem add {tracker : ContentTracker} {kind : ContentKind} {opener : Key × Template}
    {posted : List (Key × List Update)} (tells : tracker.Tells kind opener posted) {key : Key}
    {updates : List Update} {batch : Batch} {counters : ContentCounters}
    (merged : Batch.ofUpdates key updates = .ok batch) (isKind : key.kind = kind.tracker)
    (sum : tracker.counters.take batch = .ok counters) :
    { tracker with counters := counters }.Tells kind opener (posted ++ [(key, updates)]) := by
  have sameKind : batch.kind = tracker.counters.kind.tracker := by
    rw [Batch.kind_of_ofUpdates merged, isKind, tells.countersKind]
  obtain ⟨keptKind, moved⟩ := ContentCounters.value_of_take sameKind sum
  constructor
  case id => exact tells.id
  case isKind => exact tells.isKind
  case contentId => exact tells.contentId
  case ownerId => exact tells.ownerId
  case day => exact tells.day
  case countersKind => exact keptKind.trans tells.countersKind
  case counters =>
    intro counter named
    show counters.value counter = _
    rw [moved, tells.counters counter named, Log.total_append, Log.total_singleton,
      Batch.amount_of_ofUpdates merged (named.trans isKind.symm)]

end ContentTracker.Tells

/-! ## Memories -/

namespace Memory

/-- Every tracker tells its calls, and there is one wherever the log has a call. -/
structure Reflects (memory : Memory) (log : Log) : Prop where
  users : ∀ id tracker, memory.users.find? id = some tracker →
    ∃ opener, log.opener? .user id = some opener ∧ tracker.Tells opener (log.postedAt .user id)
  contents : ∀ kind id tracker, (memory.contents kind).find? id = some tracker →
    ∃ opener, log.opener? kind.tracker id = some opener ∧
      tracker.Tells kind opener (log.postedAt kind.tracker id)
  held : ∀ key ∈ log.keys, memory.Holds key

namespace Reflects

variable {memory : Memory} {log next : Log} {key : Key}

theorem empty : Memory.empty.Reflects Log.empty where
  users id tracker found := by cases found
  contents kind id tracker found := by
    cases kind <;> cases found
  held key member := by cases member

theorem unused (reflects : memory.Reflects log) (key : Key) (absent : ¬ memory.Holds key) :
    ∀ other ∈ log.keys, other.isAt key.kind key.id = false := by
  intro other member
  refine Bool.eq_false_iff.mpr fun here => absent ?_
  obtain ⟨sameKind, sameId⟩ := Key.isAt_iff.mp here
  have held := reflects.held other member
  rw [Holds, sameKind, sameId] at held
  exact held

theorem insertUser (reflects : memory.Reflects log) (grows : log.GrowsAt next key)
    (isUser : key.kind = .user) {tracker : UserTracker} {opener : Key × Template}
    (first : next.opener? .user key.id = some opener)
    (tells : tracker.Tells opener (next.postedAt .user key.id)) :
    { memory with users := memory.users.insert key.id tracker }.Reflects next where
  users id found lookup := by
    rcases Shelf.of_find?_insert lookup with ⟨rfl, rfl⟩ | ⟨different, before⟩
    · exact ⟨opener, first, tells⟩
    · have elsewhere : key.isAt .user id = false := by simp [Key.isAt, Ne.symm different]
      rw [grows.openers _ _ elsewhere, grows.postings _ _ elsewhere]
      exact reflects.users id found before
  contents kind id found lookup := by
    have elsewhere : key.isAt kind.tracker id = false := by
      cases kind <;> simp [Key.isAt, isUser, ContentKind.tracker]
    rw [grows.openers _ _ elsewhere, grows.postings _ _ elsewhere]
    refine reflects.contents kind id found ?_
    cases kind <;> exact lookup
  held other member := by
    rcases grows.keys other member with before | rfl
    · exact (reflects.held other before).insertUser key.id tracker
    · exact (holds_user_iff isUser).mpr ⟨tracker, Shelf.find?_insert_self ..⟩

theorem insertContent (reflects : memory.Reflects log) (grows : log.GrowsAt next key)
    {kind : ContentKind} (isKind : key.kind = kind.tracker) {tracker : ContentTracker}
    {opener : Key × Template} (first : next.opener? kind.tracker key.id = some opener)
    (tells : tracker.Tells kind opener (next.postedAt kind.tracker key.id)) :
    (memory.withContents kind ((memory.contents kind).insert key.id tracker)).Reflects next where
  users id found lookup := by
    have elsewhere : key.isAt .user id = false := by
      cases kind <;> simp [Key.isAt, isKind, ContentKind.tracker]
    rw [grows.openers _ _ elsewhere, grows.postings _ _ elsewhere]
    exact reflects.users id found (by simpa using lookup)
  contents other id found lookup := by
    rw [contents_withContents] at lookup
    by_cases sameKind : other = kind
    · subst sameKind
      rw [if_pos rfl] at lookup
      rcases Shelf.of_find?_insert lookup with ⟨rfl, rfl⟩ | ⟨different, before⟩
      · exact ⟨opener, first, tells⟩
      · have elsewhere : key.isAt other.tracker id = false := by simp [Key.isAt, Ne.symm different]
        rw [grows.openers _ _ elsewhere, grows.postings _ _ elsewhere]
        exact reflects.contents other id found before
    · rw [if_neg sameKind] at lookup
      have elsewhere : key.isAt other.tracker id = false := by
        cases kind <;> cases other <;> simp_all [Key.isAt, ContentKind.tracker]
      rw [grows.openers _ _ elsewhere, grows.postings _ _ elsewhere]
      exact reflects.contents other id found lookup
  held other member := by
    rcases grows.keys other member with before | rfl
    · exact (reflects.held other before).insertContent kind key.id tracker
    · exact (holds_content_iff isKind).mpr
        ⟨tracker, by rw [contents_withContents, if_pos rfl, Shelf.find?_insert_self]⟩

/-- A call for a place that has a tracker, which leaves the memory as it is. -/
theorem repeated (reflects : memory.Reflects log) (key : Key) (template : Template)
    (value : StoreValue) (held : memory.Holds key) :
    memory.Reflects (log.enter (.ensure key template) (.ok value)) where
  users id tracker found := by
    obtain ⟨opener, first, tells⟩ := reflects.users id tracker found
    exact ⟨opener, by rw [Log.opener?_ensure, first, Option.some_or], tells⟩
  contents kind id tracker found := by
    obtain ⟨opener, first, tells⟩ := reflects.contents kind id tracker found
    exact ⟨opener, by rw [Log.opener?_ensure, first, Option.some_or], tells⟩
  held other member := by
    rcases (log.growsAt_ensure key template value).keys other member with before | rfl
    · exact reflects.held other before
    · exact held

/-- A memory that tells a log tells it with the next answer, too. -/
theorem step {call : StoreCall} {answer : StoreAnswer} {after : Memory}
    (reflects : memory.Reflects log) (step : Step memory call answer after) :
    after.Reflects (log.enter call answer) := by
  cases step with
  | refused call error =>
      rw [Log.enter_error]
      exact reflects
  | gotContent => exact reflects
  | gotUser => exact reflects
  | scannedContents => exact reflects
  | scannedUsers => exact reflects
  | present key template describes held => exact reflects.repeated key template _ held
  | openedUser key isUser absent =>
      have fresh := reflects.unused key (by simp [holds_user_iff isUser, absent])
      rw [isUser] at fresh
      have first : (log.enter (.ensure key (.user key.entityId)) (.ok (.created true))).opener?
          .user key.id = some (key, .user key.entityId) := by
        simp [Log.opener?_ensure, Log.opener?_eq_none fresh, isUser]
      refine reflects.insertUser (log.growsAt_ensure key _ _) isUser first ?_
      rw [Log.postedAt_ensure, Log.postedAt_eq_nil fresh]
      exact UserTracker.Tells.zero key (.user key.entityId)
  | openedContent key template kind authorId describes isKind names absent =>
      have fresh := reflects.unused key (by simp [holds_content_iff isKind, absent])
      rw [isKind] at fresh
      have first : (log.enter (.ensure key template) (.ok (.created true))).opener?
          kind.tracker key.id = some (key, template) := by
        simp [Log.opener?_ensure, Log.opener?_eq_none fresh, isKind]
      refine reflects.insertContent (log.growsAt_ensure key template _) isKind first ?_
      rw [Log.postedAt_ensure, Log.postedAt_eq_nil fresh]
      exact ContentTracker.Tells.zero key kind names
  | addedToUser key updates deltas tracker slot day nextDay nextMonth merged found position here
      daySum monthSum =>
      have isUser : key.kind = .user := (Batch.kind_of_ofUpdates merged).symm
      obtain ⟨opener, first, tells⟩ := reflects.users key.id tracker found
      refine reflects.insertUser (log.growsAt_increment key updates _) isUser first ?_
      rw [Log.postedAt_increment, if_pos (by simp [isUser])]
      exact tells.add merged position here daySum monthSum
  | addedToContent key updates kind batch tracker counters merged isKind found sameKind sum =>
      obtain ⟨opener, first, tells⟩ := reflects.contents kind key.id tracker found
      refine reflects.insertContent (log.growsAt_increment key updates _) isKind first ?_
      rw [Log.postedAt_increment, if_pos (by simp [isKind])]
      exact tells.add merged isKind sum
  | ignored key updates kind tracker isKind found otherKind =>
      obtain ⟨opener, first, tells⟩ := reflects.contents kind key.id tracker found
      exact absurd tells.countersKind otherKind

/-- There is a tracker exactly where a call set one up. -/
theorem holds_iff (reflects : memory.Reflects log) (key : Key) :
    memory.Holds key ↔ ∃ opener, log.opener? key.kind key.id = some opener := by
  constructor
  · intro held
    rcases key.kind.eq_user_or_content with isUser | ⟨kind, isKind⟩
    · obtain ⟨tracker, found⟩ := (holds_user_iff isUser).mp held
      obtain ⟨opener, first, _⟩ := reflects.users key.id tracker found
      exact ⟨opener, by rw [isUser, first]⟩
    · obtain ⟨tracker, found⟩ := (holds_content_iff isKind).mp held
      obtain ⟨opener, first, _⟩ := reflects.contents kind key.id tracker found
      exact ⟨opener, by rw [isKind, first]⟩
  · rintro ⟨opener, first⟩
    obtain ⟨listed, sameKind, sameId⟩ := Log.of_opener? first
    have held := reflects.held opener.1 (List.mem_append_left _ (List.mem_map_of_mem listed))
    rw [Holds, sameKind, sameId] at held
    exact held

theorem perform (reflects : memory.Reflects log) (call : StoreCall) :
    (store.perform call memory).2.Reflects (log.enter call (store.perform call memory).1) :=
  reflects.step (step_perform memory call)

end Reflects

/-- After any calls a memory tells some log. -/
theorem exists_reflects (calls : List StoreCall) :
    ∃ log, (store.after calls empty).Reflects log := by
  have kept : ∀ call memory, (∃ log, memory.Reflects log) →
      ∃ log, (store.perform call memory).2.Reflects log := by
    rintro call memory ⟨log, reflects⟩
    exact ⟨_, reflects.perform call⟩
  exact store.after_induction kept calls ⟨Log.empty, .empty⟩

end Memory

end ActivityLedger
