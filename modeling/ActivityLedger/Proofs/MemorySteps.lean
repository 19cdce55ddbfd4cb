import ActivityLedger.Proofs.Batches
import ActivityLedger.Proofs.Calls
import ActivityLedger.Proofs.Shelf

/-!
# The steps of a memory

Everything that one call can do to the trackers in memory, with its guards: nothing,
a new tracker without counts, or the amounts of one batch added to one tracker.
-/

namespace ActivityLedger

namespace ContentCounters

def take : ContentCounters → Batch → Except Error ContentCounters
  | .post counters, .post deltas => (counters.addAll deltas.toList).map .post
  | .comment counters, .comment deltas => (counters.addAll deltas.toList).map .comment
  | counters, _ => .ok counters

/-- The value of a counter of any vocabulary, which is nothing where there is none. -/
def value : ContentCounters → Counter → Int
  | .post counters, .post counter => (counters.get counter).val
  | .comment counters, .comment counter => (counters.get counter).val
  | _, _ => 0

def kind : ContentCounters → ContentKind
  | .post _ => .post
  | .comment _ => .comment

@[simp] theorem kind_zero (kind : ContentKind) : (zero kind).kind = kind := by
  cases kind <;> rfl

@[simp] theorem value_zero (kind : ContentKind) (counter : Counter) :
    (zero kind).value counter = 0 := by
  cases kind <;> cases counter <;> simp [zero, value]

theorem exists_of (counters : ContentCounters) : ∃ kind table, of kind table = counters := by
  cases counters with
  | post table => exact ⟨.post, table, rfl⟩
  | comment table => exact ⟨.comment, table, rfl⟩

theorem zero_eq_of (kind : ContentKind) : zero kind = of kind Counters.zero := by
  cases kind <;> rfl

section

variable (kind : ContentKind) (table : Counters kind.tracker.Counted)

@[simp] theorem kind_of : (of kind table).kind = kind := by
  cases kind <;> rfl

theorem take_of (deltas : Deltas kind.tracker.Counted) :
    (of kind table).take (.of kind.tracker deltas) =
      (table.addAll deltas.toList).map (of kind) := by
  cases kind <;> rfl

@[simp] theorem table?_of : (of kind table).table? kind = some table := by
  cases kind <;> rfl

theorem value_of (counter : kind.tracker.Counted) :
    (of kind table).value (.of kind.tracker counter) = (table.get counter).val := by
  cases kind <;> rfl

end

theorem exists_of_kind {counters : ContentCounters} {kind : ContentKind}
    (isKind : counters.kind = kind) : ∃ table, of kind table = counters := by
  obtain ⟨other, table, rfl⟩ := counters.exists_of
  rw [kind_of] at isKind
  subst isKind
  exact ⟨table, rfl⟩

theorem table?_of_ne {counters : ContentCounters} {kind : ContentKind}
    (different : counters.kind ≠ kind) : counters.table? kind = none := by
  cases counters <;> cases kind <;> first | rfl | exact absurd rfl different

theorem value_of_ne {counters : ContentCounters} {counter : Counter}
    (foreign : counter.kind ≠ counters.kind.tracker) : counters.value counter = 0 := by
  cases counters <;> cases counter <;> first | rfl | exact absurd rfl foreign

/-- A batch for content of the same kind moves every counter by its amount. -/
theorem value_of_take {counters next : ContentCounters} {batch : Batch}
    (isKind : batch.kind = counters.kind.tracker) (taken : counters.take batch = .ok next) :
    next.kind = counters.kind ∧
      ∀ counter, next.value counter = counters.value counter + batch.amount counter := by
  obtain ⟨kind, table, rfl⟩ := counters.exists_of
  rw [kind_of] at isKind
  obtain ⟨deltas, rfl⟩ := Batch.kind_eq_iff.mp isKind
  rw [take_of] at taken
  obtain ⟨sums, added, rfl⟩ := Answer.map_eq_ok_iff.mp taken
  refine ⟨by rw [kind_of, kind_of], fun counter => ?_⟩
  by_cases own : counter.kind = kind.tracker
  · obtain ⟨named, rfl⟩ := Counter.kind_eq_iff.mp own
    rw [value_of, value_of, Batch.amount_of, ← Deltas.amountIn_toList]
    exact Counters.val_get_of_addAll added named
  · rw [value_of_ne (by rwa [kind_of]), value_of_ne (by rwa [kind_of]),
      Batch.amount_of_ne (by rwa [isKind])]
    rfl

end ContentCounters

namespace Memory

def newContent (key : Key) (kind : ContentKind) (authorId : String) : ContentTracker where
  id := key.id
  kind := kind
  contentId := key.entityId
  ownerId := authorId
  day := key.periodStart
  counters := ContentCounters.zero kind

@[simp] theorem users_withContents (memory : Memory) (kind : ContentKind)
    (shelf : Shelf ContentTracker) : (memory.withContents kind shelf).users = memory.users := by
  cases kind <;> rfl

theorem contents_withContents (memory : Memory) (kind other : ContentKind)
    (shelf : Shelf ContentTracker) :
    (memory.withContents kind shelf).contents other =
      if other = kind then shelf else memory.contents other := by
  cases kind <;> cases other <;> rfl

def Holds (memory : Memory) (key : Key) : Prop :=
  match key.kind with
  | .user => ∃ tracker, memory.users.find? key.id = some tracker
  | .post => ∃ tracker, memory.posts.find? key.id = some tracker
  | .comment => ∃ tracker, memory.comments.find? key.id = some tracker

theorem holds_user_iff {memory : Memory} {key : Key} (isUser : key.kind = .user) :
    memory.Holds key ↔ ∃ tracker, memory.users.find? key.id = some tracker := by
  rw [Holds, isUser]

theorem holds_content_iff {memory : Memory} {key : Key} {kind : ContentKind}
    (isKind : key.kind = kind.tracker) :
    memory.Holds key ↔ ∃ tracker, (memory.contents kind).find? key.id = some tracker := by
  cases kind with
  | post =>
      rw [Holds, isKind]
      rfl
  | comment =>
      rw [Holds, isKind]
      rfl

theorem Holds.insertUser {memory : Memory} {key : Key} (held : memory.Holds key) (id : String)
    (tracker : UserTracker) :
    { memory with users := memory.users.insert id tracker }.Holds key := by
  rcases key.kind.eq_user_or_content with isUser | ⟨kind, isKind⟩
  · exact (holds_user_iff isUser).mpr
      (Shelf.exists_find?_insert ((holds_user_iff isUser).mp held) id tracker)
  · have present := (holds_content_iff isKind).mp held
    refine (holds_content_iff isKind).mpr ?_
    cases kind <;> exact present

theorem Holds.insertContent {memory : Memory} {key : Key} (held : memory.Holds key)
    (kind : ContentKind) (id : String) (tracker : ContentTracker) :
    (memory.withContents kind ((memory.contents kind).insert id tracker)).Holds key := by
  rcases key.kind.eq_user_or_content with isUser | ⟨other, isKind⟩
  · rw [holds_user_iff isUser, users_withContents]
    exact (holds_user_iff isUser).mp held
  · rw [holds_content_iff isKind, contents_withContents]
    split
    · rename_i same
      subst same
      exact Shelf.exists_find?_insert ((holds_content_iff isKind).mp held) id tracker
    · exact (holds_content_iff isKind).mp held

/-! ## Adding a batch -/

/-- A batch is added to a user where there is a tracker with a slot for the day, and both the day
and the month take it. -/
theorem incrementUser_eq_ok_iff {memory next : Memory} {key : Key} {deltas : Deltas UserCounter} :
    memory.incrementUser key deltas = .ok next ↔
      ∃ tracker slot day nextDay nextMonth, memory.users.find? key.id = some tracker ∧
        slotOf key.dayOfMonth = some slot ∧ tracker.days[slot]? = some day ∧
        day.addAll deltas.toList = .ok nextDay ∧
        tracker.monthly.addAll deltas.toList = .ok nextMonth ∧
        next = { memory with
          users := memory.users.insert key.id
            { tracker with monthly := nextMonth, days := tracker.days.set slot nextDay } } := by
  constructor
  · intro applied
    unfold incrementUser at applied
    cases found : memory.users.find? key.id with
    | none =>
        rw [found] at applied
        cases applied
    | some tracker =>
        simp only [found] at applied
        split at applied
        · cases applied
        · rename_i slot day chosen
          obtain ⟨position, atSlot, inSlots⟩ := Option.bind_eq_some_iff.mp chosen
          obtain ⟨here, present, same⟩ := Option.map_eq_some_iff.mp inSlots
          cases same
          split at applied
          · cases applied
          · rename_i nextDay nextMonth both
            cases applied
            obtain ⟨daySum, monthSum⟩ := (addToBoth_eq_ok_iff _ _ _ _ _).mp both
            exact ⟨tracker, slot, day, nextDay, nextMonth, rfl, atSlot, present, daySum, monthSum,
              rfl⟩
  · rintro ⟨tracker, slot, day, nextDay, nextMonth, found, atSlot, present, daySum, monthSum, rfl⟩
    have both := (addToBoth_eq_ok_iff _ _ _ _ _).mpr ⟨daySum, monthSum⟩
    simp [incrementUser, found, atSlot, present, both]

theorem applyBatch_content (memory : Memory) (key : Key) (kind : ContentKind)
    (deltas : Deltas kind.tracker.Counted) :
    memory.applyBatch key (.of kind.tracker deltas) = memory.incrementContent key kind deltas := by
  cases kind <;> rfl

theorem applyBatch_content_eq_ok_iff {memory next : Memory} {key : Key} {kind : ContentKind}
    {batch : Batch} {tracker : ContentTracker} (isKind : batch.kind = kind.tracker)
    (found : (memory.contents kind).find? key.id = some tracker)
    (sameKind : tracker.counters.kind = kind) :
    memory.applyBatch key batch = .ok next ↔
      ∃ counters, tracker.counters.take batch = .ok counters ∧
        next = memory.withContents kind
          ((memory.contents kind).insert key.id { tracker with counters := counters }) := by
  obtain ⟨deltas, rfl⟩ := Batch.kind_eq_iff.mp isKind
  obtain ⟨table, held⟩ := ContentCounters.exists_of_kind sameKind
  rw [applyBatch_content, ← held, ContentCounters.take_of]
  simp only [incrementContent, found, ← held, ContentCounters.table?_of]
  cases table.addAll deltas.toList with
  | error cause => simp [Except.map]
  | ok sums => simp [Except.map, eq_comm]

theorem exists_of_applyBatch_content {memory next : Memory} {key : Key} {kind : ContentKind}
    {batch : Batch} (isKind : batch.kind = kind.tracker)
    (applied : memory.applyBatch key batch = .ok next) :
    ∃ tracker, (memory.contents kind).find? key.id = some tracker ∧
      (tracker.counters.kind ≠ kind → next = memory) := by
  obtain ⟨deltas, rfl⟩ := Batch.kind_eq_iff.mp isKind
  rw [applyBatch_content] at applied
  cases found : (memory.contents kind).find? key.id with
  | none =>
      simp only [incrementContent, found] at applied
      cases applied
  | some tracker =>
      refine ⟨tracker, rfl, fun different => ?_⟩
      simp only [incrementContent, found, ContentCounters.table?_of_ne different] at applied
      cases applied
      rfl

/-- An increment by a batch is refused by the store only, on its own tracker. -/
theorem error_of_applyBatch {memory : Memory} {key : Key} {batch : Batch} {error : Error}
    (refused : memory.applyBatch key batch = .error error) :
    ∃ reason, error = .storage key.id reason [] := by
  rcases batch.eq_user_or_content with ⟨deltas, rfl⟩ | ⟨kind, deltas, rfl⟩
  · simp only [applyBatch, incrementUser] at refused
    repeat' split at refused
    all_goals cases refused
    all_goals exact ⟨_, rfl⟩
  · rw [applyBatch_content, incrementContent] at refused
    repeat' split at refused
    all_goals cases refused
    all_goals exact ⟨_, rfl⟩

/-! ## Ranges -/

theorem contentRange_eq (kind : ContentKind) (contentId : String) (first last : Key)
    (memory : Memory) :
    contentRange kind contentId first last memory =
      (Key.checkRange kind.tracker contentId first last).map fun _ =>
        ((memory.contents kind).range first.id last.id).filter fun tracker =>
          tracker.contentId = contentId := by
  simp only [contentRange, Shelf.guarded_slice]

theorem userRange_eq (userId : String) (first last : Key) (memory : Memory) :
    userRange userId first last memory =
      (Key.checkRange .user userId first last).map fun _ =>
        (memory.users.range first.id last.id).filter fun tracker => tracker.userId = userId := by
  simp only [userRange, Shelf.guarded_slice]

/-! ## Steps -/

/-- What a call answers and what it leaves. -/
inductive Step (memory : Memory) : StoreCall → StoreAnswer → Memory → Prop where
  | refused (call : StoreCall) (error : Error) : Step memory call (.error error) memory
  | gotContent (key : Key) (tracker : Option ContentTracker)
      (read : content? key memory = .ok tracker) :
      Step memory (.content key) (.ok (.content tracker)) memory
  | gotUser (key : Key) (tracker : Option UserTracker) (read : user? key memory = .ok tracker) :
      Step memory (.user key) (.ok (.user tracker)) memory
  | scannedContents (kind : ContentKind) (contentId : String) (first last : Key)
      (trackers : List ContentTracker)
      (read : contentRange kind contentId first last memory = .ok trackers) :
      Step memory (.contentRange kind contentId first last) (.ok (.contents trackers)) memory
  | scannedUsers (userId : String) (first last : Key) (trackers : List UserTracker)
      (read : userRange userId first last memory = .ok trackers) :
      Step memory (.userRange userId first last) (.ok (.users trackers)) memory
  | present (key : Key) (template : Template)
      (describes : template.kind = key.kind ∧ template.entityId = key.entityId)
      (held : memory.Holds key) :
      Step memory (.ensure key template) (.ok (.created false)) memory
  | openedUser (key : Key) (isUser : key.kind = .user)
      (absent : memory.users.find? key.id = none) :
      Step memory (.ensure key (.user key.entityId)) (.ok (.created true))
        { memory with
          users := memory.users.insert key.id
            (UserTracker.zero key.id key.entityId key.periodStart key.daysInMonth) }
  | openedContent (key : Key) (template : Template) (kind : ContentKind) (authorId : String)
      (describes : template.kind = key.kind ∧ template.entityId = key.entityId)
      (isKind : key.kind = kind.tracker) (names : template.authorId? = some authorId)
      (absent : (memory.contents kind).find? key.id = none) :
      Step memory (.ensure key template) (.ok (.created true))
        (memory.withContents kind
          ((memory.contents kind).insert key.id (newContent key kind authorId)))
  | addedToUser (key : Key) (updates : List Update) (deltas : Deltas UserCounter)
      (tracker : UserTracker) (slot : Nat) (day nextDay nextMonth : Counters UserCounter)
      (merged : Batch.ofUpdates key updates = .ok (.user deltas))
      (found : memory.users.find? key.id = some tracker)
      (position : slotOf key.dayOfMonth = some slot) (here : tracker.days[slot]? = some day)
      (daySum : day.addAll deltas.toList = .ok nextDay)
      (monthSum : tracker.monthly.addAll deltas.toList = .ok nextMonth) :
      Step memory (.increment key updates) (.ok .done)
        { memory with
          users := memory.users.insert key.id
            { tracker with monthly := nextMonth, days := tracker.days.set slot nextDay } }
  | addedToContent (key : Key) (updates : List Update) (kind : ContentKind) (batch : Batch)
      (tracker : ContentTracker) (counters : ContentCounters)
      (merged : Batch.ofUpdates key updates = .ok batch) (isKind : key.kind = kind.tracker)
      (found : (memory.contents kind).find? key.id = some tracker)
      (sameKind : tracker.counters.kind = kind)
      (sum : tracker.counters.take batch = .ok counters) :
      Step memory (.increment key updates) (.ok .done)
        (memory.withContents kind
          ((memory.contents kind).insert key.id { tracker with counters := counters }))
  | ignored (key : Key) (updates : List Update) (kind : ContentKind) (tracker : ContentTracker)
      (isKind : key.kind = kind.tracker)
      (found : (memory.contents kind).find? key.id = some tracker)
      (otherKind : tracker.counters.kind ≠ kind) :
      Step memory (.increment key updates) (.ok .done) memory

namespace Step

variable {memory : Memory}

theorem of_ensureContent {key : Key} {template : Template} (kind : ContentKind)
    {authorId : String} (describes : template.kind = key.kind ∧ template.entityId = key.entityId)
    (isKind : key.kind = kind.tracker) (names : template.authorId? = some authorId) :
    Step memory (.ensure key template) (.ok (.created (memory.ensureContent key kind authorId).1))
      (memory.ensureContent key kind authorId).2 := by
  unfold ensureContent
  split
  · rename_i tracker found
    exact .present key template describes ((holds_content_iff isKind).mpr ⟨tracker, found⟩)
  · rename_i absent
    exact .openedContent key template kind authorId describes isKind names absent

theorem of_ensure (key : Key) (template : Template) :
    Step memory (.ensure key template) ((ensure key template memory).1.map .created)
      (ensure key template memory).2 := by
  unfold ensure Key.checkTemplate
  by_cases describes : template.kind = key.kind ∧ template.entityId = key.entityId
  · rw [if_pos describes]
    cases template with
    | user userId =>
        have isUser : key.kind = .user := describes.1.symm
        have same : userId = key.entityId := describes.2
        show Step memory _ (.ok (.created (memory.ensureUser key userId).1))
          (memory.ensureUser key userId).2
        unfold ensureUser
        split
        · rename_i tracker found
          exact .present key _ describes ((holds_user_iff isUser).mpr ⟨tracker, found⟩)
        · rename_i absent
          rw [same]
          exact .openedUser key isUser absent
    | post postId authorId =>
        exact of_ensureContent .post describes describes.1.symm rfl
    | comment commentId authorId =>
        exact of_ensureContent .comment describes describes.1.symm rfl
  · rw [if_neg describes]
    exact .refused _ _

theorem of_incrementUser {key : Key} {updates : List Update} {deltas : Deltas UserCounter}
    (merged : Batch.ofUpdates key updates = .ok (.user deltas)) {next : Memory}
    (applied : memory.incrementUser key deltas = .ok next) :
    Step memory (.increment key updates) (.ok .done) next := by
  obtain ⟨tracker, slot, day, nextDay, nextMonth, found, position, here, daySum, monthSum, rfl⟩ :=
    incrementUser_eq_ok_iff.mp applied
  exact .addedToUser key updates deltas tracker slot day nextDay nextMonth merged found position
    here daySum monthSum

theorem of_applyContent {key : Key} {updates : List Update} (kind : ContentKind) {batch : Batch}
    (merged : Batch.ofUpdates key updates = .ok batch) (sameBatch : batch.kind = kind.tracker)
    {next : Memory} (applied : memory.applyBatch key batch = .ok next) :
    Step memory (.increment key updates) (.ok .done) next := by
  have isKind : key.kind = kind.tracker := (Batch.kind_of_ofUpdates merged).symm.trans sameBatch
  obtain ⟨tracker, found, ignoring⟩ := exists_of_applyBatch_content sameBatch applied
  by_cases sameKind : tracker.counters.kind = kind
  · obtain ⟨counters, sum, rfl⟩ :=
      (applyBatch_content_eq_ok_iff sameBatch found sameKind).mp applied
    exact .addedToContent key updates kind batch tracker counters merged isKind found sameKind sum
  · rw [ignoring sameKind]
    exact .ignored key updates kind tracker isKind found sameKind

theorem of_increment (key : Key) (updates : List Update) :
    Step memory (.increment key updates) ((increment key updates memory).1.map fun _ => .done)
      (increment key updates memory).2 := by
  unfold increment
  split
  · rename_i next chained
    obtain ⟨batch, merged, applied⟩ := Answer.bind_eq_ok_iff.mp chained
    cases batch with
    | user deltas => exact of_incrementUser merged applied
    | post deltas => exact of_applyContent .post merged rfl applied
    | comment deltas => exact of_applyContent .comment merged rfl applied
  · exact .refused _ _

/-- A call that only reads answers and leaves the memory as it is. -/
theorem of_reading {α : Type} {call : StoreCall} {value : α → StoreValue} (answer : Except Error α)
    (given : ∀ a, answer = .ok a → Step memory call (.ok (value a)) memory) :
    Step memory call (answer.map value) memory := by
  cases answer with
  | error error => exact .refused call error
  | ok a => exact given a rfl

end Step

/-- Every call on a memory is a step. -/
theorem step_perform (memory : Memory) (call : StoreCall) :
    Step memory call (store.perform call memory).1 (store.perform call memory).2 := by
  cases call with
  | ensure key template => exact Step.of_ensure key template
  | increment key updates => exact Step.of_increment key updates
  | content key => exact Step.of_reading _ (Step.gotContent key)
  | user key => exact Step.of_reading _ (Step.gotUser key)
  | contentRange kind contentId first last =>
      exact Step.of_reading _ (Step.scannedContents kind contentId first last)
  | userRange userId first last => exact Step.of_reading _ (Step.scannedUsers userId first last)

end Memory

end ActivityLedger
