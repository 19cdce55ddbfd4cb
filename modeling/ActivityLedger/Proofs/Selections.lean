import ActivityLedger.Proofs.Courses
import ActivityLedger.Proofs.Scans
import ActivityLedger.Query.Query

/-!
# Selections as loops of lookups

A memory that came about by recordings, and by calls with keys that were built, has
every tracker at the key of its own entity and period.  A request to it selects what a
plain loop of lookups over the periods of its window finds, in that order.
-/

namespace ActivityLedger

/-! ## Filed memories -/

namespace Memory

/-- The memories that come about by recordings, whatever becomes of them, and by calls that
change trackers only at keys that were built. -/
inductive Reachable : Memory → Prop where
  | empty : Reachable Memory.empty
  | recorded {memory : Memory} (reachable : Reachable memory) (directory : Directory)
      (event : Event) (date : Date) : Reachable (record store directory event date memory).2
  | called {memory : Memory} (reachable : Reachable memory) (call : StoreCall)
      (built : call.IsBuilt) : Reachable (store.perform call memory).2

def TellsBuilt (memory : Memory) : Prop :=
  ∃ log : Log, memory.Reflects log ∧ ∀ key ∈ log.keys, key.IsBuilt

theorem TellsBuilt.perform (call : StoreCall) (memory : Memory) (built : call.IsBuilt)
    (tells : memory.TellsBuilt) : (store.perform call memory).2.TellsBuilt := by
  obtain ⟨log, reflects, builtKeys⟩ := tells
  refine ⟨log.enter call (store.perform call memory).1, reflects.perform call, ?_⟩
  intro key member
  cases answered : (store.perform call memory).1 with
  | error error =>
      rw [answered, Log.enter_error] at member
      exact builtKeys key member
  | ok value =>
      rw [answered] at member
      cases call with
      | ensure own template =>
          rcases (log.growsAt_ensure own template value).keys key member with before | rfl
          · exact builtKeys key before
          · exact built
      | increment own updates =>
          rcases (log.growsAt_increment own updates value).keys key member with before | rfl
          · exact builtKeys key before
          · exact built
      | content | user | contentRange | userRange => exact builtKeys key member

theorem Reachable.tellsBuilt {memory : Memory} (reachable : memory.Reachable) :
    memory.TellsBuilt := by
  induction reachable with
  | empty => exact ⟨Log.empty, Reflects.empty, by simp [Log.keys, Log.empty]⟩
  | recorded _ directory event date ih =>
      exact Record.record_induction TellsBuilt.perform directory event date ih
  | called _ call built ih => exact ih.perform call _ built

theorem Reachable.filed_users {memory : Memory} (reachable : memory.Reachable) :
    memory.users.Filed .user UserTracker.userId UserTracker.month := by
  obtain ⟨log, reflects, built⟩ := reachable.tellsBuilt
  intro id tracker found
  obtain ⟨opener, first, tells⟩ := reflects.users id tracker found
  obtain ⟨listed, isUser, here⟩ := Log.of_opener? first
  obtain ⟨date, compact, _, same⟩ := Key.isBuilt_iff.mp
    (built opener.1 (List.mem_append_left _ (List.mem_map_of_mem listed)))
  rw [isUser] at same
  refine ⟨date, compact, ?_, ?_⟩
  · rw [← here, tells.userId]
    exact congrArg Key.id same
  · rw [tells.month]
    exact congrArg Key.periodStart same

theorem Reachable.filed_contents {memory : Memory} (reachable : memory.Reachable)
    (kind : ContentKind) :
    (memory.contents kind).Filed kind.tracker ContentTracker.contentId ContentTracker.day := by
  obtain ⟨log, reflects, built⟩ := reachable.tellsBuilt
  intro id tracker found
  obtain ⟨opener, first, tells⟩ := reflects.contents kind id tracker found
  obtain ⟨listed, isKind, here⟩ := Log.of_opener? first
  obtain ⟨date, compact, _, same⟩ := Key.isBuilt_iff.mp
    (built opener.1 (List.mem_append_left _ (List.mem_map_of_mem listed)))
  rw [isKind] at same
  refine ⟨date, compact, ?_, ?_⟩
  · rw [← here, tells.contentId]
    exact congrArg Key.id same
  · rw [tells.day]
    exact congrArg Key.periodStart same

end Memory

/-! ## Windows -/

/-- A request that means a window has an order of dates, and means a single period or an
interval that is not too long. -/
theorem Window.of_resolve {kind : TrackerKind} {limit : Small} {today : Date}
    {first? last? : Option Date} {window : Window}
    (resolved : resolve kind limit today first? last? = .ok window) :
    let first := first?.getD today
    let last := last?.getD today
    ¬ last.Before first ∧
      ((window = .point first ∧ SamePeriod kind first last) ∨
        (window = .range first last ∧ days first last ≤ limit.val)) := by
  have ofBetween {first last : Date} (given : between kind limit first last = .ok window) :
      ¬ last.Before first ∧
        ((window = .point first ∧ SamePeriod kind first last) ∨
          (window = .range first last ∧ days first last ≤ limit.val)) := by
    unfold between at given
    split at given
    · cases given
    · rename_i order
      split at given
      · rename_i same
        cases given
        exact ⟨order, Or.inl ⟨rfl, same⟩⟩
      · split at given
        · cases given
        · rename_i short
          cases given
          exact ⟨order, Or.inr ⟨rfl, Int.not_lt.mp short⟩⟩
  cases first? with
  | none =>
      cases last? with
      | none =>
          cases resolved
          refine ⟨?_, Or.inl ⟨rfl, (Date.samePeriod_iff kind today today).mpr rfl⟩⟩
          simp [Date.Before]
      | some last => cases resolved
  | some first =>
      cases last? with
      | none => exact ofBetween resolved
      | some last => exact ofBetween resolved

/-! ## Loops -/

/-- What is present among lookups one after the other. -/
def loop {α : Type} (lookup : Date → Except Error (Option α)) (dates : List Date) :
    Except Error (List α) :=
  (dates.mapM lookup).map fun found => found.filterMap id

/-- The trackers of a post or a comment that are present at given dates, looked up one by one. -/
def Store.contentLoop {σ : Type} (store : Store σ) (kind : ContentKind) (contentId : String)
    (dates : List Date) (state : σ) : Except Error (List ContentTracker) :=
  loop (fun date => (Key.build kind.tracker contentId date).bind fun key =>
    store.content? key state) dates

/-- The trackers of a user that are present at given dates, looked up one by one. -/
def Store.userLoop {σ : Type} (store : Store σ) (userId : String) (dates : List Date) (state : σ) :
    Except Error (List UserTracker) :=
  loop (fun date => (Key.build .user userId date).bind fun key => store.user? key state) dates

theorem loop_eq_ok {α : Type} {lookup : Date → Except Error (Option α)} {found : Date → Option α}
    {dates : List Date} (each : ∀ date ∈ dates, lookup date = .ok (found date)) :
    loop lookup dates = .ok (dates.filterMap found) := by
  have all : dates.mapM lookup = .ok (dates.map found) :=
    Answer.mapM_eq_ok_iff.mpr (List.forall₂_map_right_iff.mpr (List.forall₂_same.mpr each))
  rw [loop, all, Except.map, List.filterMap_map]
  rfl

/-- A selection is what lookups find at dates in order, of one entity, no period twice, and no
more than a limit. -/
structure Selects {α : Type} (entity : α → String) (period : α → Date) (entityId : String)
    (limit : Small) (selected : List α) : Prop where
  own : ∀ tracker ∈ selected, entity tracker = entityId
  once : (selected.map period).Nodup
  short : selected.length ≤ max 1 limit.toNat

namespace Window

variable {α : Type} {shelf : Shelf α} {kind : TrackerKind} {entity : α → String}
  {period : α → Date}

/-- The values that a window of the century selects for an entity: those of one lookup, or the
entity's part of a scan. -/
def Yields (shelf : Shelf α) (kind : TrackerKind) (entity : α → String) (entityId : String)
    (selected : List α) : Window → Prop
  | .point date => date.HasCompact ∧
      selected = (shelf.find? (Key.idText kind entityId date)).toList
  | .range first last => (first.HasCompact ∧ last.HasCompact) ∧
      selected = (shelf.range (Key.idText kind entityId first)
        (Key.idText kind entityId last)).filter fun value => entity value = entityId

/-- What a request's window selects is what lookups over its periods find. -/
theorem Yields.eq_lookups (filed : shelf.Filed kind entity period) {entityId : String}
    {limit : Small} {today : Date} {first? last? : Option Date} {window : Window}
    (resolved : resolve kind limit today first? last? = .ok window) {selected : List α}
    (yields : window.Yields shelf kind entity entityId selected) :
    let dates := Date.periods kind (first?.getD today) (last?.getD today)
    (∀ date ∈ dates, date.HasCompact) ∧ selected = shelf.lookups kind entityId dates := by
  obtain ⟨order, meant⟩ := of_resolve resolved
  obtain ⟨ordered, _⟩ := Date.periodNumber_sub_le kind order
  rcases meant with ⟨rfl, same⟩ | ⟨rfl, _⟩
  · obtain ⟨compact, rfl⟩ := yields
    refine ⟨?_, Shelf.toList_find?_eq_lookups entityId compact same⟩
    obtain ⟨met, only, sameMet⟩ := Date.periods_of_samePeriod same
    intro date member
    rw [only, List.mem_singleton] at member
    rw [member, Date.HasCompact, Date.year_eq_of_samePeriod sameMet]
    exact compact
  · obtain ⟨⟨compact, lastCompact⟩, rfl⟩ := yields
    exact ⟨fun _ => Date.compact_of_mem_periods compact lastCompact (by omega),
      Shelf.range_filter_eq_lookups filed entityId compact lastCompact (by omega)⟩

theorem selects_lookups (filed : shelf.Filed kind entity period) (entityId : String)
    {limit : Small} {today : Date} {first? last? : Option Date} {window : Window}
    (resolved : resolve kind limit today first? last? = .ok window)
    (compact : ∀ date ∈ Date.periods kind (first?.getD today) (last?.getD today),
      date.HasCompact) :
    Selects entity period entityId limit
      (shelf.lookups kind entityId
        (Date.periods kind (first?.getD today) (last?.getD today))) := by
  obtain ⟨order, meant⟩ := of_resolve resolved
  obtain ⟨ordered, spread⟩ := Date.periodNumber_sub_le kind order
  refine ⟨fun _ => Shelf.entity_of_mem_lookups filed compact,
    Shelf.nodup_lookups filed entityId compact (Date.ascending_periods kind _ _ (by omega)), ?_⟩
  refine Nat.le_trans (shelf.length_lookups_le kind entityId _) ?_
  rw [Date.length_periods kind _ _ (by omega)]
  rcases meant with ⟨_, same⟩ | ⟨_, short⟩
  · have equal := (Date.samePeriod_iff kind _ _).mp same
    omega
  · simp only [days, Date.daysUntil] at short
    rw [Small.toNat]
    omega

end Window

namespace Memory

variable {memory : Memory}

theorem content?_of_build (memory : Memory) (kind : ContentKind) {contentId : String} {date : Date}
    (named : contentId ≠ "") (compact : date.HasCompact) :
    ((Key.build kind.tracker contentId date).bind fun key => content? key memory) =
      .ok ((memory.contents kind).find? (Key.idText kind.tracker contentId date)) := by
  rw [Key.build_eq_ok_iff.mpr ⟨⟨named, compact⟩, rfl⟩]
  cases kind <;> rfl

theorem user?_of_build (memory : Memory) {userId : String} {date : Date} (named : userId ≠ "")
    (compact : date.HasCompact) :
    ((Key.build .user userId date).bind fun key => user? key memory) =
      .ok (memory.users.find? (Key.idText .user userId date)) := by
  rw [Key.build_eq_ok_iff.mpr ⟨⟨named, compact⟩, rfl⟩]
  rfl

theorem yields_of_selectContent {limit : Small} {today : Date} {kind : ContentKind}
    {request : Request} {selection : Selection ContentTracker}
    (selected : selectContent store limit today kind request memory = .ok selection) :
    request.entityId ≠ "" ∧ ∃ window,
      Window.resolve kind.tracker limit today request.first request.last = .ok window ∧
        window.Yields (memory.contents kind) kind.tracker ContentTracker.contentId
          request.entityId selection.toList := by
  unfold selectContent at selected
  split at selected
  · cases selected
  · rename_i named
    obtain ⟨window, resolved, rest⟩ := Answer.bind_eq_ok_iff.mp selected
    refine ⟨named, window, resolved, ?_⟩
    cases window with
    | point date =>
        obtain ⟨key, built, rest⟩ := Answer.bind_eq_ok_iff.mp rest
        obtain ⟨⟨_, compact⟩, rfl⟩ := Key.build_eq_ok_iff.mp built
        obtain ⟨tracker, got, same⟩ := Answer.bind_eq_ok_iff.mp rest
        have lookup := content?_of_build memory kind named compact
        rw [built] at lookup
        cases lookup.symm.trans got
        cases same
        exact ⟨compact, rfl⟩
    | range first last =>
        obtain ⟨firstKey, built, rest⟩ := Answer.bind_eq_ok_iff.mp rest
        obtain ⟨⟨_, compact⟩, rfl⟩ := Key.build_eq_ok_iff.mp built
        obtain ⟨lastKey, builtLast, rest⟩ := Answer.bind_eq_ok_iff.mp rest
        obtain ⟨⟨_, lastCompact⟩, rfl⟩ := Key.build_eq_ok_iff.mp builtLast
        obtain ⟨trackers, got, same⟩ := Answer.bind_eq_ok_iff.mp rest
        replace got := (contentRange_eq _ _ _ _ _).symm.trans got
        obtain ⟨_, _, scanned⟩ := Answer.map_eq_ok_iff.mp got
        cases same
        exact ⟨⟨compact, lastCompact⟩, scanned.symm⟩

theorem yields_of_selectUser {limit : Small} {today : Date} {request : Request}
    {selection : Selection UserTracker}
    (selected : selectUser store limit today request memory = .ok selection) :
    request.entityId ≠ "" ∧ ∃ window,
      Window.resolve .user limit today request.first request.last = .ok window ∧
        window.Yields memory.users .user UserTracker.userId request.entityId
          selection.toList := by
  unfold selectUser at selected
  split at selected
  · cases selected
  · rename_i named
    obtain ⟨window, resolved, rest⟩ := Answer.bind_eq_ok_iff.mp selected
    refine ⟨named, window, resolved, ?_⟩
    cases window with
    | point date =>
        obtain ⟨key, built, rest⟩ := Answer.bind_eq_ok_iff.mp rest
        obtain ⟨⟨_, compact⟩, rfl⟩ := Key.build_eq_ok_iff.mp built
        obtain ⟨tracker, got, same⟩ := Answer.bind_eq_ok_iff.mp rest
        have lookup := user?_of_build memory named compact
        rw [built] at lookup
        cases lookup.symm.trans got
        cases same
        exact ⟨compact, rfl⟩
    | range first last =>
        obtain ⟨firstKey, built, rest⟩ := Answer.bind_eq_ok_iff.mp rest
        obtain ⟨⟨_, compact⟩, rfl⟩ := Key.build_eq_ok_iff.mp built
        obtain ⟨lastKey, builtLast, rest⟩ := Answer.bind_eq_ok_iff.mp rest
        obtain ⟨⟨_, lastCompact⟩, rfl⟩ := Key.build_eq_ok_iff.mp builtLast
        obtain ⟨trackers, got, same⟩ := Answer.bind_eq_ok_iff.mp rest
        replace got := (userRange_eq _ _ _ _).symm.trans got
        obtain ⟨_, _, scanned⟩ := Answer.map_eq_ok_iff.mp got
        cases same
        exact ⟨⟨compact, lastCompact⟩, scanned.symm⟩

/-- What a request selects from a reachable memory is what a plain loop of lookups finds, day by
day for a post or a comment and month by month for a user, from the effective start to the
effective end.  It counts for the requested entity only, has no period twice, and is no longer
than the limit allows. -/
theorem select_eq_loop (reachable : memory.Reachable) (limit : Small) (today : Date)
    (request : Request) :
    let first := request.first.getD today
    let last := request.last.getD today
    (∀ kind selection, selectContent store limit today kind request memory = .ok selection →
      store.contentLoop kind request.entityId (Date.days first last) memory =
          .ok selection.toList ∧
        Selects ContentTracker.contentId ContentTracker.day request.entityId limit
          selection.toList) ∧
    ∀ selection, selectUser store limit today request memory = .ok selection →
      store.userLoop request.entityId (Date.months first last) memory = .ok selection.toList ∧
        Selects UserTracker.userId UserTracker.month request.entityId limit selection.toList := by
  constructor
  · intro kind selection selected
    obtain ⟨named, window, resolved, yields⟩ := yields_of_selectContent selected
    have filed := reachable.filed_contents kind
    obtain ⟨compact, same⟩ := yields.eq_lookups filed resolved
    have dates : Date.periods kind.tracker (request.first.getD today) (request.last.getD today) =
        Date.days (request.first.getD today) (request.last.getD today) := by
      cases kind <;> rfl
    have selects := Window.selects_lookups filed request.entityId resolved compact
    rw [dates] at compact same selects
    rw [same]
    exact ⟨loop_eq_ok fun date member => content?_of_build memory kind named
      (compact date member), selects⟩
  · intro selection selected
    obtain ⟨named, window, resolved, yields⟩ := yields_of_selectUser selected
    have filed := reachable.filed_users
    obtain ⟨compact, same⟩ := yields.eq_lookups filed resolved
    have selects := Window.selects_lookups filed request.entityId resolved compact
    rw [same]
    exact ⟨loop_eq_ok fun date member => user?_of_build memory named (compact date member),
      selects⟩

/-- A post over the end of a month, and another post whose key lies between its keys. -/
def neighbours : Memory :=
  let record event date memory := (record store Registry.empty.directory event date memory).2
  record ((Event.updatePost (.user "bo") "ana" "p1").withVote .up) february
    (record (.createPost "ana" "p1240") longBefore (record (.createPost "ana" "p1") january empty))

theorem select_eq_loop_neighbours :
    ∃ selection : Selection ContentTracker,
      selectContent store Window.defaultLimit february .post ⟨"p1", some january, none⟩ neighbours =
          .ok selection ∧
        selection.size = 2 ∧
        store.contentLoop .post "p1" (Date.days january february) neighbours =
            .ok selection.toList ∧
        Selects ContentTracker.contentId ContentTracker.day "p1" Window.defaultLimit
          selection.toList := by
  have reachable : neighbours.Reachable :=
    ((Reachable.empty.recorded _ _ _).recorded _ _ _).recorded _ _ _
  have size : (selectContent store Window.defaultLimit february .post
      ⟨"p1", some january, none⟩ neighbours).map Selection.size = .ok 2 := by
    decide +kernel
  obtain ⟨selection, selected, two⟩ := Answer.map_eq_ok_iff.mp size
  exact ⟨selection, selected, two, (select_eq_loop reachable Window.defaultLimit february
    ⟨"p1", some january, none⟩).1 .post selection selected⟩

end Memory

end ActivityLedger
