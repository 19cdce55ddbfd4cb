import ActivityLedger.Proofs.Assemblies
import ActivityLedger.Proofs.Fronts
import ActivityLedger.Proofs.Verdicts

/-!
# How far counters can go

One event adds to a counter once, and at most as much as an event may carry.  Hence after
some recordings no counter is past that many times the limit, and as long as this is an
amount no recording is refused by the memory: the only error of a store that can be
answered is one that a directory gave for an author.
-/

namespace ActivityLedger

/-! ## Plans -/

namespace Plan

def AtMost (plan : Plan) (limit : Int) : Prop := ∀ update ∈ plan.updates, update.delta.val ≤ limit

namespace AtMost

variable {plan : Plan} {limit : Int}

theorem empty : Plan.empty.AtMost limit := List.forall_mem_nil _

theorem assign (atMost : plan.AtMost limit) (userId : String) (quadrant : Quadrant) :
    (plan.assign userId quadrant).AtMost limit := atMost

theorem track (atMost : plan.AtMost limit) (template : Template) :
    (plan.track template).AtMost limit := by
  unfold Plan.track
  split <;> exact atMost

theorem apply (atMost : plan.AtMost limit) {updates : List Update}
    (added : ∀ update ∈ updates, update.delta.val ≤ limit) : (plan.apply updates).AtMost limit := by
  intro update member
  rcases List.mem_append.mp member with before | new
  · exact atMost update before
  · exact added update (List.mem_of_mem_filter new)

theorem user (atMost : plan.AtMost limit) (userId : String) (quadrant : Quadrant)
    {counters : List (UserCounter × Amount)} (added : ∀ entry ∈ counters, entry.2.val ≤ limit) :
    (plan.user userId quadrant counters).AtMost limit :=
  ((atMost.assign userId quadrant).track _).apply (List.forall_mem_map.mpr added)

theorem post (atMost : plan.AtMost limit) (postId authorId : String)
    {counters : List (PostCounter × Amount)} (added : ∀ entry ∈ counters, entry.2.val ≤ limit) :
    (plan.post postId authorId counters).AtMost limit :=
  (atMost.track _).apply (List.forall_mem_map.mpr added)

theorem comment (atMost : plan.AtMost limit) (commentId authorId : String)
    {counters : List (CommentCounter × Amount)} (added : ∀ entry ∈ counters, entry.2.val ≤ limit) :
    (plan.comment commentId authorId counters).AtMost limit :=
  (atMost.track _).apply (List.forall_mem_map.mpr added)

end AtMost

end Plan

/-! ## The classification -/

@[simp] theorem Event.one_le_countLimit : 1 ≤ countLimit := by decide

@[simp] theorem Event.countLimit_nonneg : 0 ≤ countLimit := by decide

namespace Activity

structure Moderate (activity : Activity) : Prop where
  views : activity.views.val ≤ Event.countLimit
  opens : activity.opens.val ≤ Event.countLimit

theorem moderate_ofEvent {event : Event} (valid : event.Valid) {activity : Activity}
    (read : ofEvent event = .ok activity) : activity.Moderate := by
  obtain ⟨views, readViews, rest⟩ := Answer.bind_eq_ok_iff.mp read
  obtain ⟨opens, readOpens, same⟩ := Answer.bind_eq_ok_iff.mp rest
  cases same
  exact ⟨val_of_amountOf readViews ▸ valid.views, val_of_amountOf readOpens ▸ valid.opens⟩

theorem val_ofBool_le (condition : Bool) : (Amount.ofBool condition).val ≤ Event.countLimit := by
  cases condition <;> decide

@[simp] theorem up_le (activity : Activity) : activity.up.val ≤ Event.countLimit :=
  val_ofBool_le _

@[simp] theorem down_le (activity : Activity) : activity.down.val ≤ Event.countLimit :=
  val_ofBool_le _

@[simp] theorem voted_le (activity : Activity) : activity.voted.val ≤ Event.countLimit :=
  val_ofBool_le _

end Activity

namespace Plan

variable {activity : Activity}

theorem UserAmounts.atMost (moderate : activity.Moderate)
    {counters : List (UserCounter × Amount)} (amounts : UserAmounts activity counters) :
    ∀ entry ∈ counters, entry.2.val ≤ Event.countLimit := by
  cases amounts with
  | wrotePost | commentedOnOwn => simp
  | onOwn => simp [Activity.onOwn, moderate.views, moderate.opens]
  | onOthers | commentedOnOthers => simp [Activity.onOthers, moderate.views, moderate.opens]
  | onOwned | receivedComment => simp [Activity.onOwned, moderate.views, moderate.opens]
  | onOthersComment => simp [Activity.onOthersComment, moderate.views, moderate.opens]
  | onOwnedComment => simp [Activity.onOwnedComment, moderate.views, moderate.opens]

theorem PostAmounts.atMost (moderate : activity.Moderate)
    {counters : List (PostCounter × Amount)} (amounts : PostAmounts activity counters) :
    ∀ entry ∈ counters, entry.2.val ≤ Event.countLimit := by
  cases amounts <;> simp [Activity.onPost, moderate.views, moderate.opens]

theorem CommentAmounts.atMost (moderate : activity.Moderate)
    {counters : List (CommentCounter × Amount)} (amounts : CommentAmounts activity counters) :
    ∀ entry ∈ counters, entry.2.val ≤ Event.countLimit := by
  cases amounts <;> simp [moderate.views, moderate.opens]

theorem Assembled.atMost (moderate : activity.Moderate) {plan : Plan}
    (assembled : plan.Assembled activity) : plan.AtMost Event.countLimit := by
  induction assembled with
  | empty => exact .empty
  | assign _ userId quadrant ih => exact ih.assign userId quadrant
  | user _ userId quadrant amounts ih => exact ih.user userId quadrant (amounts.atMost moderate)
  | post _ postId authorId amounts ih => exact ih.post postId authorId (amounts.atMost moderate)
  | comment _ commentId authorId amounts ih =>
      exact ih.comment commentId authorId (amounts.atMost moderate)

end Plan

/-! ## What recordings add -/

namespace Log

theorem total_filter_le {posted : List (Key × List Update)}
    (natural : ∀ entry ∈ posted, ∀ update ∈ entry.2, 0 ≤ update.delta.val)
    (test : Key × List Update → Bool) (counter : Counter) :
    total (posted.filter test) counter ≤ total posted counter := by
  induction posted with
  | nil => exact Int.le_refl 0
  | cons entry rest ih =>
      obtain ⟨first, others⟩ := List.forall_mem_cons.mp natural
      have here := updatesTotal_nonneg first counter
      have later := ih others
      rw [List.filter_cons, total_cons]
      split
      · rw [total_cons]
        omega
      · omega

/-- The first of calls add no more than all. -/
theorem total_le_of_prefix {done calls : List StoreCall} (isPrefix : done <+: calls)
    (sound : ∀ call ∈ calls, call.Sound) (kind : TrackerKind) (id : String) (counter : Counter) :
    total ((ofCalls done).postedAt kind id) counter ≤
      total ((ofCalls calls).postedAt kind id) counter := by
  obtain ⟨later, rfl⟩ := isPrefix
  have rest := natural_ofCalls fun call member => sound call (List.mem_append_right _ member)
  have added := rest.total_postedAt kind id counter
  rw [ofCalls_append, postedAt_append, total_append]
  omega

end Log

namespace Entry

variable {entry : Entry}

theorem calls_of_counted {plan : Plan} {shares : List Share}
    (prepared : Record.prepare entry.directory entry.event entry.date =
      .ok (.counted plan shares)) :
    entry.calls = (Booking.mk plan entry.date).calls ∧ (Booking.mk plan entry.date).Sound ∧
      plan.AtMost Event.countLimit := by
  obtain ⟨valid, planned, _⟩ := Record.prepare_eq_counted_iff.mp prepared
  obtain ⟨_, sound, addressable, rfl⟩ := Record.prepare_eq_counted prepared
  obtain ⟨authors, _, made⟩ := Answer.bind_eq_ok_iff.mp planned
  obtain ⟨activity, read, classified⟩ := Plan.ofEvent_eq_ok_iff.mp made
  have moderate := Activity.moderate_ofEvent (Event.validate_eq_ok_iff.mp valid) read
  refine ⟨?_, ⟨sound, addressable⟩, classified.assembled.atMost moderate⟩
  rw [calls, prepared]
  rfl

/-- The calls of an entry add to a counter no more than an event may carry. -/
theorem total_calls_le (entry : Entry) (kind : TrackerKind) (id : String) (counter : Counter) :
    Log.total ((Log.ofCalls entry.calls).postedAt kind id) counter ≤ Event.countLimit := by
  rcases entry.settled_or_counted with ⟨none, _⟩ | ⟨plan, prepared⟩
  · rw [none]
    exact Event.countLimit_nonneg
  · obtain ⟨same, sound, atMost⟩ := calls_of_counted prepared
    rw [same]
    by_cases own : ∃ target ∈ plan.targets, target.kind = kind ∧
        Key.idText kind target.entityId entry.date = id
    · obtain ⟨target, listed, rfl, rfl⟩ := own
      rw [Booking.total_postedAt sound listed]
      rcases sound.plan.amountFor_cases target counter with nothing | ⟨update, member, _, _, sum⟩
      · rw [nothing]
        exact Event.countLimit_nonneg
      · rw [sum]
        exact atMost update member
    · have nothing : (Log.ofCalls (Booking.mk plan entry.date).calls).postedAt kind id = [] :=
        Booking.postedAt_eq_nil fun target listed sameKind sameId =>
          own ⟨target, listed, sameKind, sameId⟩
      rw [nothing]
      exact Event.countLimit_nonneg

/-- What is left of the calls of entries adds to a counter no more than that many events may
carry. -/
theorem total_flatten_le {parts : List (List StoreCall)} {entries : List Entry}
    (prefixes : List.Forall₂ (fun part (entry : Entry) => part <+: entry.calls) parts entries)
    (kind : TrackerKind) (id : String) (counter : Counter) :
    Log.total ((Log.ofCalls parts.flatten).postedAt kind id) counter ≤
      entries.length * Event.countLimit := by
  induction prefixes with
  | nil => exact Int.le_of_eq (Int.zero_mul _).symm
  | @cons part entry others rest first _ ih =>
      have here := Log.total_le_of_prefix first entry.orderly_calls.sound kind id counter
      have bounded := entry.total_calls_le kind id counter
      rw [List.flatten_cons, Log.ofCalls_append, Log.postedAt_append, Log.total_append,
        List.length_cons, Int.natCast_succ, Int.add_mul, Int.one_mul]
      omega

end Entry

theorem Store.exists_of_mem_zip_outcomes {σ : Type} {store : Store σ} {entries : List Entry}
    {state : σ} {entry : Entry} {answer : Except Error Outcome}
    (answered : (entry, answer) ∈ entries.zip (store.outcomes entries state)) :
    ∃ before later, entries = before ++ entry :: later ∧
      (entry.recordIn store (store.afterEntries before state)).1 = answer := by
  induction entries generalizing state with
  | nil => cases answered
  | cons first rest ih =>
      rw [outcomes, List.zip_cons_cons] at answered
      rcases List.mem_cons.mp answered with same | later
      · cases same
        exact ⟨[], rest, rfl, rfl⟩
      · obtain ⟨before, after, rfl, same⟩ := ih later
        exact ⟨first :: before, after, rfl, same⟩

namespace Memory

variable {memory : Memory} {limit : Int}

/-- Every counter lies between zero and a limit. -/
def Within (memory : Memory) (limit : Int) : Prop :=
  memory.Throughout (fun amount => ∀ counter, 0 ≤ amount counter ∧ amount counter ≤ limit)
    fun amount => ∀ counter, 0 ≤ amount counter ∧ amount counter ≤ limit

/-- A memory is within a limit if no sum of what was added at one place is past it. -/
theorem Reflects.within {log : Log} (reflects : memory.Reflects log) (natural : log.Natural)
    (bounded : ∀ kind id counter, Log.total (log.postedAt kind id) counter ≤ limit) :
    memory.Within limit := by
  apply reflects.throughout
  case months =>
    exact fun id counter => ⟨natural.total_postedAt .user id _, bounded .user id _⟩
  case days =>
    intro id slot counter
    refine ⟨natural.total_postedOn id slot _, Int.le_trans ?_ (bounded .user id (.user counter))⟩
    exact Log.total_filter_le
      (fun entry member => natural entry (List.mem_of_mem_filter member)) _ _
  case contents =>
    intro kind id counter
    have above := natural.total_postedAt kind.tracker id counter
    have below := bounded kind.tracker id counter
    dsimp only
    split <;> omega

/-- What a counter holds is within the limit, also where there is no tracker. -/
theorem Within.amountAt_le (within : memory.Within limit) (natural : 0 ≤ limit) (id : String)
    (counter : Counter) : memory.amountAt id counter ≤ limit := by
  have content (kind : ContentKind) (counter : Counter) :
      memory.contentAmount kind id counter ≤ limit := by
    cases found : (memory.contents kind).find? id with
    | none =>
        rw [contentAmount, found]
        exact natural
    | some tracker =>
        rw [contentAmount, found]
        exact (within.contents kind id tracker found counter).2
  cases counter with
  | user counter =>
      cases found : memory.users.find? id with
      | none =>
          rw [amountAt, found]
          exact natural
      | some tracker =>
          rw [amountAt, found]
          exact (within.months id tracker found counter).2
  | post counter => exact content .post _
  | comment counter => exact content .comment _

theorem Within.amountOn_le (within : memory.Within limit) (natural : 0 ≤ limit) (id : String)
    (slot : Nat) (counter : UserCounter) : memory.amountOn id slot counter ≤ limit := by
  cases found : memory.users.find? id with
  | none =>
      rw [amountOn, found]
      exact natural
  | some tracker =>
      rw [amountOn, found, Option.bind_some]
      cases here : tracker.days[slot]? with
      | none => exact natural
      | some day => exact (within.days id tracker found day (List.mem_of_getElem? here) counter).2

/-- No update of an event takes a counter past the greatest amount, where there is room for as much
as an event may carry. -/
theorem Within.not_exceeds (within : memory.Within limit) (natural : 0 ≤ limit)
    (room : limit + Event.countLimit ≤ Amount.greatest.val) (date : Date) {update : Update}
    (moderate : update.delta.val ≤ Event.countLimit) : ¬ memory.Exceeds date update := by
  rintro (whole | day)
  · have held := within.amountAt_le natural
      (Key.idText update.target.kind update.target.entityId date) update.counter
    omega
  · cases counter : update.counter with
    | post | comment => simp [counter] at day
    | user own =>
        simp only [counter] at day
        have held := within.amountOn_le natural
          (Key.idText update.target.kind update.target.entityId date) (date.day - 1) own
        omega

/-- Where there is room for as much as an event may carry, an event that passed the checks is
recorded. -/
theorem Within.exists_outcome (within : memory.Within limit) (natural : 0 ≤ limit)
    (room : limit + Event.countLimit ≤ Amount.greatest.val) (reachable : memory.Reachable)
    {entry : Entry} {plan : Plan} {shares : List Share}
    (prepared : Record.prepare entry.directory entry.event entry.date =
      .ok (.counted plan shares)) : ∃ outcome, (entry.recordIn store memory).1 = .ok outcome := by
  obtain ⟨_, _, atMost⟩ := Entry.calls_of_counted prepared
  obtain ⟨_, _, _, rfl⟩ := Record.prepare_eq_counted prepared
  have bounded : ¬ ∃ update ∈ plan.updates, memory.Exceeds entry.date update := by
    rintro ⟨update, listed, exceeds⟩
    exact within.not_exceeds natural room entry.date (atMost update listed) exceeds
  have verdict := reachable.record_counted prepared
  rw [if_neg bounded] at verdict
  cases answered : (entry.recordIn store memory).1 with
  | ok outcome => exact ⟨outcome, rfl⟩
  | error error =>
      unfold Entry.recordIn at answered
      rw [answered] at verdict
      cases error <;> cases verdict

/-- Where there is room for as much as an event may carry, the error of a store can only be one
that the directory gave. -/
theorem Within.failsWith_of_storage (within : memory.Within limit) (natural : 0 ≤ limit)
    (room : limit + Event.countLimit ≤ Amount.greatest.val) (reachable : memory.Reachable)
    {entry : Entry} {error : Error} (refused : (entry.recordIn store memory).1 = .error error)
    (storage : error.isStorage = true) : entry.directory.FailsWith error := by
  cases prepared : Record.prepare entry.directory entry.event entry.date with
  | error cause =>
      simp only [Entry.recordIn, record, prepared, Except.error.injEq] at refused
      subst refused
      rcases Record.refused_prepare _ _ _ cause prepared with apart | failed
      · cases storage.symm.trans apart
      · exact failed
  | ok checked =>
      cases checked with
      | uncounted attributions => simp [Entry.recordIn, record, prepared] at refused
      | counted plan shares =>
          obtain ⟨outcome, recorded⟩ := within.exists_outcome natural room reachable prepared
          cases refused.symm.trans recorded

theorem Reachable.afterEntries (reachable : memory.Reachable) (entries : List Entry) :
    (store.afterEntries entries memory).Reachable := by
  induction entries generalizing memory with
  | nil => exact reachable
  | cons entry rest ih => exact ih (reachable.recorded entry.directory entry.event entry.date)

theorem within_afterEntries (entries : List Entry) :
    (store.afterEntries entries empty).Within (entries.length * Event.countLimit) := by
  obtain ⟨parts, prefixes, reflects⟩ := fronts_store.reflects_afterEntries entries rfl
  exact reflects.within (Log.natural_ofCalls (Entry.sound_of_mem_flatten prefixes))
    (Entry.total_flatten_le prefixes)

/-- After recordings no counter is past what that many events may carry.  As long as this is an
amount, the error of a store is answered only where a directory gave it for an author. -/
theorem bounded_afterEntries (entries : List Entry) :
    (store.afterEntries entries empty).Within (entries.length * Event.countLimit) ∧
      ((entries.length : Int) ≤ Amount.greatest.val / Event.countLimit →
        ∀ entry error, (entry, .error error) ∈ entries.zip (store.outcomes entries empty) →
          error.isStorage = true → entry.directory.FailsWith error) := by
  constructor
  · exact within_afterEntries entries
  · intro few entry error answered storage
    obtain ⟨before, later, rfl, same⟩ := Store.exists_of_mem_zip_outcomes answered
    have room : (before.length * Event.countLimit) + Event.countLimit ≤ Amount.greatest.val := by
      have greatest : Amount.greatest.val = 9223372036854775807 := by decide
      have limit : Event.countLimit = 1000000 := rfl
      rw [greatest, limit] at few ⊢
      simp only [List.length_append, List.length_cons, Int.natCast_add, Int.natCast_succ] at few
      omega
    refine (within_afterEntries before).failsWith_of_storage ?_ room
      (Reachable.empty.afterEntries before) same storage
    exact Int.mul_nonneg (Int.natCast_nonneg _) Event.countLimit_nonneg

def brokenDirectory : Directory where
  postAuthor _ := .error (.storage "authors" "directory down" [])
  commentAuthor _ := .error (.storage "authors" "directory down" [])

/-- A post, and a comment on it of whose post no author can be found. -/
def brokenEntries : List Entry := [
  ⟨brokenDirectory, .createPost "ana" "p1", lateFebruary⟩,
  ⟨brokenDirectory, .createComment "bo" "c1" "p1", lateFebruary⟩]

theorem bounded_afterEntries_broken :
    (store.afterEntries brokenEntries empty).Within (2 * Event.countLimit) ∧
      brokenDirectory.FailsWith (.storage "authors" "directory down" []) := by
  obtain ⟨within, failed⟩ := bounded_afterEntries brokenEntries
  refine ⟨within, failed (by decide) ⟨brokenDirectory, .createComment "bo" "c1" "p1", lateFebruary⟩
    _ ?_ rfl⟩
  exact List.mem_cons_of_mem _ List.mem_cons_self

/-- The error of a store may be answered though no counter is near the greatest amount. -/
theorem storage_of_brokenDirectory :
    ¬ ∀ entries : List Entry, (entries.length : Int) ≤ Amount.greatest.val / Event.countLimit →
      ∀ error, .error error ∈ store.outcomes entries empty → error.isStorage = false := by
  intro never
  have failed := never brokenEntries (by decide) (.storage "authors" "directory down" [])
    (List.mem_cons_of_mem _ List.mem_cons_self)
  cases failed

end Memory

end ActivityLedger
