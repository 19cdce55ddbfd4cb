import ActivityLedger.Proofs.Additions
import ActivityLedger.Proofs.Capacity
import ActivityLedger.Proofs.Courses
import ActivityLedger.Proofs.Merging
import ActivityLedger.Proofs.Quadrants

/-!
# Votes on one's own content

An actor may be the author of the content that an event acts on.  Whether they are is said by
the directory, except that an update of a post names the owner itself.  Where they act on a post
of their own, no call of the recording names a counter of votes, so that all counters of votes
stay.  Where they act on a comment of their own, or below a post of their own, nothing is done.
The owner that an event names has a say in no other operation.
-/

namespace ActivityLedger

/-- The counter counts votes, as the name of its column says. -/
def Counter.IsVote (counter : Counter) : Prop :=
  ∃ rest ∈ counter.columnName.toList.tails, "votes".toList <+: rest

instance (counter : Counter) : Decidable counter.IsVote :=
  inferInstanceAs (Decidable (∃ _ ∈ _, _))

example : (TrackerKind.all.flatMap TrackerKind.counters).filter (fun counter => counter.IsVote) = [
    .user .votesForOwned, .user .upVotesForOwned, .user .downVotesForOwned,
    .user .votesForOthers, .user .upVotesForOthers, .user .downVotesForOthers,
    .user .votesForOwnedComments, .user .upVotesForOwnedComments,
    .user .downVotesForOwnedComments, .user .votesForOthersComments,
    .user .upVotesForOthersComments, .user .downVotesForOthersComments,
    .post .upVotes, .post .downVotes, .comment .upVotes, .comment .downVotes,
    .comment .parentUpVotes, .comment .parentDownVotes] := by
  decide +kernel

def WithoutVotes (updates : List Update) : Prop := ∀ update ∈ updates, ¬ update.counter.IsVote

def StoreCall.LeavesVotes : StoreCall → Prop
  | .increment _ updates => WithoutVotes updates
  | _ => True

/-! ## Plans without votes -/

namespace Plan

variable {plan : Plan}

theorem withoutVotes_empty : WithoutVotes empty.updates := List.forall_mem_nil _

/-- A plan without votes may be given one more tracker with amounts that are no votes. -/
theorem withoutVotes_extend (before : WithoutVotes plan.updates) (template : Template)
    {updates : List Update} (new : WithoutVotes updates) :
    WithoutVotes ((plan.track template).apply updates).updates := by
  intro update listed
  rcases mem_updates_apply listed with earlier | added
  · rw [updates_track] at earlier
    exact before update earlier
  · exact new update added

theorem withoutVotes_user (before : WithoutVotes plan.updates) (userId : String)
    (quadrant : Quadrant) {counters : List (UserCounter × Amount)}
    (others : ∀ entry ∈ counters, ¬ (Counter.user entry.1).IsVote) :
    WithoutVotes (plan.user userId quadrant counters).updates := by
  have assigned : WithoutVotes (plan.assign userId quadrant).updates := before
  exact withoutVotes_extend assigned (.user userId) (List.forall_mem_map.mpr others)

theorem withoutVotes_post (before : WithoutVotes plan.updates) (postId authorId : String)
    {counters : List (PostCounter × Amount)}
    (others : ∀ entry ∈ counters, ¬ (Counter.post entry.1).IsVote) :
    WithoutVotes (plan.post postId authorId counters).updates :=
  withoutVotes_extend before (.post postId authorId) (List.forall_mem_map.mpr others)

theorem withoutVotes_comment (before : WithoutVotes plan.updates) (commentId authorId : String)
    {counters : List (CommentCounter × Amount)}
    (others : ∀ entry ∈ counters, ¬ (Counter.comment entry.1).IsVote) :
    WithoutVotes (plan.comment commentId authorId counters).updates :=
  withoutVotes_extend before (.comment commentId authorId) (List.forall_mem_map.mpr others)

/-- The vote of an owner on a post of their own is not in the plan. -/
theorem withoutVotes_postUpdated (actor post : String) (activity : Activity) :
    WithoutVotes (postUpdated (.user actor) actor post activity).updates := by
  simp only [postUpdated, if_true]
  apply withoutVotes_post
  case before =>
    apply withoutVotes_user withoutVotes_empty
    simp only [Activity.onOwn, List.forall_mem_cons]
    decide +kernel
  case others =>
    simp only [List.forall_mem_cons]
    decide +kernel

/-- The vote of an owner who comments on a post of their own is not in the plan. -/
theorem withoutVotes_commentCreated (actor comment post : String) (activity : Activity) :
    WithoutVotes (commentCreated actor comment post actor activity).updates := by
  simp only [commentCreated, if_true]
  apply withoutVotes_comment
  case before =>
    apply withoutVotes_post
    case before =>
      apply withoutVotes_user withoutVotes_empty
      simp only [List.forall_mem_cons]
      decide +kernel
    case others =>
      simp only [List.forall_mem_cons]
      decide +kernel
  case others =>
    simp only [List.forall_mem_cons]
    decide +kernel

end Plan

/-! ## Events on one's own content -/

namespace Event

/-- The actor updates a post of which the event names them the owner, or comments on a post that
they wrote. -/
inductive OnOwnPost (directory : Directory) (event : Event) : Prop where
  | updated {actor : String} (operation : event.operation = .updateContent)
      (acting : event.actor = .user actor) (own : event.contentOwnerId = actor)
  | commented {actor post : String} (operation : event.operation = .createComment)
      (acting : event.actor = .user actor) (parent : event.parentContentId = some post)
      (own : directory.postAuthor post = .ok (some actor))

/-- The actor updates a comment that they wrote, or one on a post that they wrote. -/
inductive OnOwnComment (directory : Directory) (event : Event) : Prop where
  | comment {actor : String} (operation : event.operation = .updateComment)
      (acting : event.actor = .user actor)
      (own : directory.commentAuthor event.contentId = .ok (some actor))
  | post {actor post : String} (operation : event.operation = .updateComment)
      (acting : event.actor = .user actor) (parent : event.parentContentId = some post)
      (own : directory.postAuthor post = .ok (some actor))

def withOwner (event : Event) (owner : String) : Event := { event with contentOwnerId := owner }

end Event

namespace Record

variable {directory : Directory} {event : Event} {authors : Authorship} {plan : Plan}

/-- The owner of a post that is updated is the one that the event names. -/
theorem contentOwner_of_updateContent (operation : event.operation = .updateContent)
    (named : authorship directory event = .ok authors) :
    authors.contentOwner = event.contentOwnerId := by
  obtain ⟨parent, _, rest⟩ := Answer.bind_eq_ok_iff.mp named
  obtain ⟨owner, given, same⟩ := Answer.bind_eq_ok_iff.mp rest
  cases same
  simp only [contentOwner, operation] at given
  split at given
  · cases given
  · cases given
    rfl

/-- The author of a comment that is updated is the one that the directory knows. -/
theorem commentAuthor_of_updateComment (operation : event.operation = .updateComment)
    (named : authorship directory event = .ok authors) :
    directory.commentAuthor event.contentId = .ok (some authors.contentOwner) := by
  obtain ⟨parent, _, rest⟩ := Answer.bind_eq_ok_iff.mp named
  obtain ⟨owner, given, same⟩ := Answer.bind_eq_ok_iff.mp rest
  cases same
  simp only [contentOwner, operation] at given
  obtain ⟨known, asked, rest⟩ := Answer.bind_eq_ok_iff.mp given
  cases known with
  | none => cases rest
  | some author =>
      cases rest
      exact asked

theorem postAuthor_of_comment
    (operation : event.operation = .createComment ∨ event.operation = .updateComment)
    {post : String} (parent : event.parentContentId = some post)
    (named : authorship directory event = .ok authors) :
    directory.postAuthor post = .ok authors.parentOwner := by
  obtain ⟨owner, given, rest⟩ := Answer.bind_eq_ok_iff.mp named
  obtain ⟨_, _, same⟩ := Answer.bind_eq_ok_iff.mp rest
  cases same
  rcases operation with operation | operation
  all_goals
    simp only [parentOwner, operation, parent] at given
    obtain ⟨known, asked, rest⟩ := Answer.bind_eq_ok_iff.mp given
    cases known with
    | none => cases rest
    | some author =>
        cases rest
        exact asked

/-- The plan of an event on a post of the actor's own has no votes. -/
theorem withoutVotes_of_onOwnPost (own : event.OnOwnPost directory)
    (planned : planOf directory event = .ok plan) : WithoutVotes plan.updates := by
  obtain ⟨authors, named, made⟩ := Answer.bind_eq_ok_iff.mp planned
  obtain ⟨activity, _, classified⟩ := Plan.ofEvent_eq_ok_iff.mp made
  cases own with
  | @updated actor operation acting own =>
      have owner := contentOwner_of_updateContent operation named
      cases classified with
      | postUpdated =>
          rw [owner, own, acting]
          exact Plan.withoutVotes_postUpdated actor event.contentId activity
      | postCreated _ other | commentCreated _ _ _ other | commentUpdated _ _ other =>
          cases operation.symm.trans other
  | @commented actor post operation acting parent own =>
      have known := postAuthor_of_comment (Or.inl operation) parent named
      cases classified with
      | commentCreated named _ postOwner _ acts _ owner =>
          rw [owner, own] at known
          rw [acting] at acts
          cases known
          cases acts
          exact Plan.withoutVotes_commentCreated _ event.contentId _ activity
      | postCreated _ other | postUpdated other | commentUpdated _ _ other =>
          cases operation.symm.trans other

/-- An event on a comment of the actor's own is not counted. -/
theorem isUnsupported_of_onOwnComment (own : event.OnOwnComment directory)
    (planned : planOf directory event = .ok plan) : plan.isUnsupported = true := by
  obtain ⟨authors, named, made⟩ := Answer.bind_eq_ok_iff.mp planned
  obtain ⟨activity, _, classified⟩ := Plan.ofEvent_eq_ok_iff.mp made
  have unsupported {actor postOwner : String}
      (own : actor = authors.contentOwner ∨ actor = postOwner) :
      (Plan.commentUpdated actor authors.contentOwner event.contentId postOwner
        activity).isUnsupported = true := by
    rw [Plan.commentUpdated, if_pos own]
    rfl
  cases own with
  | @comment actor operation acting own =>
      have known := commentAuthor_of_updateComment operation named
      cases classified with
      | commentUpdated _ _ _ acts =>
          rw [acting] at acts
          cases acts
          cases own.symm.trans known
          exact unsupported (Or.inl rfl)
      | postCreated _ other | postUpdated other | commentCreated _ _ _ other =>
          cases operation.symm.trans other
  | @post actor post operation acting parent own =>
      have known := postAuthor_of_comment (Or.inr operation) parent named
      cases classified with
      | commentUpdated _ _ _ acts owner =>
          rw [owner] at known
          rw [acting] at acts
          cases acts
          cases own.symm.trans known
          exact unsupported (Or.inr rfl)
      | postCreated _ other | postUpdated other | commentCreated _ _ _ other =>
          cases operation.symm.trans other

/-! ## Recordings -/

variable {σ : Type} {store : Store σ} {date : Date} {state : σ}

/-- A recording leaves the state after its calls, and these are for the shares of its plan. -/
theorem record_eq_after (store : Store σ) (directory : Directory) (event : Event) (date : Date)
    (state : σ) :
    (record store directory event date state).2 =
        store.after (calls store directory event date state) state ∧
      ∀ call ∈ calls store directory event date state, ∃ plan,
        planOf directory event = .ok plan ∧ ∃ template,
          call = (shareOf plan date template).opening ∨
            call = (shareOf plan date template).posting := by
  cases prepared : prepare directory event date with
  | error error =>
      simp [calls, record, prepared, Store.after]
  | ok checked =>
      cases checked with
      | uncounted attributions => simp [calls, record, prepared, Store.after]
      | counted plan shares =>
          obtain ⟨answer, course, recorded⟩ := record_of_counted prepared store state
          obtain ⟨planned, _, _, rfl⟩ := prepare_eq_counted prepared
          refine ⟨congrArg Prod.snd recorded, fun call member => ⟨plan, planned, ?_⟩⟩
          obtain ⟨share, listed, here⟩ := exists_share_of_mem (course.mem member)
          obtain ⟨template, _, rfl⟩ := List.mem_map.mp listed
          exact ⟨template, here⟩

/-- The recording of an event on a post of the actor's own makes no call that adds a vote. -/
theorem leavesVotes_of_mem_calls (own : event.OnOwnPost directory) {call : StoreCall}
    (member : call ∈ calls store directory event date state) : call.LeavesVotes := by
  obtain ⟨_, each⟩ := record_eq_after store directory event date state
  obtain ⟨plan, planned, template, rfl | rfl⟩ := each call member
  · trivial
  · intro update listed
    exact withoutVotes_of_onOwnPost own planned update (List.mem_of_mem_filter listed)

theorem record_of_onOwnComment (own : event.OnOwnComment directory) (store : Store σ)
    (state : σ) : (record store directory event date state).2 = state := by
  cases prepared : prepare directory event date with
  | error error => simp [record, prepared]
  | ok checked =>
      cases checked with
      | uncounted attributions => simp [record, prepared]
      | counted plan shares =>
          obtain ⟨_, planned, supported, _⟩ := prepare_eq_counted_iff.mp prepared
          cases (isUnsupported_of_onOwnComment own planned).symm.trans supported

/-- Only the update of a post asks for the owner that its event names. -/
theorem authorship_withOwner (directory : Directory) {event : Event}
    (other : event.operation ≠ .updateContent) (owner : String) :
    authorship directory (event.withOwner owner) = authorship directory event := by
  unfold authorship parentOwner contentOwner Event.withOwner
  cases operation : event.operation with
  | updateContent => exact absurd operation other
  | createContent | createComment | updateComment => rfl

theorem record_withOwner (store : Store σ) (directory : Directory) {event : Event}
    (other : event.operation ≠ .updateContent) (owner : String) (date : Date) (state : σ) :
    record store directory (event.withOwner owner) date state =
      record store directory event date state := by
  have same : prepare directory (event.withOwner owner) date = prepare directory event date := by
    unfold prepare
    rw [authorship_withOwner directory other]
    rfl
  rw [record, record, same]

end Record

/-! ## Memories -/

theorem Batch.amount_of_withoutVotes {key : Key} {updates : List Update} {batch : Batch}
    (made : ofUpdates key updates = .ok batch) (none : WithoutVotes updates) {counter : Counter}
    (vote : counter.IsVote) : batch.amount counter = 0 := by
  by_cases isKind : counter.kind = key.kind
  · rw [amount_of_ofUpdates made isKind]
    refine updatesTotal_eq_zero fun update listed same => none update listed ?_
    rw [same]
    exact vote
  · exact amount_of_kind_ne (by rwa [kind_of_ofUpdates made])

namespace Memory

/-- Every tracker stays, and so does what every counter of votes holds, where a missing one holds
nothing. -/
structure KeepsVotes (memory next : Memory) : Prop where
  held : ∀ key, memory.Holds key → next.Holds key
  months : ∀ id counter, (Counter.user counter).IsVote →
    next.amountAt id (.user counter) = memory.amountAt id (.user counter)
  days : ∀ id slot counter, (Counter.user counter).IsVote →
    next.amountOn id slot counter = memory.amountOn id slot counter
  contents : ∀ kind id counter, counter.IsVote →
    next.contentAmount kind id counter = memory.contentAmount kind id counter

namespace KeepsVotes

variable {memory middle next : Memory}

theorem refl (memory : Memory) : memory.KeepsVotes memory where
  held _ held := held
  months _ _ _ := rfl
  days _ _ _ _ := rfl
  contents _ _ _ _ := rfl

theorem trans (first : memory.KeepsVotes middle) (second : middle.KeepsVotes next) :
    memory.KeepsVotes next where
  held key held := second.held key (first.held key held)
  months id counter vote := (second.months id counter vote).trans (first.months id counter vote)
  days id slot counter vote :=
    (second.days id slot counter vote).trans (first.days id slot counter vote)
  contents kind id counter vote :=
    (second.contents kind id counter vote).trans (first.contents kind id counter vote)

theorem insertUser {id : String} {tracker : UserTracker}
    (month : ∀ counter, (Counter.user counter).IsVote →
      (tracker.monthly.get counter).val = memory.amountAt id (.user counter))
    (slots : ∀ slot counter, (Counter.user counter).IsVote →
      amountOr (tracker.days[slot]?.map fun day => day.get counter) =
        memory.amountOn id slot counter) :
    memory.KeepsVotes { memory with users := memory.users.insert id tracker } where
  held key held := held.insertUser id tracker
  months other counter vote := by
    by_cases same : other = id
    · rw [same, ← month counter vote, amountAt, Shelf.find?_insert_self]
      rfl
    · rw [amountAt, amountAt, Shelf.find?_insert_of_ne _ _ same]
  days other slot counter vote := by
    by_cases same : other = id
    · rw [same, ← slots slot counter vote, amountOn, Shelf.find?_insert_self]
      rfl
    · rw [amountOn, amountOn, Shelf.find?_insert_of_ne _ _ same]
  contents kind id counter vote := by cases kind <;> rfl

theorem insertContent {kind : ContentKind} {id : String} {tracker : ContentTracker}
    (votes : ∀ counter, counter.IsVote →
      tracker.counters.value counter = memory.contentAmount kind id counter) :
    memory.KeepsVotes (memory.withContents kind ((memory.contents kind).insert id tracker)) where
  held key held := held.insertContent kind id tracker
  months other counter _ := by rw [amountAt, amountAt, users_withContents]
  days other slot counter _ := by rw [amountOn, amountOn, users_withContents]
  contents other place counter vote := by
    rw [contentAmount, contents_withContents]
    by_cases sameKind : other = kind
    · subst sameKind
      rw [if_pos rfl]
      by_cases same : place = id
      · rw [same, Shelf.find?_insert_self, ← votes counter vote]
      · rw [Shelf.find?_insert_of_ne _ _ same]
        rfl
    · rw [if_neg sameKind]
      rfl

theorem step {call : StoreCall} {answer : StoreAnswer} (step : Step memory call answer next)
    (leaves : call.LeavesVotes) : memory.KeepsVotes next := by
  cases step with
  | refused | gotContent | gotUser | scannedContents | scannedUsers | present | ignored =>
      exact refl memory
  | openedUser key isUser absent =>
      apply insertUser
      case month =>
        intro counter _
        simp [UserTracker.zero, amountAt, absent]
      case slots =>
        intro slot counter _
        rw [amountOn, absent]
        cases here : (UserTracker.zero key.id key.entityId key.periodStart
            key.daysInMonth).days[slot]? with
        | none => rfl
        | some day =>
            rw [List.eq_of_mem_replicate (List.mem_of_getElem? here)]
            simp
  | openedContent key template kind authorId describes isKind names absent =>
      apply insertContent
      intro counter _
      simp [newContent, contentAmount, absent]
  | addedToUser key updates deltas tracker slot day nextDay nextMonth merged found position here
      daySum monthSum =>
      have gains := UserTracker.gains_iff.mpr
        ⟨day, nextDay, nextMonth, here, daySum, monthSum, rfl⟩
      have still {counter : UserCounter} (vote : (Counter.user counter).IsVote) :=
        Batch.amount_of_withoutVotes merged leaves vote
      apply insertUser
      case month =>
        intro counter vote
        rw [gains.monthly, still vote, Int.add_zero, amountAt, found]
        rfl
      case slots =>
        intro other counter vote
        rw [amountOn, found]
        by_cases same : other = slot
        · obtain ⟨before, after, was, now, sums⟩ := gains.day
          rw [same, now, Option.map_some, amountOr_some, sums, still vote, Int.add_zero,
            Option.bind_some, was]
          rfl
        · rw [gains.otherDays other same]
          rfl
  | addedToContent key updates kind batch tracker counters merged isKind found sameKind sum =>
      apply insertContent
      intro counter vote
      have ownBatch : batch.kind = tracker.counters.kind.tracker := by
        rw [Batch.kind_of_ofUpdates merged, isKind, sameKind]
      rw [(ContentCounters.value_of_take ownBatch sum).2,
        Batch.amount_of_withoutVotes merged leaves vote, Int.add_zero, contentAmount, found]

theorem after {calls : List StoreCall} (leaves : ∀ call ∈ calls, call.LeavesVotes)
    (memory : Memory) : memory.KeepsVotes (store.after calls memory) :=
  store.after_induction_mem
    (fun call member _ kept => kept.trans (step (step_perform _ call) (leaves call member)))
    (refl memory)

end KeepsVotes

end Memory

end ActivityLedger
