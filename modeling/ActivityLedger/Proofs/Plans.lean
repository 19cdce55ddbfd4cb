import ActivityLedger.Attribution.Classification
import ActivityLedger.Proofs.Answers
import ActivityLedger.Proofs.Batches

/-!
# Plans of the classification

In every plan that the classification makes, no target has two trackers, every update
goes to one of the trackers, no counter of a target is named twice, and every amount
is positive.
-/

namespace ActivityLedger

namespace Plan

/-- The entities whose trackers a plan touches. -/
def targets (plan : Plan) : List Target := plan.trackers.map Template.target

/-- What a plan adds to one counter of one entity. -/
def amountFor (plan : Plan) (target : Target) (counter : Counter) : Int :=
  updatesTotal (plan.updatesFor target) counter

/-- The author that a plan's template for an entity names. -/
def authorFor? (plan : Plan) (target : Target) : Option String :=
  (plan.trackers.find? fun template => template.target = target).bind Template.authorId?

/-- A plan as it should be. -/
structure Sound (plan : Plan) : Prop where
  distinct : plan.targets.Nodup
  covered : ∀ update ∈ plan.updates, update.target ∈ plan.targets
  single : plan.updates.Pairwise fun left right =>
    left.target = right.target → left.counter ≠ right.counter
  kinds : ∀ update ∈ plan.updates, update.counter.kind = update.target.kind
  positive : ∀ update ∈ plan.updates, 0 < update.delta.val

@[simp] theorem updates_track (plan : Plan) (template : Template) :
    (plan.track template).updates = plan.updates := by
  unfold track
  split <;> rfl

namespace Sound

theorem empty : Plan.empty.Sound where
  distinct := .nil
  covered := by simp [Plan.empty]
  single := .nil
  kinds := by simp [Plan.empty]
  positive := by simp [Plan.empty]

theorem assign {plan : Plan} (sound : plan.Sound) (userId : String) (quadrant : Quadrant) :
    (plan.assign userId quadrant).Sound where
  distinct := sound.distinct
  covered := sound.covered
  single := sound.single
  kinds := sound.kinds
  positive := sound.positive

theorem trackers_track {plan : Plan} {template : Template}
    (fresh : template.target ∉ plan.targets) :
    (plan.track template).trackers = plan.trackers ++ [template] := by
  have absent : template ∉ plan.trackers :=
    fun member => fresh (List.mem_map.mpr ⟨template, member, rfl⟩)
  simp [track, absent]

theorem targets_track_of_fresh (plan : Plan) (template : Template)
    (fresh : template.target ∉ plan.targets) :
    (plan.track template).targets = plan.targets ++ [template.target] := by
  rw [targets, trackers_track fresh, List.map_append]
  rfl

/-- A tracker of another entity, with amounts for it, may be added to a plan. -/
theorem extend {plan : Plan} (sound : plan.Sound) {template : Template}
    (fresh : template.target ∉ plan.targets) {updates : List Update}
    (addressed : ∀ update ∈ updates, update.target = template.target)
    (kinds : ∀ update ∈ updates, update.counter.kind = update.target.kind)
    (single : (updates.map Update.counter).Nodup)
    (amounts : ∀ update ∈ updates, 0 ≤ update.delta.val) :
    ((plan.track template).apply updates).Sound := by
  have targets : ((plan.track template).apply updates).targets =
      plan.targets ++ [template.target] := targets_track_of_fresh plan template fresh
  have added : ((plan.track template).apply updates).updates =
      plan.updates ++ updates.filter fun update => update.delta ≠ Amount.zero := by
    simp [Plan.apply]
  constructor
  · rw [targets]
    exact List.nodup_append.mpr ⟨sound.distinct, by simp, by
      intro target member other last
      rw [List.mem_singleton.mp last]
      rintro rfl
      exact fresh member⟩
  · intro update member
    rw [targets]
    rw [added] at member
    rcases List.mem_append.mp member with before | new
    · exact List.mem_append_left _ (sound.covered update before)
    · rw [addressed update (List.mem_of_mem_filter new)]
      exact List.mem_append_right _ List.mem_cons_self
  · rw [added]
    refine List.pairwise_append.mpr ⟨sound.single, ?_, ?_⟩
    · refine List.Pairwise.imp ?_ ((List.pairwise_map.mp single).filter _)
      intro left right different _
      exact different
    · intro left before right new same
      have goal := sound.covered left before
      rw [same, addressed right (List.mem_of_mem_filter new)] at goal
      exact absurd goal fresh
  · intro update member
    rw [added] at member
    rcases List.mem_append.mp member with before | new
    · exact sound.kinds update before
    · exact kinds update (List.mem_of_mem_filter new)
  · intro update member
    rw [added] at member
    rcases List.mem_append.mp member with before | new
    · exact sound.positive update before
    · obtain ⟨listed, nonzero⟩ := List.mem_filter.mp new
      have atLeast := amounts update listed
      have different : update.delta.val ≠ 0 := by
        intro zero
        have same : update.delta = Amount.zero := Bounded.ext zero
        simp [same] at nonzero
      omega

end Sound

/-! ## Members of a plan -/

theorem mem_targets_track (plan : Plan) (template : Template) (target : Target) :
    target ∈ (plan.track template).targets ↔
      target ∈ plan.targets ∨ target = template.target := by
  unfold track
  split
  · rename_i known
    constructor
    · exact Or.inl
    · rintro (member | same)
      · exact member
      · rw [same]
        exact List.mem_map.mpr ⟨template, known, rfl⟩
  · simp [targets]

@[simp] theorem targets_empty : empty.targets = [] := rfl

@[simp] theorem mem_targets_user (plan : Plan) (userId : String) (quadrant : Quadrant)
    (counters : List (UserCounter × Amount)) (target : Target) :
    target ∈ (plan.user userId quadrant counters).targets ↔
      target ∈ plan.targets ∨ target = .user userId :=
  mem_targets_track (plan.assign userId quadrant) (.user userId) target

@[simp] theorem mem_targets_post (plan : Plan) (postId authorId : String)
    (counters : List (PostCounter × Amount)) (target : Target) :
    target ∈ (plan.post postId authorId counters).targets ↔
      target ∈ plan.targets ∨ target = .post postId :=
  mem_targets_track plan (.post postId authorId) target

@[simp] theorem mem_targets_comment (plan : Plan) (commentId authorId : String)
    (counters : List (CommentCounter × Amount)) (target : Target) :
    target ∈ (plan.comment commentId authorId counters).targets ↔
      target ∈ plan.targets ∨ target = .comment commentId :=
  mem_targets_track plan (.comment commentId authorId) target

/-! ## The order of the trackers -/

section

variable {plan : Plan}

theorem targets_user {userId : String} (fresh : Target.user userId ∉ plan.targets)
    (quadrant : Quadrant) (counters : List (UserCounter × Amount)) :
    (plan.user userId quadrant counters).targets = plan.targets ++ [.user userId] :=
  Sound.targets_track_of_fresh (plan.assign userId quadrant) (.user userId) fresh

theorem targets_post {postId : String} (fresh : Target.post postId ∉ plan.targets)
    (authorId : String) (counters : List (PostCounter × Amount)) :
    (plan.post postId authorId counters).targets = plan.targets ++ [.post postId] :=
  Sound.targets_track_of_fresh plan (.post postId authorId) fresh

theorem targets_comment {commentId : String} (fresh : Target.comment commentId ∉ plan.targets)
    (authorId : String) (counters : List (CommentCounter × Amount)) :
    (plan.comment commentId authorId counters).targets = plan.targets ++ [.comment commentId] :=
  Sound.targets_track_of_fresh plan (.comment commentId authorId) fresh

end

namespace Sound

variable {plan : Plan}

theorem extend_counters {κ : Type} (sound : plan.Sound) (template : Template)
    (fresh : template.target ∉ plan.targets) {name : κ → Counter} (names : Function.Injective name)
    (kinds : ∀ counter, (name counter).kind = template.target.kind)
    {counters : List (κ × Amount)} (single : (counters.map Prod.fst).Nodup)
    (amounts : ∀ entry ∈ counters, 0 ≤ entry.2.val) :
    ((plan.track template).apply
      (counters.map fun entry => ⟨template.target, name entry.1, entry.2⟩)).Sound := by
  refine sound.extend fresh ?_ ?_ ?_ ?_
  · exact List.forall_mem_map.mpr fun _ _ => rfl
  · exact List.forall_mem_map.mpr fun entry _ => kinds entry.1
  · have named := single.map names
    simpa [Function.comp_def] using named
  · exact List.forall_mem_map.mpr amounts

theorem user (sound : plan.Sound) (userId : String) (quadrant : Quadrant)
    {counters : List (UserCounter × Amount)} (fresh : Target.user userId ∉ plan.targets)
    (single : (counters.map Prod.fst).Nodup) (amounts : ∀ entry ∈ counters, 0 ≤ entry.2.val) :
    (plan.user userId quadrant counters).Sound :=
  (sound.assign userId quadrant).extend_counters (.user userId) fresh
    (fun _ _ => Counter.user.inj) (fun _ => rfl) single amounts

theorem post (sound : plan.Sound) (postId authorId : String)
    {counters : List (PostCounter × Amount)} (fresh : Target.post postId ∉ plan.targets)
    (single : (counters.map Prod.fst).Nodup) (amounts : ∀ entry ∈ counters, 0 ≤ entry.2.val) :
    (plan.post postId authorId counters).Sound :=
  sound.extend_counters (.post postId authorId) fresh
    (fun _ _ => Counter.post.inj) (fun _ => rfl) single amounts

theorem comment (sound : plan.Sound) (commentId authorId : String)
    {counters : List (CommentCounter × Amount)} (fresh : Target.comment commentId ∉ plan.targets)
    (single : (counters.map Prod.fst).Nodup) (amounts : ∀ entry ∈ counters, 0 ≤ entry.2.val) :
    (plan.comment commentId authorId counters).Sound :=
  sound.extend_counters (.comment commentId authorId) fresh
    (fun _ _ => Counter.comment.inj) (fun _ => rfl) single amounts

end Sound

/-! ## The classification -/

end Plan

namespace Activity

structure Natural (activity : Activity) : Prop where
  views : 0 ≤ activity.views.val
  opens : 0 ≤ activity.opens.val

theorem val_ofBool_nonneg (condition : Bool) : 0 ≤ (Amount.ofBool condition).val := by
  cases condition <;> decide

@[simp] theorem up_nonneg (activity : Activity) : 0 ≤ activity.up.val := val_ofBool_nonneg _

@[simp] theorem down_nonneg (activity : Activity) : 0 ≤ activity.down.val := val_ofBool_nonneg _

@[simp] theorem voted_nonneg (activity : Activity) : 0 ≤ activity.voted.val := val_ofBool_nonneg _

theorem val_of_amountOf {field : String} {count : Count} {amount : Amount}
    (read : amountOf field count = .ok amount) : amount.val = count.val := by
  unfold amountOf at read
  split at read
  · rename_i fits
    cases read
    exact Bounded.ofInt?_eq_some_iff.mp fits
  · cases read

theorem natural_ofEvent {event : Event} {activity : Activity}
    (read : ofEvent event = .ok activity) : activity.Natural := by
  obtain ⟨views, readViews, rest⟩ := Answer.bind_eq_ok_iff.mp read
  obtain ⟨opens, readOpens, same⟩ := Answer.bind_eq_ok_iff.mp rest
  cases same
  exact ⟨val_of_amountOf readViews ▸ event.viewCount.lo_le,
    val_of_amountOf readOpens ▸ event.openCount.lo_le⟩

end Activity

namespace Plan

theorem sound_postCreated (actor post : String) : (postCreated actor post).Sound := by
  have created : (empty.user actor .selfOnOwn [(.contentItemsCreated, Amount.one)]).Sound :=
    Sound.empty.user actor .selfOnOwn (by simp) (by simp) (by simp)
  exact created.post post actor (by simp) (by simp) (by simp)

variable {activity : Activity}

theorem sound_postUpdated (natural : activity.Natural) (actor : Actor) (owner post : String) :
    (postUpdated actor owner post activity).Sound := by
  have toOwner {plan : Plan} (sound : plan.Sound) (fresh : Target.user owner ∉ plan.targets) :
      (plan.user owner .ownerReceiving activity.onOwned).Sound :=
    sound.user owner .ownerReceiving fresh (by simp [Activity.onOwned])
      (by simp [Activity.onOwned, natural.views, natural.opens])
  have toPost {plan : Plan} (sound : plan.Sound) (fresh : Target.post post ∉ plan.targets) :
      (plan.post post owner activity.onPost).Sound :=
    sound.post post owner fresh (by simp [Activity.onPost])
      (by simp [Activity.onPost, natural.views, natural.opens])
  cases actor with
  | anonymous => exact toPost (toOwner .empty (by simp)) (by simp)
  | user actor =>
      simp only [postUpdated]
      by_cases own : actor = owner
      · rw [if_pos own]
        have byOwner : (empty.user actor .selfOnOwn activity.onOwn).Sound :=
          Sound.empty.user actor .selfOnOwn (by simp) (by simp [Activity.onOwn])
            (by simp [Activity.onOwn, natural.views, natural.opens])
        exact byOwner.post post owner (by simp) (by simp) (by simp [natural.views, natural.opens])
      · rw [if_neg own]
        have byOther : (empty.user actor .actorOnOthers activity.onOthers).Sound :=
          Sound.empty.user actor .actorOnOthers (by simp) (by simp [Activity.onOthers])
            (by simp [Activity.onOthers, natural.views, natural.opens])
        exact toPost (toOwner byOther (by simp [Ne.symm own])) (by simp)

theorem sound_commentCreated (natural : activity.Natural)
    (actor comment post postOwner : String) :
    (commentCreated actor comment post postOwner activity).Sound := by
  unfold commentCreated
  by_cases own : actor = postOwner
  · rw [if_pos own]
    have byOwner : (empty.user actor .selfOnOwn [(.commentsCreated, Amount.one),
        (.commentsCreatedOnOwnContentBySelf, Amount.one)]).Sound :=
      Sound.empty.user actor .selfOnOwn (by simp) (by simp) (by simp)
    exact (byOwner.post post postOwner (by simp) (by simp) (by simp)).comment comment actor
      (by simp) (by simp) (by simp [natural.views, natural.opens])
  · rw [if_neg own]
    have byOther : (empty.user actor .actorOnOthers
        ([(.commentsCreated, Amount.one), (.commentsOnOthersContent, Amount.one)] ++
          activity.voteOnly.onOthers)).Sound :=
      Sound.empty.user actor .actorOnOthers (by simp) (by simp [Activity.onOthers])
        (by simp [Activity.onOthers, Activity.voteOnly])
    have toOwner : (Plan.user _ postOwner .ownerReceiving
        ([(.commentsOnOwnedContent, Amount.one)] ++ activity.voteOnly.onOwned)).Sound :=
      byOther.user postOwner .ownerReceiving (by simp [Ne.symm own]) (by simp [Activity.onOwned])
        (by simp [Activity.onOwned, Activity.voteOnly])
    exact (toOwner.post post postOwner (by simp) (by simp) (by simp)).comment comment actor
      (by simp) (by simp) (by simp [natural.views, natural.opens])

theorem sound_commentUpdated (natural : activity.Natural)
    (actor author comment postOwner : String) :
    (commentUpdated actor author comment postOwner activity).Sound := by
  unfold commentUpdated
  split
  · exact Sound.empty.assign actor .unsupported
  · rename_i foreign
    have other : actor ≠ author := fun same => foreign (Or.inl same)
    have byOther : (empty.user actor .actorOnOthers activity.onOthersComment).Sound :=
      Sound.empty.user actor .actorOnOthers (by simp) (by simp [Activity.onOthersComment])
        (by simp [Activity.onOthersComment, natural.views, natural.opens])
    have toAuthor : (Plan.user _ author .ownerReceiving activity.onOwnedComment).Sound :=
      byOther.user author .ownerReceiving (by simp [other.symm])
        (by simp [Activity.onOwnedComment])
        (by simp [Activity.onOwnedComment, natural.views, natural.opens])
    exact toAuthor.comment comment author (by simp) (by simp)
      (by simp [natural.views, natural.opens])

/-- The plan of an event's operation, from an activity and the authors that are involved. -/
inductive Classified (event : Event) (authors : Authorship) (activity : Activity) : Plan → Prop where
  | postCreated (actor : String) (operation : event.operation = .createContent)
      (named : event.actor.userId? = some actor) :
      Classified event authors activity (postCreated actor event.contentId)
  | postUpdated (operation : event.operation = .updateContent)
      (owned : authors.contentOwner ≠ "") :
      Classified event authors activity
        (postUpdated event.actor authors.contentOwner event.contentId activity)
  | commentCreated (actor post postOwner : String) (operation : event.operation = .createComment)
      (named : event.actor.userId? = some actor) (parent : event.parentContentId = some post)
      (owner : authors.parentOwner = some postOwner) :
      Classified event authors activity
        (commentCreated actor event.contentId post postOwner activity)
  | commentUpdated (actor postOwner : String) (operation : event.operation = .updateComment)
      (named : event.actor.userId? = some actor) (owner : authors.parentOwner = some postOwner) :
      Classified event authors activity
        (commentUpdated actor authors.contentOwner event.contentId postOwner activity)

theorem actorOf_eq_ok_iff {event : Event} {actor : String} :
    actorOf event = .ok actor ↔ event.actor.userId? = some actor := by
  unfold actorOf
  cases event.actor.userId? <;> simp

theorem parentOf_eq_ok_iff {event : Event} {post : String} :
    parentOf event = .ok post ↔ event.parentContentId = some post := by
  unfold parentOf
  cases event.parentContentId <;> simp

theorem parentOwnerOf_eq_ok_iff {authors : Authorship} {owner : String} :
    parentOwnerOf authors = .ok owner ↔ authors.parentOwner = some owner := by
  unfold parentOwnerOf
  cases authors.parentOwner <;> simp

/-- A plan is made exactly where the operation has all that it needs. -/
theorem ofEvent_eq_ok_iff {event : Event} {authors : Authorship} {plan : Plan} :
    ofEvent event authors = .ok plan ↔
      ∃ activity, Activity.ofEvent event = .ok activity ∧
        Classified event authors activity plan := by
  constructor
  · intro made
    obtain ⟨activity, read, rest⟩ := Answer.bind_eq_ok_iff.mp made
    refine ⟨activity, read, ?_⟩
    cases operation : event.operation with
    | createContent =>
        simp only [operation] at rest
        obtain ⟨actor, named, same⟩ := Answer.bind_eq_ok_iff.mp rest
        cases same
        exact .postCreated actor operation (actorOf_eq_ok_iff.mp named)
    | updateContent =>
        simp only [operation] at rest
        split at rest
        · cases rest
        · rename_i owned
          cases rest
          exact .postUpdated operation owned
    | createComment =>
        simp only [operation] at rest
        obtain ⟨actor, named, rest⟩ := Answer.bind_eq_ok_iff.mp rest
        obtain ⟨post, parent, rest⟩ := Answer.bind_eq_ok_iff.mp rest
        obtain ⟨postOwner, owner, same⟩ := Answer.bind_eq_ok_iff.mp rest
        cases same
        exact .commentCreated actor post postOwner operation (actorOf_eq_ok_iff.mp named)
          (parentOf_eq_ok_iff.mp parent) (parentOwnerOf_eq_ok_iff.mp owner)
    | updateComment =>
        simp only [operation] at rest
        obtain ⟨actor, named, rest⟩ := Answer.bind_eq_ok_iff.mp rest
        obtain ⟨postOwner, owner, same⟩ := Answer.bind_eq_ok_iff.mp rest
        cases same
        exact .commentUpdated actor postOwner operation (actorOf_eq_ok_iff.mp named)
          (parentOwnerOf_eq_ok_iff.mp owner)
  · rintro ⟨activity, read, classified⟩
    refine Answer.bind_eq_ok_iff.mpr ⟨activity, read, ?_⟩
    cases classified with
    | postCreated actor operation named =>
        simp only [operation]
        exact Answer.bind_eq_ok_iff.mpr ⟨actor, actorOf_eq_ok_iff.mpr named, rfl⟩
    | postUpdated operation owned =>
        simp only [operation]
        rw [if_neg owned]
        rfl
    | commentCreated actor post postOwner operation named parent owner =>
        simp only [operation]
        refine Answer.bind_eq_ok_iff.mpr ⟨actor, actorOf_eq_ok_iff.mpr named, ?_⟩
        refine Answer.bind_eq_ok_iff.mpr ⟨post, parentOf_eq_ok_iff.mpr parent, ?_⟩
        exact Answer.bind_eq_ok_iff.mpr ⟨postOwner, parentOwnerOf_eq_ok_iff.mpr owner, rfl⟩
    | commentUpdated actor postOwner operation named owner =>
        simp only [operation]
        refine Answer.bind_eq_ok_iff.mpr ⟨actor, actorOf_eq_ok_iff.mpr named, ?_⟩
        exact Answer.bind_eq_ok_iff.mpr ⟨postOwner, parentOwnerOf_eq_ok_iff.mpr owner, rfl⟩

/-- Every plan that the classification makes is as it should be. -/
theorem sound_ofEvent {event : Event} {authors : Authorship} {plan : Plan}
    (made : ofEvent event authors = .ok plan) : plan.Sound := by
  obtain ⟨activity, read, classified⟩ := ofEvent_eq_ok_iff.mp made
  have natural := Activity.natural_ofEvent read
  cases classified with
  | postCreated actor => exact sound_postCreated actor event.contentId
  | postUpdated =>
      exact sound_postUpdated natural event.actor authors.contentOwner event.contentId
  | commentCreated actor post postOwner =>
      exact sound_commentCreated natural actor event.contentId post postOwner
  | commentUpdated actor postOwner =>
      exact sound_commentUpdated natural actor authors.contentOwner event.contentId postOwner

/-- A plan touches some tracker, unless it leaves its event uncounted. -/
theorem trackers_ne_nil {event : Event} {authors : Authorship} {plan : Plan}
    (made : ofEvent event authors = .ok plan) (supported : plan.isUnsupported = false) :
    plan.trackers ≠ [] := by
  suffices touched : ∃ target, target ∈ plan.targets by
    intro none
    obtain ⟨target, member⟩ := touched
    rw [targets, none] at member
    cases member
  obtain ⟨activity, _, classified⟩ := ofEvent_eq_ok_iff.mp made
  cases classified with
  | postCreated actor => exact ⟨.post event.contentId, by simp [Plan.postCreated]⟩
  | postUpdated =>
      refine ⟨.post event.contentId, ?_⟩
      unfold Plan.postUpdated
      split
      · split <;> simp
      · simp
  | commentCreated actor post postOwner =>
      refine ⟨.comment event.contentId, ?_⟩
      unfold Plan.commentCreated
      split <;> simp
  | commentUpdated actor postOwner =>
      refine ⟨.comment event.contentId, ?_⟩
      unfold Plan.commentUpdated at supported ⊢
      split at supported
      · cases supported
      · rename_i foreign
        simp [foreign]

end Plan

end ActivityLedger
