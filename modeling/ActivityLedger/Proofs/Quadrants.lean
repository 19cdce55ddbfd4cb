import ActivityLedger.Proofs.Plans

/-!
# Roles and their counters

An event has an actor on content of their own, an actor and an owner, a visitor's owner, or
an actor who is not counted.  A plan sets up trackers for the users that count, each in one
role, and gives each of them the counters of that role only.
-/

namespace ActivityLedger

def UserCounter.EndsIn (counter : UserCounter) (ending : String) : Prop :=
  ending.toList <:+ (column counter).toList

instance (counter : UserCounter) (ending : String) : Decidable (counter.EndsIn ending) :=
  inferInstanceAs (Decidable (_ <:+ _))

namespace Quadrant

def Counts : Quadrant → UserCounter → Prop
  | .selfOnOwn, counter =>
      counter = .contentItemsCreated ∨ counter = .commentsCreated ∨ counter.EndsIn "_by_self"
  | .actorOnOthers, counter =>
      counter = .commentsCreated ∨ counter = .commentsOnOthersContent ∨
        counter.EndsIn "_others" ∨ counter.EndsIn "_others_comments"
  | .ownerReceiving, counter =>
      counter = .commentsOnOwnedContent ∨
        counter.EndsIn "_owned" ∨ counter.EndsIn "_owned_comments"
  | .unsupported, _ => False

instance : (quadrant : Quadrant) → (counter : UserCounter) → Decidable (quadrant.Counts counter)
  | .selfOnOwn, _ => inferInstanceAs (Decidable (_ ∨ _ ∨ _))
  | .actorOnOthers, _ => inferInstanceAs (Decidable (_ ∨ _ ∨ _ ∨ _))
  | .ownerReceiving, _ => inferInstanceAs (Decidable (_ ∨ _ ∨ _))
  | .unsupported, _ => inferInstanceAs (Decidable False)

end Quadrant

/-! ## The amounts of an activity -/

namespace Activity

variable (activity : Activity)

theorem counts_onOwn : ∀ entry ∈ activity.onOwn, Quadrant.selfOnOwn.Counts entry.1 := by
  simp only [onOwn, List.forall_mem_cons]
  decide

theorem counts_onOthers : ∀ entry ∈ activity.onOthers, Quadrant.actorOnOthers.Counts entry.1 := by
  simp only [onOthers, List.forall_mem_cons]
  decide

theorem counts_onOwned : ∀ entry ∈ activity.onOwned, Quadrant.ownerReceiving.Counts entry.1 := by
  simp only [onOwned, List.forall_mem_cons]
  decide

theorem counts_onOthersComment :
    ∀ entry ∈ activity.onOthersComment, Quadrant.actorOnOthers.Counts entry.1 := by
  simp only [onOthersComment, List.forall_mem_cons]
  decide

theorem counts_onOwnedComment :
    ∀ entry ∈ activity.onOwnedComment, Quadrant.ownerReceiving.Counts entry.1 := by
  simp only [onOwnedComment, List.forall_mem_cons]
  decide

end Activity

namespace Plan

/-! ## The parts of a plan -/

section

variable (plan : Plan)

@[simp] theorem attributions_track (template : Template) :
    (plan.track template).attributions = plan.attributions := by
  unfold track
  split <;> rfl

@[simp] theorem mem_trackers_track (template other : Template) :
    other ∈ (plan.track template).trackers ↔ other ∈ plan.trackers ∨ other = template := by
  unfold track
  split
  · rename_i known
    constructor
    · exact Or.inl
    · rintro (member | rfl)
      · exact member
      · exact known
  · simp

@[simp] theorem attributions_user (userId : String) (quadrant : Quadrant)
    (counters : List (UserCounter × Amount)) :
    (plan.user userId quadrant counters).attributions =
      plan.attributions ++ [⟨userId, quadrant⟩] :=
  attributions_track (plan.assign userId quadrant) (.user userId)

@[simp] theorem attributions_post (postId authorId : String)
    (counters : List (PostCounter × Amount)) :
    (plan.post postId authorId counters).attributions = plan.attributions :=
  attributions_track plan (.post postId authorId)

@[simp] theorem attributions_comment (commentId authorId : String)
    (counters : List (CommentCounter × Amount)) :
    (plan.comment commentId authorId counters).attributions = plan.attributions :=
  attributions_track plan (.comment commentId authorId)

@[simp] theorem attributions_empty : empty.attributions = [] := rfl

/-- What a plan adds it added before, or it is among the updates that are new. -/
theorem mem_updates_apply {plan : Plan} {updates : List Update} {update : Update}
    (listed : update ∈ (plan.apply updates).updates) :
    update ∈ plan.updates ∨ update ∈ updates :=
  (List.mem_append.mp listed).imp_right List.mem_of_mem_filter

end

/-! ## Plans with one role for each user -/

/-- The plan is made of new trackers, and those of users have amounts for counters of their role. -/
inductive Staged : Plan → Prop where
  | empty : Staged empty
  | uncounted (userId : String) : Staged (empty.assign userId .unsupported)
  | user {plan : Plan} (before : Staged plan) (userId : String) {quadrant : Quadrant}
      {counters : List (UserCounter × Amount)} (fresh : Target.user userId ∉ plan.targets)
      (counted : quadrant ≠ .unsupported)
      (counts : ∀ entry ∈ counters, quadrant.Counts entry.1) :
      Staged (plan.user userId quadrant counters)
  | post {plan : Plan} (before : Staged plan) (postId authorId : String)
      {counters : List (PostCounter × Amount)} (fresh : Target.post postId ∉ plan.targets) :
      Staged (plan.post postId authorId counters)
  | comment {plan : Plan} (before : Staged plan) (commentId authorId : String)
      {counters : List (CommentCounter × Amount)}
      (fresh : Target.comment commentId ∉ plan.targets) :
      Staged (plan.comment commentId authorId counters)

variable {activity : Activity}

theorem staged_postCreated (actor post : String) : (postCreated actor post).Staged := by
  refine .post (.user .empty actor (by simp) (by simp) ?_) post actor (by simp)
  simp only [List.forall_mem_cons]
  decide

theorem staged_postUpdated (actor : Actor) (owner post : String) :
    (postUpdated actor owner post activity).Staged := by
  cases actor with
  | anonymous =>
      have toOwner : (empty.user owner .ownerReceiving activity.onOwned).Staged :=
        .user .empty owner (by simp) (by simp) activity.counts_onOwned
      exact .post toOwner post owner (by simp)
  | user actor =>
      simp only [postUpdated]
      by_cases own : actor = owner
      · rw [if_pos own]
        have byOwner : (empty.user actor .selfOnOwn activity.onOwn).Staged :=
          .user .empty actor (by simp) (by simp) activity.counts_onOwn
        exact .post byOwner post owner (by simp)
      · rw [if_neg own]
        have byOther : (empty.user actor .actorOnOthers activity.onOthers).Staged :=
          .user .empty actor (by simp) (by simp) activity.counts_onOthers
        have toOwner : (Plan.user _ owner .ownerReceiving activity.onOwned).Staged :=
          .user byOther owner (by simp [Ne.symm own]) (by simp) activity.counts_onOwned
        exact .post toOwner post owner (by simp)

theorem staged_commentCreated (actor comment post postOwner : String) :
    (commentCreated actor comment post postOwner activity).Staged := by
  unfold commentCreated
  by_cases own : actor = postOwner
  · rw [if_pos own]
    have byOwner : (empty.user actor .selfOnOwn [(.commentsCreated, Amount.one),
        (.commentsCreatedOnOwnContentBySelf, Amount.one)]).Staged := by
      refine .user .empty actor (by simp) (by simp) ?_
      simp only [List.forall_mem_cons]
      decide
    exact .comment (.post byOwner post postOwner (by simp)) comment actor (by simp)
  · rw [if_neg own]
    have byActor : ∀ entry ∈ [(.commentsCreated, Amount.one),
        (.commentsOnOthersContent, Amount.one)] ++ activity.voteOnly.onOthers,
        Quadrant.actorOnOthers.Counts entry.1 := by
      refine List.forall_mem_append.mpr ⟨?_, activity.voteOnly.counts_onOthers⟩
      simp only [List.forall_mem_cons]
      decide
    have forOwner : ∀ entry ∈ [(.commentsOnOwnedContent, Amount.one)] ++ activity.voteOnly.onOwned,
        Quadrant.ownerReceiving.Counts entry.1 := by
      refine List.forall_mem_append.mpr ⟨?_, activity.voteOnly.counts_onOwned⟩
      simp only [List.forall_mem_cons]
      decide
    have acted := Staged.empty.user actor (by simp) (by simp) byActor
    have received := acted.user postOwner (by simp [Ne.symm own]) (by simp) forOwner
    exact .comment (.post received post postOwner (by simp)) comment actor (by simp)

theorem staged_commentUpdated (actor author comment postOwner : String) :
    (commentUpdated actor author comment postOwner activity).Staged := by
  unfold commentUpdated
  split
  · exact .uncounted actor
  · rename_i foreign
    have other : actor ≠ author := fun same => foreign (Or.inl same)
    have byOther : (empty.user actor .actorOnOthers activity.onOthersComment).Staged :=
      .user .empty actor (by simp) (by simp) activity.counts_onOthersComment
    have toAuthor : (Plan.user _ author .ownerReceiving activity.onOwnedComment).Staged :=
      .user byOther author (by simp [other.symm]) (by simp) activity.counts_onOwnedComment
    exact .comment toAuthor comment author (by simp)

/-- Every plan of the classification gives its users one role each. -/
theorem Classified.staged {event : Event} {authors : Authorship} {plan : Plan}
    (classified : Classified event authors activity plan) : plan.Staged := by
  cases classified with
  | postCreated actor => exact staged_postCreated actor event.contentId
  | postUpdated => exact staged_postUpdated event.actor authors.contentOwner event.contentId
  | commentCreated actor post postOwner =>
      exact staged_commentCreated actor event.contentId post postOwner
  | commentUpdated actor postOwner =>
      exact staged_commentUpdated actor authors.contentOwner event.contentId postOwner

namespace Staged

variable {plan : Plan}

/-- The users with a tracker are those with a role that counts. -/
theorem mem_trackers_iff (staged : plan.Staged) (userId : String) :
    Template.user userId ∈ plan.trackers ↔
      ∃ attribution ∈ plan.attributions,
        attribution.userId = userId ∧ attribution.quadrant ≠ .unsupported := by
  induction staged with
  | empty => simp [Plan.empty]
  | uncounted other => simp [Plan.empty, assign]
  | @user plan before other quadrant counters fresh counted counts ih =>
      have trackers : Template.user userId ∈ (plan.user other quadrant counters).trackers ↔
          Template.user userId ∈ plan.trackers ∨ Template.user userId = .user other :=
        mem_trackers_track (plan.assign other quadrant) (.user other) (.user userId)
      rw [trackers, ih, attributions_user]
      simp [or_and_right, exists_or, counted, eq_comm]
  | @post plan before postId authorId counters fresh ih =>
      have trackers : Template.user userId ∈ (plan.post postId authorId counters).trackers ↔
          Template.user userId ∈ plan.trackers ∨ Template.user userId = .post postId authorId :=
        mem_trackers_track plan (.post postId authorId) (.user userId)
      simpa [trackers] using ih
  | @comment plan before commentId authorId counters fresh ih =>
      have trackers : Template.user userId ∈ (plan.comment commentId authorId counters).trackers ↔
          Template.user userId ∈ plan.trackers ∨
            Template.user userId = .comment commentId authorId :=
        mem_trackers_track plan (.comment commentId authorId) (.user userId)
      simpa [trackers] using ih

/-- An amount for a user is for a counter of a role of theirs. -/
theorem exists_counts (staged : plan.Staged) {update : Update} (listed : update ∈ plan.updates)
    {userId : String} (addressed : update.target = .user userId) :
    ∃ attribution ∈ plan.attributions, attribution.userId = userId ∧
      ∃ counter, update.counter = .user counter ∧ attribution.quadrant.Counts counter := by
  induction staged with
  | empty | uncounted => cases listed
  | @user plan before other quadrant counters fresh counted counts ih =>
      rw [attributions_user]
      rcases mem_updates_apply listed with earlier | new
      · rw [updates_track] at earlier
        obtain ⟨attribution, member, role⟩ := ih earlier
        exact ⟨attribution, List.mem_append_left _ member, role⟩
      · obtain ⟨entry, isEntry, rfl⟩ := List.mem_map.mp new
        cases addressed
        exact ⟨_, List.mem_append_right _ List.mem_cons_self, rfl, entry.1, rfl,
          counts entry isEntry⟩
  | @post plan before postId authorId counters fresh ih =>
      rw [attributions_post]
      rcases mem_updates_apply listed with earlier | new
      · exact ih (by simpa using earlier)
      · obtain ⟨entry, _, rfl⟩ := List.mem_map.mp new
        cases addressed
  | @comment plan before commentId authorId counters fresh ih =>
      rw [attributions_comment]
      rcases mem_updates_apply listed with earlier | new
      · exact ih (by simpa using earlier)
      · obtain ⟨entry, _, rfl⟩ := List.mem_map.mp new
        cases addressed

end Staged

end Plan

/-! ## The parties of an event -/

/-- Who has a part in an event: a user on content of their own, a user on that of another, the
owner whom a visitor came to, or a user who is not counted. -/
inductive Parties where
  | own (actor : String)
  | others (actor owner : String)
  | visit (owner : String)
  | uncounted (actor : String)

def Event.owner? (event : Event) (authors : Authorship) : Option String :=
  match event.operation with
  | .createContent => event.actor.userId?
  | .createComment => authors.parentOwner
  | .updateContent | .updateComment => some authors.contentOwner

theorem Actor.eq_user_of_userId? {actor : Actor} {id : String} (named : actor.userId? = some id) :
    actor = .user id := by
  cases actor with
  | user other =>
      cases named
      rfl
  | anonymous => cases named

namespace Parties

def attributions : Parties → List Attribution
  | .own actor => [⟨actor, .selfOnOwn⟩]
  | .others actor owner => [⟨actor, .actorOnOthers⟩, ⟨owner, .ownerReceiving⟩]
  | .visit owner => [⟨owner, .ownerReceiving⟩]
  | .uncounted actor => [⟨actor, .unsupported⟩]

/-- The parties are those of an event, and a plan does nothing for one who is not counted. -/
def Fit (event : Event) (authors : Authorship) (plan : Plan) : Parties → Prop
  | .own actor => event.actor = .user actor ∧ event.owner? authors = some actor
  | .others actor owner =>
      event.actor = .user actor ∧ event.owner? authors = some owner ∧ actor ≠ owner
  | .visit owner =>
      event.actor = .anonymous ∧ event.operation = .updateContent ∧
        event.owner? authors = some owner
  | .uncounted actor =>
      event.actor = .user actor ∧ event.operation = .updateComment ∧
        plan.trackers = [] ∧ plan.updates = []

theorem attributions_injective : Function.Injective attributions := by
  intro parties others same
  cases parties <;> cases others <;> simp_all [attributions]

end Parties

namespace Plan

variable {event : Event} {authors : Authorship} {activity : Activity} {plan : Plan}

def quadrantsOf (plan : Plan) (userId : String) : List Quadrant :=
  (plan.attributions.filter fun attribution => attribution.userId = userId).map
    Attribution.quadrant

theorem Classified.exists_parties (classified : Classified event authors activity plan) :
    ∃ parties : Parties, plan.attributions = parties.attributions ∧
      parties.Fit event authors plan := by
  cases classified with
  | postCreated actor operation named =>
      refine ⟨.own actor, by simp [Plan.postCreated, Parties.attributions], ?_⟩
      simp [Parties.Fit, Event.owner?, operation, Actor.userId?, Actor.eq_user_of_userId? named]
  | postUpdated operation owned =>
      cases acting : event.actor with
      | anonymous =>
          refine ⟨.visit authors.contentOwner, by simp [Plan.postUpdated, Parties.attributions], ?_⟩
          simp [Parties.Fit, Event.owner?, operation, acting]
      | user actor =>
          by_cases own : actor = authors.contentOwner
          · refine ⟨.own actor, by simp [Plan.postUpdated, own, Parties.attributions], ?_⟩
            simp [Parties.Fit, Event.owner?, operation, acting, own]
          · refine ⟨.others actor authors.contentOwner,
              by simp [Plan.postUpdated, own, Parties.attributions], ?_⟩
            simp [Parties.Fit, Event.owner?, operation, acting, own]
  | commentCreated actor post postOwner operation named parent owner =>
      by_cases own : actor = postOwner
      · refine ⟨.own actor, by simp [Plan.commentCreated, own, Parties.attributions], ?_⟩
        simp [Parties.Fit, Event.owner?, operation, owner, own, Actor.eq_user_of_userId? named]
      · refine ⟨.others actor postOwner,
          by simp [Plan.commentCreated, own, Parties.attributions], ?_⟩
        simp [Parties.Fit, Event.owner?, operation, owner, own, Actor.eq_user_of_userId? named]
  | commentUpdated actor postOwner operation named owner =>
      unfold Plan.commentUpdated
      split
      · refine ⟨.uncounted actor, by simp [assign, Plan.empty, Parties.attributions], ?_⟩
        simp [Parties.Fit, operation, assign, Plan.empty, Actor.eq_user_of_userId? named]
      · rename_i foreign
        have other : actor ≠ authors.contentOwner := fun same => foreign (Or.inl same)
        refine ⟨.others actor authors.contentOwner, by simp [Parties.attributions], ?_⟩
        simp [Parties.Fit, Event.owner?, operation, other, Actor.eq_user_of_userId? named]

/-- No user has two roles. -/
theorem quadrantsOf_eq {parties : Parties} (same : plan.attributions = parties.attributions)
    (fit : parties.Fit event authors plan) {attribution : Attribution}
    (member : attribution ∈ plan.attributions) :
    plan.quadrantsOf attribution.userId = [attribution.quadrant] := by
  rw [quadrantsOf]
  rw [same] at member ⊢
  cases parties with
  | own actor | visit actor | uncounted actor =>
      obtain rfl := List.mem_singleton.mp member
      simp [Parties.attributions]
  | others actor owner =>
      obtain ⟨_, _, different⟩ := fit
      rcases List.mem_cons.mp member with rfl | last
      · simp [Parties.attributions, different.symm]
      · obtain rfl := List.mem_singleton.mp last
        simp [Parties.attributions, different]

/-- The parties of an event are of one sort, the users with trackers are those parties that count,
and every amount for a user is for a counter of the one role that the user has. -/
structure Roles (event : Event) (authors : Authorship) (plan : Plan) : Prop where
  parties : ∃! parties : Parties, plan.attributions = parties.attributions ∧
    parties.Fit event authors plan
  users : ∀ userId, Template.user userId ∈ plan.trackers ↔
    ∃ quadrant, plan.quadrantsOf userId = [quadrant] ∧ quadrant ≠ .unsupported
  counters : ∀ update ∈ plan.updates, ∀ userId, update.target = .user userId →
    ∃ quadrant counter, plan.quadrantsOf userId = [quadrant] ∧
      update.counter = .user counter ∧ quadrant.Counts counter

theorem roles_ofEvent (made : ofEvent event authors = .ok plan) : Roles event authors plan := by
  obtain ⟨activity, _, classified⟩ := ofEvent_eq_ok_iff.mp made
  obtain ⟨parties, same, fit⟩ := classified.exists_parties
  have staged := classified.staged
  constructor
  case parties =>
    refine ⟨parties, ⟨same, fit⟩, ?_⟩
    rintro other ⟨sameOther, _⟩
    exact Parties.attributions_injective (sameOther.symm.trans same)
  case users =>
    intro userId
    rw [staged.mem_trackers_iff]
    constructor
    · rintro ⟨attribution, member, rfl, counted⟩
      exact ⟨attribution.quadrant, quadrantsOf_eq same fit member, counted⟩
    · rintro ⟨quadrant, roles, counted⟩
      have role : quadrant ∈ plan.quadrantsOf userId := by simp [roles]
      obtain ⟨attribution, member, rfl⟩ := List.mem_map.mp role
      obtain ⟨listed, isUser⟩ := List.mem_filter.mp member
      exact ⟨attribution, listed, by simpa using isUser, counted⟩
  case counters =>
    intro update listed userId addressed
    obtain ⟨attribution, member, rfl, counter, named, counts⟩ :=
      staged.exists_counts listed addressed
    exact ⟨attribution.quadrant, counter, quadrantsOf_eq same fit member, named, counts⟩

def commentWithVote : Event := (Event.createComment "bo" "c1" "p1").withVote .up

theorem roles_ofEvent_commentWithVote :
    ∃ plan, ofEvent commentWithVote ⟨"bo", some "ana"⟩ = .ok plan ∧
      Roles commentWithVote ⟨"bo", some "ana"⟩ plan :=
  ⟨_, rfl, roles_ofEvent rfl⟩

end Plan

end ActivityLedger
