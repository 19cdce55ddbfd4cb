import ActivityLedger.Proofs.DoubleEntry

/-!
# How plans are put together

Every plan of the classification is put together from a few lists of amounts, each of
which is for one user, post or comment.  What holds of these lists, and is kept where one
more is added to a plan, holds of all plans.
-/

namespace ActivityLedger

namespace Plan

/-- The amounts that an activity has for a user, in one role or another. -/
inductive UserAmounts (activity : Activity) : List (UserCounter × Amount) → Prop where
  | wrotePost : UserAmounts activity [(.contentItemsCreated, Amount.one)]
  | onOwn : UserAmounts activity activity.onOwn
  | onOthers : UserAmounts activity activity.onOthers
  | onOwned : UserAmounts activity activity.onOwned
  | commentedOnOwn : UserAmounts activity
      [(.commentsCreated, Amount.one), (.commentsCreatedOnOwnContentBySelf, Amount.one)]
  | commentedOnOthers : UserAmounts activity
      ([(.commentsCreated, Amount.one), (.commentsOnOthersContent, Amount.one)] ++
        activity.voteOnly.onOthers)
  | receivedComment : UserAmounts activity
      ([(.commentsOnOwnedContent, Amount.one)] ++ activity.voteOnly.onOwned)
  | onOthersComment : UserAmounts activity activity.onOthersComment
  | onOwnedComment : UserAmounts activity activity.onOwnedComment

inductive PostAmounts (activity : Activity) : List (PostCounter × Amount) → Prop where
  | created : PostAmounts activity []
  | byOwner : PostAmounts activity [(.views, activity.views), (.opens, activity.opens)]
  | byOthers : PostAmounts activity activity.onPost
  | commentedByOwner : PostAmounts activity [(.commentsReceived, Amount.one)]
  | commentedByOthers : PostAmounts activity
      [(.commentsReceived, Amount.one), (.upVotes, activity.voteOnly.up),
        (.downVotes, activity.voteOnly.down)]

inductive CommentAmounts (activity : Activity) : List (CommentCounter × Amount) → Prop where
  | created : CommentAmounts activity [(.views, activity.views), (.opens, activity.opens)]
  | createdWithVote : CommentAmounts activity
      [(.parentUpVotes, activity.voteOnly.up), (.parentDownVotes, activity.voteOnly.down),
        (.views, activity.views), (.opens, activity.opens)]
  | byOthers : CommentAmounts activity
      [(.upVotes, activity.up), (.downVotes, activity.down),
        (.views, activity.views), (.opens, activity.opens)]

/-- The plan is put together from the amounts of an activity. -/
inductive Assembled (activity : Activity) : Plan → Prop where
  | empty : Assembled activity empty
  | assign {plan : Plan} (before : Assembled activity plan) (userId : String)
      (quadrant : Quadrant) : Assembled activity (plan.assign userId quadrant)
  | user {plan : Plan} (before : Assembled activity plan) (userId : String) (quadrant : Quadrant)
      {counters : List (UserCounter × Amount)} (amounts : UserAmounts activity counters) :
      Assembled activity (plan.user userId quadrant counters)
  | post {plan : Plan} (before : Assembled activity plan) (postId authorId : String)
      {counters : List (PostCounter × Amount)} (amounts : PostAmounts activity counters) :
      Assembled activity (plan.post postId authorId counters)
  | comment {plan : Plan} (before : Assembled activity plan) (commentId authorId : String)
      {counters : List (CommentCounter × Amount)} (amounts : CommentAmounts activity counters) :
      Assembled activity (plan.comment commentId authorId counters)

variable {activity : Activity}

theorem assembled_postCreated (actor post : String) :
    (postCreated actor post).Assembled activity :=
  .post (.user .empty _ _ .wrotePost) _ _ .created

theorem assembled_postUpdated (actor : Actor) (owner post : String) :
    (postUpdated actor owner post activity).Assembled activity := by
  cases actor with
  | anonymous => exact .post (.user .empty _ _ .onOwned) _ _ .byOthers
  | user actor =>
      simp only [postUpdated]
      by_cases own : actor = owner
      · rw [if_pos own]
        exact .post (.user .empty _ _ .onOwn) _ _ .byOwner
      · rw [if_neg own]
        exact .post (.user (.user .empty _ _ .onOthers) _ _ .onOwned) _ _ .byOthers

theorem assembled_commentCreated (actor comment post postOwner : String) :
    (commentCreated actor comment post postOwner activity).Assembled activity := by
  unfold commentCreated
  by_cases own : actor = postOwner
  · rw [if_pos own]
    exact .comment (.post (.user .empty _ _ .commentedOnOwn) _ _ .commentedByOwner) _ _ .created
  · rw [if_neg own]
    refine .comment (.post ?_ _ _ .commentedByOthers) _ _ .createdWithVote
    exact .user (.user .empty _ _ .commentedOnOthers) _ _ .receivedComment

theorem assembled_commentUpdated (actor author comment postOwner : String) :
    (commentUpdated actor author comment postOwner activity).Assembled activity := by
  unfold commentUpdated
  split
  · exact .assign .empty _ _
  · refine .comment ?_ _ _ .byOthers
    exact .user (.user .empty _ _ .onOthersComment) _ _ .onOwnedComment

/-- Every plan of the classification is put together from the amounts of its activity. -/
theorem Classified.assembled {event : Event} {authors : Authorship} {plan : Plan}
    (classified : Classified event authors activity plan) : plan.Assembled activity := by
  cases classified with
  | postCreated actor => exact assembled_postCreated actor event.contentId
  | postUpdated => exact assembled_postUpdated event.actor authors.contentOwner event.contentId
  | commentCreated actor post postOwner =>
      exact assembled_commentCreated actor event.contentId post postOwner
  | commentUpdated actor postOwner =>
      exact assembled_commentUpdated actor authors.contentOwner event.contentId postOwner

end Plan

end ActivityLedger
