import ActivityLedger.Attribution.Plan

/-!
# Classification

From an event and its authors to a plan.  Every interaction of two users has two
sides, the actor's and the owner's, and each side has counters of its own.  Votes
on one's own content count nowhere.
-/

namespace ActivityLedger

/-- The vote, the views and the opens of an event, as amounts. -/
structure Activity where
  vote : Option Vote
  views : Amount
  opens : Amount
deriving DecidableEq

namespace Activity

def amountOf (field : String) (count : Count) : Except Error Amount :=
  match Amount.ofCount? count with
  | some amount => .ok amount
  | none => .error (.invariant (.countOutOfRange field count))

def ofEvent (event : Event) : Except Error Activity := do
  let views ← amountOf "view_count" event.viewCount
  let opens ← amountOf "open_count" event.openCount
  return ⟨event.vote, views, opens⟩

def voteOnly (activity : Activity) : Activity :=
  { activity with views := Amount.zero, opens := Amount.zero }

def up (activity : Activity) : Amount := Amount.ofBool (activity.vote = some .up)

def down (activity : Activity) : Amount := Amount.ofBool (activity.vote = some .down)

def voted (activity : Activity) : Amount := Amount.ofBool activity.vote.isSome

/-- What the actor gets for activity on the post of somebody else. -/
def onOthers (activity : Activity) : List (UserCounter × Amount) := [
  (.votesForOthers, activity.voted),
  (.upVotesForOthers, activity.up),
  (.downVotesForOthers, activity.down),
  (.viewsOfOthers, activity.views),
  (.opensOfOthers, activity.opens)]

/-- What the owner gets for the activity of somebody else on a post. -/
def onOwned (activity : Activity) : List (UserCounter × Amount) := [
  (.votesForOwned, activity.voted),
  (.upVotesForOwned, activity.up),
  (.downVotesForOwned, activity.down),
  (.viewsOfOwned, activity.views),
  (.opensOfOwned, activity.opens)]

/-- What a user gets for activity on a post of their own. -/
def onOwn (activity : Activity) : List (UserCounter × Amount) := [
  (.viewsOfOwnedBySelf, activity.views),
  (.opensOfOwnedBySelf, activity.opens)]

/-- What the actor gets for activity on the comment of somebody else. -/
def onOthersComment (activity : Activity) : List (UserCounter × Amount) := [
  (.votesForOthersComments, activity.voted),
  (.upVotesForOthersComments, activity.up),
  (.downVotesForOthersComments, activity.down),
  (.viewsOfOthersComments, activity.views),
  (.opensOfOthersComments, activity.opens)]

/-- What the author gets for the activity of somebody else on a comment. -/
def onOwnedComment (activity : Activity) : List (UserCounter × Amount) := [
  (.votesForOwnedComments, activity.voted),
  (.upVotesForOwnedComments, activity.up),
  (.downVotesForOwnedComments, activity.down),
  (.viewsOfOwnedComments, activity.views),
  (.opensOfOwnedComments, activity.opens)]

/-- What a post gets for the activity of somebody other than its owner. -/
def onPost (activity : Activity) : List (PostCounter × Amount) := [
  (.upVotes, activity.up),
  (.downVotes, activity.down),
  (.views, activity.views),
  (.opens, activity.opens)]

end Activity

namespace Plan

def actorOf (event : Event) : Except Error String :=
  match event.actor.userId? with
  | some id => .ok id
  | none => .error (.invariant (.actorRequired event.operation))

def parentOf (event : Event) : Except Error String :=
  match event.parentContentId with
  | some id => .ok id
  | none => .error (.invariant (.noParent event.contentId))

def parentOwnerOf (authors : Authorship) : Except Error String :=
  match authors.parentOwner with
  | some id => .ok id
  | none => .error (.lookup .parentAuthorNotResolved)

def postCreated (actor post : String) : Plan :=
  (empty.user actor .selfOnOwn [(.contentItemsCreated, Amount.one)]).post post actor []

def postUpdated (actor : Actor) (owner post : String) (activity : Activity) : Plan :=
  match actor with
  | .user actor =>
      if actor = owner then
        (empty.user actor .selfOnOwn activity.onOwn).post post owner
          [(.views, activity.views), (.opens, activity.opens)]
      else
        ((empty.user actor .actorOnOthers activity.onOthers).user owner .ownerReceiving
          activity.onOwned).post post owner activity.onPost
  | .anonymous =>
      (empty.user owner .ownerReceiving activity.onOwned).post post owner activity.onPost

/-- A user commented on a post.  The vote counts for the post, the rest for the comment. -/
def commentCreated (actor comment post postOwner : String) (activity : Activity) : Plan :=
  let carried := activity.voteOnly
  if actor = postOwner then
    ((empty.user actor .selfOnOwn
        [(.commentsCreated, Amount.one), (.commentsCreatedOnOwnContentBySelf, Amount.one)]).post
      post postOwner [(.commentsReceived, Amount.one)]).comment
      comment actor [(.views, activity.views), (.opens, activity.opens)]
  else
    (((empty.user actor .actorOnOthers
        ([(.commentsCreated, Amount.one), (.commentsOnOthersContent, Amount.one)] ++
          carried.onOthers)).user
      postOwner .ownerReceiving ([(.commentsOnOwnedContent, Amount.one)] ++ carried.onOwned)).post
      post postOwner
        [(.commentsReceived, Amount.one), (.upVotes, carried.up),
          (.downVotes, carried.down)]).comment
      comment actor
        [(.parentUpVotes, carried.up), (.parentDownVotes, carried.down),
          (.views, activity.views), (.opens, activity.opens)]

/-- A user acted on a comment.  Only the activity of third parties is counted. -/
def commentUpdated (actor author comment postOwner : String) (activity : Activity) : Plan :=
  if actor = author ∨ actor = postOwner then empty.assign actor .unsupported
  else
    ((empty.user actor .actorOnOthers activity.onOthersComment).user author .ownerReceiving
      activity.onOwnedComment).comment comment author
        [(.upVotes, activity.up), (.downVotes, activity.down),
          (.views, activity.views), (.opens, activity.opens)]

def ofEvent (event : Event) (authors : Authorship) : Except Error Plan := do
  let activity ← Activity.ofEvent event
  match event.operation with
  | .createContent =>
      let actor ← actorOf event
      return postCreated actor event.contentId
  | .updateContent =>
      if authors.contentOwner = "" then
        throw (.lookup (.postOwnerNotResolved event.contentId))
      return postUpdated event.actor authors.contentOwner event.contentId activity
  | .createComment =>
      let actor ← actorOf event
      let post ← parentOf event
      let postOwner ← parentOwnerOf authors
      return commentCreated actor event.contentId post postOwner activity
  | .updateComment =>
      let actor ← actorOf event
      let postOwner ← parentOwnerOf authors
      return commentUpdated actor authors.contentOwner event.contentId postOwner activity

end Plan

end ActivityLedger
