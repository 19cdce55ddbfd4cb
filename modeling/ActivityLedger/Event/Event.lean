import ActivityLedger.Event.Words

/-!
# Events

One action of somebody on a post or a comment, with the vote, the views and the
opens that come with it.  An event may have been put together by anybody, so it
is checked before it is counted.
-/

namespace ActivityLedger

inductive Actor where
  | user (id : String)
  /-- A visitor without an account. -/
  | anonymous
deriving DecidableEq

def Actor.userId? : Actor → Option String
  | .user id => some id
  | .anonymous => none

structure Event where
  operation : Operation
  actor : Actor
  /-- The author of the post, or of the comment in an operation on comments. -/
  contentOwnerId : String
  contentKind : ContentKind
  isNewContent : Bool
  contentId : String
  /-- The post that a comment belongs to. -/
  parentContentId : Option String
  vote : Option Vote
  viewCount : Count
  openCount : Count
deriving DecidableEq

namespace Event

/-- The most views, and the most opens, that one event may carry. -/
def countLimit : Int := 1000000

/-- An event without vote, views and opens. -/
def plain (operation : Operation) (actor : Actor) (ownerId contentId : String)
    (parentContentId : Option String) : Event where
  operation := operation
  actor := actor
  contentOwnerId := ownerId
  contentKind := operation.content
  isNewContent := operation.creates
  contentId := contentId
  parentContentId := parentContentId
  vote := none
  viewCount := Count.zero
  openCount := Count.zero

def createPost (authorId postId : String) : Event :=
  plain .createContent (.user authorId) authorId postId none

def updatePost (actor : Actor) (ownerId postId : String) : Event :=
  plain .updateContent actor ownerId postId none

def createComment (authorId commentId postId : String) : Event :=
  plain .createComment (.user authorId) authorId commentId (some postId)

def updateComment (actorId commentAuthorId commentId postId : String) : Event :=
  plain .updateComment (.user actorId) commentAuthorId commentId (some postId)

def withVote (event : Event) (vote : Vote) : Event := { event with vote := some vote }

/-- The event with the vote that a pair of flags stands for. -/
def withVoteFlags (event : Event) (up down : Bool) : Except Error Event :=
  (Vote.ofFlags up down).map fun vote => { event with vote := vote }

def withViews (event : Event) (count : Count) : Event := { event with viewCount := count }

def withOpens (event : Event) (count : Count) : Event := { event with openCount := count }

def hasVoted (event : Event) : Bool := event.vote.isSome

def hasViewed (event : Event) : Bool := 0 < event.viewCount.val

def hasOpened (event : Event) : Bool := 0 < event.openCount.val

/-- The operation fits the kind of content and its newness. -/
def checkOperation (event : Event) : Except Error Unit :=
  if event.operation.content ≠ event.contentKind then
    .error (.invariant (.wrongContentKind event.operation event.contentKind))
  else if event.operation.creates ≠ event.isNewContent then
    .error (.invariant (.wrongNewness event.operation event.isNewContent))
  else .ok ()

/-- A comment names the post it belongs to, and a post names none. -/
def checkParent (event : Event) : Except Error Unit :=
  match event.contentKind, event.parentContentId with
  | .comment, none => .error (.invariant (.noParent event.contentId))
  | .comment, some parent =>
      if parent = "" then .error (.invariant (.emptyParent event.contentId)) else .ok ()
  | .post, some parent => .error (.invariant (.parentOfPost event.contentId parent))
  | .post, none => .ok ()

/-- The actor has an id, except that anybody may view a post. -/
def checkActor (event : Event) : Except Error Unit :=
  match event.actor with
  | .anonymous =>
      if event.operation = .updateContent then .ok ()
      else .error (.invariant (.anonymousActor event.operation))
  | .user id => if id = "" then .error (.invariant .emptyActorId) else .ok ()

def checkCount (event : Event) (field : String) (count : Count) : Except Error Unit :=
  if countLimit < count.val then
    .error (.invariant (.countOverLimit field count event.contentId countLimit))
  else .ok ()

/-- The rules that every event keeps before it is counted. -/
def validate (event : Event) : Except Error Unit := do
  if event.contentId = "" then throw (.invariant .emptyContentId)
  event.checkOperation
  event.checkParent
  event.checkActor
  event.checkCount "view_count" event.viewCount
  event.checkCount "open_count" event.openCount

end Event

end ActivityLedger
