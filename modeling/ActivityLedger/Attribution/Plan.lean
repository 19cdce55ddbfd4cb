import ActivityLedger.Event.Event
import ActivityLedger.Tracker.Update

/-!
# Plans

What one event does to the trackers: who plays which role in it, which trackers
it touches, and which amounts go to which counters.
-/

namespace ActivityLedger

/-- The role that a user plays in an event. -/
inductive Quadrant where
  /-- Acting on content of one's own. -/
  | selfOnOwn
  /-- Acting on the content of somebody else. -/
  | actorOnOthers
  /-- Owning the content that somebody else acts on. -/
  | ownerReceiving
  /-- Acting in a way that is not counted. -/
  | unsupported
deriving DecidableEq

namespace Quadrant

def all : List Quadrant := [.selfOnOwn, .actorOnOthers, .ownerReceiving, .unsupported]

def name : Quadrant → String
  | .selfOnOwn => "self_on_own"
  | .actorOnOthers => "actor_on_others"
  | .ownerReceiving => "owner_receiving"
  | .unsupported => "unsupported"

end Quadrant

structure Attribution where
  userId : String
  quadrant : Quadrant
deriving DecidableEq

/-- The authors that an event involves. -/
structure Authorship where
  /-- The author of the post, or of the comment in an operation on comments. -/
  contentOwner : String
  /-- The author of the post that a comment belongs to. -/
  parentOwner : Option String
deriving DecidableEq

/-- All that one event does to the trackers. -/
structure Plan where
  attributions : List Attribution
  /-- The trackers to set up where they are missing, in the order of the commits. -/
  trackers : List Template
  updates : List Update
deriving DecidableEq

namespace Plan

def empty : Plan := ⟨[], [], []⟩

/-- The event is of a sort that is not counted. -/
def isUnsupported (plan : Plan) : Bool :=
  plan.attributions.any fun attribution => attribution.quadrant = .unsupported

def updatesFor (plan : Plan) (target : Target) : List Update :=
  plan.updates.filter fun update => update.target = target

def assign (plan : Plan) (userId : String) (quadrant : Quadrant) : Plan :=
  { plan with attributions := plan.attributions ++ [⟨userId, quadrant⟩] }

/-- The plan with one more tracker, unless it has it already. -/
def track (plan : Plan) (template : Template) : Plan :=
  if template ∈ plan.trackers then plan
  else { plan with trackers := plan.trackers ++ [template] }

/-- The plan with the updates whose amounts are not zero. -/
def apply (plan : Plan) (updates : List Update) : Plan :=
  { plan with updates := plan.updates ++ updates.filter fun update => update.delta ≠ Amount.zero }

def user (plan : Plan) (userId : String) (quadrant : Quadrant)
    (counters : List (UserCounter × Amount)) : Plan :=
  ((plan.assign userId quadrant).track (.user userId)).apply
    (counters.map fun entry => Update.user userId entry.1 entry.2)

def post (plan : Plan) (postId authorId : String)
    (counters : List (PostCounter × Amount)) : Plan :=
  (plan.track (.post postId authorId)).apply
    (counters.map fun entry => Update.post postId entry.1 entry.2)

def comment (plan : Plan) (commentId authorId : String)
    (counters : List (CommentCounter × Amount)) : Plan :=
  (plan.track (.comment commentId authorId)).apply
    (counters.map fun entry => Update.comment commentId entry.1 entry.2)

end Plan

end ActivityLedger
