import ActivityLedger.Counter.Names
import ActivityLedger.Numeric.Bounded

/-!
# Targets, templates and updates

What an amount is addressed to, what is needed to set up a missing tracker, and
a single amount for one counter of one entity.
-/

namespace ActivityLedger

inductive Target where
  | user (id : String)
  | post (id : String)
  | comment (id : String)
deriving DecidableEq

namespace Target

def kind : Target → TrackerKind
  | .user _ => .user
  | .post _ => .post
  | .comment _ => .comment

def entityId : Target → String
  | .user id | .post id | .comment id => id

/-- The kind and the id with a colon between them. -/
def text (target : Target) : String := target.kind.name ++ ":" ++ target.entityId

end Target

/-- What is needed to set up a missing tracker. -/
inductive Template where
  | user (userId : String)
  | post (postId authorId : String)
  | comment (commentId authorId : String)
deriving DecidableEq

namespace Template

def target : Template → Target
  | .user userId => .user userId
  | .post postId _ => .post postId
  | .comment commentId _ => .comment commentId

def kind (template : Template) : TrackerKind := template.target.kind

def entityId (template : Template) : String := template.target.entityId

def authorId? : Template → Option String
  | .user _ => none
  | .post _ authorId | .comment _ authorId => some authorId

end Template

structure Update where
  target : Target
  counter : Counter
  delta : Amount
deriving DecidableEq

namespace Update

def user (userId : String) (counter : UserCounter) (delta : Amount) : Update :=
  ⟨.user userId, .user counter, delta⟩

def post (postId : String) (counter : PostCounter) (delta : Amount) : Update :=
  ⟨.post postId, .post counter, delta⟩

def comment (commentId : String) (counter : CommentCounter) (delta : Amount) : Update :=
  ⟨.comment commentId, .comment counter, delta⟩

end Update

end ActivityLedger
