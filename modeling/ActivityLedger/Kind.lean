/-!
# Kinds

The closed vocabularies of the ledger: what is tracked, what an event is about,
what it does, and how somebody voted.  Each kind has one written name.
-/

namespace ActivityLedger

/-- What a tracker counts for.  The kind fixes the period: a month for users, a day otherwise. -/
inductive TrackerKind where
  | user
  | post
  | comment
deriving DecidableEq

inductive ContentKind where
  | post
  | comment
deriving DecidableEq

inductive Operation where
  | createContent
  | updateContent
  | createComment
  | updateComment
deriving DecidableEq

inductive Vote where
  | up
  | down
deriving DecidableEq

namespace TrackerKind

def all : List TrackerKind := [.user, .post, .comment]

def name : TrackerKind → String
  | .user => "user"
  | .post => "post"
  | .comment => "comment"

/-- User trackers cover a month, the others a day. -/
def isMonthly (kind : TrackerKind) : Bool := kind = .user

end TrackerKind

namespace ContentKind

def all : List ContentKind := [.post, .comment]

def name : ContentKind → String
  | .post => "post"
  | .comment => "comment"

def title : ContentKind → String
  | .post => "Post"
  | .comment => "Comment"

def tracker : ContentKind → TrackerKind
  | .post => .post
  | .comment => .comment

theorem tracker_inj {kind other : ContentKind} : kind.tracker = other.tracker ↔ kind = other := by
  cases kind <;> cases other <;> simp [tracker]

end ContentKind

theorem TrackerKind.eq_user_or_content (kind : TrackerKind) :
    kind = .user ∨ ∃ content : ContentKind, kind = content.tracker := by
  cases kind with
  | user => exact Or.inl rfl
  | post => exact Or.inr ⟨.post, rfl⟩
  | comment => exact Or.inr ⟨.comment, rfl⟩

namespace Operation

def all : List Operation := [.createContent, .updateContent, .createComment, .updateComment]

def name : Operation → String
  | .createContent => "create_content"
  | .updateContent => "update_content"
  | .createComment => "create_comment"
  | .updateComment => "update_comment"

def title : Operation → String
  | .createContent => "CreateContent"
  | .updateContent => "UpdateContent"
  | .createComment => "CreateComment"
  | .updateComment => "UpdateComment"

def content : Operation → ContentKind
  | .createContent | .updateContent => .post
  | .createComment | .updateComment => .comment

/-- The operation brings its content into being. -/
def creates : Operation → Bool
  | .createContent | .createComment => true
  | .updateContent | .updateComment => false

end Operation

namespace Vote

def all : List Vote := [.up, .down]

def name : Vote → String
  | .up => "up"
  | .down => "down"

end Vote

end ActivityLedger
