import ActivityLedger.Error

/-!
# Directories

Who wrote a post or a comment.  Content is kept elsewhere, so the ledger asks a
directory, which may know an author, know none, or fail.
-/

namespace ActivityLedger

/-- What the ledger asks about content. -/
structure Directory where
  postAuthor : String → Except Error (Option String)
  commentAuthor : String → Except Error (Option String)

/-- The authors that were registered, the latest first. -/
structure Registry where
  posts : List (String × String)
  comments : List (String × String)
deriving DecidableEq

namespace Registry

def empty : Registry := ⟨[], []⟩

def withPost (registry : Registry) (post author : String) : Registry :=
  { registry with posts := (post, author) :: registry.posts }

def withComment (registry : Registry) (comment author : String) : Registry :=
  { registry with comments := (comment, author) :: registry.comments }

/-- The directory that knows the registered authors and never fails. -/
def directory (registry : Registry) : Directory where
  postAuthor post := .ok (registry.posts.lookup post)
  commentAuthor comment := .ok (registry.comments.lookup comment)

end Registry

end ActivityLedger
