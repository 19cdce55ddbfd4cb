import ActivityLedger.Counter.Vocabulary
import ActivityLedger.Kind

/-!
# The counters of users, posts and comments

Three vocabularies, one for each kind of tracker, and their union.
-/

namespace ActivityLedger

/-- What is counted for a user, in a month and in each of its days. -/
inductive UserCounter where
  | contentItemsCreated
  | commentsOnOwnedContent
  | commentsOnOthersContent
  | votesForOwned
  | upVotesForOwned
  | downVotesForOwned
  | viewsOfOwned
  | viewsOfOwnedBySelf
  | opensOfOwned
  | opensOfOwnedBySelf
  | votesForOthers
  | upVotesForOthers
  | downVotesForOthers
  | viewsOfOthers
  | opensOfOthers
  | commentsCreated
  | commentsCreatedOnOwnContentBySelf
  | votesForOwnedComments
  | upVotesForOwnedComments
  | downVotesForOwnedComments
  | viewsOfOwnedComments
  | opensOfOwnedComments
  | votesForOthersComments
  | upVotesForOthersComments
  | downVotesForOthersComments
  | viewsOfOthersComments
  | opensOfOthersComments
deriving DecidableEq

inductive PostCounter where
  | commentsReceived
  | upVotes
  | downVotes
  | views
  | opens
deriving DecidableEq

/-- What is counted for a comment on one day.  The last two hold the vote that the comment
carried on its parent post when it was created. -/
inductive CommentCounter where
  | upVotes
  | downVotes
  | views
  | opens
  | parentUpVotes
  | parentDownVotes
deriving DecidableEq

namespace UserCounter

def inOrder : List UserCounter := [
  .contentItemsCreated, .commentsOnOwnedContent, .commentsOnOthersContent,
  .votesForOwned, .upVotesForOwned, .downVotesForOwned,
  .viewsOfOwned, .viewsOfOwnedBySelf, .opensOfOwned,
  .opensOfOwnedBySelf, .votesForOthers, .upVotesForOthers,
  .downVotesForOthers, .viewsOfOthers, .opensOfOthers,
  .commentsCreated, .commentsCreatedOnOwnContentBySelf, .votesForOwnedComments,
  .upVotesForOwnedComments, .downVotesForOwnedComments, .viewsOfOwnedComments,
  .opensOfOwnedComments, .votesForOthersComments, .upVotesForOthersComments,
  .downVotesForOthersComments, .viewsOfOthersComments, .opensOfOthersComments]

def columnName : UserCounter → String
  | .contentItemsCreated => "content_items_created"
  | .commentsOnOwnedContent => "comments_on_owned_content"
  | .commentsOnOthersContent => "comments_on_others_content"
  | .votesForOwned => "votes_for_owned"
  | .upVotesForOwned => "up_votes_for_owned"
  | .downVotesForOwned => "down_votes_for_owned"
  | .viewsOfOwned => "views_of_owned"
  | .viewsOfOwnedBySelf => "views_of_owned_by_self"
  | .opensOfOwned => "opens_of_owned"
  | .opensOfOwnedBySelf => "opens_of_owned_by_self"
  | .votesForOthers => "votes_for_others"
  | .upVotesForOthers => "up_votes_for_others"
  | .downVotesForOthers => "down_votes_for_others"
  | .viewsOfOthers => "views_of_others"
  | .opensOfOthers => "opens_of_others"
  | .commentsCreated => "comments_created"
  | .commentsCreatedOnOwnContentBySelf => "comments_created_on_own_content_by_self"
  | .votesForOwnedComments => "votes_for_owned_comments"
  | .upVotesForOwnedComments => "up_votes_for_owned_comments"
  | .downVotesForOwnedComments => "down_votes_for_owned_comments"
  | .viewsOfOwnedComments => "views_of_owned_comments"
  | .opensOfOwnedComments => "opens_of_owned_comments"
  | .votesForOthersComments => "votes_for_others_comments"
  | .upVotesForOthersComments => "up_votes_for_others_comments"
  | .downVotesForOthersComments => "down_votes_for_others_comments"
  | .viewsOfOthersComments => "views_of_others_comments"
  | .opensOfOthersComments => "opens_of_others_comments"

instance : Vocabulary UserCounter where
  size := 27
  position counter := ⟨counter.ctorIdx, by cases counter <;> decide⟩
  member index := inOrder.get index
  member_position counter := by cases counter <;> rfl
  position_member := by decide
  column := columnName

end UserCounter

namespace PostCounter

def inOrder : List PostCounter := [
  .commentsReceived, .upVotes, .downVotes,
  .views, .opens]

def columnName : PostCounter → String
  | .commentsReceived => "comments_received"
  | .upVotes => "up_votes"
  | .downVotes => "down_votes"
  | .views => "views"
  | .opens => "opens"

instance : Vocabulary PostCounter where
  size := 5
  position counter := ⟨counter.ctorIdx, by cases counter <;> decide⟩
  member index := inOrder.get index
  member_position counter := by cases counter <;> rfl
  position_member := by decide
  column := columnName

end PostCounter

namespace CommentCounter

def inOrder : List CommentCounter := [
  .upVotes, .downVotes, .views,
  .opens, .parentUpVotes, .parentDownVotes]

def columnName : CommentCounter → String
  | .upVotes => "up_votes"
  | .downVotes => "down_votes"
  | .views => "views"
  | .opens => "opens"
  | .parentUpVotes => "parent_up_votes"
  | .parentDownVotes => "parent_down_votes"

instance : Vocabulary CommentCounter where
  size := 6
  position counter := ⟨counter.ctorIdx, by cases counter <;> decide⟩
  member index := inOrder.get index
  member_position counter := by cases counter <;> rfl
  position_member := by decide
  column := columnName

end CommentCounter

namespace TrackerKind

/-- What a kind of tracker counts. -/
def Counted : TrackerKind → Type
  | .user => UserCounter
  | .post => PostCounter
  | .comment => CommentCounter

instance (kind : TrackerKind) : Vocabulary kind.Counted :=
  match kind with
  | .user => inferInstanceAs (Vocabulary UserCounter)
  | .post => inferInstanceAs (Vocabulary PostCounter)
  | .comment => inferInstanceAs (Vocabulary CommentCounter)

instance (kind : TrackerKind) : DecidableEq kind.Counted :=
  match kind with
  | .user => inferInstanceAs (DecidableEq UserCounter)
  | .post => inferInstanceAs (DecidableEq PostCounter)
  | .comment => inferInstanceAs (DecidableEq CommentCounter)

end TrackerKind

/-- A counter of any of the three vocabularies. -/
inductive Counter where
  | user (counter : UserCounter)
  | post (counter : PostCounter)
  | comment (counter : CommentCounter)
deriving DecidableEq

namespace Counter

def kind : Counter → TrackerKind
  | .user _ => .user
  | .post _ => .post
  | .comment _ => .comment

def columnName : Counter → String
  | .user counter => column counter
  | .post counter => column counter
  | .comment counter => column counter

end Counter

end ActivityLedger
