import ActivityLedger.Proofs.Plans

/-!
# Both sides of every interaction

What is counted for one side of an interaction is counted for the other side, too.  The
laws hold where nothing is counted, they hold of a sum where they hold of its terms, and
they hold of every plan that the classification makes.
-/

namespace ActivityLedger

/-- Totals in which both sides of every interaction are accounted for. -/
structure Balanced (total : Counter → Int) : Prop where
  /-- What happens to posts, happens to their owners. -/
  upVotes : total (.post .upVotes) = total (.user .upVotesForOwned)
  downVotes : total (.post .downVotes) = total (.user .downVotesForOwned)
  views : total (.post .views) =
    total (.user .viewsOfOwned) + total (.user .viewsOfOwnedBySelf)
  opens : total (.post .opens) =
    total (.user .opensOfOwned) + total (.user .opensOfOwnedBySelf)
  /-- Only visitors without an account act on a post and are not counted themselves. -/
  upVotesForOthers : total (.user .upVotesForOthers) ≤ total (.user .upVotesForOwned)
  downVotesForOthers : total (.user .downVotesForOthers) ≤ total (.user .downVotesForOwned)
  viewsOfOthers : total (.user .viewsOfOthers) ≤ total (.user .viewsOfOwned)
  opensOfOthers : total (.user .opensOfOthers) ≤ total (.user .opensOfOwned)
  /-- A comment is written by one user and received by one post and its owner. -/
  commentsReceived : total (.post .commentsReceived) = total (.user .commentsCreated)
  commentsCreated : total (.user .commentsCreated) =
    total (.user .commentsOnOwnedContent) + total (.user .commentsCreatedOnOwnContentBySelf)
  commentsOnOthersContent : total (.user .commentsOnOthersContent) =
    total (.user .commentsOnOwnedContent)
  /-- The vote that a comment carries counts for its post. -/
  parentUpVotes : total (.comment .parentUpVotes) ≤ total (.post .upVotes)
  parentDownVotes : total (.comment .parentDownVotes) ≤ total (.post .downVotes)
  /-- What happens to comments, happens to their authors. -/
  commentUpVotes : total (.comment .upVotes) = total (.user .upVotesForOwnedComments)
  commentDownVotes : total (.comment .downVotes) = total (.user .downVotesForOwnedComments)
  upVotesForOthersComments : total (.user .upVotesForOwnedComments) =
    total (.user .upVotesForOthersComments)
  downVotesForOthersComments : total (.user .downVotesForOwnedComments) =
    total (.user .downVotesForOthersComments)
  viewsOfOthersComments : total (.user .viewsOfOwnedComments) =
    total (.user .viewsOfOthersComments)
  opensOfOthersComments : total (.user .opensOfOwnedComments) =
    total (.user .opensOfOthersComments)
  /-- The views of a comment that its creation carries are those of its author. -/
  commentViews : total (.user .viewsOfOwnedComments) ≤ total (.comment .views)
  commentOpens : total (.user .opensOfOwnedComments) ≤ total (.comment .opens)
  /-- A vote has one of two directions. -/
  votesForOwned : total (.user .votesForOwned) =
    total (.user .upVotesForOwned) + total (.user .downVotesForOwned)
  votesForOthers : total (.user .votesForOthers) =
    total (.user .upVotesForOthers) + total (.user .downVotesForOthers)
  votesForOwnedComments : total (.user .votesForOwnedComments) =
    total (.user .upVotesForOwnedComments) + total (.user .downVotesForOwnedComments)
  votesForOthersComments : total (.user .votesForOthersComments) =
    total (.user .upVotesForOthersComments) + total (.user .downVotesForOthersComments)

namespace Balanced

theorem zero : Balanced fun _ => 0 := by
  constructor <;> decide

theorem add {left right : Counter → Int} (first : Balanced left) (second : Balanced right) :
    Balanced fun counter => left counter + right counter := by
  cases first
  cases second
  constructor <;> omega

theorem sum {α : Type} {total : α → Counter → Int} {terms : List α}
    (each : ∀ term ∈ terms, Balanced (total term)) :
    Balanced fun counter => (terms.map fun term => total term counter).sum := by
  induction terms with
  | nil => exact zero
  | cons term rest ih =>
      obtain ⟨first, others⟩ := List.forall_mem_cons.mp each
      exact first.add (ih others)

end Balanced

/-! ## What a plan adds -/

/-- The amounts for a vocabulary add to its counters what they list. -/
theorem updatesTotal_map {κ : Type} [DecidableEq κ] {name : κ → Counter}
    (names : Function.Injective name) (target : Target) (counters : List (κ × Amount))
    (counter : κ) :
    updatesTotal (counters.map fun entry => ⟨target, name entry.1, entry.2⟩) (name counter) =
      amountIn counters counter := by
  induction counters with
  | nil => rfl
  | cons entry rest ih =>
      rw [List.map_cons, updatesTotal_cons, amountIn_cons, ih]
      simp only [names.eq_iff]

theorem updatesTotal_map_of_ne {κ : Type} (name : κ → Counter) {counter : Counter}
    (foreign : ∀ own, name own ≠ counter) (target : Target) (counters : List (κ × Amount)) :
    updatesTotal (counters.map fun entry => ⟨target, name entry.1, entry.2⟩) counter = 0 := by
  exact updatesTotal_eq_zero (List.forall_mem_map.mpr fun entry _ => foreign entry.1)

/-- Amounts of zero may be left out. -/
theorem updatesTotal_filter_ne_zero (updates : List Update) (counter : Counter) :
    updatesTotal (updates.filter fun update => update.delta ≠ Amount.zero) counter =
      updatesTotal updates counter := by
  induction updates with
  | nil => rfl
  | cons update rest ih =>
      rw [List.filter_cons, updatesTotal_cons, ← ih]
      by_cases none : update.delta = Amount.zero
      · simp [none]
      · simp [none, updatesTotal_cons]

namespace Plan

/-- What a plan adds to a counter, over all its entities. -/
def total (plan : Plan) (counter : Counter) : Int := updatesTotal plan.updates counter

@[simp] theorem total_empty (counter : Counter) : empty.total counter = 0 := rfl

@[simp] theorem total_assign (plan : Plan) (userId : String) (quadrant : Quadrant)
    (counter : Counter) : (plan.assign userId quadrant).total counter = plan.total counter := rfl

@[simp] theorem total_track (plan : Plan) (template : Template) (counter : Counter) :
    (plan.track template).total counter = plan.total counter := by
  unfold track
  split <;> rfl

theorem total_apply (plan : Plan) (updates : List Update) (counter : Counter) :
    (plan.apply updates).total counter = plan.total counter + updatesTotal updates counter := by
  rw [total, apply, updatesTotal_append, updatesTotal_filter_ne_zero]
  rfl

@[simp] theorem total_user (plan : Plan) (userId : String) (quadrant : Quadrant)
    (counters : List (UserCounter × Amount)) (counter : Counter) :
    (plan.user userId quadrant counters).total counter =
      plan.total counter + match counter with
        | .user counter => amountIn counters counter
        | _ => 0 := by
  rw [user, total_apply, total_track, total_assign]
  congr 1
  cases counter with
  | user counter => exact updatesTotal_map (fun _ _ => Counter.user.inj) _ counters counter
  | post counter => exact updatesTotal_map_of_ne Counter.user (by simp) _ counters
  | comment counter => exact updatesTotal_map_of_ne Counter.user (by simp) _ counters

@[simp] theorem total_post (plan : Plan) (postId authorId : String)
    (counters : List (PostCounter × Amount)) (counter : Counter) :
    (plan.post postId authorId counters).total counter =
      plan.total counter + match counter with
        | .post counter => amountIn counters counter
        | _ => 0 := by
  rw [post, total_apply, total_track]
  congr 1
  cases counter with
  | post counter => exact updatesTotal_map (fun _ _ => Counter.post.inj) _ counters counter
  | user counter => exact updatesTotal_map_of_ne Counter.post (by simp) _ counters
  | comment counter => exact updatesTotal_map_of_ne Counter.post (by simp) _ counters

@[simp] theorem total_comment (plan : Plan) (commentId authorId : String)
    (counters : List (CommentCounter × Amount)) (counter : Counter) :
    (plan.comment commentId authorId counters).total counter =
      plan.total counter + match counter with
        | .comment counter => amountIn counters counter
        | _ => 0 := by
  rw [comment, total_apply, total_track]
  congr 1
  cases counter with
  | comment counter => exact updatesTotal_map (fun _ _ => Counter.comment.inj) _ counters counter
  | user counter => exact updatesTotal_map_of_ne Counter.comment (by simp) _ counters
  | post counter => exact updatesTotal_map_of_ne Counter.comment (by simp) _ counters

end Plan

theorem Activity.val_voted (activity : Activity) :
    activity.voted.val = activity.up.val + activity.down.val := by
  unfold voted up down
  cases activity.vote with
  | none => rfl
  | some vote => cases vote <;> rfl

@[simp] theorem Activity.voted_voteOnly (activity : Activity) :
    activity.voteOnly.voted = activity.voted := rfl

@[simp] theorem Activity.up_voteOnly (activity : Activity) :
    activity.voteOnly.up = activity.up := rfl

@[simp] theorem Activity.down_voteOnly (activity : Activity) :
    activity.voteOnly.down = activity.down := rfl

@[simp] theorem Activity.views_voteOnly (activity : Activity) :
    activity.voteOnly.views = Amount.zero := rfl

@[simp] theorem Activity.opens_voteOnly (activity : Activity) :
    activity.voteOnly.opens = Amount.zero := rfl

namespace Plan

theorem balanced_postCreated (actor post : String) : Balanced (postCreated actor post).total := by
  constructor <;> simp [postCreated, amountIn_cons]

variable {activity : Activity}

theorem balanced_postUpdated (natural : activity.Natural) (actor : Actor) (owner post : String) :
    Balanced (postUpdated actor owner post activity).total := by
  have directions := activity.val_voted
  have views := natural.views
  have opens := natural.opens
  cases actor with
  | anonymous =>
      constructor <;>
        simp [postUpdated, Activity.onOwned, Activity.onPost, amountIn_cons, directions, views,
          opens]
  | user actor =>
      by_cases own : actor = owner
      · constructor <;> simp [postUpdated, own, Activity.onOwn, amountIn_cons]
      · constructor <;>
          simp [postUpdated, own, Activity.onOthers, Activity.onOwned, Activity.onPost,
            amountIn_cons, directions]

theorem balanced_commentCreated (natural : activity.Natural)
    (actor comment post postOwner : String) :
    Balanced (commentCreated actor comment post postOwner activity).total := by
  have directions := activity.val_voted
  have views := natural.views
  have opens := natural.opens
  by_cases own : actor = postOwner
  · constructor <;> simp [commentCreated, own, amountIn_cons, views, opens]
  · constructor <;>
      simp [commentCreated, own, Activity.onOthers, Activity.onOwned, amountIn_cons, directions,
        views, opens]

theorem balanced_commentUpdated (actor author comment postOwner : String) :
    Balanced (commentUpdated actor author comment postOwner activity).total := by
  have directions := activity.val_voted
  unfold commentUpdated
  split
  · exact Balanced.zero
  · constructor <;>
      simp [Activity.onOthersComment, Activity.onOwnedComment, amountIn_cons, directions]

/-- Every plan that the classification makes accounts for both sides. -/
theorem balanced_ofEvent {event : Event} {authors : Authorship} {plan : Plan}
    (made : ofEvent event authors = .ok plan) : Balanced plan.total := by
  obtain ⟨activity, read, classified⟩ := ofEvent_eq_ok_iff.mp made
  have natural := Activity.natural_ofEvent read
  cases classified with
  | postCreated actor => exact balanced_postCreated actor event.contentId
  | postUpdated =>
      exact balanced_postUpdated natural event.actor authors.contentOwner event.contentId
  | commentCreated actor post postOwner =>
      exact balanced_commentCreated natural actor event.contentId post postOwner
  | commentUpdated actor postOwner =>
      exact balanced_commentUpdated actor authors.contentOwner event.contentId postOwner

end Plan

end ActivityLedger
