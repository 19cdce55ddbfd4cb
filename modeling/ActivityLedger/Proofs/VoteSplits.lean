import ActivityLedger.Proofs.Assemblies
import ActivityLedger.Proofs.Fronts

/-!
# Every vote is up or down

Users give and get votes in four ways, each with a counter of all votes and one for each
direction.  What a plan has for one user has as many votes as directions, so that every
increment keeps the three counters of a month, and those of each of its days, in step:
however often recordings are cut short, no counter is negative and no vote is lost.
-/

namespace ActivityLedger

/-- The ways in which a user gives or gets votes. -/
inductive VoteFamily where
  | owned
  | others
  | ownedComments
  | othersComments
deriving DecidableEq

namespace VoteFamily

@[simp] def votes : VoteFamily → UserCounter
  | .owned => .votesForOwned
  | .others => .votesForOthers
  | .ownedComments => .votesForOwnedComments
  | .othersComments => .votesForOthersComments

@[simp] def up : VoteFamily → UserCounter
  | .owned => .upVotesForOwned
  | .others => .upVotesForOthers
  | .ownedComments => .upVotesForOwnedComments
  | .othersComments => .upVotesForOthersComments

@[simp] def down : VoteFamily → UserCounter
  | .owned => .downVotesForOwned
  | .others => .downVotesForOthers
  | .ownedComments => .downVotesForOwnedComments
  | .othersComments => .downVotesForOthersComments

end VoteFamily

/-- Amounts for the counters of a user in which every vote is up or down. -/
def VotesSplit (amount : UserCounter → Int) : Prop :=
  ∀ family : VoteFamily, amount family.votes = amount family.up + amount family.down

namespace VotesSplit

theorem zero : VotesSplit fun _ => 0 := fun _ => rfl

theorem add {left right : UserCounter → Int} (first : VotesSplit left)
    (second : VotesSplit right) : VotesSplit fun counter => left counter + right counter := by
  intro family
  have here := first family
  have there := second family
  dsimp only
  omega

theorem total {posted : List (Key × List Update)}
    (each : ∀ entry ∈ posted, VotesSplit fun counter => updatesTotal entry.2 (.user counter)) :
    VotesSplit fun counter => Log.total posted (.user counter) := by
  induction posted with
  | nil => exact zero
  | cons entry rest ih =>
      obtain ⟨first, others⟩ := List.forall_mem_cons.mp each
      exact first.add (ih others)

end VotesSplit

/-! ## Plans -/

namespace Plan

theorem amountFor_apply (plan : Plan) {own : Target} {updates : List Update}
    (addressed : ∀ update ∈ updates, update.target = own) (target : Target) (counter : Counter) :
    (plan.apply updates).amountFor target counter = plan.amountFor target counter +
      if own = target then updatesTotal updates counter else 0 := by
  have split : (plan.apply updates).updatesFor target = plan.updatesFor target ++
      (updates.filter fun update => update.target = target).filter fun update =>
        update.delta ≠ Amount.zero := by
    rw [updatesFor, apply, List.filter_append, List.filter_comm]
    rfl
  rw [amountFor, split, updatesTotal_append, updatesTotal_filter_ne_zero, amountFor]
  congr 1
  by_cases here : own = target
  · have all : updates.filter (fun update => update.target = target) = updates :=
      List.filter_eq_self.mpr fun update member => by simp [addressed update member, here]
    rw [all, if_pos here]
  · have none : updates.filter (fun update => update.target = target) = [] :=
      List.filter_eq_nil_iff.mpr fun update member => by simp [addressed update member, here]
    rw [none, if_neg here, updatesTotal_nil]

/-- What a plan has for each entity has every vote up or down. -/
def SplitsVotes (plan : Plan) : Prop :=
  ∀ target, VotesSplit fun counter => plan.amountFor target (.user counter)

namespace SplitsVotes

variable {plan : Plan}

theorem empty : Plan.empty.SplitsVotes := fun _ _ => rfl

theorem assign (splits : plan.SplitsVotes) (userId : String) (quadrant : Quadrant) :
    (plan.assign userId quadrant).SplitsVotes := splits

theorem track (splits : plan.SplitsVotes) (template : Template) :
    (plan.track template).SplitsVotes := by
  unfold Plan.track
  split <;> exact splits

theorem apply (splits : plan.SplitsVotes) (own : Target) {updates : List Update}
    (addressed : ∀ update ∈ updates, update.target = own)
    (added : VotesSplit fun counter => updatesTotal updates (.user counter)) :
    (plan.apply updates).SplitsVotes := by
  intro target
  simp only [amountFor_apply plan addressed]
  apply (splits target).add
  by_cases here : own = target
  · simpa only [if_pos here] using added
  · simpa only [if_neg here] using VotesSplit.zero

theorem user (splits : plan.SplitsVotes) (userId : String) (quadrant : Quadrant)
    {counters : List (UserCounter × Amount)} (added : VotesSplit (amountIn counters)) :
    (plan.user userId quadrant counters).SplitsVotes := by
  have same (counter : UserCounter) :
      updatesTotal (counters.map fun entry => Update.user userId entry.1 entry.2) (.user counter) =
        amountIn counters counter :=
    updatesTotal_map (fun _ _ => Counter.user.inj) _ counters counter
  apply ((splits.assign userId quadrant).track _).apply (.user userId)
  · exact List.forall_mem_map.mpr fun _ _ => rfl
  · simpa only [same] using added

theorem content {κ : Type} (splits : plan.SplitsVotes) (template : Template) {name : κ → Counter}
    (foreign : ∀ own counter, name own ≠ .user counter) (counters : List (κ × Amount)) :
    ((plan.track template).apply
      (counters.map fun entry => ⟨template.target, name entry.1, entry.2⟩)).SplitsVotes := by
  have nothing (counter : UserCounter) :
      updatesTotal (counters.map fun entry => (⟨template.target, name entry.1, entry.2⟩ : Update))
        (.user counter) = 0 :=
    updatesTotal_map_of_ne name (fun own => foreign own counter) _ counters
  apply (splits.track template).apply template.target
  · exact List.forall_mem_map.mpr fun _ _ => rfl
  · simpa only [nothing] using VotesSplit.zero

theorem post (splits : plan.SplitsVotes) (postId authorId : String)
    (counters : List (PostCounter × Amount)) : (plan.post postId authorId counters).SplitsVotes :=
  splits.content (.post postId authorId) (by simp) counters

theorem comment (splits : plan.SplitsVotes) (commentId authorId : String)
    (counters : List (CommentCounter × Amount)) :
    (plan.comment commentId authorId counters).SplitsVotes :=
  splits.content (.comment commentId authorId) (by simp) counters

end SplitsVotes

/-- Each list of amounts for a user has the vote once in all and once in its direction. -/
theorem UserAmounts.votesSplit {activity : Activity} {counters : List (UserCounter × Amount)}
    (amounts : UserAmounts activity counters) : VotesSplit (amountIn counters) := by
  intro family
  cases amounts with
  | wrotePost | onOwn | commentedOnOwn => cases family <;> simp [Activity.onOwn, amountIn_cons]
  | onOthers | commentedOnOthers =>
      cases family <;> simp [Activity.onOthers, amountIn_cons, activity.val_voted]
  | onOwned | receivedComment =>
      cases family <;> simp [Activity.onOwned, amountIn_cons, activity.val_voted]
  | onOthersComment =>
      cases family <;> simp [Activity.onOthersComment, amountIn_cons, activity.val_voted]
  | onOwnedComment =>
      cases family <;> simp [Activity.onOwnedComment, amountIn_cons, activity.val_voted]

theorem Assembled.splitsVotes {activity : Activity} {plan : Plan}
    (assembled : plan.Assembled activity) : plan.SplitsVotes := by
  induction assembled with
  | empty => exact .empty
  | assign _ userId quadrant ih => exact ih.assign userId quadrant
  | user _ userId quadrant amounts ih => exact ih.user userId quadrant amounts.votesSplit
  | post _ postId authorId amounts ih => exact ih.post postId authorId _
  | comment _ commentId authorId amounts ih => exact ih.comment commentId authorId _

end Plan

/-- Whatever call of an entry adds updates, every vote among them is up or down. -/
theorem Entry.votesSplit_of_mem_calls {entry : Entry} {key : Key} {updates : List Update}
    (member : .increment key updates ∈ entry.calls) :
    VotesSplit fun counter => updatesTotal updates (.user counter) := by
  obtain ⟨plan, planned, _, template, _, opening | ⟨_, posting⟩⟩ :=
    exists_share_of_mem_calls member
  · cases opening
  · cases posting
    obtain ⟨authors, _, made⟩ := Answer.bind_eq_ok_iff.mp planned
    obtain ⟨activity, _, classified⟩ := Plan.ofEvent_eq_ok_iff.mp made
    exact classified.assembled.splitsVotes template.target

/-! ## Memories -/

namespace Memory

/-- Every vote of a user is up or down, in each month and on each day, and no counter of anything
is negative. -/
def WellCounted (memory : Memory) : Prop :=
  memory.Throughout (fun amount => (∀ counter, 0 ≤ amount counter) ∧ VotesSplit amount)
    fun amount => ∀ counter, 0 ≤ amount counter

theorem Reflects.wellCounted {memory : Memory} {log : Log} (reflects : memory.Reflects log)
    (natural : log.Natural)
    (split : ∀ entry ∈ log.posted, VotesSplit fun counter => updatesTotal entry.2 (.user counter)) :
    memory.WellCounted := by
  apply reflects.throughout
  case months =>
    intro id
    refine ⟨fun counter => natural.total_postedAt .user id _, VotesSplit.total ?_⟩
    exact fun entry member => split entry (List.mem_of_mem_filter member)
  case days =>
    intro id slot
    refine ⟨fun counter => natural.total_postedOn id slot _, VotesSplit.total ?_⟩
    exact fun entry member =>
      split entry (List.mem_of_mem_filter (List.mem_of_mem_filter member))
  case contents =>
    intro kind id counter
    dsimp only
    split
    · exact natural.total_postedAt kind.tracker id counter
    · exact Int.le_refl 0

/-- However the calls on a memory fail before they reach it, after recordings on an empty one
every vote of a user is up or down, in each month and on each day, and no counter is negative. -/
theorem wellCounted_afterEntries (faults : Nat → Option Error) (entries : List Entry) :
    ((store.interrupted faults).afterEntries entries (empty, 0)).1.WellCounted := by
  have start : Prod.fst (empty, 0) = empty := rfl
  obtain ⟨parts, prefixes, reflects⟩ :=
    (fronts_interrupted faults).reflects_afterEntries entries start
  refine reflects.wellCounted (Log.natural_ofCalls (Entry.sound_of_mem_flatten prefixes)) ?_
  rintro ⟨key, updates⟩ posted
  obtain ⟨call, member, same⟩ := List.mem_filterMap.mp posted
  obtain ⟨entry, _, here⟩ := Entry.exists_of_mem_flatten prefixes member
  cases call with
  | increment =>
      cases same
      exact entry.votesSplit_of_mem_calls here
  | ensure | content | user | contentRange | userRange => cases same

end Memory

end ActivityLedger
