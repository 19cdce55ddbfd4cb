import ActivityLedger.Proofs.Validity

/-!
# Events made in steps

An event is begun from the ids of those involved and is then given votes, views and opens,
each step in the place of what earlier ones gave.  So the last step on a field decides it.
An event that was made in this way is invalid only through its data, an id that is empty or
a count that is too great: what its operation asks of kind, newness, parent and actor it has
from its beginning, and no step changes it.
-/

namespace ActivityLedger

namespace Event

inductive Origin where
  | post (authorId postId : String)
  | postUpdate (actor : Actor) (ownerId postId : String)
  | comment (authorId commentId postId : String)
  | commentUpdate (actorId authorId commentId postId : String)
deriving DecidableEq

inductive Detail where
  | vote (vote : Vote)
  | voteFlags (up down : Bool)
  | views (count : Count)
  | opens (count : Count)
deriving DecidableEq

namespace Origin

def event : Origin → Event
  | .post authorId postId => createPost authorId postId
  | .postUpdate actor ownerId postId => updatePost actor ownerId postId
  | .comment authorId commentId postId => createComment authorId commentId postId
  | .commentUpdate actorId authorId commentId postId =>
      updateComment actorId authorId commentId postId

def contentId : Origin → String
  | .post _ id | .postUpdate _ _ id | .comment _ id _ | .commentUpdate _ _ id _ => id

def actor : Origin → Actor
  | .post id _ | .comment id _ _ | .commentUpdate id _ _ _ => .user id
  | .postUpdate actor _ _ => actor

def parentId? : Origin → Option String
  | .post .. | .postUpdate .. => none
  | .comment _ _ id | .commentUpdate _ _ _ id => some id

/-- The ids that an event cannot do without are not empty. -/
structure Named (origin : Origin) : Prop where
  content : origin.contentId ≠ ""
  actor : ∀ id, origin.actor = .user id → id ≠ ""
  parent : ∀ id, origin.parentId? = some id → id ≠ ""

end Origin

namespace Detail

/-- The vote that a step on the vote leaves. -/
def vote? : Detail → Option (Option Vote)
  | .vote direction => some (some direction)
  | .voteFlags up down => some (if up then some .up else if down then some .down else none)
  | .views _ | .opens _ => none

def views? : Detail → Option Count
  | .views count => some count
  | .vote _ | .voteFlags .. | .opens _ => none

def opens? : Detail → Option Count
  | .opens count => some count
  | .vote _ | .voteFlags .. | .views _ => none

variable {α : Type}

/-- What the last step on a field leaves there, or else what was there before. -/
def last (field : Detail → Option α) (before : α) (details : List Detail) : α :=
  (details.filterMap field).getLast?.getD before

theorem last_cons (field : Detail → Option α) (before : α) (detail : Detail)
    (rest : List Detail) :
    last field before (detail :: rest) = last field ((field detail).getD before) rest := by
  cases left : field detail with
  | none => simp [last, left]
  | some value => simp [last, left, List.getLast?_cons]

end Detail

/-! ## Steps -/

def add (event : Event) : Detail → Except Error Event
  | .vote direction => .ok (event.withVote direction)
  | .voteFlags up down => event.withVoteFlags up down
  | .views count => .ok (event.withViews count)
  | .opens count => .ok (event.withOpens count)

/-- The event after steps one after the other, up to the first that is refused. -/
def addAll (event : Event) : List Detail → Except Error Event
  | [] => .ok event
  | detail :: rest => (event.add detail).bind fun next => next.addAll rest

/-- The event with what the last steps on each field leave. -/
def carrying (event : Event) (details : List Detail) : Event :=
  { event with
    vote := Detail.last Detail.vote? event.vote details
    viewCount := Detail.last Detail.views? event.viewCount details
    openCount := Detail.last Detail.opens? event.openCount details }

theorem carrying_cons (event : Event) (detail : Detail) (rest : List Detail) :
    event.carrying (detail :: rest) = (event.carrying [detail]).carrying rest := by
  simp only [carrying, Detail.last_cons]
  rfl

/-- A step leaves its data, unless it sets both flags. -/
theorem add_of_ne (event : Event) {detail : Detail} (oneWay : detail ≠ .voteFlags true true) :
    event.add detail = .ok (event.carrying [detail]) := by
  cases detail with
  | vote | views | opens => rfl
  | voteFlags up down =>
      cases up with
      | false => cases down <;> rfl
      | true =>
          cases down with
          | false => rfl
          | true => exact absurd rfl oneWay

/-- Steps are refused exactly if one of them sets both flags, and else the last ones decide. -/
theorem addAll_eq (event : Event) (details : List Detail) :
    event.addAll details =
      if .voteFlags true true ∈ details then .error (.invariant .votesBothWays)
      else .ok (event.carrying details) := by
  induction details generalizing event with
  | nil => rfl
  | cons detail rest ih =>
      by_cases bothWays : detail = .voteFlags true true
      · rw [bothWays, if_pos List.mem_cons_self]
        rfl
      · have later : .voteFlags true true ∈ detail :: rest ↔ .voteFlags true true ∈ rest := by
          simp [Ne.symm bothWays]
        calc event.addAll (detail :: rest)
            = (event.carrying [detail]).addAll rest := by
              rw [addAll, add_of_ne event bothWays]
              rfl
          _ = _ := by simp only [ih, later, carrying_cons event detail rest]

/-! ## Form -/

/-- The event has what its operation asks of kind, newness, parent and actor. -/
structure Formed (event : Event) : Prop where
  kind : event.operation.content = event.contentKind
  newness : event.operation.creates = event.isNewContent
  parent : event.parentContentId.isSome = true ↔ event.contentKind = .comment
  visitor : event.actor = .anonymous → event.operation = .updateContent

theorem Origin.formed (origin : Origin) : origin.event.Formed := by
  cases origin <;> constructor <;> simp [event, createPost, updatePost, createComment,
    updateComment, plain, Operation.content]

/-- No step changes the form of an event. -/
theorem Formed.carrying {event : Event} (formed : event.Formed) (details : List Detail) :
    (event.carrying details).Formed :=
  ⟨formed.kind, formed.newness, formed.parent, formed.visitor⟩

/-- What an event can be refused for on account of its data. -/
inductive Blamed (event : Event) : Error → Prop where
  | content (empty : event.contentId = "") : Blamed event (.invariant .emptyContentId)
  | parent (empty : event.parentContentId = some "") :
      Blamed event (.invariant (.emptyParent event.contentId))
  | actor (empty : event.actor = .user "") : Blamed event (.invariant .emptyActorId)
  | views (beyond : countLimit < event.viewCount.val) :
      Blamed event
        (.invariant (.countOverLimit "view_count" event.viewCount event.contentId countLimit))
  | opens (beyond : countLimit < event.openCount.val) :
      Blamed event
        (.invariant (.countOverLimit "open_count" event.openCount event.contentId countLimit))

open Answer

section

variable {event : Event}

theorem Formed.blamed_checkParent (formed : event.Formed) :
    RefusedOnly event.Blamed event.checkParent := by
  have required := formed.parent
  unfold checkParent
  split
  · rename_i kind absent
    simp [kind, absent] at required
  · rename_i id kind given
    split
    · rename_i empty
      exact refusedOnly_error (.parent (empty ▸ given))
    · exact refusedOnly_ok ()
  · rename_i id kind given
    simp [kind, given] at required
  · exact refusedOnly_ok ()

theorem Formed.blamed_checkActor (formed : event.Formed) :
    RefusedOnly event.Blamed event.checkActor := by
  unfold checkActor
  split
  · rename_i acting
    rw [if_pos (formed.visitor acting)]
    exact refusedOnly_ok ()
  · rename_i id acting
    split
    · rename_i empty
      exact refusedOnly_error (.actor (empty ▸ acting))
    · exact refusedOnly_ok ()

theorem blamed_checkCount {field : String} {count : Count}
    (blame : countLimit < count.val →
      event.Blamed (.invariant (.countOverLimit field count event.contentId countLimit))) :
    RefusedOnly event.Blamed (event.checkCount field count) := by
  unfold checkCount
  split
  · rename_i beyond
    exact refusedOnly_error (blame beyond)
  · exact refusedOnly_ok ()

/-- An event of the right form is refused for its data only. -/
theorem Formed.blamed_validate (formed : event.Formed) :
    RefusedOnly event.Blamed event.validate := by
  have operation : event.checkOperation = .ok () :=
    checkOperation_eq_ok_iff.mpr ⟨formed.kind, formed.newness⟩
  have rest : RefusedOnly event.Blamed
      (event.checkOperation.bind fun _ => event.checkParent.bind fun _ =>
        event.checkActor.bind fun _ => (event.checkCount "view_count" event.viewCount).bind
          fun _ => event.checkCount "open_count" event.openCount) := by
    rw [operation]
    exact formed.blamed_checkParent.bind fun _ => formed.blamed_checkActor.bind fun _ =>
      (blamed_checkCount .views).bind fun _ => blamed_checkCount .opens
  unfold validate
  split
  · rename_i empty
    exact refusedOnly_error (.content empty)
  · exact rest

/-- An event of the right form is valid if it has the ids it needs and its counts are small. -/
theorem Formed.valid_iff (formed : event.Formed) :
    event.Valid ↔ event.contentId ≠ "" ∧ (∀ id, event.actor = .user id → id ≠ "") ∧
      (∀ id, event.parentContentId = some id → id ≠ "") ∧
      event.viewCount.val ≤ countLimit ∧ event.openCount.val ≤ countLimit := by
  have required := formed.parent
  constructor
  · intro valid
    refine ⟨valid.named, ?_, ?_, valid.views, valid.opens⟩
    · intro id acting
      have named := valid.actor
      rwa [acting] at named
    · intro id given
      have named := valid.parent
      rw [given] at named required
      rw [required.mp rfl] at named
      obtain ⟨post, same, present⟩ := named
      cases same
      exact present
  · rintro ⟨named, actor, parent, views, opens⟩
    refine ⟨named, formed.kind, formed.newness, ?_, ?_, views, opens⟩
    · cases kind : event.contentKind with
      | post =>
          rw [kind] at required
          simpa using required
      | comment =>
          rw [kind] at required
          obtain ⟨post, given⟩ := Option.isSome_iff_exists.mp (required.mpr rfl)
          exact ⟨post, given, parent post given⟩
    · cases acting : event.actor with
      | user id => exact actor id acting
      | anonymous => exact formed.visitor acting

end

/-! ## Events that were made -/

/-- What is known of an event that was begun and given data in steps: its vote is that of the last
step on it, it has the form that its operation asks for, and it is valid exactly if its ids are
given and the last views and opens are within the limit.  It is refused for nothing else. -/
structure Made (origin : Origin) (details : List Detail) (event : Event) : Prop where
  vote : event.vote = Detail.last Detail.vote? none details
  formed : event.Formed
  valid_iff : event.validate = .ok () ↔ origin.Named ∧
    (Detail.last Detail.views? Count.zero details).val ≤ countLimit ∧
    (Detail.last Detail.opens? Count.zero details).val ≤ countLimit
  blamed : ∀ error, event.validate = .error error → event.Blamed error

theorem Origin.valid_carrying_iff (origin : Origin) (details : List Detail) :
    (origin.event.carrying details).Valid ↔ origin.Named ∧
      (Detail.last Detail.views? Count.zero details).val ≤ countLimit ∧
      (Detail.last Detail.opens? Count.zero details).val ≤ countLimit := by
  have involved : origin.event.contentId = origin.contentId ∧ origin.event.actor = origin.actor ∧
      origin.event.parentContentId = origin.parentId? := by
    cases origin <;> exact ⟨rfl, rfl, rfl⟩
  have uncounted : origin.event.viewCount = Count.zero ∧ origin.event.openCount = Count.zero := by
    cases origin <;> exact ⟨rfl, rfl⟩
  obtain ⟨content, actor, parent⟩ := involved
  obtain ⟨views, opens⟩ := uncounted
  rw [(origin.formed.carrying details).valid_iff]
  simp only [carrying, content, actor, parent, views, opens]
  constructor
  · rintro ⟨named, acting, belonging, few⟩
    exact ⟨⟨named, acting, belonging⟩, few⟩
  · rintro ⟨⟨named, acting, belonging⟩, few⟩
    exact ⟨named, acting, belonging, few⟩

theorem Origin.made (origin : Origin) (details : List Detail) :
    Made origin details (origin.event.carrying details) where
  vote := by cases origin <;> rfl
  formed := origin.formed.carrying details
  valid_iff := validate_eq_ok_iff.trans (origin.valid_carrying_iff details)
  blamed := (origin.formed.carrying details).blamed_validate

/-- The making of an event fails exactly if some step sets both flags, and what is made otherwise
can be invalid only through its data. -/
theorem made_addAll (origin : Origin) (details : List Detail) :
    ((∃ error, origin.event.addAll details = .error error) ↔
      .voteFlags true true ∈ details) ∧
    ∀ event, origin.event.addAll details = .ok event → Made origin details event := by
  rw [addAll_eq]
  by_cases bothWays : .voteFlags true true ∈ details
  · rw [if_pos bothWays]
    refine ⟨iff_of_true ⟨_, rfl⟩ bothWays, ?_⟩
    rintro event ⟨⟩
  · rw [if_neg bothWays]
    refine ⟨iff_of_false ?_ bothWays, ?_⟩
    · rintro ⟨error, ⟨⟩⟩
    · rintro event ⟨⟩
      exact origin.made details

/-- A vote that is taken back, and too many views before there are few. -/
def secondThoughts : List Detail :=
  [.vote .down, .views Count.greatest, .voteFlags false false, .views Count.one]

theorem made_addAll_secondThoughts :
    ∃ event, (Origin.comment "bo" "c1" "p1").event.addAll secondThoughts = .ok event ∧
      Made (.comment "bo" "c1" "p1") secondThoughts event :=
  ⟨_, rfl, (made_addAll (.comment "bo" "c1" "p1") secondThoughts).2 _ rfl⟩

end Event

end ActivityLedger
