import ActivityLedger.Tracker.Batch
import ActivityLedger.Tracker.Tracker

/-!
# Stores

What the ledger asks of a store: to set up missing trackers, to apply all updates
of one tracker at once or none of them, and to read trackers back by key and by
an interval of keys.  A store is given by its calls on a state; a call that
changes the state gives its answer together with the state it leaves.
-/

namespace ActivityLedger

/-- The calls of a store with a given type of state. -/
structure Store (σ : Type) where
  /-- Sets up a tracker where there is none, and says whether it did. -/
  ensure : Key → Template → σ → Except Error Bool × σ
  /-- Applies all updates to the tracker at a key, or none. -/
  increment : Key → List Update → σ → Except Error Unit × σ
  /-- The tracker of a post or a comment at a key. -/
  content? : Key → σ → Except Error (Option ContentTracker)
  /-- The tracker of a user at a key. -/
  user? : Key → σ → Except Error (Option UserTracker)
  /-- The trackers of one post or comment from key to key, ascending. -/
  contentRange : ContentKind → String → Key → Key → σ → Except Error (List ContentTracker)
  /-- The trackers of one user from key to key, ascending. -/
  userRange : String → Key → Key → σ → Except Error (List UserTracker)

/-- Why a store that is sound in itself refuses an increment. -/
inductive StoreFault where
  | notPreallocated (kind : TrackerKind)
  | noSlot (day : Small)
  | overflow (cause : Error)
  | overflowSomewhere
  | noSlotOrOverflow (day : Small)
deriving DecidableEq

def StoreFault.message : StoreFault → String
  | .notPreallocated kind => s!"{kind.name} tracker was not preallocated"
  | .noSlot day => s!"no day slot {day.val} in tracker"
  | .overflow cause => cause.message?.getD ""
  | .overflowSomewhere => "increment would overflow a counter"
  | .noSlotOrOverflow day => s!"day slot {day.val} is missing or would overflow"

def StoreFault.error (fault : StoreFault) (key : Key) : Error :=
  .storage key.id fault.message []

namespace Key

/-- A template describes the entity that a key points at. -/
def checkTemplate (key : Key) (template : Template) : Except Error Unit :=
  if template.kind = key.kind ∧ template.entityId = key.entityId then .ok ()
  else .error (.invariant (.foreignTemplate template.target.text key.id))

def checkBound (kind : TrackerKind) (entityId : String) (key : Key) : Except Error Unit :=
  if key.kind = kind ∧ key.entityId = entityId then .ok ()
  else .error (.invariant (.foreignBound key.id kind entityId))

def checkRange (kind : TrackerKind) (entityId : String) (first last : Key) : Except Error Unit := do
  checkBound kind entityId first
  checkBound kind entityId last

def contentKind (key : Key) : Except Error ContentKind :=
  match key.kind with
  | .post => .ok .post
  | .comment => .ok .comment
  | .user => .error (.invariant (.userKeyForContent key.id))

def checkUser (key : Key) : Except Error Unit :=
  if key.kind = .user then .ok () else .error (.invariant (.contentKeyForUser key.id))

end Key

end ActivityLedger
