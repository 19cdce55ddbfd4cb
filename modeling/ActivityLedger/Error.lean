import ActivityLedger.Calendar.Date
import ActivityLedger.Kind
import ActivityLedger.Numeric.Bounded

/-!
# Errors

Why a call is refused.  An error names its cause; the wording of every cause is
in one place.  Stores and directories are parameters of the ledger and may give
reasons of their own, which are carried as they are stated.
-/

namespace ActivityLedger

inductive RequestFault where
  | dateShape (text : String)
  | absentDate (text : String)
  | endWithoutStart (last : Date)
  | startAfterEnd (first last : Date)
  | windowTooLong (first last : Date) (days : Int) (limit : Small)
  | missingContentId
  | missingUserId
  | stated (text : String)
deriving DecidableEq

inductive ArgumentFault where
  | emptyEntityId (kind : TrackerKind)
  | outsideCentury (date : Date)
  | unknownContentKind (text : String)
  | unknownOperation (text : String)
  | unknownVote (text : String)
  | stated (text : String)
deriving DecidableEq

inductive LookupFault where
  | postAuthorNotFound (post : String)
  | commentAuthorNotFound (comment : String)
  | postOwnerNotGiven (post : String)
  | postOwnerNotResolved (post : String)
  | parentAuthorNotResolved
  | stated (text : String)
deriving DecidableEq

/-- Which rule an event, an update, a template or a key breaks. -/
inductive InvariantFault where
  | votesBothWays
  | emptyContentId
  | wrongContentKind (operation : Operation) (kind : ContentKind)
  | wrongNewness (operation : Operation) (isNew : Bool)
  | noParent (comment : String)
  | emptyParent (comment : String)
  | parentOfPost (post parent : String)
  | anonymousActor (operation : Operation)
  | emptyActorId
  | countOverLimit (field : String) (count : Count) (content : String) (limit : Int)
  | countOutOfRange (field : String) (count : Count)
  | actorRequired (operation : Operation)
  | foreignUpdate (target tracker : String) (kind : TrackerKind) (entity : String)
  | mergeOverflow (column : String)
  | counterOverflow (column : String) (current delta : Amount)
  | foreignTemplate (target tracker : String)
  | foreignBound (tracker : String) (kind : TrackerKind) (entity : String)
  | userKeyForContent (tracker : String)
  | contentKeyForUser (tracker : String)
  | stated (text : String)
deriving DecidableEq

inductive Error where
  | request (fault : RequestFault)
  | argument (fault : ArgumentFault)
  | lookup (fault : LookupFault)
  | invariant (fault : InvariantFault)
  /-- A store failed on one tracker, after the increments of the trackers in the list. -/
  | storage (key : String) (reason : String) (applied : List String)
  | database (reason : String)
  | migration (reason : String)
  | configuration
  | system (reason : String)
  | serialization
  | other (reason : String)
deriving DecidableEq

def RequestFault.message : RequestFault → String
  | .dateShape text => s!"date '{text}' must be yyMMdd or yyMM"
  | .absentDate text => s!"date '{text}' is not a calendar date"
  | .endWithoutStart last => s!"end date {last.text} given without a start date"
  | .startAfterEnd first last => s!"start date {first.text} is after end date {last.text}"
  | .windowTooLong first last days limit =>
      s!"window {first.text}..={last.text} spans {days} days, more than the allowed {limit.val}"
  | .missingContentId => "missing content id"
  | .missingUserId => "missing user id"
  | .stated text => text

def ArgumentFault.message : ArgumentFault → String
  | .emptyEntityId kind => s!"cannot build a {kind.name} tracker key for an empty id"
  | .outsideCentury date => s!"date {date.text} is outside the supported range 2000..=2099"
  | .unknownContentKind text => s!"unknown content kind '{text}'"
  | .unknownOperation text => s!"unknown operation '{text}'"
  | .unknownVote text => s!"unknown vote '{text}'"
  | .stated text => text

def LookupFault.message : LookupFault → String
  | .postAuthorNotFound post => s!"author of post {post} not found"
  | .commentAuthorNotFound comment => s!"author of comment {comment} not found"
  | .postOwnerNotGiven post => s!"owner of post {post} not given"
  | .postOwnerNotResolved post => s!"owner of post {post} was not resolved"
  | .parentAuthorNotResolved => "author of parent post was not resolved"
  | .stated text => text

def InvariantFault.message : InvariantFault → String
  | .votesBothWays => "an event cannot vote both up and down"
  | .emptyContentId => "event has an empty content id"
  | .wrongContentKind operation kind =>
      s!"operation {operation.title} does not apply to content kind {kind.title}"
  | .wrongNewness operation isNew =>
      s!"operation {operation.title} disagrees with is_new_content={isNew}"
  | .noParent comment => s!"comment {comment} has no parent content id"
  | .emptyParent comment => s!"comment {comment} has an empty parent content id"
  | .parentOfPost post parent => s!"post {post} cannot have a parent ({parent})"
  | .anonymousActor operation => s!"anonymous actor is not allowed for {operation.title}"
  | .emptyActorId => "event has an empty actor id"
  | .countOverLimit field count content limit =>
      s!"{field} {count.val} on {content} exceeds the per-event limit of {limit}"
  | .countOutOfRange field count => s!"{field} {count.val} is out of range"
  | .actorRequired operation => s!"{operation.title} requires an identified actor"
  | .foreignUpdate target tracker kind entity =>
      s!"update for {target} does not belong to tracker {tracker} ({kind.name} {entity})"
  | .mergeOverflow column => s!"merged delta for {column} overflows"
  | .counterOverflow column current delta =>
      s!"{column} = {current.val} cannot take {delta.val} more"
  | .foreignTemplate target tracker => s!"template for {target} does not match tracker {tracker}"
  | .foreignBound tracker kind entity =>
      s!"range bound {tracker} is not a {kind.name} key of {entity}"
  | .userKeyForContent tracker => s!"{tracker} is a user key, not a content key"
  | .contentKeyForUser tracker => s!"{tracker} is not a user key"
  | .stated text => text

namespace Error

/-- The wording of an error, where it has one that is fixed. -/
def message? : Error → Option String
  | .request fault => some s!"Invalid request: {fault.message}"
  | .argument fault => some s!"Invalid argument: {fault.message}"
  | .lookup fault => some s!"Lookup failed: {fault.message}"
  | .invariant fault => some s!"Invariant violation: {fault.message}"
  | .storage key reason _ => some s!"Storage error on tracker '{key}': {reason}"
  | .database reason => some s!"Database error: {reason}"
  | .migration reason => some s!"Migration error: {reason}"
  | .configuration => none
  | .system reason => some s!"I/O error: {reason}"
  | .serialization => none
  | .other reason => some reason

/-- The caller may repeat the whole call. -/
def isRecoverable : Error → Bool
  | .storage .. | .database _ => true
  | _ => false

end Error

end ActivityLedger
