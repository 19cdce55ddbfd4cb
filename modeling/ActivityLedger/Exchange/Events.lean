import ActivityLedger.Attribution.Plan
import ActivityLedger.Json.Format

/-!
# How events are exchanged

Kinds are exchanged by name, events as records, and actors as a choice between a
user with an id and an anonymous visitor.
-/

namespace ActivityLedger

open Json

instance : Format TrackerKind where
  write := writeName TrackerKind.name
  read? := readName? TrackerKind.all TrackerKind.name

instance : Format ContentKind where
  write := writeName ContentKind.name
  read? := readName? ContentKind.all ContentKind.name

instance : Format Operation where
  write := writeName Operation.name
  read? := readName? Operation.all Operation.name

instance : Format Vote where
  write := writeName Vote.name
  read? := readName? Vote.all Vote.name

instance : Format Quadrant where
  write := writeName Quadrant.name
  read? := readName? Quadrant.all Quadrant.name

inductive Actor.Case where
  | user
  | anonymous
deriving DecidableEq

def Actor.Case.name : Actor.Case → String
  | .user => "user"
  | .anonymous => "anonymous"

instance : Format Actor where
  write
    | .user id => .object [("type", .text "user"), ("id", .text id)]
    | .anonymous => .object [("type", .text "anonymous")]
  read? value := do
    let (name, content) ← choice? "type" "id" memberRoom value
    match ← readName? [Actor.Case.user, .anonymous] Actor.Case.name name with
    | .user => return .user (← requiredField content)
    | .anonymous =>
        match content with
        | none | some .null => return .anonymous
        | some _ => none

instance : Format Event where
  write event := .object [
    ("operation", .of event.operation),
    ("actor", .of event.actor),
    ("content_owner_id", .of event.contentOwnerId),
    ("content_kind", .of event.contentKind),
    ("is_new_content", .of event.isNewContent),
    ("content_id", .of event.contentId),
    ("parent_content_id", .of event.parentContentId),
    ("vote", .of event.vote),
    ("view_count", .of event.viewCount),
    ("open_count", .of event.openCount)]
  read? value := do
    match ← fields? ["operation", "actor", "content_owner_id", "content_kind", "is_new_content",
        "content_id", "parent_content_id", "vote", "view_count", "open_count"] value with
    | [operation, actor, contentOwnerId, contentKind, isNewContent, contentId, parentContentId,
        vote, viewCount, openCount] =>
        return {
          operation := ← requiredField operation
          actor := ← requiredField actor
          contentOwnerId := ← requiredField contentOwnerId
          contentKind := ← requiredField contentKind
          isNewContent := ← requiredField isNewContent
          contentId := ← requiredField contentId
          parentContentId := ← optionalField parentContentId
          vote := ← optionalField vote
          viewCount := ← requiredField viewCount
          openCount := ← requiredField openCount }
    | _ => none

instance : Format Attribution where
  write attribution := .object [
    ("user_id", .of attribution.userId),
    ("quadrant", .of attribution.quadrant)]
  read? value := do
    match ← fields? ["user_id", "quadrant"] value with
    | [userId, quadrant] =>
        return { userId := ← requiredField userId, quadrant := ← requiredField quadrant }
    | _ => none

end ActivityLedger
