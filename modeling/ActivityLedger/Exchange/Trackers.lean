import ActivityLedger.Calendar.Reading
import ActivityLedger.Exchange.Events
import ActivityLedger.Tracker.Tracker
import ActivityLedger.Tracker.Update

/-!
# How trackers are exchanged

Keys and trackers are records, targets and counters choices between kinds.  What
is read is not checked for consistency.
-/

namespace ActivityLedger

open Json

instance : Format Date where
  write date := .text date.text
  read? value := value.text?.bind Date.ofText?

instance {κ α : Type} [Vocabulary κ] [Format α] : Format (Columns κ α) where
  write table := .object (table.toList.map fun entry => (column entry.1, .of entry.2))
  read? value := do
    let values ← (← fields? ((Vocabulary.all κ).map column) value).mapM requiredField
    if h : values.length = Vocabulary.size κ then
      return ⟨⟨values.toArray, by simpa using h⟩⟩
    else none

instance : Format Target where
  write target := .object [("kind", .of target.kind), ("id", .of target.entityId)]
  read? value := do
    let (name, content) ← choice? "kind" "id" memberRoom value
    let id : String ← requiredField content
    match ← (read? name : Option TrackerKind) with
    | .user => return .user id
    | .post => return .post id
    | .comment => return .comment id

def readColumn? (κ : Type) [Vocabulary κ] (value : Option Value) : Option κ :=
  value.bind (readName? (Vocabulary.all κ) column)

instance : Format Counter where
  write counter := .object [("kind", .of counter.kind), ("name", .text counter.columnName)]
  read? value := do
    let (name, content) ← choice? "kind" "name" memberRoom value
    match ← (read? name : Option TrackerKind) with
    | .user => return .user (← readColumn? UserCounter content)
    | .post => return .post (← readColumn? PostCounter content)
    | .comment => return .comment (← readColumn? CommentCounter content)

instance : Format Update where
  write update := .object [
    ("target", .of update.target),
    ("counter", .of update.counter),
    ("delta", .of update.delta)]
  read? value := do
    match ← fields? ["target", "counter", "delta"] value with
    | [target, counter, delta] =>
        return {
          target := ← requiredField target
          counter := ← requiredField counter
          delta := ← requiredField delta }
    | _ => none

instance : Format Template where
  write
    | .user userId => .object [("kind", .text "user"), ("user_id", .of userId)]
    | .post postId authorId =>
        .object [("kind", .text "post"), ("post_id", .of postId), ("author_id", .of authorId)]
    | .comment commentId authorId =>
        .object [
          ("kind", .text "comment"), ("comment_id", .of commentId), ("author_id", .of authorId)]
  read? value := do
    let (name, content) ← merged? "kind" value
    match name with
    | "user" =>
        match ← fields? ["user_id"] content with
        | [userId] => return .user (← requiredField userId)
        | _ => none
    | "post" =>
        match ← fields? ["post_id", "author_id"] content with
        | [postId, authorId] => return .post (← requiredField postId) (← requiredField authorId)
        | _ => none
    | "comment" =>
        match ← fields? ["comment_id", "author_id"] content with
        | [commentId, authorId] =>
            return .comment (← requiredField commentId) (← requiredField authorId)
        | _ => none
    | _ => none

/-- The counters of a content item, with the room for those that come before their kind. -/
def ContentCounters.ofValue? (room : Nat) (value : Value) : Option ContentCounters := do
  let (name, content) ← choice? "kind" "counters" room value
  match ← (read? name : Option ContentKind) with
  | .post => return .post (← requiredField content)
  | .comment => return .comment (← requiredField content)

instance : Format ContentCounters where
  write
    | .post counters => .object [("kind", .of ContentKind.post), ("counters", .of counters)]
    | .comment counters => .object [("kind", .of ContentKind.comment), ("counters", .of counters)]
  read? := ContentCounters.ofValue? memberRoom

instance : Format ContentTracker where
  write tracker := .object [
    ("id", .of tracker.id),
    ("kind", .of tracker.kind),
    ("content_id", .of tracker.contentId),
    ("owner_id", .of tracker.ownerId),
    ("day", .of tracker.day),
    ("counters", .of tracker.counters)]
  read? value := do
    match ← fields? ["id", "kind", "content_id", "owner_id", "day", "counters"] value with
    | [id, kind, contentId, ownerId, day, counters] =>
        return {
          id := ← requiredField id
          kind := ← requiredField kind
          contentId := ← requiredField contentId
          ownerId := ← requiredField ownerId
          day := ← requiredField day
          counters := ← counters.bind (ContentCounters.ofValue? (memberRoom - 1)) }
    | _ => none

instance : Format UserTracker where
  write tracker := .object [
    ("id", .of tracker.id),
    ("user_id", .of tracker.userId),
    ("month", .of tracker.month),
    ("days_in_month", .of tracker.daysInMonth),
    ("monthly", .of tracker.monthly),
    ("days", .of tracker.days)]
  read? value := do
    match ← fields? ["id", "user_id", "month", "days_in_month", "monthly", "days"] value with
    | [id, userId, month, daysInMonth, monthly, days] =>
        return {
          id := ← requiredField id
          userId := ← requiredField userId
          month := ← requiredField month
          daysInMonth := ← requiredField daysInMonth
          monthly := ← requiredField monthly
          days := ← requiredField days }
    | _ => none

instance : Format Key where
  write key := .object [
    ("kind", .of key.kind),
    ("entity_id", .of key.entityId),
    ("period_start", .of key.periodStart),
    ("day_of_month", .of key.dayOfMonth),
    ("id", .of key.id)]
  read? value := do
    match ← fields? ["kind", "entity_id", "period_start", "day_of_month", "id"] value with
    | [kind, entityId, periodStart, dayOfMonth, id] =>
        return {
          kind := ← requiredField kind
          entityId := ← requiredField entityId
          periodStart := ← requiredField periodStart
          dayOfMonth := ← requiredField dayOfMonth
          id := ← requiredField id }
    | _ => none

end ActivityLedger
