import ActivityLedger.Counter.Counters
import ActivityLedger.Tracker.Key
import ActivityLedger.Tracker.Update

/-!
# Batches

The updates for one tracker, merged to one amount for each counter.  Every update
must be addressed to the entity of the tracker's key.
-/

namespace ActivityLedger

/-- The amounts that were merged so far, for the counters that were named. -/
abbrev Deltas (κ : Type) [Vocabulary κ] := Columns κ (Option Amount)

namespace Deltas

variable {κ : Type} [Vocabulary κ]

def empty : Deltas κ := Columns.tabulate fun _ => none

/-- One more amount for a counter, unless the sum is no amount. -/
def merge (deltas : Deltas κ) (counter : κ) (delta : Amount) : Except Error (Deltas κ) :=
  match ((deltas.get counter).getD Amount.zero).add? delta with
  | some sum => .ok (deltas.set counter (some sum))
  | none => .error (.invariant (.mergeOverflow (column counter)))

def toList (deltas : Deltas κ) : List (κ × Amount) :=
  (Columns.toList deltas).filterMap fun entry => entry.2.map fun sum => (entry.1, sum)

@[simp] theorem get_empty (counter : κ) : (empty : Deltas κ).get counter = none := by
  simp [empty]

end Deltas

/-- The merged updates for one tracker. -/
inductive Batch where
  | user (deltas : Deltas UserCounter)
  | post (deltas : Deltas PostCounter)
  | comment (deltas : Deltas CommentCounter)
deriving DecidableEq

/-- The merged amounts of each vocabulary, while updates arrive. -/
structure Merge where
  user : Deltas UserCounter
  post : Deltas PostCounter
  comment : Deltas CommentCounter
deriving DecidableEq

namespace Merge

def empty : Merge := ⟨Deltas.empty, Deltas.empty, Deltas.empty⟩

def add (merge : Merge) (counter : Counter) (delta : Amount) : Except Error Merge :=
  match counter with
  | .user counter =>
      (merge.user.merge counter delta).map fun deltas => { merge with user := deltas }
  | .post counter =>
      (merge.post.merge counter delta).map fun deltas => { merge with post := deltas }
  | .comment counter =>
      (merge.comment.merge counter delta).map fun deltas => { merge with comment := deltas }

/-- One more update, which must be addressed to the entity of a key. -/
def take (key : Key) (merge : Merge) (update : Update) : Except Error Merge :=
  if update.target.kind = key.kind ∧ update.target.entityId = key.entityId then
    merge.add update.counter update.delta
  else
    .error (.invariant (.foreignUpdate update.target.text key.id key.kind key.entityId))

/-- All updates of a list, in order, stopping at the first that is refused. -/
def takeAll (key : Key) : Merge → List Update → Except Error Merge
  | merge, [] => .ok merge
  | merge, update :: rest =>
      match merge.take key update with
      | .ok next => takeAll key next rest
      | .error error => .error error

def batch (merge : Merge) : TrackerKind → Batch
  | .user => .user merge.user
  | .post => .post merge.post
  | .comment => .comment merge.comment

end Merge

namespace Batch

def ofUpdates (key : Key) (updates : List Update) : Except Error Batch :=
  (Merge.takeAll key Merge.empty updates).map fun merge => merge.batch key.kind

def kind : Batch → TrackerKind
  | .user _ => .user
  | .post _ => .post
  | .comment _ => .comment

def counters : Batch → List (Counter × Amount)
  | .user deltas => deltas.toList.map fun entry => (.user entry.1, entry.2)
  | .post deltas => deltas.toList.map fun entry => (.post entry.1, entry.2)
  | .comment deltas => deltas.toList.map fun entry => (.comment entry.1, entry.2)

def columns (batch : Batch) : List (String × Amount) :=
  batch.counters.map fun entry => (entry.1.columnName, entry.2)

def isEmpty (batch : Batch) : Bool := batch.columns.isEmpty

end Batch

end ActivityLedger
