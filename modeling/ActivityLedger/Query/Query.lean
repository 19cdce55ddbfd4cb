import ActivityLedger.Query.Window
import ActivityLedger.Store.Store

/-!
# Reading trackers back

A request for the trackers of one entity is answered by a lookup when it means a
single period, and by a scan of an interval of keys otherwise.
-/

namespace ActivityLedger

inductive Selection (α : Type) where
  /-- The tracker of a single period, if anything was recorded in it. -/
  | point (tracker : Option α)
  /-- The trackers of an interval of periods, ascending. -/
  | range (trackers : List α)
deriving DecidableEq

namespace Selection

variable {α : Type}

def toList : Selection α → List α
  | .point tracker => tracker.toList
  | .range trackers => trackers

def size (selection : Selection α) : Nat := selection.toList.length

def isEmpty (selection : Selection α) : Bool := selection.size = 0

end Selection

structure Request where
  entityId : String
  first : Option Date
  last : Option Date
deriving DecidableEq

variable {σ : Type}

def selectContent (store : Store σ) (limit : Small) (today : Date) (kind : ContentKind)
    (request : Request) (state : σ) : Except Error (Selection ContentTracker) := do
  if request.entityId = "" then throw (.request .missingContentId)
  match ← Window.resolve kind.tracker limit today request.first request.last with
  | .point date =>
      let key ← Key.build kind.tracker request.entityId date
      return .point (← store.content? key state)
  | .range first last =>
      let first ← Key.build kind.tracker request.entityId first
      let last ← Key.build kind.tracker request.entityId last
      return .range (← store.contentRange kind request.entityId first last state)

def selectUser (store : Store σ) (limit : Small) (today : Date) (request : Request) (state : σ) :
    Except Error (Selection UserTracker) := do
  if request.entityId = "" then throw (.request .missingUserId)
  match ← Window.resolve .user limit today request.first request.last with
  | .point date =>
      let key ← Key.build .user request.entityId date
      return .point (← store.user? key state)
  | .range first last =>
      let first ← Key.build .user request.entityId first
      let last ← Key.build .user request.entityId last
      return .range (← store.userRange request.entityId first last state)

end ActivityLedger
