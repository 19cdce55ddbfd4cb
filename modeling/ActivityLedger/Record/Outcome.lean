import ActivityLedger.Attribution.Plan

/-!
# Outcomes

What is reported about an event that was recorded.
-/

namespace ActivityLedger

structure Outcome where
  /-- The ids of all trackers that the event touched, in the order of the commits. -/
  keys : List String
  /-- The ids of the trackers whose updates were committed. -/
  applied : List String
  updates : List Update
  attributions : List Attribution
  /-- The event is of a sort that is not counted, and nothing was written. -/
  rejected : Bool
deriving DecidableEq

def Outcome.uncounted (attributions : List Attribution) : Outcome where
  keys := []
  applied := []
  updates := []
  attributions := attributions
  rejected := true

end ActivityLedger
