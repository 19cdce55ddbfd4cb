import ActivityLedger.Exchange.Trackers
import ActivityLedger.Query.Query
import ActivityLedger.Record.Outcome

/-!
# How outcomes and selections are written

Outcomes and selections are only written, never read.
-/

namespace ActivityLedger

open Json

def Outcome.toValue (outcome : Outcome) : Value := .object [
  ("keys", .of outcome.keys),
  ("applied", .of outcome.applied),
  ("updates", .of outcome.updates),
  ("attributions", .of outcome.attributions),
  ("rejected", .of outcome.rejected)]

def Selection.sort {α : Type} : Selection α → String
  | .point _ => "point"
  | .range _ => "range"

/-- A selection as a choice with the trackers as its content. -/
def Selection.toValue {α : Type} [Format α] (selection : Selection α) : Value :=
  .object [
    ("selection", .text selection.sort),
    ("trackers",
      match selection with
      | .point tracker => .of tracker
      | .range trackers => .of trackers)]

end ActivityLedger
