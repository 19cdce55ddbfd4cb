import ActivityLedger.Calendar.Compact

/-!
# Tracker keys

The address of a tracker: the entity it counts for, followed by the compact form
of the period it covers.  Among the keys of one entity the order of ids is the
order of periods.
-/

namespace ActivityLedger

/-- The address of one tracker, together with a day inside its period. -/
structure Key where
  kind : TrackerKind
  entityId : String
  /-- The first day of the period. -/
  periodStart : Date
  /-- The day of the month whose slot is meant, in a tracker that covers a month. -/
  dayOfMonth : Small
  id : String
deriving DecidableEq

def Date.dayNumber (date : Date) : Small :=
  Small.ofNat date.day
    (Nat.le_trans date.day_le (Nat.le_trans (Calendar.monthLength_le _ _) (by decide)))

namespace Key

def periodOf (kind : TrackerKind) (date : Date) : Date :=
  if kind.isMonthly then date.firstOfMonth else date

def periodText (kind : TrackerKind) (date : Date) : List Char :=
  if kind.isMonthly then date.compactMonth else date.compactDay

def idText (kind : TrackerKind) (entityId : String) (date : Date) : String :=
  String.ofList (entityId.toList ++ periodText kind date)

def build (kind : TrackerKind) (entityId : String) (date : Date) : Except Error Key :=
  if entityId = "" then .error (.argument (.emptyEntityId kind))
  else if date.HasCompact then
    .ok {
      kind := kind
      entityId := entityId
      periodStart := periodOf kind date
      dayOfMonth := date.dayNumber
      id := idText kind entityId date }
  else .error (.argument (.outsideCentury date))

/-- How many days the month of the key's period has. -/
def daysInMonth (key : Key) : Small := Small.lowBits key.periodStart.daysInMonth

end Key

def SamePeriod (kind : TrackerKind) (a b : Date) : Prop :=
  if kind.isMonthly then a.SameMonth b else a = b

instance (kind : TrackerKind) (a b : Date) : Decidable (SamePeriod kind a b) := by
  unfold SamePeriod
  infer_instance

end ActivityLedger
