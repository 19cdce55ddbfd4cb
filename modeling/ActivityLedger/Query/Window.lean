import ActivityLedger.Tracker.Key

/-!
# Windows

From the optional first and last date of a request to one period or to an interval
of dates.  Without dates the current period is meant, and a first date alone runs
up to today.
-/

namespace ActivityLedger

inductive Window where
  | point (date : Date)
  | range (first last : Date)
deriving DecidableEq

namespace Window

/-- The number of days that a window may have where nothing else is set. -/
def defaultLimit : Small := Small.ofNat 366 (by decide)

/-- The number of days from the first date to the last, both included. -/
def days (first last : Date) : Int := first.daysUntil last + 1

def between (kind : TrackerKind) (limit : Small) (first last : Date) : Except Error Window :=
  if last.Before first then .error (.request (.startAfterEnd first last))
  else if SamePeriod kind first last then .ok (.point first)
  else if limit.val < days first last then
    .error (.request (.windowTooLong first last (days first last) limit))
  else .ok (.range first last)

def resolve (kind : TrackerKind) (limit : Small) (today : Date) :
    Option Date → Option Date → Except Error Window
  | none, some last => .error (.request (.endWithoutStart last))
  | none, none => .ok (.point today)
  | some first, none => between kind limit first today
  | some first, some last => between kind limit first last

end Window

end ActivityLedger
