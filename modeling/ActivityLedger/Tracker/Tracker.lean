import ActivityLedger.Counter.Counters
import ActivityLedger.Tracker.Key

/-!
# Trackers

A tracker of a post or a comment holds its counters for one day.  A tracker of a
user holds the counters of a month and, beside them, those of each of its days.
-/

namespace ActivityLedger

inductive ContentCounters where
  | post (counters : Counters PostCounter)
  | comment (counters : Counters CommentCounter)
deriving DecidableEq

namespace ContentCounters

def of : (kind : ContentKind) → Counters kind.tracker.Counted → ContentCounters
  | .post, counters => .post counters
  | .comment, counters => .comment counters

def zero : ContentKind → ContentCounters
  | .post => .post Counters.zero
  | .comment => .comment Counters.zero

def post? : ContentCounters → Option (Counters PostCounter)
  | .post counters => some counters
  | .comment _ => none

def comment? : ContentCounters → Option (Counters CommentCounter)
  | .comment counters => some counters
  | .post _ => none

/-- The counters, if they are those of a kind of content. -/
def table? (counters : ContentCounters) :
    (kind : ContentKind) → Option (Counters kind.tracker.Counted)
  | .post => counters.post?
  | .comment => counters.comment?

end ContentCounters

structure ContentTracker where
  id : String
  kind : ContentKind
  contentId : String
  ownerId : String
  day : Date
  counters : ContentCounters
deriving DecidableEq

/-- The counters of a user for one month, with a slot for each day. -/
structure UserTracker where
  id : String
  userId : String
  /-- The first day of the month. -/
  month : Date
  daysInMonth : Small
  monthly : Counters UserCounter
  /-- The counters of each day, from the first day of the month on. -/
  days : List (Counters UserCounter)
deriving DecidableEq

namespace UserTracker

/-- A tracker with a slot for every day and nothing counted. -/
def zero (id userId : String) (month : Date) (daysInMonth : Small) : UserTracker where
  id := id
  userId := userId
  month := month
  daysInMonth := daysInMonth
  monthly := Counters.zero
  days := List.replicate daysInMonth.toNat Counters.zero

/-- The counters of a day, the first day of the month being number one. -/
def day? (tracker : UserTracker) (dayOfMonth : Small) : Option (Counters UserCounter) :=
  if dayOfMonth.toNat = 0 then none else tracker.days[dayOfMonth.toNat - 1]?

/-- The sum of one counter over the slots in their order, if no addition on the way overflows: the
additions are not checked, and the program stops where one does. -/
def dailyTotal? (tracker : UserTracker) (counter : UserCounter) : Option Amount :=
  tracker.days.foldlM (fun sum slot => sum.add? (slot.get counter)) Amount.zero

/-- There is a slot for each day, and every month counter is the sum of its slots.  Counters are
compared up to the first one that differs, and there is no answer if a sum overflows by then. -/
def isConsistent? (tracker : UserTracker) : Option Bool :=
  if tracker.days.length = tracker.daysInMonth.toNat then
    (Vocabulary.all UserCounter).allM fun counter =>
      (tracker.dailyTotal? counter).map fun total => tracker.monthly.get counter = total
  else some false

end UserTracker

end ActivityLedger
